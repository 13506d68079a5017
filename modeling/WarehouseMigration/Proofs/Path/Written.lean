import WarehouseMigration.Proofs.Session.Files

/-!
# Written paths

A path that was read from a text has an anchor of at most two slashes and names without slashes (`written_ofString`).
Such a path comes back from its written form (`Written.ofString_toString`), and all that is reached from it by names
(`Written.child`, `Written.below`) is such a path again.
-/

namespace WarehouseMigration.Path

variable {p : Path}

structure Written (p : Path) : Prop where
  anchor : p.anchor ∈ ["", "/", "//"]
  parts : ∀ name ∈ p.parts, name ≠ "" ∧ name ≠ "." ∧ '/' ∉ name.toList

instance (p : Path) : Decidable p.Written :=
  decidable_of_iff (p.anchor ∈ ["", "/", "//"] ∧ ∀ name ∈ p.parts, name ≠ "" ∧ name ≠ "." ∧ '/' ∉ name.toList)
    ⟨fun h => ⟨h.1, h.2⟩, fun h => ⟨h.1, h.2⟩⟩

/-! ### Splitting at slashes -/

theorem not_mem_of_mem_splitFrom {piece cs found : List Char} (hpiece : '/' ∉ piece)
    (h : found ∈ Text.splitFrom ['/'] 0 piece cs) : '/' ∉ found := by
  induction cs generalizing piece with
  | nil => simp_all [Text.splitFrom]
  | cons c cs ih =>
    by_cases hc : c = '/'
    · subst hc
      rw [Text.splitFrom_sep, List.mem_cons] at h
      rcases h with rfl | h
      · simpa using hpiece
      · exact ih (by simp) h
    · rw [Text.splitFrom_cons hc] at h
      exact ih (by simpa [Ne.symm hc] using hpiece) h

/-! ### Reading a path -/

private theorem anchorOf_mem (cs : List Char) : anchorOf cs ∈ ["", "/", "//"] := by
  unfold anchorOf
  split <;> simp

/-- A path that is read from a text is written in the usual form. -/
theorem written_ofString (s : String) : (ofString s).Written where
  anchor := anchorOf_mem s.toList
  parts name hname := by
    obtain ⟨hmem, hkeep⟩ := List.mem_filter.1 hname
    obtain ⟨cs, hcs, rfl⟩ := List.mem_map.1 hmem
    have hslash := not_mem_of_mem_splitFrom (by simp) hcs
    simp_all

/-- The name of a path is one of its parts. -/
theorem name_mem_parts (h : p.name ≠ "") : p.name ∈ p.parts := by
  rw [name] at h ⊢
  cases hlast : p.parts.getLast? with
  | none =>
    rw [hlast] at h
    exact absurd rfl h
  | some name => exact List.mem_of_getLast? hlast

/-- A last name has no slashes: it is not split. -/
theorem split_name (text : String) : Text.split (ofString text).name "/" = [(ofString text).name] := by
  by_cases hname : (ofString text).name = ""
  · rw [hname]
    rfl
  · exact split_of_not_mem ((written_ofString text).parts _ (name_mem_parts hname)).2.2

theorem child_name (p : Path) (text : String) :
    p.child (ofString text).name = p.below (if (ofString text).name = "" then [] else [(ofString text).name]) := by
  split
  case isTrue hname =>
    rw [hname]
    rfl
  case isFalse hname =>
    obtain ⟨hne, hdot, hslash⟩ := (written_ofString text).parts _ (name_mem_parts hname)
    rw [child, ofString_of_not_mem (by simp [hne, hdot]) hslash]
    rfl

/-- The text of some names begins with the first character of the first one. -/
private theorem exists_of_intercalate {name : String} (h : name ≠ "" ∧ name ≠ "." ∧ '/' ∉ name.toList)
    (names : List String) : ∃ c cs, ("/".intercalate (name :: names)).toList = c :: cs ∧ c ≠ '/' := by
  obtain ⟨hne, -, hslash⟩ := h
  obtain ⟨c, cs, hcs⟩ := List.exists_cons_of_ne_nil fun heq => hne (String.toList_eq_nil_iff.1 heq)
  have hc : c ≠ '/' := by
    rintro rfl
    exact hslash (hcs ▸ List.mem_cons_self)
  cases names with
  | nil => exact ⟨c, cs, by simpa using hcs, hc⟩
  | cons next names =>
    refine ⟨c, cs ++ "/".toList ++ ("/".intercalate (next :: names)).toList, ?_, hc⟩
    rw [String.intercalate_cons_cons, String.toList_append, String.toList_append, hcs]
    rfl

private theorem toString_cons {anchor name : String} {names : List String}
    (h : anchor = "" ∨ anchor.endsWith "/" = true) :
    toString ⟨anchor, name :: names⟩ = anchor ++ "/".intercalate (name :: names) := by
  simp [toString, h]

namespace Written

variable {p q : Path}

theorem below (h : p.Written) {names : List String} (hnames : ∀ name ∈ names, IsName name) :
    (p.below names).Written where
  anchor := h.anchor
  parts name hname := by
    rcases List.mem_append.1 hname with hname | hname
    · exact h.parts name hname
    · obtain ⟨hdots, hslash, -⟩ := hnames name hname
      simp_all

theorem child (h : p.Written) (name : String) : (p.child name).Written := by
  have hname := written_ofString name
  rw [Path.child, join]
  split
  · exact hname
  · refine ⟨h.anchor, fun part hpart => ?_⟩
    rcases List.mem_append.1 hpart with hpart | hpart
    · exact h.parts part hpart
    · exact hname.parts part hpart

/-- A path comes back from its written form. -/
theorem ofString_toString (h : p.Written) : ofString p.toString = p := by
  obtain ⟨anchor, parts⟩ := p
  have hanchor := h.anchor
  simp only [List.mem_cons, List.not_mem_nil, or_false] at hanchor
  cases parts with
  | nil => rcases hanchor with rfl | rfl | rfl <;> rfl
  | cons name names =>
    obtain ⟨c, cs, hcs, hc⟩ := exists_of_intercalate (h.parts name List.mem_cons_self) names
    have hsplit : (Text.splitFrom ['/'] 0 [] (c :: cs)).map String.ofList = name :: names := by
      rw [← hcs]
      exact Text.split_intercalate "/" rfl (by simp) fun n hn => (h.parts n hn).2.2
    have hkeep : (name :: names).filter (fun part => part != "" && part != ".") = name :: names :=
      List.filter_eq_self.2 fun n hn => by simp [(h.parts n hn).1, (h.parts n hn).2.1]
    -- each slash of the anchor gives an empty piece, which is dropped
    rcases hanchor with rfl | rfl | rfl
    · rw [toString_cons (.inl rfl), ofString, Text.split, String.toList_append, hcs]
      simp [anchorOf, hc, hsplit, hkeep]
    · rw [toString_cons (.inr (by decide +kernel)), ofString, Text.split, String.toList_append, hcs]
      simp [anchorOf, Text.splitFrom_sep, hc, hsplit, hkeep]
    · rw [toString_cons (.inr (by decide +kernel)), ofString, Text.split, String.toList_append, hcs]
      simp [anchorOf, Text.splitFrom_sep, hc, hsplit, hkeep]

end Written

end WarehouseMigration.Path
