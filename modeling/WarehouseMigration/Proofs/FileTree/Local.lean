import WarehouseMigration.Proofs.FileTree.Walk

/-!
# Changes inside a folder

An operation at a place below a folder depends on what is below the folder only, and changes nothing else: it succeeds
if and only if the same operation succeeds on the folder's own tree, and the folder then has the tree that this one
leaves (`Local`).  Writing a file, making a folder and making all folders up to a place are operations of this kind.
-/

namespace WarehouseMigration

namespace Sequence

private theorem mem_put {κ β : Type} [BEq κ] [LawfulBEq κ] {key : κ} {value : β} {entries : List (κ × β)} {e : κ × β}
    (h : e ∈ put key value entries) : e = (key, value) ∨ e ∈ entries := by
  induction entries with
  | nil => exact .inl (List.mem_singleton.1 h)
  | cons first entries ih =>
    rw [put] at h
    split at h
    case isTrue hkey =>
      rcases List.mem_cons.1 h with rfl | h
      · exact .inl (by rw [LawfulBEq.eq_of_beq hkey])
      · exact .inr (List.mem_cons_of_mem _ h)
    case isFalse =>
      rcases List.mem_cons.1 h with rfl | h
      · exact .inr List.mem_cons_self
      · exact (ih h).imp_right (List.mem_cons_of_mem _)

end Sequence

namespace FileTree

variable {t t' : FileTree} {folder rel p q : List String} {entry : Entry}

/-! ### A folder's own tree -/

/-- An entry put below a folder is put into its tree. -/
theorem below_put (h : rel ≠ []) : (t.put (folder ++ rel) entry).below folder = (t.below folder).put rel entry := by
  obtain ⟨entries⟩ := t
  induction entries with
  | nil =>
    simp only [put, Sequence.put]
    rw [below_cons_of_below h]
    rfl
  | cons e entries ih =>
    obtain ⟨k, v⟩ := e
    rcases below_or_not_below folder k with ⟨rest, hrest, rfl⟩ | hk
    · rw [below_cons_of_below hrest]
      simp only [put, Sequence.put] at ih ⊢
      by_cases heq : rest = rel
      · subst heq
        rw [if_pos (by simp), if_pos (by simp), below_cons_of_below hrest]
      · rw [if_neg (by simpa using heq), if_neg (by simpa using heq), below_cons_of_below hrest, ih]
    · rw [below_cons_of_not_below hk, ← ih]
      simp only [put, Sequence.put]
      rw [if_neg (by simpa using hk rel h), below_cons_of_not_below hk]

section Below

variable (hfolder : t.isDirectory folder = true)

include hfolder

private theorem find?_below_of_isDirectory (rel : List String) : (t.below folder).find? rel = t.find?
    (folder ++ rel) := by
  by_cases hrel : rel = []
  · subst hrel
    rw [List.append_nil, isDirectory_iff.1 hfolder]
    rfl
  · exact find?_below hrel

theorem isDirectory_below (rel : List String) : (t.below folder).isDirectory rel = t.isDirectory (folder ++ rel) := by
  rw [isDirectory, isDirectory, find?_below_of_isDirectory hfolder]

omit hfolder in
private theorem makeAll_cons (above : List String) (places : List (List String)) :
    makeAll (above :: places) t = makeAll places (if t.holds above then t else t.put above .directory) := rfl

end Below

/-- An entry may be put into a folder, under a proper name. -/
theorem WellFormed.put (ht : t.WellFormed) (hp : t.isDirectory p = false) (hparent : t.isDirectory p.dropLast = true)
    (hnames : ∀ name ∈ p, Path.IsName name) : (t.put p entry).WellFormed where
  named := by
    intro e he
    rcases Sequence.mem_put he with rfl | he
    · exact ⟨ne_nil_of_isDirectory_eq_false hp, hnames⟩
    · exact ht.named e he
  parents := by
    intro e he
    refine isDirectory_put hp ?_
    rcases Sequence.mem_put he with rfl | he
    · exact hparent
    · exact ht.parents e he

theorem WellFormed.remove (ht : t.WellFormed) (hp : p ≠ []) : (t.remove p).WellFormed where
  named := fun e he => ht.named e (List.mem_filter.1 he).1
  parents := by
    intro e he
    obtain ⟨hmem, hkeep⟩ := List.mem_filter.1 he
    have hnot : ¬ p <+: e.1.dropLast := by
      intro hle
      have hpre := List.isPrefixOf_iff_prefix.2 (hle.trans (List.dropLast_prefix e.1))
      simp [hpre] at hkeep
    rw [isDirectory_iff, find?_remove hp, if_neg hnot, ← isDirectory_iff]
    exact ht.parents e hmem

private theorem mem_entries_makeAll {places : List (List String)} {e : List String × Entry}
    (h : e ∈ (makeAll places t).entries) : e ∈ t.entries ∨ e.1 ∈ places ∧ e.1 ≠ [] := by
  induction places generalizing t with
  | nil => exact .inl h
  | cons above places ih =>
    rw [makeAll_cons] at h
    rcases ih h with hmem | ⟨hmem, hne⟩
    · split at hmem
      · exact .inl hmem
      case isFalse hholds =>
        rcases Sequence.mem_put hmem with rfl | hmem
        · refine .inr ⟨List.mem_cons_self, ?_⟩
          rintro rfl
          exact hholds rfl
        · exact .inl hmem
    · exact .inr ⟨List.mem_cons_of_mem _ hmem, hne⟩

private theorem WellFormed.makeAll (ht : t.WellFormed) {places : List (List String)}
    (hnames : ∀ q ∈ places, ∀ name ∈ q, Path.IsName name)
    (hparents : ∀ q ∈ places, (makeAll places t).isDirectory q.dropLast = true) : (makeAll places t).WellFormed where
  named := by
    intro e he
    rcases mem_entries_makeAll he with hmem | ⟨hmem, hne⟩
    · exact ht.named e hmem
    · exact ⟨hne, hnames e.1 hmem⟩
  parents := by
    intro e he
    rcases mem_entries_makeAll he with hmem | ⟨hmem, -⟩
    · have hparent := isDirectory_iff.1 (ht.parents e hmem)
      rw [isDirectory_iff, find?_makeAll, hparent]
      split <;> rfl
    · exact hparents e.1 hmem

/-! ### Local operations -/

/-- A change inside a folder: all else is as it was. -/
structure Inside (folder : List String) (t t' : FileTree) : Prop where
  wellFormed : t'.WellFormed
  stays : t'.isDirectory folder = true
  elsewhere : ∀ q, ¬ folder <+: q → t'.find? q = t.find? q

private theorem Inside.put (ht : t.WellFormed) (hfolder : t.isDirectory folder = true)
    (hp : t.isDirectory (folder ++ rel) = false) (hparent : t.isDirectory (folder ++ rel).dropLast = true)
    (hnames : ∀ name ∈ folder ++ rel, Path.IsName name) : Inside folder t (t.put (folder ++ rel) entry) where
  wellFormed := ht.put hp hparent hnames
  stays := isDirectory_put hp hfolder
  elsewhere := by
    intro q hq
    rw [find?_put (ne_nil_of_isDirectory_eq_false hp), if_neg]
    rintro rfl
    exact hq (List.prefix_append ..)

private theorem above_or_below (h : q <+: folder ++ rel) :
    q <+: folder ∨ ∃ above, q = folder ++ above ∧ above <+: rel := by
  rcases List.prefix_or_prefix_of_prefix h (List.prefix_append folder rel) with hle | ⟨above, rfl⟩
  · exact .inl hle
  · exact .inr ⟨above, rfl, (List.prefix_append_right_inj folder).1 h⟩

/-- Where no file stands on the way, all places on the way become folders. -/
private theorem isDirectory_makeAll_initials {place : List String}
    (h : ∀ above, above <+: place → t.isFile above = false)
    (hq : q <+: place) : (makeAll (Sequence.initials place) t).isDirectory q = true := by
  have hfile := h q hq
  rw [isDirectory_iff, find?_makeAll, if_pos (Sequence.mem_initials.2 hq)]
  cases hfind : t.find? q with
  | none => rfl
  | some entry =>
    cases entry with
    | directory => rfl
    | file content => simp [isFile, hfind] at hfile

/-- Making all places on the way to one below a folder changes the tree inside the folder only. -/
private theorem Inside.makeAll (ht : t.WellFormed) (hholds : t.holds folder = true)
    (hnames : ∀ name ∈ folder ++ rel, Path.IsName name)
    (hfile : ∀ above, above <+: folder ++ rel → t.isFile above = false) :
    Inside folder t (makeAll (Sequence.initials (folder ++ rel)) t) where
  wellFormed := by
    refine ht.makeAll (fun q hq name hname => hnames name ((Sequence.mem_initials.1 hq).subset hname)) fun q hq => ?_
    exact isDirectory_makeAll_initials hfile ((List.dropLast_prefix q).trans (Sequence.mem_initials.1 hq))
  stays := isDirectory_makeAll_initials hfile (List.prefix_append ..)
  elsewhere := by
    intro q hq
    rw [find?_makeAll]
    split
    case isTrue hmem =>
      -- a place on the way that is not below the folder is above it, and is there already
      rcases above_or_below (Sequence.mem_initials.1 hmem) with hle | ⟨above, rfl, -⟩
      · obtain ⟨entry, hentry⟩ := Option.ne_none_iff_exists'.1 (holds_iff.1 (ht.holds_above hholds hle))
        rw [hentry]
        rfl
      · exact absurd (List.prefix_append ..) hq
    case isFalse => rfl

end FileTree

end WarehouseMigration
