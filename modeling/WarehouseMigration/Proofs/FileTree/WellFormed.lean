import WarehouseMigration.Proofs.Session.Files

/-!
# Well-formed file trees

In a file tree as a working directory has it, the entries have proper names and stand in folders.  Hence all folders
on the way to an entry are there (`WellFormed.isDirectory_above`), and as each of them is an entry of its own, no
place is deeper than the tree has entries (`length_le_entries`): a walk that may go that deep misses nothing.
-/

namespace WarehouseMigration

namespace Sequence

variable {α : Type}

private theorem nodup_initials (xs : List α) : (initials xs).Nodup := by
  induction xs with
  | nil => simp [initials]
  | cons x xs ih =>
    rw [initials, List.nodup_cons]
    exact ⟨by simp, List.Pairwise.map (x :: ·) (fun _ _ hne h => hne (List.cons.inj h).2) ih⟩

private theorem length_initials (xs : List α) : (initials xs).length = xs.length + 1 := by
  induction xs with
  | nil => rfl
  | cons x xs ih => simp [initials, ih]

end Sequence

namespace FileTree

variable {t : FileTree} {p q place : List String}

/-- The entries of a tree have proper names and stand in folders. -/
structure WellFormed (t : FileTree) : Prop where
  named : ∀ e ∈ t.entries, e.1 ≠ [] ∧ ∀ name ∈ e.1, Path.IsName name
  parents : ∀ e ∈ t.entries, t.isDirectory e.1.dropLast = true

instance (t : FileTree) : Decidable t.WellFormed :=
  decidable_of_iff ((∀ e ∈ t.entries, e.1 ≠ [] ∧ ∀ name ∈ e.1, Path.IsName name) ∧
    ∀ e ∈ t.entries, t.isDirectory e.1.dropLast = true) ⟨fun h => ⟨h.1, h.2⟩, fun h => ⟨h.1, h.2⟩⟩

theorem mem_of_find? {entry : Entry} (hp : p ≠ []) (h : t.find? p = some entry) : (p, entry) ∈ t.entries := by
  rw [find?_of_ne_nil hp] at h
  obtain ⟨l₁, l₂, heq, -⟩ := List.lookup_eq_some_iff.1 h
  rw [heq]
  simp

theorem mem_names_of_holds {name : String} (h : t.holds (place ++ [name]) = true) : name ∈ t.names place := by
  obtain ⟨entry, hentry⟩ := Option.ne_none_iff_exists'.1 (holds_iff.1 h)
  exact mem_names.2 ⟨entry, mem_of_find? (by simp) hentry⟩

theorem WellFormed.isName (ht : t.WellFormed) {name : String} (h : name ∈ t.names place) : Path.IsName name := by
  obtain ⟨entry, hentry⟩ := mem_names.1 h
  exact (ht.named _ hentry).2 name (by simp)

theorem WellFormed.isName_concat (ht : t.WellFormed) {file : List String} (hfile : ∀ name ∈ file, Path.IsName name)
    {name : String} (h : name ∈ t.names place) : ∀ part ∈ file ++ [name], Path.IsName part :=
  List.forall_mem_append.2 ⟨hfile, List.forall_mem_singleton.2 (ht.isName h)⟩

/-- The way to an entry leads through folders. -/
theorem WellFormed.isDirectory_above (ht : t.WellFormed) (hp : t.holds p = true) (h : q <+: p) (hne : q ≠ p) :
    t.isDirectory q = true := by
  obtain ⟨rest, rfl⟩ := h
  induction rest using List.reverseRecOn with
  | nil => simp at hne
  | append_singleton rest name ih =>
    obtain ⟨entry, hentry⟩ := Option.ne_none_iff_exists'.1 (holds_iff.1 hp)
    have hparent : t.isDirectory (q ++ rest) = true := by
      have := ht.parents _ (mem_of_find? (by simp) hentry)
      rwa [← List.append_assoc, List.dropLast_concat] at this
    cases rest with
    | nil => rwa [List.append_nil] at hparent
    | cons name' rest => exact ih (holds_of_isDirectory hparent) (by simp)

/-- What leads to an entry is there too. -/
theorem WellFormed.holds_above (ht : t.WellFormed) (hp : t.holds p = true) (h : q <+: p) : t.holds q = true := by
  by_cases heq : q = p
  · rwa [heq]
  · exact holds_of_isDirectory (ht.isDirectory_above hp h heq)

/-- A place to which entries lead is not deeper than there are entries. -/
theorem length_le_entries (h : ∀ q, q <+: p → t.holds q = true) : p.length ≤ t.entries.length := by
  have hsub : Sequence.initials p ⊆ [] :: t.entries.map Prod.fst := by
    intro q hq
    by_cases hnil : q = []
    · simp [hnil]
    · obtain ⟨entry, hentry⟩ := Option.ne_none_iff_exists'.1 (holds_iff.1 (h q (Sequence.mem_initials.1 hq)))
      exact List.mem_cons_of_mem _ (List.mem_map.2 ⟨_, mem_of_find? hnil hentry, rfl⟩)
  have hle := (List.subperm_of_subset (Sequence.nodup_initials p) hsub).length_le
  rw [Sequence.length_initials] at hle
  simpa using hle

end FileTree

/-! ### Trees that grow

A tree grows when files are written and folders are made, and nothing is removed: every folder stays a folder, and what
is no folder stays as it is unless it was written (`Grows`).  The entries of a grown tree still stand in folders
(`Rooted`), so that a folder is never written over by way of what is in it.
-/

namespace FileTree

variable {t t' t'' : FileTree} {p : List String} {entry : Entry}

/-! ### Entries in folders -/

def Rooted (t : FileTree) : Prop := ∀ place, t.find? place ≠ none → t.isDirectory place.dropLast = true

theorem WellFormed.rooted (ht : t.WellFormed) : t.Rooted := by
  intro place hplace
  by_cases hnil : place = []
  · subst hnil
    rfl
  · obtain ⟨entry, hentry⟩ := Option.ne_none_iff_exists'.1 hplace
    exact ht.parents _ (mem_of_find? hnil hentry)

theorem ne_nil_of_isDirectory_eq_false (h : t.isDirectory p = false) : p ≠ [] := by
  rintro rfl
  cases h

/-- A folder stays a folder when an entry is put where no folder stands. -/
theorem isDirectory_put (h : t.isDirectory p = false) {place : List String} (hplace : t.isDirectory place = true) :
    (t.put p entry).isDirectory place = true := by
  have hne : place ≠ p := by
    rintro rfl
    rw [hplace] at h
    cases h
  rwa [isDirectory_iff, find?_put (ne_nil_of_isDirectory_eq_false h), if_neg hne, ← isDirectory_iff]

/-- An entry in a folder leaves every entry in one. -/
theorem Rooted.put (ht : t.Rooted) (h : t.isDirectory p = false) (hparent : t.isDirectory p.dropLast = true) :
    (t.put p entry).Rooted := by
  intro place hplace
  rw [find?_put (ne_nil_of_isDirectory_eq_false h)] at hplace
  refine isDirectory_put h ?_
  split at hplace
  case isTrue heq => rwa [heq]
  case isFalse => exact ht place hplace

/-! ### Growth -/

/-- A tree has grown if every folder is still there, and all that is no folder and was not written is as it was. -/
structure Grows (Written : List String → Prop) (t t' : FileTree) : Prop where
  folders : ∀ place, t.isDirectory place = true → t'.isDirectory place = true
  others : ∀ place, t'.isDirectory place = false → ¬ Written place → t'.find? place = t.find? place

namespace Grows

variable {Written More : List String → Prop}

theorem refl (t : FileTree) : Grows Written t t := ⟨fun _ h => h, fun _ _ _ => rfl⟩

/-- One change after another is a change. -/
theorem trans (h : Grows Written t t') (h' : Grows Written t' t'') : Grows Written t t'' where
  folders := fun place hplace => h'.folders place (h.folders place hplace)
  others := by
    intro place hplace hwritten
    have hplace' : t'.isDirectory place = false := by
      rw [Bool.eq_false_iff]
      intro hdir
      rw [h'.folders place hdir] at hplace
      cases hplace
    rw [h'.others place hplace hwritten, h.others place hplace' hwritten]

theorem mono (h : Grows Written t t') (hmore : ∀ place, Written place → More place) : Grows More t t' :=
  ⟨h.folders, fun place hplace hwritten => h.others place hplace fun hw => hwritten (hmore place hw)⟩

/-- Writing a file at a place where it may be. -/
theorem put_file {content : Content} (h : t.isDirectory p = false) (hwritten : Written p) :
    Grows Written t (t.put p (.file content)) where
  folders := fun place hplace => isDirectory_put h hplace
  others := by
    intro place _ hplace
    rw [find?_put (ne_nil_of_isDirectory_eq_false h), if_neg]
    rintro rfl
    exact hplace hwritten

theorem put_directory (h : t.isDirectory p = false) : Grows Written t (t.put p .directory) where
  folders := fun place hplace => isDirectory_put h hplace
  others := by
    intro place hplace _
    have hp := ne_nil_of_isDirectory_eq_false h
    rw [find?_put hp, if_neg]
    rintro rfl
    rw [Bool.eq_false_iff, ne_eq, isDirectory_iff, find?_put hp, if_pos rfl] at hplace
    exact hplace rfl

/-- No folder lies deeper than a tree that has grown has entries. -/
theorem length_le (h : Grows Written t t') (ht : t.WellFormed) {place : List String}
    (hplace : t.isDirectory place = true) : place.length ≤ t'.entries.length := by
  refine length_le_entries fun q hq => ?_
  have hdir : t.isDirectory q = true := by
    by_cases heq : q = place
    · rwa [heq]
    · exact ht.isDirectory_above (holds_of_isDirectory hplace) hq heq
  exact holds_of_isDirectory (h.folders q hdir)

end Grows

/-- Making folders lets a tree grow, and its entries stand in folders as before. -/
theorem grows_of_makeDirectories (ht : t.Rooted) (h : t.makeDirectories p = .ok t') :
    Grows (fun _ => False) t t' ∧ t'.Rooted ∧ (∀ q, ¬ q <+: p → t'.find? q = t.find? q) ∧
      ∀ q, ¬ q <+: p → t'.names q = t.names q := by
  obtain ⟨made, hmade, hfind, hnames⟩ := makeDirectories_eq_ok fun above habove => isFile_of_makeDirectories h habove
  obtain rfl : made = t' := Except.ok.inj (hmade.symm.trans h)
  have hfolders : ∀ place, t.isDirectory place = true → made.isDirectory place = true := by
    intro place hplace
    rw [isDirectory_iff, hfind]
    split
    · rfl
    · exact isDirectory_iff.1 hplace
  refine ⟨⟨hfolders, fun place hplace _ => ?_⟩, fun place hplace => ?_, fun q hq => ?_, hnames⟩
  · rw [Bool.eq_false_iff, ne_eq, isDirectory_iff, hfind] at hplace
    rw [hfind, if_neg fun hpre => hplace (if_pos hpre)]
  · by_cases hpre : place <+: p
    · rw [isDirectory_iff, hfind, if_pos ((List.dropLast_prefix place).trans hpre)]
    · rw [hfind, if_neg hpre] at hplace
      exact hfolders _ (ht place hplace)
  · rw [hfind, if_neg hq]

end FileTree

end WarehouseMigration
