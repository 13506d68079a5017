import WarehouseMigration.FileTree
import WarehouseMigration.Proofs.Sequence.Keyed

/-!
# What stands at each place of a file tree

An operation on a file tree is known by what it leaves at every place (`find?`) and by the names that it leaves below
every folder (`names`).  There is one lemma for each operation and each of the two views, so that no later proof looks
at the list of entries.
-/

namespace WarehouseMigration

namespace Sequence

theorem mem_initials {α : Type} {xs ys : List α} : xs ∈ initials ys ↔ xs <+: ys := by
  induction ys generalizing xs with
  | nil => simp [initials]
  | cons y ys ih =>
    cases xs with
    | nil => simp [initials]
    | cons x xs =>
      simp only [initials, List.mem_cons, reduceCtorEq, false_or, List.mem_map, List.cons.injEq, List.cons_prefix_cons]
      constructor
      · rintro ⟨zs, hzs, rfl, rfl⟩
        exact ⟨rfl, ih.1 hzs⟩
      · rintro ⟨rfl, h⟩
        exact ⟨xs, ih.2 h, rfl, rfl⟩

end Sequence

namespace FileTree

variable {t : FileTree} {p q place : List String} {entry : Entry}

@[simp] theorem find?_nil (t : FileTree) : t.find? [] = some .directory := rfl

theorem find?_of_ne_nil (h : q ≠ []) : t.find? q = t.entries.lookup q := by
  cases q with
  | nil => exact absurd rfl h
  | cons name rest => rfl

theorem isDirectory_iff : t.isDirectory p = true ↔ t.find? p = some .directory := by
  unfold isDirectory
  split
  · rename_i entry h
    cases entry <;> simp [h, Entry.isDirectory]
  · simp_all

theorem isFile_iff : t.isFile p = true ↔ ∃ content, t.find? p = some (.file content) := by
  unfold isFile
  split <;> simp_all

theorem holds_iff : t.holds p = true ↔ t.find? p ≠ none := by
  simp [holds, Option.isSome_iff_ne_none]

theorem holds_of_isDirectory (h : t.isDirectory p = true) : t.holds p = true := by
  rw [holds, isDirectory_iff.1 h]
  rfl

theorem isDirectory_of_absent (h : t.find? p = none) : t.isDirectory p = false := by
  simp [isDirectory, h]

theorem isFile_of_absent (h : t.find? p = none) : t.isFile p = false := by
  simp [isFile, h]

theorem isFile_eq_false (h : t.isDirectory p = true) : t.isFile p = false := by
  simp [isFile, isDirectory_iff.1 h]

/-! ### Single entries -/

/-- Only the place at which an entry is put changes. -/
theorem find?_put (hp : p ≠ []) : (t.put p entry).find? q = if q = p then some entry else t.find? q := by
  cases q with
  | nil => simp [Ne.symm hp]
  | cons name rest =>
    rw [find?_of_ne_nil (by simp), find?_of_ne_nil (by simp), put, Sequence.lookup_put]
    simp only [beq_iff_eq]

theorem mem_names {name : String} : name ∈ t.names place ↔ ∃ entry, (place ++ [name], entry) ∈ t.entries := by
  simp only [names, List.mem_filterMap, Prod.exists]
  constructor
  · rintro ⟨k, entry, hmem, hk⟩
    split at hk
    case isTrue h =>
      obtain ⟨hne, hlast⟩ : k ≠ [] ∧ k.dropLast = place := by simpa using h
      obtain ⟨hne', rfl⟩ := List.getLast?_eq_some_iff.1 hk
      simp only [List.dropLast_concat] at hlast
      exact ⟨entry, hlast ▸ hmem⟩
    case isFalse => cases hk
  · rintro ⟨entry, hmem⟩
    exact ⟨_, entry, hmem, by simp⟩

/-- An entry in another folder changes nothing in the names below this one. -/
theorem names_put (h : p.dropLast ≠ place) : (t.put p entry).names place = t.names place := by
  unfold names put
  induction t.entries with
  | nil => simp [Sequence.put, h]
  | cons e entries ih =>
    obtain ⟨k, v⟩ := e
    rw [Sequence.put]
    split
    · rfl
    · simp only [List.filterMap_cons, ih]

/-! ### Whole subtrees -/

/-- What is removed goes with all that lies below it. -/
theorem find?_remove (hp : p ≠ []) : (t.remove p).find? q = if p <+: q then none else t.find? q := by
  cases q with
  | nil => simp [hp]
  | cons name rest =>
    rw [find?_of_ne_nil (by simp), find?_of_ne_nil (by simp), remove]
    refine (Sequence.lookup_filter_key (fun k => !p.isPrefixOf k) _ t.entries).trans ?_
    by_cases h : p <+: name :: rest
    · simp [h, List.isPrefixOf_iff_prefix.2 h]
    · simp [h, show p.isPrefixOf (name :: rest) = false by
        rw [← Bool.not_eq_true, List.isPrefixOf_iff_prefix]; exact h]

section Move

/-- Where an entry is after a move. -/
private def moved (source target k : List String) : List String :=
  if source.isPrefixOf k then target ++ k.drop source.length else k

private theorem move_eq (source target : List String) :
    t.move source target = ⟨(t.remove target).entries.map fun e => (moved source target e.1, e.2)⟩ := by
  unfold move moved
  congr 1
  apply List.map_congr_left
  rintro ⟨k, v⟩ -
  simp only
  split <;> rfl

private theorem not_prefix_of_mem_remove {e : List String × Entry} (h : e ∈ (t.remove p).entries) : ¬ p <+: e.1 := by
  simp only [remove, List.mem_filter, Bool.not_eq_true', ← Bool.not_eq_true, List.isPrefixOf_iff_prefix] at h
  exact h.2

private theorem moved_append (source target rest : List String) :
    moved source target (source ++ rest) = target ++ rest := by
  simp [moved]

private theorem moved_elsewhere {source target k : List String} (h : ¬ source <+: k) : moved source target k = k := by
  rw [moved, if_neg (by rwa [List.isPrefixOf_iff_prefix])]

private theorem find?_move {source target q' : List String} (htarget : target ≠ []) (hq : q ≠ []) (hq' : q' ≠ [])
    (hkept : ¬ target <+: q') (h : ∀ k, ¬ target <+: k → (moved source target k = q ↔ k = q')) :
    (t.move source target).find? q = t.find? q' := by
  rw [move_eq, find?_of_ne_nil hq]
  refine (Sequence.lookup_map_key fun e he => h e.1 (not_prefix_of_mem_remove he)).trans ?_
  rw [← find?_of_ne_nil (t := t.remove target) hq', find?_remove htarget, if_neg hkept]

variable {source target : List String} (hst : ¬ source <+: target) (hts : ¬ target <+: source)

include hst hts in
/-- What lay below the source lies below the target now. -/
theorem find?_move_target (rest : List String) :
    (t.move source target).find? (target ++ rest) = t.find? (source ++ rest) := by
  have hsource : source ≠ [] := fun h => hst (h ▸ List.nil_prefix)
  have htarget : target ≠ [] := fun h => hts (h ▸ List.nil_prefix)
  have hkept : ¬ target <+: source ++ rest := fun h =>
    (List.prefix_or_prefix_of_prefix h (List.prefix_append ..)).elim hts hst
  refine find?_move htarget (by simp [htarget]) (by simp [hsource]) hkept fun k hk => ?_
  by_cases hpre : source <+: k
  · obtain ⟨rest', rfl⟩ := hpre
    rw [moved_append, List.append_right_inj, List.append_right_inj]
  · rw [moved_elsewhere hpre]
    constructor
    · rintro rfl
      exact absurd (List.prefix_append ..) hk
    · rintro rfl
      exact absurd (List.prefix_append ..) hpre

include hst hts in
/-- Nothing is left at or below the source of a move. -/
theorem find?_move_source (rest : List String) : (t.move source target).find? (source ++ rest) = none := by
  have hsource : source ≠ [] := fun h => hst (h ▸ List.nil_prefix)
  rw [move_eq, find?_of_ne_nil (by simp [hsource]), List.lookup_eq_none_iff]
  intro e he
  obtain ⟨e', -, rfl⟩ := List.mem_map.1 he
  by_cases hpre : source <+: e'.1
  · obtain ⟨rest', hrest⟩ := hpre
    rw [← hrest, moved_append]
    refine bne_iff_ne.2 fun heq => ?_
    have htarget : target <+: source ++ rest := heq ▸ List.prefix_append ..
    exact (List.prefix_or_prefix_of_prefix htarget (List.prefix_append ..)).elim hts hst
  · rw [moved_elsewhere hpre]
    exact bne_iff_ne.2 fun heq => hpre (heq ▸ List.prefix_append ..)

omit hst hts in
/-- A move changes nothing apart from source and target. -/
theorem find?_move_elsewhere (hsource : ¬ source <+: q) (htarget : ¬ target <+: q) :
    (t.move source target).find? q = t.find? q := by
  by_cases hq : q = []
  · subst hq
    rfl
  · have hne : target ≠ [] := fun h => htarget (h ▸ List.nil_prefix)
    refine find?_move hne hq hq htarget fun k hk => ?_
    by_cases hpre : source <+: k
    · obtain ⟨rest, rfl⟩ := hpre
      rw [moved_append]
      constructor
      · rintro rfl
        exact absurd (List.prefix_append ..) htarget
      · rintro rfl
        exact absurd (List.prefix_append ..) hsource
    · rw [moved_elsewhere hpre]

end Move

/-! ### Operations that may be refused -/

theorem absence_eq_notFound (h : ∀ above, above <+: place → t.isFile above = false) : t.absence place = .notFound := by
  rw [absence, if_neg]
  simp only [List.any_eq_true, Bool.and_eq_true, not_exists, not_and]
  intro above habove hne
  rw [h above (Sequence.mem_initials.1 habove)]
  decide

/-- Makes the folders of a list, as far as they are missing. -/
def makeAll (places : List (List String)) (t : FileTree) : FileTree :=
  places.foldl (fun t above => if t.holds above then t else t.put above .directory) t

/-- Folders are made where nothing stands, and nothing is replaced. -/
theorem find?_makeAll (places : List (List String)) :
    (makeAll places t).find? q = if q ∈ places then some ((t.find? q).getD .directory) else t.find? q := by
  induction places generalizing t with
  | nil => simp [makeAll]
  | cons above places ih =>
    rw [makeAll, List.foldl_cons, ← makeAll, ih]
    by_cases hholds : t.holds above = true
    · obtain ⟨e, he⟩ := Option.ne_none_iff_exists'.1 (holds_iff.1 hholds)
      rw [if_pos hholds]
      by_cases heq : q = above
      · simp [heq, he]
      · simp [heq]
    · have hnone : t.find? above = none := by simpa [holds_iff] using hholds
      have hne : above ≠ [] := by
        rintro rfl
        cases hnone
      rw [if_neg hholds, find?_put hne]
      by_cases heq : q = above
      · simp [heq, hnone]
      · simp [heq]

private theorem names_makeAll {places : List (List String)}
    (h : ∀ above ∈ places, above ≠ [] → above.dropLast ≠ place) :
    (makeAll places t).names place = t.names place := by
  induction places generalizing t with
  | nil => rfl
  | cons above places ih =>
    rw [makeAll, List.foldl_cons, ← makeAll, ih fun above' hmem => h above' (List.mem_cons_of_mem _ hmem)]
    split
    · rfl
    case isFalse hholds =>
      refine names_put (h above List.mem_cons_self ?_)
      rintro rfl
      exact hholds rfl

/-- If no file is in the way, the missing folders are made. -/
theorem makeDirectories_of_not_isFile (h : ∀ above, above <+: place → t.isFile above = false) :
    t.makeDirectories place = .ok (makeAll (Sequence.initials place) t) := by
  have hnone : (Sequence.initials place).find? t.isFile = none := by
    rw [List.find?_eq_none]
    intro above habove
    rw [h above (Sequence.mem_initials.1 habove)]
    exact Bool.false_ne_true
  rw [makeDirectories, hnone]
  rfl

/-- Where no file is in the way, the folders up to a place are made and nothing else changes. -/
theorem makeDirectories_eq_ok (h : ∀ above, above <+: place → t.isFile above = false) :
    ∃ t', t.makeDirectories place = .ok t' ∧
      (∀ q, t'.find? q = if q <+: place then some .directory else t.find? q) ∧
      ∀ q, ¬ q <+: place → t'.names q = t.names q := by
  refine ⟨makeAll (Sequence.initials place) t, makeDirectories_of_not_isFile h, fun q => ?_, fun q hq => ?_⟩
  · rw [find?_makeAll]
    simp only [Sequence.mem_initials]
    split
    case isTrue hq =>
      have hfile := h q hq
      cases hfind : t.find? q with
      | none => rfl
      | some e =>
        cases e with
        | directory => rfl
        | file content => simp [isFile, hfind] at hfile
    case isFalse => rfl
  · refine names_makeAll fun above habove _ heq => hq ?_
    rw [← heq]
    exact (List.dropLast_prefix above).trans (Sequence.mem_initials.1 habove)

theorem makeDirectory_of_isDirectory (h : t.isDirectory place = true) : t.makeDirectory place true = .ok t := by
  simp [makeDirectory, h, holds_of_isDirectory h]
  rfl

/-- A folder is made where nothing stands, if its parent is a folder; else it is refused. -/
theorem makeDirectory_of_absent (existing : Bool) (h : t.find? place = none) :
    t.makeDirectory place existing =
      if t.isDirectory place.dropLast then .ok (t.put place .directory) else .error (t.absence place) := by
  have hholds : t.holds place = false := by simp [holds, h]
  simp [makeDirectory, hholds, admits]
  split <;> rfl

/-- A file can be written in a folder, where no folder stands. -/
theorem write_eq_ok {content : Content} (h : t.isDirectory place = false)
    (hparent : t.isDirectory place.dropLast = true) :
    t.write place content = .ok (t.put place (.file content)) := by
  simp [write, h, admits, hparent]
  rfl

/-- A file is written only in a folder, and where no folder stands. -/
theorem eq_put_of_write {content : Content} {t' : FileTree} (h : t.write place content = .ok t') :
    t.isDirectory place = false ∧ t.isDirectory place.dropLast = true ∧ t' = t.put place (.file content) := by
  rw [write] at h
  by_cases hdir : t.isDirectory place = true
  · rw [if_pos hdir] at h
    cases h
  by_cases hparent : t.isDirectory place.dropLast = true
  · rw [if_neg hdir, admits, if_pos hparent] at h
    cases h
    exact ⟨Bool.eq_false_iff.2 hdir, hparent, rfl⟩
  · rw [if_neg hdir, admits, if_neg hparent] at h
    cases h

/-- A folder that may exist is left as it is, or it is made in a folder. -/
theorem eq_put_of_makeDirectory {t' : FileTree} (h : t.makeDirectory place true = .ok t') :
    t.isDirectory place = true ∧ t' = t ∨
      t.isDirectory place = false ∧ t.isDirectory place.dropLast = true ∧ t' = t.put place .directory := by
  by_cases hdir : t.isDirectory place = true
  · rw [makeDirectory_of_isDirectory hdir] at h
    cases h
    exact .inl ⟨hdir, rfl⟩
  cases hfind : t.find? place with
  | none =>
    rw [makeDirectory_of_absent true hfind] at h
    split at h
    case isTrue hparent =>
      cases h
      exact .inr ⟨Bool.eq_false_iff.2 hdir, hparent, rfl⟩
    case isFalse => cases h
  | some entry =>
    rw [makeDirectory, if_pos (by simp [holds, hfind]), if_neg (by simpa using hdir)] at h
    cases h

/-- Folders are made only if no file is in the way. -/
theorem isFile_of_makeDirectories {t' : FileTree} (h : t.makeDirectories place = .ok t') {above : List String}
    (habove : above <+: place) : t.isFile above = false := by
  rw [makeDirectories] at h
  cases hfind : (Sequence.initials place).find? t.isFile with
  | none => simpa using List.find?_eq_none.1 hfind above (Sequence.mem_initials.2 habove)
  | some file =>
    rw [hfind] at h
    dsimp only at h
    split at h <;> cases h

/-- An entry is moved to a place where nothing stands, if this place is in a folder. -/
theorem rename_eq_ok {source target : List String} (hsource : t.holds source = true) (htarget : t.find? target = none)
    (hparent : t.isDirectory target.dropLast = true) : t.rename source target = .ok (t.move source target) := by
  obtain ⟨e, he⟩ := Option.ne_none_iff_exists'.1 (holds_iff.1 hsource)
  have hne : (source == target) = false := beq_false_of_ne fun heq => by simp [heq, htarget] at he
  simp [rename, he, hne, admits, hparent, htarget]
  rfl

end FileTree

end WarehouseMigration
