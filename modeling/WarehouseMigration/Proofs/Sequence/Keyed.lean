import Mathlib.Data.List.Induction
import Mathlib.Data.List.Nodup
import Mathlib.Data.List.Perm.Subperm
import WarehouseMigration.Sequence

/-!
# Tables by key

A list of entries is a table: under a key it has the first entry of that key.  Here is what is found after an entry was
put in (`lookup_put`), after entries were left out (`lookup_filter_key`) or got other keys (`lookup_map_key`), and in
the table made of a list in which a later entry replaces an earlier one of its key (`lookup_lastOf`).
-/

namespace WarehouseMigration.Sequence

variable {α κ β : Type} [BEq κ] [LawfulBEq κ]

/-- Putting changes what is found under one key. -/
theorem lookup_put (key k : κ) (value : β) (entries : List (κ × β)) :
    (put key value entries).lookup k = if k == key then some value else entries.lookup k := by
  induction entries with
  | nil => simp only [put, List.lookup_cons, List.lookup_nil]; split <;> simp_all
  | cons entry entries ih =>
    obtain ⟨k', v⟩ := entry
    rw [put]
    by_cases h : k' == key
    · rw [if_pos h, List.lookup_cons, List.lookup_cons, eq_of_beq h]
      split <;> simp_all
    · rw [if_neg h, List.lookup_cons, List.lookup_cons, ih]
      by_cases hk : k == k'
      · have hne : (k == key) = false := by rw [eq_of_beq hk]; simpa using h
        simp [hk, hne]
      · simp [hk]

/-- In a table with one entry per key, an entry is what is found under its key. -/
theorem mem_iff_lookup {entries : List (κ × β)} (h : (entries.map Prod.fst).Nodup) {key : κ} {value : β} :
    (key, value) ∈ entries ↔ entries.lookup key = some value := by
  induction entries with
  | nil => simp
  | cons entry entries ih =>
    obtain ⟨k, v⟩ := entry
    obtain ⟨hk, hrest⟩ := List.nodup_cons.1 h
    rw [List.mem_cons, List.lookup_cons, ih hrest, Prod.mk.injEq]
    by_cases hkey : key == k
    · cases eq_of_beq hkey
      have hnone : entries.lookup key ≠ some value := fun heq =>
        hk (List.mem_map.2 ⟨(key, value), (ih hrest).2 heq, rfl⟩)
      simp [hnone, eq_comm]
    · have hne : key ≠ k := fun heq => hkey (beq_iff_eq.2 heq)
      simp [hkey, hne]

theorem isSome_lookup_iff {entries : List (κ × β)} {key : κ} :
    (entries.lookup key).isSome = true ↔ key ∈ entries.map Prod.fst := by
  induction entries with
  | nil => simp
  | cons entry entries ih =>
    obtain ⟨k, v⟩ := entry
    rw [List.lookup_cons, List.map_cons, List.mem_cons, ← ih]
    by_cases h : key == k
    · simp [eq_of_beq h]
    · have hne : key ≠ k := fun heq => h (beq_iff_eq.2 heq)
      simp [h, hne]

theorem lookup_filter_key (keep : κ → Bool) (key : κ) (entries : List (κ × β)) :
    (entries.filter fun e => keep e.1).lookup key = if keep key then entries.lookup key else none := by
  induction entries with
  | nil => simp
  | cons e entries ih =>
    obtain ⟨k, v⟩ := e
    rw [List.filter_cons, List.lookup_cons]
    by_cases heq : key = k
    · subst heq
      by_cases hkeep : keep key = true
      · simp [hkeep]
      · simpa [hkeep] using ih
    · rw [beq_false_of_ne heq, ← ih]
      split
      · rw [List.lookup_cons, beq_false_of_ne heq]
      · rfl

/-- Keys may change if the key that is looked for comes from one key alone. -/
theorem lookup_map_key {f : κ → κ} {key former : κ} {entries : List (κ × β)}
    (h : ∀ e ∈ entries, f e.1 = key ↔ e.1 = former) :
    (entries.map fun e => (f e.1, e.2)).lookup key = entries.lookup former := by
  induction entries with
  | nil => rfl
  | cons e entries ih =>
    obtain ⟨k, v⟩ := e
    have hk : (key == f k) = (former == k) := by
      rw [Bool.eq_iff_iff, beq_iff_eq, beq_iff_eq, eq_comm, h (k, v) (by simp), eq_comm]
    rw [List.map_cons, List.lookup_cons, List.lookup_cons, hk, ih fun e he => h e (List.mem_cons_of_mem _ he)]

private theorem map_fst_put (key : κ) (value : β) (entries : List (κ × β)) :
    (put key value entries).map Prod.fst = if (entries.map Prod.fst).contains key then entries.map Prod.fst
      else entries.map Prod.fst ++ [key] := by
  induction entries with
  | nil => rfl
  | cons entry entries ih =>
    obtain ⟨k, v⟩ := entry
    rw [put]
    by_cases h : k == key
    · cases eq_of_beq h
      simp
    · have hne : (key == k) = false := by
        rw [← Bool.not_eq_true]
        exact fun heq => h (beq_iff_eq.2 (eq_of_beq heq).symm)
      rw [if_neg h, List.map_cons, ih, List.map_cons, List.contains_cons, hne, Bool.false_or]
      split <;> rfl

private theorem put_of_not_mem {key : κ} {value : β} {entries : List (κ × β)} (h : key ∉ entries.map Prod.fst) :
    put key value entries = entries ++ [(key, value)] := by
  induction entries with
  | nil => rfl
  | cons e entries ih =>
    obtain ⟨hkey, hrest⟩ : key ≠ e.1 ∧ key ∉ entries.map Prod.fst := by simpa using h
    rw [put, if_neg (by simpa using Ne.symm hkey), ih hrest, List.cons_append]

/-- Putting makes no key occur twice. -/
theorem nodup_put {key : κ} {value : β} {entries : List (κ × β)} (h : (entries.map Prod.fst).Nodup) :
    ((put key value entries).map Prod.fst).Nodup := by
  rw [map_fst_put]
  split
  case isTrue => exact h
  case isFalse hkey =>
    rw [List.nodup_append]
    refine ⟨h, by simp, fun k hk k' hk' heq => hkey ?_⟩
    rw [List.contains_iff_mem]
    cases List.mem_singleton.1 hk'
    exact heq ▸ hk

/-! ### Later entries replace earlier ones -/

omit [LawfulBEq κ] in
theorem lastOf_concat (entries : List (κ × β)) (key : κ) (value : β) :
    lastOf (entries ++ [(key, value)]) = put key value (lastOf entries) := by
  rw [lastOf, List.foldl_append, ← lastOf, List.foldl_cons, List.foldl_nil]

/-- Each key is left with one entry. -/
theorem nodup_lastOf (entries : List (κ × β)) : ((lastOf entries).map Prod.fst).Nodup := by
  induction entries using List.reverseRecOn with
  | nil => exact List.nodup_nil
  | append_singleton entries entry ih =>
    obtain ⟨key, value⟩ := entry
    rw [lastOf_concat]
    exact nodup_put ih

/-- Under a key the table has the last one of the entries given for it. -/
theorem lookup_lastOf (entries : List (κ × β)) (key : κ) :
    (lastOf entries).lookup key = (entries.filter fun e => key == e.1).getLast?.map Prod.snd := by
  induction entries using List.reverseRecOn with
  | nil => rfl
  | append_singleton entries entry ih =>
    obtain ⟨k, value⟩ := entry
    rw [lastOf_concat, lookup_put, List.filter_append]
    by_cases hkey : key == k
    · simp [hkey]
    · simpa [hkey] using ih

/-- No entry is made up. -/
theorem mem_of_mem_lastOf {entries : List (κ × β)} {e : κ × β} (h : e ∈ lastOf entries) : e ∈ entries := by
  obtain ⟨key, value⟩ := e
  rw [mem_iff_lookup (nodup_lastOf entries), lookup_lastOf] at h
  obtain ⟨⟨k, v⟩, hlast, rfl⟩ := Option.map_eq_some_iff.1 h
  obtain ⟨hmem, hkey⟩ := List.mem_filter.1 (List.mem_of_getLast? hlast)
  rwa [LawfulBEq.eq_of_beq hkey]

/-- Nothing is replaced among entries with different keys. -/
theorem lastOf_of_nodup {entries : List (κ × β)} (h : (entries.map Prod.fst).Nodup) : lastOf entries = entries := by
  induction entries using List.reverseRecOn with
  | nil => rfl
  | append_singleton entries entry ih =>
    obtain ⟨key, value⟩ := entry
    rw [List.map_append, List.nodup_append] at h
    have hkey : key ∉ entries.map Prod.fst := fun hmem => h.2.2 key hmem key (by simp) rfl
    rw [lastOf_concat, ih h.1, put_of_not_mem hkey]

/-- No entry is lost if and only if the keys are different. -/
theorem length_lastOf_eq_iff {entries : List (κ × β)} :
    (lastOf entries).length = entries.length ↔ (entries.map Prod.fst).Nodup := by
  refine ⟨fun h => ?_, fun h => by rw [lastOf_of_nodup h]⟩
  have hsub : (lastOf entries).map Prod.fst ⊆ entries.map Prod.fst :=
    List.map_subset Prod.fst fun _ => mem_of_mem_lastOf
  have hperm := (List.subperm_of_subset (nodup_lastOf entries) hsub).perm_of_length_le (by simp [h])
  exact hperm.nodup_iff.1 (nodup_lastOf entries)

/-- Nothing is replaced under a key that comes from one key alone. -/
theorem lookup_lastOf_map_key {f : κ → κ} {key former : κ} {entries : List (κ × β)}
    (hkeys : (entries.map Prod.fst).Nodup) (h : ∀ e ∈ entries, f e.1 = key ↔ e.1 = former) :
    (lastOf (entries.map fun e => (f e.1, e.2))).lookup key = entries.lookup former := by
  induction entries using List.reverseRecOn with
  | nil => rfl
  | append_singleton entries entry ih =>
    obtain ⟨k, value⟩ := entry
    rw [List.map_append, List.nodup_append] at hkeys
    have hbefore := ih hkeys.1 fun e he => h e (List.mem_append_left _ he)
    have hlast := h (k, value) (by simp)
    rw [List.map_append, List.map_singleton, lastOf_concat, lookup_put, hbefore, List.lookup_append]
    by_cases hk : k = former
    · subst hk
      have hnone : entries.lookup k = none := by
        rw [← Option.not_isSome_iff_eq_none, isSome_lookup_iff]
        exact fun hmem => hkeys.2.2 k hmem k (by simp) rfl
      simp [hnone, hlast.2 rfl]
    · have hkey : (key == f k) = false := beq_false_of_ne fun heq => hk (hlast.1 heq.symm)
      have hformer : (former == k) = false := beq_false_of_ne (Ne.symm hk)
      simp [hkey, hformer, List.lookup_cons]

/-- Of several items with one key the last one counts. -/
theorem mem_lastOf_map {f : α → κ} {items : List α} {key : κ} {a : α} :
    (key, a) ∈ lastOf (items.map fun a => (f a, a)) ↔ (items.filter fun a => key == f a).getLast? = some a := by
  rw [mem_iff_lookup (nodup_lastOf _), lookup_lastOf, List.filter_map, List.getLast?_map, Option.map_map]
  simp [Function.comp_def]

/-! ### Repetitions -/

theorem nodup_eraseDups : (keys : List κ) → keys.eraseDups.Nodup
  | [] => List.nodup_nil
  | key :: keys => by
    rw [List.eraseDups_cons, List.nodup_cons, List.mem_eraseDups]
    exact ⟨by simp, nodup_eraseDups _⟩
termination_by keys => keys.length
decreasing_by exact Nat.lt_succ_of_le (List.length_filter_le ..)

end WarehouseMigration.Sequence
