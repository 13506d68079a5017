import Mathlib.Data.List.Chain
import WarehouseMigration.Proofs.Sequence.Keyed

/-!
# Runs of equal keys

The runs of a list are its items again, cut into groups of one key (`flatMap_runs`, `of_mem_runs`) such that neighbours
have different keys (`isChain_runs`).  A table made of the runs keeps for each key the last one (`lastRun_of_lookup`).
It holds all items of the key that have some property if and only if no other key comes between such an item and a later
one of the key (`LastRun.filter_eq_iff`).
-/

namespace WarehouseMigration.Sequence

variable {α κ : Type} {key : α → κ} {k : κ} {xs ys : List α}

/-! ### The last run of a key -/

/-- The last run of a key: there are items of the key only in it, none comes after it, and the item in front of it is of
another key. -/
structure LastRun (key : α → κ) (k : κ) (xs ys before after : List α) : Prop where
  split : xs = before ++ ys ++ after
  inhabited : ys ≠ []
  ofKey : ∀ y ∈ ys, key y = k
  last : ∀ x ∈ after, key x ≠ k
  front : ∀ x, before.getLast? = some x → key x ≠ k

namespace LastRun

variable {before after : List α} {p : α → Bool}

theorem sublist (h : LastRun key k xs ys before after) : ys.Sublist xs := by
  rw [h.split, List.append_assoc]
  exact (List.sublist_append_left _ _).trans (List.sublist_append_right _ _)

theorem filter_eq_self [DecidableEq κ] (h : LastRun key k xs ys before after) :
    ys.filter (fun y => decide (key y = k)) = ys :=
  List.filter_eq_self.2 fun y hy => decide_eq_true (h.ofKey y hy)

private theorem filter_eq_iff_before (h : LastRun key k xs ys before after) (hp : ∀ x, p x = true → key x = k) :
    ys.filter p = xs.filter p ↔ ∀ x ∈ before, ¬ p x = true := by
  have hafter : after.filter p = [] := List.filter_eq_nil_iff.2 fun x hx hpx => h.last x hx (hp x hpx)
  rw [h.split, List.filter_append, List.filter_append, hafter, List.append_nil, List.self_eq_append_left,
    List.filter_eq_nil_iff]

/-- If the last run has all items with some property, then what comes between such an item and a later one of the key is
in the run. -/
theorem sublist_of_filter_eq (h : LastRun key k xs ys before after) (hp : ∀ x, p x = true → key x = k)
    (hall : ys.filter p = xs.filter p) {a b c : α} (hsub : [a, b, c].Sublist xs) (ha : p a = true) (hc : key c = k) :
    [a, b, c].Sublist ys := by
  rw [h.split, List.append_assoc] at hsub
  obtain ⟨l₁, l₂, hl, h₁, h₂⟩ := List.sublist_append_iff.1 hsub
  cases l₁ with
  | cons x l₁ =>
    -- the first item would be before the run
    obtain ⟨rfl, -⟩ := List.cons.inj hl
    exact absurd ha ((h.filter_eq_iff_before hp).1 hall a (h₁.subset List.mem_cons_self))
  | nil =>
    obtain rfl : [a, b, c] = l₂ := hl
    obtain ⟨l₁, l₂, hl, h₁, h₂⟩ := List.sublist_append_iff.1 h₂
    rcases List.eq_nil_or_concat l₂ with rfl | ⟨l, x, rfl⟩
    · rw [hl, List.append_nil]
      exact h₁
    · -- the last item would be behind the run
      rw [List.concat_eq_append, ← List.append_assoc] at hl
      have hlast : [a, b] ++ [c] = l₁ ++ l ++ [x] := hl
      obtain ⟨-, hx⟩ := List.append_inj' hlast rfl
      obtain rfl : c = x := by simpa using hx
      exact absurd hc (h.last c (h₂.subset (by simp)))

/-- The last run has all items of the key with some property if and only if no other key comes between such an item and
a later item of the key. -/
theorem filter_eq_iff (h : LastRun key k xs ys before after) (hp : ∀ x, p x = true → key x = k) :
    ys.filter p = xs.filter p ↔ ∀ a b c, [a, b, c].Sublist xs → p a = true → key c = k → key b = k := by
  constructor
  · intro hall a b c hsub ha hc
    exact h.ofKey b ((h.sublist_of_filter_eq hp hall hsub ha hc).subset (by simp))
  · intro hbetween
    refine (h.filter_eq_iff_before hp).2 fun x hx hpx => ?_
    -- the item in front of the run would come between
    rcases List.eq_nil_or_concat before with hnil | ⟨former, b, hconcat⟩
    · simp [hnil] at hx
    · rw [List.concat_eq_append] at hconcat
      obtain ⟨c, more, hys⟩ := List.exists_cons_of_ne_nil h.inhabited
      have hb : key b ≠ k := h.front b (by simp [hconcat])
      have hxb : x ≠ b := fun e => hb (e ▸ hp x hpx)
      have hxf : x ∈ former := by simpa [hconcat, hxb] using hx
      refine hb (hbetween x b c ?_ hpx (h.ofKey c (by simp [hys])))
      rw [h.split, hconcat, hys]
      have hsub : ([x] ++ [b] ++ [c]).Sublist (former ++ [b] ++ (c :: more)) :=
        ((List.singleton_sublist.2 hxf).append (.refl _)).append (List.singleton_sublist.2 List.mem_cons_self)
      exact hsub.trans (List.sublist_append_left _ _)

end LastRun

/-! ### Cutting into runs -/

section Table

variable [BEq κ] {g : κ × List α}

/-- The runs hold the items of the list, in its order. -/
theorem flatMap_runs (key : α → κ) (xs : List α) : (runs key xs).flatMap Prod.snd = xs := by
  induction xs with
  | nil => rfl
  | cons a xs ih =>
    rw [runs]
    split
    case h_1 k group groups h =>
      rw [h, List.flatMap_cons] at ih
      split <;> simp [ih]
    case h_2 h =>
      rw [h, List.flatMap_nil] at ih
      simp [← ih]

variable [LawfulBEq κ]

/-- A run holds at least one item, and items of its key only. -/
theorem of_mem_runs (h : g ∈ runs key xs) : g.2 ≠ [] ∧ ∀ a ∈ g.2, key a = g.1 := by
  induction xs generalizing g with
  | nil => cases h
  | cons b xs ih =>
    rw [runs] at h
    split at h
    case h_1 k group groups hruns =>
      rw [hruns] at ih
      split at h
      case isTrue hk =>
        rcases List.mem_cons.1 h with rfl | h
        · refine ⟨by simp, ?_⟩
          intro a ha
          rcases List.mem_cons.1 ha with rfl | ha
          · exact eq_of_beq hk
          · exact (ih List.mem_cons_self).2 a ha
        · exact ih (List.mem_cons_of_mem _ h)
      case isFalse =>
        rcases List.mem_cons.1 h with rfl | h
        · simp
        · exact ih h
    case h_2 => simp [List.mem_singleton.1 h]

theorem exists_of_mem_runs (h : g ∈ runs key xs) : ∃ a ∈ xs, key a = g.1 := by
  obtain ⟨hne, hkey⟩ := of_mem_runs h
  obtain ⟨a, ha⟩ := List.exists_mem_of_ne_nil _ hne
  refine ⟨a, ?_, hkey a ha⟩
  rw [← flatMap_runs key xs, List.mem_flatMap]
  exact ⟨g, h, ha⟩

/-- Neighbouring runs have different keys. -/
theorem isChain_runs (key : α → κ) (xs : List α) : (runs key xs).IsChain fun g h => g.1 ≠ h.1 := by
  induction xs with
  | nil => exact .nil
  | cons a xs ih =>
    rw [runs]
    split
    case h_1 k group groups hruns =>
      rw [hruns] at ih
      split
      case isTrue =>
        cases groups with
        | nil => exact .singleton _
        | cons g groups =>
          rw [List.isChain_cons_cons] at ih ⊢
          exact ih
      case isFalse hne => exact .cons_cons (by simpa using hne) ih
    case h_2 => exact .singleton _

/-! ### The table of last runs -/

/-- What is kept for a key is its last run. -/
theorem lastRun_of_lookup (h : (lastOf (runs key xs)).lookup k = some ys) :
    ∃ before after, LastRun key k xs ys before after := by
  rw [lookup_lastOf, Option.map_eq_some_iff] at h
  obtain ⟨⟨k', ys'⟩, hlast, rfl⟩ := h
  obtain ⟨earlier, hfilter⟩ := List.getLast?_eq_some_iff.1 hlast
  -- the runs of the list around the last one of the key
  obtain ⟨first, others, hruns, -, hothers⟩ := List.filter_eq_append_iff.1 hfilter
  obtain ⟨second, later, rfl, -, hk, hlater⟩ := List.filter_eq_cons_iff.1 hothers
  obtain rfl : k = k' := eq_of_beq hk
  rw [← List.append_assoc] at hruns
  generalize first ++ second = former at hruns
  have hmem : ∀ g, g ∈ former ∨ g = (k, ys') ∨ g ∈ later → g ∈ runs key xs := by simp [hruns]
  refine ⟨former.flatMap Prod.snd, later.flatMap Prod.snd, ?_, ?_, ?_, ?_, ?_⟩
  · rw [← flatMap_runs key xs, hruns]
    simp
  · exact (of_mem_runs (hmem _ (.inr (.inl rfl)))).1
  · exact (of_mem_runs (hmem _ (.inr (.inl rfl)))).2
  · intro x hx hkey
    obtain ⟨g, hg, hxg⟩ := List.mem_flatMap.1 hx
    have hgk : key x = g.1 := (of_mem_runs (hmem _ (.inr (.inr hg)))).2 x hxg
    exact List.filter_eq_nil_iff.1 hlater g hg (by simp [← hgk, hkey])
  · intro x hx hkey
    -- the item in front is in the run in front
    rcases List.eq_nil_or_concat former with rfl | ⟨former, g, rfl⟩
    · simp at hx
    · obtain ⟨hg, hgk⟩ := of_mem_runs (hmem g (.inl (by simp)))
      rw [List.concat_eq_append, List.flatMap_append, List.flatMap_singleton, List.getLast?_append_of_ne_nil _ hg] at hx
      have hne : g.1 ≠ k := by
        have hchain := isChain_runs key xs
        rw [hruns, List.concat_eq_append, List.append_assoc, List.isChain_append] at hchain
        exact (List.isChain_cons_cons.1 hchain.2.1).1
      exact hne ((hgk x (List.mem_of_getLast? hx)).symm.trans hkey)

/-- Every key that occurs is kept. -/
theorem exists_lookup_runs (h : ∃ x ∈ xs, key x = k) : ∃ ys, (lastOf (runs key xs)).lookup k = some ys := by
  obtain ⟨x, hx, rfl⟩ := h
  rw [← flatMap_runs key xs, List.mem_flatMap] at hx
  obtain ⟨g, hg, hxg⟩ := hx
  have hkey : key x = g.1 := (of_mem_runs hg).2 x hxg
  rw [lookup_lastOf]
  have hmem : g ∈ (runs key xs).filter fun e => key x == e.1 := List.mem_filter.2 ⟨hg, by simp [hkey]⟩
  obtain ⟨last, hlast⟩ := Option.isSome_iff_exists.1 (List.getLast?_isSome.2 (List.ne_nil_of_mem hmem))
  exact ⟨last.2, by rw [hlast]; rfl⟩

end Table

end WarehouseMigration.Sequence
