import Mathlib.Data.String.Basic
import Mathlib.Data.List.Pairwise
import WarehouseMigration.Proofs.Sequence.Runs

/-!
# Sorting and grouping by keys

Facts about `sortedBy` and `runs`.  Sorting keeps the order of items with equal keys (`filter_sortedBy`) and changes
nothing in a sorted list (`sortedBy_of_pairwise`).  In a sorted list there is one run for each key, in increasing order
(`pairwise_keys_runs`), which holds all items of that key (`run_eq_filter`).
-/

namespace WarehouseMigration.Sequence

variable {α : Type} {f : α → String} {xs : List α}

/-! ### Sorted lists -/

theorem sortedBy_perm (f : α → String) (xs : List α) : (sortedBy f xs).Perm xs := List.mergeSort_perm _ _

private theorem le_trans_key (f : α → String) (a b c : α) :
    decide (f a ≤ f b) = true → decide (f b ≤ f c) = true → decide (f a ≤ f c) = true := by
  simp only [decide_eq_true_eq]
  exact le_trans

private theorem le_total_key (f : α → String) (a b : α) : (decide (f a ≤ f b) || decide (f b ≤ f a)) = true := by
  simpa using le_total (f a) (f b)

theorem sortedBy_pairwise (f : α → String) (xs : List α) : (sortedBy f xs).Pairwise fun a b => f a ≤ f b :=
  (List.pairwise_mergeSort (le_trans_key f) (le_total_key f) xs).imp (by simp)

theorem sortedBy_of_pairwise (h : xs.Pairwise fun a b => f a ≤ f b) : sortedBy f xs = xs :=
  List.mergeSort_of_pairwise (h.imp (by simp))

/-- Items with equal keys keep their order. -/
theorem filter_sortedBy (f : α → String) (xs : List α) (k : String) :
    (sortedBy f xs).filter (fun a => f a = k) = xs.filter (fun a => f a = k) := by
  have hequal : (xs.filter fun a => f a = k).Pairwise fun a b => decide (f a ≤ f b) = true := by
    rw [List.pairwise_iff_forall_sublist]
    intro a b hab
    have ha : f a = k := by simpa using List.of_mem_filter (hab.subset (by simp : a ∈ [a, b]))
    have hb : f b = k := by simpa using List.of_mem_filter (hab.subset (by simp : b ∈ [a, b]))
    simp [ha, hb]
  have hsub : (xs.filter fun a => f a = k).Sublist (sortedBy f xs) :=
    List.sublist_mergeSort (le_trans_key f) (le_total_key f) hequal List.filter_sublist
  -- all items of the key are there, so the sublist of them is the whole of them
  have hfilter := hsub.filter (fun a => f a = k)
  rw [List.filter_filter] at hfilter
  simp only [Bool.and_self] at hfilter
  exact (hfilter.eq_of_length ((sortedBy_perm f xs).filter _).length_eq.symm).symm

/-! ### Runs -/

variable {g : String × List α}

/-- The keys of the runs of a sorted list are strictly increasing. -/
theorem pairwise_keys_runs (h : xs.Pairwise fun a b => f a ≤ f b) : ((runs f xs).map Prod.fst).Pairwise (· < ·) := by
  induction xs with
  | nil => exact List.Pairwise.nil
  | cons a xs ih =>
    obtain ⟨hfirst, hrest⟩ := List.pairwise_cons.1 h
    have hkeys := ih hrest
    rw [runs]
    split
    case h_1 k group groups hruns =>
      rw [hruns, List.map_cons] at hkeys
      split
      case isTrue => exact hkeys
      case isFalse hne =>
        -- the key of the first run is not smaller than that of `a`, and it is another one
        have hmem : (k, group) ∈ runs f xs := hruns ▸ List.mem_cons_self
        obtain ⟨b, hb, hbk⟩ := exists_of_mem_runs hmem
        have hle : f a ≤ k := (hfirst b hb).trans_eq hbk
        have hlt : f a < k := lt_of_le_of_ne hle (by simpa using hne)
        rw [List.map_cons, List.map_cons, List.pairwise_cons]
        refine ⟨?_, hkeys⟩
        intro k' hk'
        rcases List.mem_cons.1 hk' with rfl | hk'
        · exact hlt
        · exact hlt.trans ((List.pairwise_cons.1 hkeys).1 k' hk')
    case h_2 => simp

/-- Of groups with different keys, the items of one key are those of its group. -/
private theorem filter_flatMap_groups {groups : List (String × List α)} (hkeys : (groups.map Prod.fst).Pairwise (· < ·))
    (hmem : ∀ g ∈ groups, ∀ a ∈ g.2, f a = g.1) (hg : g ∈ groups) :
    (groups.flatMap Prod.snd).filter (fun a => f a = g.1) = g.2 := by
  induction groups with
  | nil => cases hg
  | cons first groups ih =>
    rw [List.map_cons, List.pairwise_cons] at hkeys
    have hmem' : ∀ g ∈ groups, ∀ a ∈ g.2, f a = g.1 := fun g hg => hmem g (List.mem_cons_of_mem _ hg)
    rw [List.flatMap_cons, List.filter_append]
    rcases List.mem_cons.1 hg with rfl | hg
    · have hself : g.2.filter (fun a => f a = g.1) = g.2 :=
        List.filter_eq_self.2 fun a ha => decide_eq_true (hmem g List.mem_cons_self a ha)
      have hothers : (groups.flatMap Prod.snd).filter (fun a => f a = g.1) = [] := by
        rw [List.filter_eq_nil_iff]
        intro a ha
        obtain ⟨g', hg', ha'⟩ := List.mem_flatMap.1 ha
        have hlt := hkeys.1 g'.1 (List.mem_map_of_mem hg')
        rw [hmem' g' hg' a ha']
        simpa using hlt.ne'
      rw [hself, hothers, List.append_nil]
    · have hfirst : first.2.filter (fun a => f a = g.1) = [] := by
        rw [List.filter_eq_nil_iff]
        intro a ha
        rw [hmem first List.mem_cons_self a ha]
        simpa using (hkeys.1 g.1 (List.mem_map_of_mem hg)).ne
      rw [hfirst, List.nil_append, ih hkeys.2 hmem' hg]

/-- A run of a sorted list holds all items of its key. -/
theorem run_eq_filter (h : xs.Pairwise fun a b => f a ≤ f b) (hg : g ∈ runs f xs) :
    g.2 = xs.filter (fun a => f a = g.1) := by
  have hfilter := filter_flatMap_groups (f := f) (pairwise_keys_runs h) (fun _ hg => (of_mem_runs hg).2) hg
  rw [flatMap_runs] at hfilter
  exact hfilter.symm

end WarehouseMigration.Sequence
