import WarehouseMigration.Proofs.Value.Reading
import WarehouseMigration.Reconcile.Capture

/-!
# The order of table thresholds

A table may have several thresholds for the number of its mismatches.  Each is met or not, but only the last one
decides (`tolerates_iff`): the thresholds are gone through, and each verdict replaces the one before.  So the verdict
does not depend on their order exactly if there is nothing to decide, or if they all agree (`tolerates_perm_iff`).
-/

namespace WarehouseMigration.Reconcile

open Outcome

namespace TableThreshold

def Configured (h : TableThreshold) : Prop := ∃ v, TableThreshold.read v = .ok h

/-- A number lies between the bounds of a threshold. -/
def Spans (h : TableThreshold) (n : Int) : Prop :=
  ∃ lower upper, boundValue h.lower = .ok lower ∧ boundValue h.upper = .ok upper ∧ lower ≤ n ∧ n ≤ upper

variable {h : TableThreshold} {n rows : Int}

/-- A threshold that can be configured is one for mismatches, with bounds in order and not negative. -/
private theorem Configured.checked (hconfigured : h.Configured) :
    h.model = "mismatch" ∧ ∃ lower upper, boundValue h.lower = .ok lower ∧ boundValue h.upper = .ok upper ∧
      0 ≤ lower ∧ lower ≤ upper := by
  obtain ⟨v, hv⟩ := hconfigured
  revert h
  change Gives _ (TableThreshold.read v)
  unfold read
  refine gives_bind fun _ => gives_bind fun model => gives_bind fun lower => ?_
  refine Gives.bind (P := fun least => boundValue lower = .ok least) (fun _ h => h) fun least hleast => ?_
  refine gives_bind fun upper => ?_
  refine Gives.bind (P := fun most => boundValue upper = .ok most) (fun _ h => h) fun most hmost => ?_
  dsimp only
  by_cases hsign : least < 0 ∨ most < 0
  · rw [if_pos (by simpa using hsign)]
    exact gives_throw _
  · rw [if_neg (by simpa using hsign)]
    by_cases horder : most < least
    · rw [if_pos horder]
      exact gives_throw _
    · rw [if_neg horder]
      by_cases hmodel : Text.lower model = "mismatch"
      · rw [if_neg (by simpa using hmodel)]
        exact gives_pure ⟨hmodel, least, most, hleast, hmost, by omega, by omega⟩
      · rw [if_pos (by simpa using hmodel)]
        exact gives_throw _

private theorem toInt?_of_boundValue {bound : String} (hbound : boundValue bound = .ok n) :
    Text.toInt? (Text.replace bound "%" "") = some n := by
  rw [boundValue, Text.toInt] at hbound
  split at hbound
  case h_1 m hm =>
    cases hbound
    exact hm
  case h_2 => cases hbound

private theorem admits_iff (hconfigured : h.Configured) (hmode : h.mode = .absolute) :
    h.admits n rows = true ↔ h.Spans n := by
  obtain ⟨-, lower, upper, hlower, hupper, -, -⟩ := hconfigured.checked
  have hadmits : h.admits n rows = (decide (lower ≤ n) && decide (n ≤ upper)) := by
    rw [admits, toInt?_of_boundValue hlower, toInt?_of_boundValue hupper, hmode]
  rw [hadmits, Bool.and_eq_true, decide_eq_true_eq, decide_eq_true_eq, Spans]
  constructor
  · intro hbetween
    exact ⟨lower, upper, hlower, hupper, hbetween⟩
  · rintro ⟨lower', upper', hlower', hupper', hbetween⟩
    cases hlower.symm.trans hlower'
    cases hupper.symm.trans hupper'
    exact hbetween

end TableThreshold

namespace Table

def withThresholds (t : Table) (thresholds : List TableThreshold) : Table :=
    { t with tableThresholds := some thresholds }

variable {t : Table} {o : DataOutput} {count : RecordCount} {thresholds : List TableThreshold}

/-- Of a loop in which each verdict replaces the one before, the last one is left. -/
private theorem foldl_verdict (admits : TableThreshold → Bool) (verdict : Bool) :
    thresholds.foldl (fun _ h => admits h) verdict = (thresholds.getLast?.map admits).getD verdict := by
  induction thresholds generalizing verdict with
  | nil => rfl
  | cons h rest ih =>
    rw [List.foldl_cons, ih, List.getLast?_cons]
    cases rest.getLast? with
    | none => rfl
    | some last => rfl

private theorem tolerates_eq (t : Table) (o : DataOutput) (count : RecordCount) :
    t.tolerates o count = if o.mismatchCount + o.thresholdMismatchCount = 0 then true else
      (((t.tableThresholds.getD []).filter fun h => h.model = "mismatch").getLast?.map fun h =>
        h.admits (o.mismatchCount + o.thresholdMismatchCount) count.source).getD false := by
  rw [← foldl_verdict]
  unfold tolerates
  by_cases hzero : o.mismatchCount + o.thresholdMismatchCount = 0
  · simp [hzero]
  · simp [hzero]

/-- The last threshold decides. -/
theorem tolerates_iff (hconfigured : ∀ h ∈ thresholds, h.Configured) (hmode : ∀ h ∈ thresholds, h.mode = .absolute) :
    (t.withThresholds thresholds).tolerates o count = true ↔ o.mismatchCount + o.thresholdMismatchCount = 0 ∨
      ∃ h, thresholds.getLast? = some h ∧ h.Spans (o.mismatchCount + o.thresholdMismatchCount) := by
  have hall : thresholds.filter (fun h => h.model = "mismatch") = thresholds := by
    rw [List.filter_eq_self]
    intro h hh
    exact decide_eq_true (hconfigured h hh).checked.1
  rw [tolerates_eq]
  simp only [withThresholds, Option.getD_some, hall]
  by_cases htotal : o.mismatchCount + o.thresholdMismatchCount = 0
  · simp [htotal]
  · rw [if_neg htotal, or_iff_right htotal]
    cases hlast : thresholds.getLast? with
    | none => simp
    | some h =>
      have hmem : h ∈ thresholds := List.mem_of_getLast? hlast
      simp only [Option.map_some, Option.getD_some, TableThreshold.admits_iff (hconfigured h hmem) (hmode h hmem),
        Option.some.injEq, exists_eq_left']

private theorem exists_perm_getLast? {h : TableThreshold} (hmem : h ∈ thresholds) :
    ∃ other : List TableThreshold, other.Perm thresholds ∧ other.getLast? = some h := by
  refine ⟨thresholds.erase h ++ [h], ?_, List.getLast?_concat⟩
  exact (List.perm_append_singleton h _).trans (List.perm_cons_erase hmem).symm

/-- If all admit the number, it only matters whether there is a last threshold. -/
private theorem exists_getLast?_spans_iff {total : Int} (hall : ∀ h ∈ thresholds, h.Spans total) :
    (∃ h, thresholds.getLast? = some h ∧ h.Spans total) ↔ thresholds.length ≠ 0 := by
  cases hlast : thresholds.getLast? with
  | none => simpa using hlast
  | some h =>
    have hmem := List.mem_of_getLast? hlast
    exact iff_of_true ⟨h, rfl, hall h hmem⟩ (Nat.ne_of_gt (List.length_pos_of_mem hmem))

/-- The verdict on a table with valid thresholds in numbers is that of the last one.  It is the same for every order of
the thresholds if and only if there are no mismatches, or all thresholds admit their number, or none does. -/
theorem tolerates_perm_iff (hconfigured : ∀ h ∈ thresholds, h.Configured)
    (hmode : ∀ h ∈ thresholds, h.mode = .absolute) :
    ((t.withThresholds thresholds).tolerates o count = true ↔ o.mismatchCount + o.thresholdMismatchCount = 0 ∨
      ∃ h, thresholds.getLast? = some h ∧ h.Spans (o.mismatchCount + o.thresholdMismatchCount)) ∧
    ((∀ other, other.Perm thresholds →
        (t.withThresholds other).tolerates o count = (t.withThresholds thresholds).tolerates o count) ↔
      o.mismatchCount + o.thresholdMismatchCount = 0 ∨
      (∀ h ∈ thresholds, h.Spans (o.mismatchCount + o.thresholdMismatchCount)) ∨
      ∀ h ∈ thresholds, ¬ h.Spans (o.mismatchCount + o.thresholdMismatchCount)) := by
  generalize htotal : o.mismatchCount + o.thresholdMismatchCount = total
  have hverdict : ∀ other : List TableThreshold, other.Perm thresholds →
      ((t.withThresholds other).tolerates o count = true ↔ total = 0 ∨
        ∃ h, other.getLast? = some h ∧ h.Spans total) := by
    intro other hperm
    rw [← htotal]
    exact tolerates_iff (fun h hh => hconfigured h (hperm.mem_iff.1 hh)) fun h hh => hmode h (hperm.mem_iff.1 hh)
  refine ⟨hverdict thresholds .rfl, ?_⟩
  constructor
  · intro hsame
    by_cases hzero : total = 0
    · exact .inl hzero
    · refine .inr ?_
      -- the verdict of each threshold is the verdict on the order in which it stands last
      have hdecides : ∀ h ∈ thresholds, h.Spans total ↔ (t.withThresholds thresholds).tolerates o count = true := by
        intro h hh
        obtain ⟨other, hperm, hlast⟩ := exists_perm_getLast? hh
        rw [← hsame other hperm, hverdict other hperm, or_iff_right hzero, hlast]
        simp
      by_cases hyes : (t.withThresholds thresholds).tolerates o count = true
      · exact .inl fun h hh => (hdecides h hh).2 hyes
      · exact .inr fun h hh hspans => hyes ((hdecides h hh).1 hspans)
  · intro hagree other hperm
    rw [Bool.eq_iff_iff, hverdict other hperm, hverdict thresholds .rfl]
    rcases hagree with hzero | hall | hnone
    · simp [hzero]
    · have hother : ∀ h ∈ other, h.Spans total := fun h hh => hall h (hperm.mem_iff.1 hh)
      rw [exists_getLast?_spans_iff hother, exists_getLast?_spans_iff hall, hperm.length_eq]
    · refine or_congr_right (iff_of_false ?_ ?_)
      · rintro ⟨h, hlast, hspans⟩
        exact hnone h (hperm.mem_iff.1 (List.mem_of_getLast? hlast)) hspans
      · rintro ⟨h, hlast, hspans⟩
        exact hnone h (List.mem_of_getLast? hlast) hspans

def upToTen : TableThreshold := ⟨"0", "10", "mismatch"⟩

def upToFive : TableThreshold := ⟨"0", "5", "mismatch"⟩

def plainTable : Table := { sourceName := "a", targetName := "b" }

private theorem configured_upTo : ∀ h ∈ [upToTen, upToFive], h.Configured := by
  have hten : upToTen.Configured := ⟨toValue upToTen, rfl⟩
  have hfive : upToFive.Configured := ⟨toValue upToFive, rfl⟩
  simp [hten, hfive]

private theorem mode_upTo : ∀ h ∈ [upToTen, upToFive], h.mode = .absolute := by
  simp only [List.mem_cons, List.not_mem_nil, or_false, forall_eq_or_imp, forall_eq]
  decide

/-- Three mismatches are admitted by both thresholds, in either order. -/
theorem tolerates_perm_three :
    (∀ h ∈ [upToTen, upToFive], h.Configured) ∧ (∀ h ∈ [upToTen, upToFive], h.mode = .absolute) ∧
    ∀ other : List TableThreshold, other.Perm [upToTen, upToFive] →
      (plainTable.withThresholds other).tolerates { mismatchCount := 2, thresholdMismatchCount := 1 } {} = true := by
  refine ⟨configured_upTo, mode_upTo, fun other hperm => ?_⟩
  obtain ⟨hverdict, horder⟩ := @tolerates_perm_iff plainTable { mismatchCount := 2, thresholdMismatchCount := 1 } {} _
    configured_upTo mode_upTo
  have hten : upToTen.Spans 3 := ⟨0, 10, rfl, rfl, by decide, by decide⟩
  have hfive : upToFive.Spans 3 := ⟨0, 5, rfl, rfl, by decide, by decide⟩
  rw [horder.2 (.inr (.inl (by simpa using ⟨hten, hfive⟩))) other hperm]
  exact hverdict.2 (.inr ⟨upToFive, rfl, hfive⟩)

/-- Seven mismatches are admitted by the first threshold alone: the verdict changes with the order. -/
theorem tolerates_order_matters :
    (∀ h ∈ [upToTen, upToFive], h.Configured) ∧ (∀ h ∈ [upToTen, upToFive], h.mode = .absolute) ∧
    [upToFive, upToTen].Perm [upToTen, upToFive] ∧
    (plainTable.withThresholds [upToTen, upToFive]).tolerates { mismatchCount := 7 } {} = false ∧
    (plainTable.withThresholds [upToFive, upToTen]).tolerates { mismatchCount := 7 } {} = true :=
  ⟨configured_upTo, mode_upTo, .swap .., by decide, by decide⟩

end Table

end WarehouseMigration.Reconcile
