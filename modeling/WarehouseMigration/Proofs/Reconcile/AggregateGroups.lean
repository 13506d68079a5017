import WarehouseMigration.Proofs.Sequence.Sorted
import WarehouseMigration.Reconcile.Query

/-!
# The groups of aggregates on both sides

Aggregates with equal columns to group by share a query, and the queries of both sides are paired by position.  Making
the groups of one side sorts the aggregates of the table, so the groups of the other side are made from a list in
another order.  Still they are the same groups (`aggregateGroups_agree`): the list is sorted by then, and sorting again
changes nothing.
-/

namespace WarehouseMigration.Reconcile

open Sequence (sortedBy runs sortedBy_perm sortedBy_pairwise)

/-- The groups of aggregates by key: the keys increase, each group holds the aggregates of its key in the order in which
they were configured, and together the groups hold all of them. -/
structure Aggregate.GroupedAs (aggregates : List Aggregate) (groups : List (String × List Aggregate)) : Prop where
  increasing : (groups.map Prod.fst).Pairwise (· < ·)
  inhabited : ∀ g ∈ groups, g.2 ≠ []
  ofKey : ∀ g ∈ groups, ∀ a ∈ g.2, a.groupKey = g.1
  configured : ∀ g ∈ groups, g.2 = aggregates.filter fun a => a.groupKey = g.1
  complete : (groups.flatMap Prod.snd).Perm aggregates

private theorem Aggregate.groupedAs_runs (aggregates : List Aggregate) :
    GroupedAs aggregates (runs groupKey (sortedBy groupKey aggregates)) where
  increasing := Sequence.pairwise_keys_runs (sortedBy_pairwise _ _)
  inhabited := fun _ hg => (Sequence.of_mem_runs hg).1
  ofKey := fun _ hg => (Sequence.of_mem_runs hg).2
  configured := by
    intro g hg
    rw [Sequence.run_eq_filter (sortedBy_pairwise _ _) hg, Sequence.filter_sortedBy]
  complete := by
    rw [Sequence.flatMap_runs]
    exact sortedBy_perm _ _

namespace Table

variable {t : Table} {aggregates : List Aggregate}

private theorem aggregateGroups_eq (h : t.aggregates = some aggregates) (hne : aggregates ≠ []) :
    t.aggregateGroups = .ok (runs Aggregate.groupKey (sortedBy Aggregate.groupKey aggregates),
      { t with aggregates := some (sortedBy Aggregate.groupKey aggregates) }) := by
  obtain ⟨a, rest, rfl⟩ := List.exists_cons_of_ne_nil hne
  rw [aggregateGroups, h]
  rfl

/-- Both sides of a table have the same groups of aggregates, though those of the second side are made from the table as
the first one left it. -/
theorem aggregateGroups_agree (h : t.aggregates = some aggregates) (hne : aggregates ≠ []) :
    ∃ groups left, t.aggregateGroups = .ok (groups, left) ∧ left.aggregateGroups = .ok (groups, left) ∧
      left = { t with aggregates := some (groups.flatMap Prod.snd) } ∧ Aggregate.GroupedAs aggregates groups := by
  let sorted := sortedBy Aggregate.groupKey aggregates
  have hsorted : sortedBy Aggregate.groupKey sorted = sorted :=
    Sequence.sortedBy_of_pairwise (sortedBy_pairwise _ _)
  have hnil : sorted ≠ [] := by
    intro hnil
    have hperm : sorted.Perm aggregates := sortedBy_perm _ _
    rw [hnil] at hperm
    exact hne hperm.nil_eq.symm
  have hleft : ({ t with aggregates := some sorted } : Table).aggregateGroups =
      .ok (runs Aggregate.groupKey sorted, { t with aggregates := some sorted }) := by
    rw [aggregateGroups_eq rfl hnil, hsorted]
  refine ⟨_, _, aggregateGroups_eq h hne, hleft, ?_, Aggregate.groupedAs_runs aggregates⟩
  rw [Sequence.flatMap_runs]

def mixedAggregates : List Aggregate :=
  [⟨["price"], "max", some ["region"]⟩, ⟨["price"], "avg", none⟩, ⟨["price", "tax"], "sum", some ["country", "region"]⟩,
    ⟨["tax"], "count", none⟩, ⟨["tax"], "min", some ["region"]⟩]

theorem aggregateGroups_agree_mixed :
    mixedAggregates ≠ [] ∧
    ∃ groups left, aggregateGroups { sourceName := "a", targetName := "b", aggregates := some mixedAggregates } =
        .ok (groups, left) ∧ left.aggregateGroups = .ok (groups, left) ∧
      left = { sourceName := "a", targetName := "b", aggregates := some (groups.flatMap Prod.snd) } ∧
      Aggregate.GroupedAs mixedAggregates groups :=
  ⟨by decide, aggregateGroups_agree rfl (by decide)⟩

end Table

end WarehouseMigration.Reconcile
