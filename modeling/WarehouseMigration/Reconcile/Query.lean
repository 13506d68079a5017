import WarehouseMigration.Reconcile.Table

/-!
# Columns of queries

Which columns a query on one side of a comparison names, and how it spells them.  Main definitions: the columns
replaced by a transformation, the columns that enter the hash of a row, and the groups of aggregates that share a
query.
-/

namespace WarehouseMigration.Reconcile

namespace Table

variable (t : Table)

def replaced (connector : Connector) (layer : Layer) : List (String × Value) :=
  Sequence.lastOf ((t.transformations.getD []).map fun c =>
    match layer with
    | .source => (c.column, if c.source.isSet then c.source else .text (connector.normalize c.column).source)
    | .target => (t.targetOf c.column, if c.target.isSet then c.target else .text (t.targetOf c.column)))

def columnName (connector : Connector) (column : String) : String := (connector.normalize column).source

def columnAlias (connector : Connector) (layer : Layer) (column : String) : String :=
  (connector.normalize (t.fromLayer layer column)).source

def hashed (schema : List Column) (layer : Layer) : List String :=
  let left := t.thresholdColumns layer ++ t.dropped layer
  (((t.joined layer).getD [] ++ t.selected schema layer).eraseDups.filter fun c => !left.contains c).mergeSort

def hashSequence (connector : Connector) (schema : List Column) (layer : Layer) : List String :=
  Sequence.sortedBy (t.columnAlias connector layer) (t.hashed schema layer)

def requireJoin (columns : Option (List String)) (layerName need : String) : Outcome Unit :=
  if (columns.getD []).isEmpty then
    throw (.invalidInput
      s!"Exception for {t.targetName} target table in {layerName} layer --> Join Columns are compulsory for {need}")
  else pure ()

def requireHashColumns (layerName reportType : String) : Outcome Unit :=
  if reportType = "row" then pure ()
  else t.requireJoin (t.joined (.ofName layerName)) layerName s!"{reportType} type"

def requireThresholdColumns (layerName : String) : Outcome Unit :=
  t.requireJoin (t.joined .source) layerName "threshold comparison query"

/-- Groups the aggregates that share a query: those with equal columns to group by.  The groups are sorted by these
columns, and the table is left with its aggregates in the same order. -/
def aggregateGroups : Outcome (List (String × List Aggregate) × Table) :=
  match t.aggregates with
  | some (a :: rest) =>
    let sorted := Sequence.sortedBy Aggregate.groupKey (a :: rest)
    pure (Sequence.runs Aggregate.groupKey sorted, { t with aggregates := some sorted })
  | _ => throw (.broken "Aggregates config must be defined to build the queries.")

end Table

def addsQuotes : Connector → Bool
  | .oracle | .snowflake => false
  | _ => true

end WarehouseMigration.Reconcile
