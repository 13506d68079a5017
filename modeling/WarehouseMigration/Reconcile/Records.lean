import WarehouseMigration.Reconcile.Table

/-!
# Records of table configurations

A table configuration refers to records, and a copy of it refers to the same ones.  So each record has a place among
all records that were made: a copy is a new record at a new place, and an assignment to a field changes the record at
one place.  Normalisation copies a configuration and then assigns to the fields of the copy, one after the other.
-/

namespace WarehouseMigration.Reconcile

/-- A table configuration as it is kept: the records in its fields are known by their places. -/
structure TableRecord where
  sourceName : String
  targetName : String
  sampling : Option Nat
  aggregates : Option (List Nat)
  joinColumns : Option (List String)
  reader : Option Nat
  selectColumns : Option (List String)
  dropColumns : Option (List String)
  columnMapping : Option (List Nat)
  transformations : Option (List Nat)
  columnThresholds : Option (List Nat)
  filters : Option Filters
  tableThresholds : Option (List TableThreshold)

def TableRecord.lowered (t : TableRecord) : TableRecord :=
  { t with
    sourceName := Text.lower t.sourceName
    targetName := Text.lower t.targetName
    joinColumns := Table.mapItems Text.lower t.joinColumns
    selectColumns := Table.mapItems Text.lower t.selectColumns
    dropColumns := Table.mapItems Text.lower t.dropColumns }

inductive Record where
  | table (t : TableRecord)
  | sampling (o : SamplingOptions)
  | aggregate (a : Aggregate)
  | reader (o : ReaderOptions)
  | mapping (m : ColumnMapping)
  | transformation (c : Transformation)
  | threshold (c : ColumnThreshold)

structure Record.Kind (α : Type) where
  wrap : α → Record
  unwrap? : Record → Option α
  unwrap?_wrap : ∀ a, unwrap? (wrap a) = some a

namespace Record.Kind

def table : Kind TableRecord := ⟨.table, fun | .table t => some t | _ => none, fun _ => rfl⟩

def sampling : Kind SamplingOptions := ⟨.sampling, fun | .sampling o => some o | _ => none, fun _ => rfl⟩

def aggregate : Kind Aggregate := ⟨.aggregate, fun | .aggregate a => some a | _ => none, fun _ => rfl⟩

def reader : Kind ReaderOptions := ⟨.reader, fun | .reader o => some o | _ => none, fun _ => rfl⟩

def mapping : Kind ColumnMapping := ⟨.mapping, fun | .mapping m => some m | _ => none, fun _ => rfl⟩

def transformation : Kind Transformation :=
  ⟨.transformation, fun | .transformation c => some c | _ => none, fun _ => rfl⟩

def threshold : Kind ColumnThreshold := ⟨.threshold, fun | .threshold c => some c | _ => none, fun _ => rfl⟩

end Record.Kind

/-- All records that were made, each at its place. -/
abbrev RecordStore := List Record

namespace RecordStore

def find? (rs : RecordStore) (kind : Record.Kind α) (place : Nat) : Option α := rs[place]?.bind kind.unwrap?

/-- A configuration with the records that it refers to. -/
def view (rs : RecordStore) (t : TableRecord) : Option Table := do
  let sampling ← t.sampling.mapM (rs.find? .sampling)
  let aggregates ← t.aggregates.mapM (·.mapM (rs.find? .aggregate))
  let reader ← t.reader.mapM (rs.find? .reader)
  let mapping ← t.columnMapping.mapM (·.mapM (rs.find? .mapping))
  let transformations ← t.transformations.mapM (·.mapM (rs.find? .transformation))
  let thresholds ← t.columnThresholds.mapM (·.mapM (rs.find? .threshold))
  return ⟨t.sourceName, t.targetName, sampling, aggregates, t.joinColumns, reader, t.selectColumns, t.dropColumns,
    mapping, transformations, thresholds, t.filters, t.tableThresholds⟩

def table? (rs : RecordStore) (place : Nat) : Option Table := (rs.find? .table place).bind rs.view

end RecordStore

/-- What is done with records. -/
abbrev Copying := StateT RecordStore Outcome

namespace Copying

def find (kind : Record.Kind α) (place : Nat) : Copying α := do
  match (← get).find? kind place with
  | some a => return a
  | none => throw (.wrongKind "not such a record")

variable (kind : Record.Kind α)

def make (a : α) : Copying Nat := fun rs => .ok (rs.length, rs ++ [kind.wrap a])

def assign (place : Nat) (a : α) : Copying Unit := modify (·.set place (kind.wrap a))

/-- A new record out of an old one. -/
def remake (made : α → Outcome α) (place : Nat) : Copying Nat := do
  make kind (← made (← find kind place))

/-- A copy, which is changed; the change may depend on the old record, too. -/
def revise (made : α → Outcome α) (change : α → α → α) (place : Nat) : Copying Nat := do
  let copy ← remake kind made place
  assign kind copy (change (← find kind place) (← find kind copy))
  return copy

def each (act : Nat → Copying Nat) : Option (List Nat) → Copying (Option (List Nat))
  | some (place :: rest) => some <$> (place :: rest).mapM act
  | _ => return none

def onTable (place : Nat) (change : TableRecord → Copying TableRecord) : Copying Unit := do
  assign .table place (← change (← find .table place))

/-- A table configuration, with all its records, becomes a record. -/
def put (t : Table) : Copying Nat := do
  let sampling ← t.sampling.mapM (make .sampling)
  let aggregates ← t.aggregates.mapM (·.mapM (make .aggregate))
  let reader ← t.reader.mapM (make .reader)
  let mapping ← t.columnMapping.mapM (·.mapM (make .mapping))
  let transformations ← t.transformations.mapM (·.mapM (make .transformation))
  let thresholds ← t.columnThresholds.mapM (·.mapM (make .threshold))
  make .table ⟨t.sourceName, t.targetName, sampling, aggregates, t.joinColumns, reader, t.selectColumns, t.dropColumns,
    mapping, transformations, thresholds, t.filters, t.tableThresholds⟩

/-! ### Normalisation -/

section

variable (source target : String → String)

variable (t : TableRecord)

def normalizeSampling : Copying TableRecord := do
  return { t with sampling := ← t.sampling.mapM (revise .sampling SamplingOptions.made fun _ o =>
    { o with columns := Table.mapItems source o.columns }) }

def normalizeAggregates : Copying TableRecord := do
  return { t with aggregates := ← each (revise .aggregate Aggregate.made fun _ a =>
    { a with columns := a.columns.map source, groupBy := Table.mapItems source a.groupBy }) t.aggregates }

def normalizeMapping : Copying TableRecord := do
  return { t with columnMapping := ← each (remake .mapping fun m =>
    pure (ColumnMapping.lowered ⟨source m.source, target m.target⟩)) t.columnMapping }

def normalizeTransformations : Copying TableRecord := do
  return { t with transformations := ← each (revise .transformation (pure ·.lowered) fun old c =>
    { c with column := source old.column }) t.transformations }

def normalizeThresholds : Copying TableRecord := do
  return { t with columnThresholds := ← each (revise .threshold (pure ·.lowered) fun old c =>
    { c with column := source old.column }) t.columnThresholds }

def normalizeReader : Copying TableRecord := do
  return { t with reader := ← t.reader.mapM (revise .reader (pure ·.lowered) fun _ o =>
    { o with partitionColumn := o.partitionColumn.map source }) }

/-- The fields of a copy are assigned to, one after the other. -/
def normalizeFields (copy : Nat) : Copying Unit := do
  onTable copy (normalizeSampling source)
  onTable copy (normalizeAggregates source)
  onTable copy fun t => return { t with joinColumns := Table.mapItems source t.joinColumns }
  onTable copy fun t => return { t with selectColumns := Table.mapItems source t.selectColumns }
  onTable copy fun t => return { t with dropColumns := Table.mapItems source t.dropColumns }
  onTable copy (normalizeMapping source target)
  onTable copy (normalizeTransformations source)
  onTable copy (normalizeThresholds source)
  onTable copy (normalizeReader source)

def normalizeBy (place : Nat) : Copying Nat := do
  let copy ← remake .table (pure ·.lowered) place
  normalizeFields source target copy
  return copy

end

/-- Normalises the configuration at a place; the place of the result is given. -/
def normalize (source target : Connector) (place : Nat) : Copying Nat :=
  normalizeBy (fun name => (source.normalize name).ansi) (fun name => (target.normalize name).ansi) place

end Copying

end WarehouseMigration.Reconcile
