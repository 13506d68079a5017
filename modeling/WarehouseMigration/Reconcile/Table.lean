import WarehouseMigration.Connector.Basic
import WarehouseMigration.Reconcile.Aggregate
import WarehouseMigration.Reconcile.Sampling
import WarehouseMigration.Reconcile.Threshold
import WarehouseMigration.Sequence

/-!
# Table configurations

How one source table is compared with its target: by which columns the rows are joined, which columns take part,
how they are named on the other side, and what is tolerated.  Names are kept in lower case: a record is `lowered` when
it is read, and again when a changed copy of it is made.
-/

namespace WarehouseMigration.Reconcile

inductive Layer where
  | source
  | target
deriving DecidableEq

namespace Layer

def name : Layer → String
  | source => "source"
  | target => "target"

def ofName (s : String) : Layer := if s = "source" then source else target

end Layer

/-- How a table is read over a database connection. -/
structure ReaderOptions where
  partitions : Value := .null
  partitionColumn : Option String := none
  lower : Value := .null
  upper : Value := .null
  fetchSize : Value := .int 100

namespace ReaderOptions

def lowered (o : ReaderOptions) : ReaderOptions :=
  { o with partitionColumn := (o.partitionColumn.filter (· ≠ "")).map Text.lower }

def read (v : Value) : Outcome ReaderOptions := do
  let f ← Fields.ofValue []
    ["number_partitions", "partition_column", "lower_bound", "upper_bound", "fetch_size"] v
  let column ← (f.get "partition_column").asText?
  return lowered ⟨f.get "number_partitions", column, f.get "lower_bound", f.get "upper_bound",
    (f.get? "fetch_size").getD (.int 100)⟩

def forReader (o : ReaderOptions) : List (String × Value) :=
  [("numPartitions", o.partitions), ("partitionColumn", o.partitionColumn), ("lowerBound", o.lower),
   ("upperBound", o.upper), ("fetchsize", o.fetchSize)].filter fun (_, v) => v.isSet

instance : ToValue ReaderOptions := ⟨fun o => .map
  [("number_partitions", o.partitions), ("partition_column", o.partitionColumn), ("lower_bound", o.lower),
   ("upper_bound", o.upper), ("fetch_size", o.fetchSize)]⟩

end ReaderOptions

structure ColumnMapping where
  source : String
  target : String
deriving DecidableEq

namespace ColumnMapping

def lowered (m : ColumnMapping) : ColumnMapping := ⟨Text.lower m.source, Text.lower m.target⟩

def read (v : Value) : Outcome ColumnMapping := do
  if let .list [.text source, .text target] := v then return lowered ⟨source, target⟩
  let f ← Fields.ofValue ["source_name", "target_name"] [] v
  let source ← (f.get "source_name").asText
  let target ← (f.get "target_name").asText
  return lowered ⟨source, target⟩

instance : ToValue ColumnMapping := ⟨fun m => .map [("source_name", m.source), ("target_name", m.target)]⟩

end ColumnMapping

/-- SQL that replaces a column on one or both sides before it is compared. -/
structure Transformation where
  column : String
  source : Value
  target : Value

namespace Transformation

def lowered (t : Transformation) : Transformation := { t with column := Text.lower t.column }

def read (v : Value) : Outcome Transformation := do
  let f ← Fields.ofValue ["column_name"] ["source", "target"] v
  return lowered ⟨← (f.get "column_name").asText, f.get "source", f.get "target"⟩

instance : ToValue Transformation := ⟨fun t => .map
  [("column_name", t.column), ("source", t.source), ("target", t.target)]⟩

end Transformation

structure Filters where
  source : Value
  target : Value

namespace Filters

def read (v : Value) : Outcome Filters := do
  let f ← Fields.ofValue [] ["source", "target"] v
  return ⟨f.get "source", f.get "target"⟩

instance : ToValue Filters := ⟨fun f => .map [("source", f.source), ("target", f.target)]⟩

end Filters

/-- A column of a database table: its name as compared, its type, and its two spellings. -/
structure Column where
  name : String
  type : String
  ansi : String
  source : String
deriving DecidableEq

instance : ToValue Column := ⟨fun c => .map
  [("column_name", c.name), ("data_type", c.type), ("ansi_normalized_column_name", c.ansi),
   ("source_normalized_column_name", c.source)]⟩

def Column.read : Value → Outcome Column
  | .list [.text name, .text type] => pure ⟨name, type, name, name⟩
  | .list [.text name, .text type, .text ansi, .text source] => pure ⟨name, type, ansi, source⟩
  | _ => throw (.wrongKind "not a column")

def Column.readAll (v : Value) : Outcome (List Column) := do (← v.asItems).mapM Column.read

/-- The configuration of comparing one table. -/
structure Table where
  sourceName : String
  targetName : String
  sampling : Option SamplingOptions := none
  aggregates : Option (List Aggregate) := none
  joinColumns : Option (List String) := none
  reader : Option ReaderOptions := none
  selectColumns : Option (List String) := none
  dropColumns : Option (List String) := none
  columnMapping : Option (List ColumnMapping) := none
  transformations : Option (List Transformation) := none
  columnThresholds : Option (List ColumnThreshold) := none
  filters : Option Filters := none
  tableThresholds : Option (List TableThreshold) := none

namespace Table

def mapItems (f : α → α) : Option (List α) → Option (List α)
  | some (a :: rest) => some ((a :: rest).map f)
  | _ => none

variable (t : Table)

def lowered : Table :=
  { t with
    sourceName := Text.lower t.sourceName
    targetName := Text.lower t.targetName
    joinColumns := mapItems Text.lower t.joinColumns
    selectColumns := mapItems Text.lower t.selectColumns
    dropColumns := mapItems Text.lower t.dropColumns }

def readColumns (v : Value) : Outcome (Option (List String)) := if v.isSet then some <$> v.asTexts else pure none

def read (v : Value) : Outcome Table := do
  let f ← Fields.ofValue ["source_name", "target_name"]
    ["sampling_options", "aggregates", "join_columns", "jdbc_reader_options", "select_columns", "drop_columns",
     "column_mapping", "transformations", "column_thresholds", "filters", "table_thresholds"] v
  let sampling ← (f.get "sampling_options").asRecord? SamplingOptions.read
  let aggregates ← (f.get "aggregates").asRecords? Aggregate.read
  let reader ← (f.get "jdbc_reader_options").asRecord? ReaderOptions.read
  let mapping ← (f.get "column_mapping").asRecords? ColumnMapping.read
  let transformations ← (f.get "transformations").asRecords? Transformation.read
  let columnThresholds ← (f.get "column_thresholds").asRecords? ColumnThreshold.read
  let filters ← (f.get "filters").asRecord? Filters.read
  let tableThresholds ← (f.get "table_thresholds").asRecords? TableThreshold.read
  let sourceName ← (f.get "source_name").asText
  let targetName ← (f.get "target_name").asText
  let select ← readColumns (f.get "select_columns")
  let drop ← readColumns (f.get "drop_columns")
  let join ← readColumns (f.get "join_columns")
  return lowered ⟨sourceName, targetName, sampling, aggregates, join, reader, select, drop, mapping, transformations,
    columnThresholds, filters, tableThresholds⟩

instance : ToValue Table := ⟨fun t => .map
  [("source_name", t.sourceName), ("target_name", t.targetName), ("sampling_options", t.sampling),
   ("aggregates", t.aggregates), ("join_columns", t.joinColumns), ("jdbc_reader_options", t.reader),
   ("select_columns", t.selectColumns), ("drop_columns", t.dropColumns), ("column_mapping", t.columnMapping),
   ("transformations", t.transformations), ("column_thresholds", t.columnThresholds), ("filters", t.filters),
   ("table_thresholds", t.tableThresholds)]⟩

/-! ### Column bookkeeping -/

def toTarget : List (String × String) :=
  Sequence.lastOf ((t.columnMapping.getD []).map fun m => (m.source, m.target))

def toSource : List (String × String) :=
  Sequence.lastOf ((t.columnMapping.getD []).map fun m => (m.target, m.source))

def image (mapping : List (String × String)) (name : String) : String := (mapping.lookup name).getD name

def targetOf (column : String) : String := image t.toTarget column

def sourceOf (column : String) : String := image t.toSource column

def onLayer (layer : Layer) (column : String) : String :=
  match layer with
  | .source => column
  | .target => t.targetOf column

def fromLayer (layer : Layer) (column : String) : String :=
  match layer with
  | .source => column
  | .target => t.sourceOf column

def allOnLayer (layer : Layer) (columns : List String) : List String :=
  (columns.map (t.onLayer layer)).eraseDups

def allFromTarget (columns : List String) : List String := (columns.map t.sourceOf).eraseDups

def selected (schema : List Column) (layer : Layer) : List String :=
  match t.selectColumns with
  | none => (schema.map Column.name).eraseDups
  | some columns => t.allOnLayer layer columns

def thresholdColumns (layer : Layer) : List String :=
  t.allOnLayer layer ((t.columnThresholds.getD []).map ColumnThreshold.column)

def joined (layer : Layer) : Option (List String) := t.joinColumns.map (t.allOnLayer layer)

def dropped (layer : Layer) : List String := t.allOnLayer layer (t.dropColumns.getD [])

def partitionColumn (t : Table) (layer : Layer) : List String :=
  match layer, t.reader with
  | .source, some reader => reader.partitionColumn.toList
  | _, _ => []

def filter (layer : Layer) : Value :=
  match t.filters, layer with
  | none, _ => .null
  | some filters, .source => filters.source
  | some filters, .target => filters.target

/-! ### Normalisation -/

/-- A table configuration with the names of source columns spelt by `source` and those of target columns by `target`. -/
def normalizeBy (source target : String → String) : Table :=
  let t := t.lowered
  { t with
    sampling := t.sampling.map fun o => { o with columns := mapItems source o.lowered.columns }
    aggregates := mapItems (fun a =>
      let a := a.lowered
      { a with columns := a.columns.map source, groupBy := mapItems source a.groupBy }) t.aggregates
    joinColumns := mapItems source t.joinColumns
    selectColumns := mapItems source t.selectColumns
    dropColumns := mapItems source t.dropColumns
    columnMapping := mapItems (fun m => ColumnMapping.lowered ⟨source m.source, target m.target⟩) t.columnMapping
    transformations := mapItems (fun c => { c with column := source c.column }) t.transformations
    columnThresholds := mapItems (fun c => { c.lowered with column := source c.column }) t.columnThresholds
    reader := t.reader.map fun o =>
      let o := o.lowered
      { o with partitionColumn := o.partitionColumn.map source } }

def normalize (t : Table) (source target : Connector) : Table :=
  t.normalizeBy (fun name => (source.normalize name).ansi) (fun name => (target.normalize name).ansi)

end Table

end WarehouseMigration.Reconcile
