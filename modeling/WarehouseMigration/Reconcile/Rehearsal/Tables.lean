import WarehouseMigration.Rehearsal
import WarehouseMigration.Reconcile.Query
import WarehouseMigration.Reconcile.DryRun
import WarehouseMigration.Reconcile.Records

/-!
# Rehearsing table configurations

Scripts that ask what a table configuration says.
-/

namespace WarehouseMigration.Reconcile.Rehearsal

open WarehouseMigration.Rehearsal

def part : Scene := fun _ i _ => do
  let a := i "args"
  match (i "kind").shown with
  | "sampling_options" => return ← SamplingOptions.read a
  | "sampling_specifications" => return ← SampleSize.read a
  | "jdbc_reader_options" =>
    let r ← ReaderOptions.read a
    return (toValue r).extended [("reader_options", .map r.forReader)]
  | "column_mapping" => return ← ColumnMapping.read a
  | "transformation" => return ← Transformation.read a
  | "column_thresholds" =>
    let r ← ColumnThreshold.read a
    return (toValue r).extended [("mode", (← r.mode).name)]
  | "table_thresholds" =>
    let r ← TableThreshold.read a
    return (toValue r).extended [("mode", r.mode.name)]
  | "aggregate" =>
    let r ← Aggregate.read a
    return (toValue r).extended [("agg_type", r.type), ("group_by_columns_as_str", r.groupKey),
      ("agg_columns_as_str", Aggregate.joined r.columns)]
  | "aggregate_rule" =>
    let r ← AggregateRule.read a
    return (toValue r).extended [("column_from_rule", r.key), ("group_by_columns_as_table_column", r.groupLiteral),
      ("rule_query", r.query (i "rule_id").shown)]
  | _ => return ← TableSet.read a

def question (t : Table) (c : List Value) : Outcome Value := do
  let side := fun v => Layer.ofName (Value.shown v)
  let mapping := fun (m : List (String × String)) =>
    if m.isEmpty then .null else Value.map (m.map fun (k, v) => (k, toValue v))
  match c with
  | [.text "selected", s, l] => return bag (t.selected (← Column.readAll s) (side l))
  | [.text "thresholds", l] => return bag (t.thresholdColumns (side l))
  | [.text "joined", l] => return (t.joined (side l)).map bag
  | [.text "dropped", l] => return bag (t.dropped (side l))
  | [.text "partition", l] => return bag (t.partitionColumn (side l))
  | [.text "filter", l] => return t.filter (side l)
  | [.text "all on layer", c, l] => return bag (t.allOnLayer (side l) (names c))
  | [.text "all from target", c] => return bag (t.allFromTarget (names c))
  | [.text "on layer", c, l] => return t.onLayer (side l) c.shown
  | [.text "from layer", c, l] => return t.fromLayer (side l) c.shown
  | [.text "to target"] => return mapping t.toTarget
  | [.text "to source"] => return mapping t.toSource
  | _ => throw (.noMember "")

def table : Scene := fun style i _ => do
  let t ← Table.read (i "table")
  return .map [("table", t), ("answers", (← (i "calls").asItems).map fun c =>
    outcome style (do question t (← c.asItems)))]

def normalized : Scene := fun _ i _ => do
  let s ← Connector.ofName (← (i "source").asText)
  let g ← Connector.ofName (← (i "target").asText)
  let t ← Table.read (i "table")
  let (place, rs) ← (Copying.put t).run []
  let (copy, rs) ← (Copying.normalize s g place).run rs
  return .map [("table", rs.table? copy), ("input_unchanged", toValue (rs.table? place) == toValue t)]

def columns : Scene := fun _ i _ => do
  let b ← Table.read (i "table")
  let s ← Column.readAll (i "schema")
  let c ← Connector.ofName (← (i "dialect").asText)
  let y := Layer.ofName (← (i "layer").asText)
  return .map [("select_columns", bag (b.selected s y)), ("threshold_columns", bag (b.thresholdColumns y)),
    ("join_columns", (b.joined y).map bag), ("drop_columns", bag (b.dropped y)),
    ("partition_column", bag (b.partitionColumn y)), ("filter", b.filter y),
    ("user_transformations", .map (b.replaced c y)), ("_is_add_quotes", addsQuotes c),
    ("columns", (names (i "columns")).map fun n =>
      Value.map [("name", Table.columnName c n), ("alias", b.columnAlias c y n)])]

def needsJoin : Scene := fun _ i _ => do
  let b ← Table.read (i "table")
  let layer ← (i "layer").asText
  if (← (i "builder").asText) == "hash" then return ← b.requireHashColumns layer (i "report_type").shown
  else return ← b.requireThresholdColumns layer

def groups : Scene := fun _ i _ => do
  let b ← Table.read (i "table")
  let y := Layer.ofName (← (i "layer").asText)
  return (← b.aggregateGroups).1.map fun (k, l) =>
    let r := l.flatMap Aggregate.rules
    Value.map [("key", k), ("rules", r), ("mapped", r.map fun (r : AggregateRule) => b.onLayer y r.column)]

def conditions : Scene := fun _ i _ => do
  return ← Comparison.aggregateCondition (← (i "columns").asRecords? ColumnMapping.read) (i "condition").shown "and"

def schemas : Scene := fun _ i _ => do
  return (← Table.read (i "table")).schemaMatches (← Column.readAll (i "source")) (← Column.readAll (i "target"))

def schemaComparison : Scene := fun _ i s => do
  let (r, s) := (compareSchemas .sameDialect (← Table.read (i "table")) (← Column.readAll (i "source"))
    (← Column.readAll (i "target"))).exec s
  return .map [("valid", (← r).valid), ("rows", (s.calls.head?.bind (·.parts.head?)).getD .null)]

def definitions : Scene := fun _ i _ => do
  let m := (← SchemaMatch.read (i "match")).checkDefinition (← (i "parsed").asText)
  return .map [("valid", m.valid), ("status", allValid (m :: (← ((i "others").parts).mapM SchemaMatch.read)))]

def joinedNames : Scene := fun _ i _ => do
  let t k := (i k).asText
  return .map [("selector", Comparison.columnSelector (← t "table") (← t "column")),
    ("normalized", Comparison.suffixedAnsi (← t "column") (← t "suffix")),
    ("unnormalized", Comparison.suffixed (← t "column") (← t "suffix"))]

def mismatchColumns : Scene := fun _ i _ => do
  return ← Comparison.mismatchColumns (names (i "columns")) (← (i "rows").asItems)

def mismatchMessage : Scene := fun _ i _ => do
  return (Comparison.columnMismatch (← (i "msg").asText) (names (i "source_missing")) (names (i "target_missing"))).message

def volumePath : Scene := fun _ i _ => do
  return (← Table.read (i "table")).volumePath (← Metadata.read (i "metadata"))

def allowed : Scene := fun _ i _ => do
  return ← requireOneOf (names (i "allowed")) (← (i "message").asText) (i "value").shown

def identities : Scene := fun _ i _ => do
  let keys ← (← (i "pairs").asItems).mapM fun
    | .list [d, b] => do
      let c : Capture :=
        { database := ← Database.read d, runId := "recon-id", reportType := "all", dialect := "snowflake",
          user := "tester", place := "" }
      return c.tableKey (← Table.read b)
    | _ => throw (.wrongKind "not a pair")
  return keys.map fun k => (keys.idxOf k : Int)

end WarehouseMigration.Reconcile.Rehearsal
