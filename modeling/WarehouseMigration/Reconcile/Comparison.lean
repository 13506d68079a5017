import WarehouseMigration.Reconcile.Output
import WarehouseMigration.Reconcile.Volume

/-!
# Comparison of rows

The rows of both sides are joined by their key columns, kept in a volume, and divided into those that differ, those
missing in the source and those missing in the target.  Aggregates are compared in the same way, per rule.
-/

namespace WarehouseMigration.Reconcile

def hashColumn : String := "hash_value_recon"

def shownRows : Int := 50

namespace Comparison

def columnSelector (table column : String) : String :=
  let bare := Identifier.bare column
  let name := Identifier.ansiOf column
  let shown := Identifier.ansiOf s!"{table}_{bare}"
  s!"{table}.{name} as {shown}"

def ownName (table column : String) : String :=
  Identifier.bare (Text.lower (Text.replace column s!"{table}_" ""))

def ownColumn (table column : String) : Value :=
  Spark.applied (Spark.column (Identifier.ansiOf column)) "alias" [ownName table column]

def suffixed (column suffix : String) : String := Identifier.bare column ++ suffix

def suffixedAnsi (column suffix : String) : String := Identifier.ansiOf (suffixed column suffix)

def columnMismatch (message : String) (sourceMissing targetMissing : List String) : Failure :=
  let listed := fun (columns : List String) => if columns.isEmpty then "None" else ",".intercalate columns
  let inSource := listed sourceMissing
  let inTarget := listed targetMissing
  .columnMismatch s!"{message}\ncolumns missing in source: {inSource}\ncolumns missing in target: {inTarget}\n"

def joinCondition (source target : String) (keys : List String) : Outcome Value :=
  Spark.fold "&" (keys.map fun key =>
    let name := Identifier.ansiOf key
    Spark.applied (Spark.column s!"{source}.{name}") "eqNullSafe" [Spark.column s!"{target}.{name}"])

def columnTest (column test : String) : Value := Spark.applied (Spark.column column) test

def equal (a b : String) : Value := Spark.operator "==" (Spark.column a) (Spark.column b)

def isFalse (column : String) : Value :=
  Spark.operator "==" (Spark.column column) (Spark.constant false)

def ownColumns (frame : Value) (table : String) (columns : List String) : Flow Value := do
  let own := (columns.filter fun c => Text.startsWith c s!"{table}_").map (ownColumn table)
  let frame ← Spark.make frame "select" own
  Spark.make frame "drop" [hashColumn]

def differing (frame : Value) (columns : List String) : Flow Value := do
  let source := "src_" ++ hashColumn
  let target := "tgt_" ++ hashColumn
  let both ← Spark.make frame "filter" [Spark.operator "&" (columnTest source "isNotNull") (columnTest target "isNotNull")]
  let compared ← Spark.make both "withColumn" ["hash_match", equal source target]
  let differing ← Spark.make compared "filter" [isFalse "hash_match"]
  ownColumns differing "src" columns

def missing (frame : Value) (columns : List String) (lacking having : String) : Flow Value := do
  let rows ← Spark.make frame "filter" [columnTest (lacking ++ "_" ++ hashColumn) "isNull"]
  ownColumns rows having columns

def rows (source target : Value) (keys : Option (List String)) (reportType path : String) : Flow DataOutput := do
  let onData := reportType = "data" || reportType = "all"
  let keys := if onData then keys.getD [] else [hashColumn]
  let left ← Spark.make source "alias" ["src"]
  let right ← Spark.make target "alias" ["tgt"]
  let condition ← Flow.ofOutcome (joinCondition "src" "tgt" keys)
  let joined ← Spark.make left "join" [] [("other", right), ("on", condition), ("how", "full")]
  let selectors :=
    (← Spark.columns source).map (columnSelector "src") ++ (← Spark.columns target).map (columnSelector "tgt")
  let selected ← Spark.make joined "selectExpr" (selectors.map Value.text)
  let frame ← Volume.keep selected path
  let columns ← Spark.columns frame
  let mismatch ← if onData then some <$> differing frame columns else pure none
  let missingInSource ← missing frame columns "src" "tgt"
  let missingInTarget ← missing frame columns "tgt" "src"
  let mismatchCount ← match mismatch with
    | some m => Spark.number m "count"
    | none => pure 0
  let missingInSourceCount ← Spark.number missingInSource "count"
  let missingInTargetCount ← Spark.number missingInTarget "count"
  return {
    mismatchCount, missingInSourceCount, missingInTargetCount
    missingInSource := some (← Spark.make missingInSource "limit" [shownRows])
    missingInTarget := some (← Spark.make missingInTarget "limit" [shownRows])
    mismatch := some ⟨mismatch, none⟩ }

def bareColumns (frame : Value) : Flow Value := do
  let columns := (← Spark.columns frame).map fun c =>
    Spark.applied (Spark.column (Identifier.ansiOf c)) "alias" [Identifier.bare c]
  Spark.make frame "select" columns

def mismatchColumns (columns : List String) (rows : List Value) : Outcome (List String) :=
  columns.filterM fun column => do
    let rec go : List Value → Outcome Bool
      | [] => pure false
      | row :: rest => do
        match row.get? (column ++ "_match") with
        | none => throw (.noKey (column ++ "_match"))
        | some v => if v.isSet then go rest else pure true
    go rows

def sideBySide (source target : Value) (keys columns : List String) : Flow Value := do
  let side := fun (table suffix : String) => columns.map fun c =>
    Spark.applied (Spark.column (table ++ Identifier.ansiOf c)) "alias" [suffixed c suffix]
  let agree := columns.map fun c =>
    let base := suffixedAnsi c "_base"
    let compare := suffixedAnsi c "_compare"
    Spark.applied (Spark.function "expr" [s!"{base}=={compare}"]) "alias" [suffixed c "_match"]
  let keyColumns := keys.map fun key => Spark.column (Identifier.ansiOf key)
  let left ← Spark.make source "alias" ["base"]
  let right ← Spark.make target "alias" ["compare"]
  let joined ← Spark.make left "join" [] [("other", right), ("on", keys), ("how", "inner")]
  let wide ← Spark.make joined "select" (keyColumns ++ side "base." "_base" ++ side "compare." "_compare" ++ agree)
  let others := ((← Spark.columns wide).filter fun c => !keys.contains c).map Identifier.ansiOf
  Spark.make wide "select" (keyColumns ++ others.mergeSort.map Value.text)

/-- The rows that differ and the columns in which they do; both sides must have the same columns. -/
def mismatch (source target : Value) (keys : List String) : Flow Mismatch := do
  let source ← bareColumns source
  let target ← bareColumns target
  let keys := keys.map Identifier.bare
  let sourceColumns ← Spark.columns source
  let targetColumns ← Spark.columns target
  if sourceColumns ≠ targetColumns then
    throw (columnMismatch "source and target should have same columns for capturing the mismatch data"
      (targetColumns.filter fun c => !sourceColumns.contains c) (sourceColumns.filter fun c =>
        !targetColumns.contains c))
  let columns := sourceColumns.filter fun c => !keys.contains c
  let frame ← sideBySide source target keys columns
  let mismatching ← Flow.ofOutcome (mismatchColumns columns (← Spark.collect frame))
  return ⟨some frame, some mismatching⟩

/-! ### Aggregates -/

/-- What a condition on the columns of an aggregate asks for. -/
inductive AggregateCondition where
  | groupFilter
  | select
  | missingInSource
  | missingInTarget

def AggregateCondition.ofName : String → Outcome AggregateCondition
  | "group_filter" => pure .groupFilter
  | "select" => pure .select
  | "missing_in_src" => pure .missingInSource
  | "missing_in_tgt" => pure .missingInTarget
  | other => throw (.invalid s!"Invalid condition type: {other}")

def AggregateCondition.onPair (condition : AggregateCondition) (m : ColumnMapping) : Value :=
  match condition with
  | .groupFilter => Spark.operator "&" (columnTest m.source "isNotNull") (columnTest m.target "isNotNull")
  | .select => equal m.source m.target
  | .missingInSource => columnTest m.source "isNull"
  | .missingInTarget => columnTest m.target "isNull"

def AggregateCondition.onPairs (condition : AggregateCondition) (symbol : String) (columns : List ColumnMapping) :
    Outcome Value :=
  Spark.fold symbol (columns.map condition.onPair)

/-- The condition of a given name on some pairs of columns, joined by `and` or else by `or`. -/
def aggregateCondition (columns : Option (List ColumnMapping)) (name word : String) : Outcome Value := do
  if (columns.getD []).isEmpty then throw (.broken "Columns must be specified for aggregation conditions")
  (← AggregateCondition.ofName name).onPairs (if word = "and" then "&" else "|") (columns.getD [])

def aggregatePair (kind column : String) : ColumnMapping :=
  ⟨Text.lower s!"source_{kind}_{column}", Text.lower s!"target_{kind}_{column}"⟩

def differingAggregates (frame : Value) (columns groups : List ColumnMapping) : Flow Value := do
  let grouped ← if groups.isEmpty then pure frame else do
    Spark.make frame "filter" [← Flow.ofOutcome (AggregateCondition.onPairs .groupFilter "&" groups)]
  let compared ← columns.foldlM (fun (frame : Value) (m : ColumnMapping) =>
    Spark.make frame "withColumn" [.text (Text.replace m.source "source_" "match_"), equal m.source m.target]) grouped
  let compared ← Spark.make compared "withColumn"
    ["agg_data_match", ← Flow.ofOutcome (AggregateCondition.onPairs .select "&" columns)]
  Spark.make compared "filter" [isFalse "agg_data_match"]

def aggregateRule (joined : Value) (sourceColumns targetColumns : List String) (rule : AggregateRule) :
    Flow DataOutput := do
  let groups := (rule.groupBy.getD []).map (aggregatePair "group_by")
  let columns := aggregatePair rule.type rule.column :: groups
  let names := columns.flatMap fun m => [Value.text m.source, Value.text m.target]
  let frame ← Spark.make joined "selectExpr" names
  let mismatch ← differingAggregates frame columns groups
  let absent := fun (condition : AggregateCondition) (present wanted : List String) => do
    let rows ← Spark.make frame "filter" [← Flow.ofOutcome (condition.onPairs "&" columns)]
    Spark.make rows "select" (((present.eraseDups.filter wanted.contains).mergeSort).map Value.text)
  let missingInSource ← absent .missingInSource targetColumns (columns.map ColumnMapping.target)
  let missingInTarget ← absent .missingInTarget sourceColumns (columns.map ColumnMapping.source)
  let mismatchCount ← Spark.number mismatch "count"
  let missingInSourceCount ← Spark.number missingInSource "count"
  let missingInTargetCount ← Spark.number missingInTarget "count"
  return {
    mismatchCount, missingInSourceCount, missingInTargetCount
    missingInSource := some (← Spark.make missingInSource "limit" [shownRows])
    missingInTarget := some (← Spark.make missingInTarget "limit" [shownRows])
    mismatch := some ⟨some mismatch, none⟩ }

def joinAggregates (source target : Value) (groups : Option (List String)) (path : String) : Flow Value := do
  let left ← Spark.make source "alias" ["src"]
  let right ← Spark.make target "alias" ["tgt"]
  let how ← match groups.getD [] with
    | [] => pure [("other", right), ("how", .text "cross")]
    | groups => do
      let condition ← Flow.ofOutcome (Spark.fold "&" (groups.map fun group =>
        let m := aggregatePair "group_by" group
        Spark.applied (Spark.column s!"src.{m.source}") "eqNullSafe" [Spark.column s!"tgt.{m.target}"]))
      pure [("other", right), ("on", condition), ("how", .text "full")]
  let joined ← Spark.make left "join" [] how
  let names := (← Spark.columns source) ++ (← Spark.columns target)
  let joined ← Spark.make joined "selectExpr" (names.map Value.text)
  Spark.make (← Volume.keep joined path) "cache"

end Comparison

end WarehouseMigration.Reconcile
