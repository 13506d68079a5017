import WarehouseMigration.Reconcile.Comparison

/-!
# Recording of results

The results of comparing a table are written to tables of their own: one row for the comparison, one with its
numbers, and one per kind of rows that did not agree.
-/

namespace WarehouseMigration.Reconcile

structure Duration where
  start : String
  finish : Option String

def mainTable : String := "main"

def metricsTable : String := "metrics"

def detailsTable : String := "details"

def aggregateRulesTable : String := "aggregate_rules"

def aggregateMetricsTable : String := "aggregate_metrics"

def aggregateDetailsTable : String := "aggregate_details"

/-! ### Verdicts -/

/-- Whether a number of mismatches lies within the bounds of a threshold; shares are of the rows of the source, and
rounded to the nearest number. -/
def TableThreshold.admits (t : TableThreshold) (mismatches : Int) (sourceRows : Int) : Bool :=
  match Text.toInt? (Text.replace t.lower "%" ""), Text.toInt? (Text.replace t.upper "%" "") with
  | some lower, some upper =>
    let bound := fun (share : Int) => Decimal.nearestInt (Float.ofInt share / 100.0 * Float.ofInt sourceRows)
    match t.mode with
    | .absolute => lower ≤ mismatches && mismatches ≤ upper
    | .percentage => bound lower ≤ mismatches && mismatches ≤ bound upper
  | _, _ => false

/-- The thresholds are gone through, and each verdict replaces the one before. -/
def Table.tolerates (t : Table) (o : DataOutput) (count : RecordCount) : Bool := Id.run do
  let mismatches := o.mismatchCount + o.thresholdMismatchCount
  if mismatches = 0 then return true
  let mut verdict := false
  for h in (t.tableThresholds.getD []).filter fun h => h.model = "mismatch" do
    verdict := h.admits mismatches count.source
  return verdict

def isQuiet : Option String → Bool
  | none => true
  | some s => s = ""

def withoutQuotes (s : String) : String := Text.replace (Text.replace s "'" "") "\"" ""

def failureText (data schema : Option String) : String :=
  match data, schema with
  | some e, _ => withoutQuotes e
  | none, some e => withoutQuotes e
  | none, none => ""

def verdict (t : Table) (data : DataOutput) (schema : SchemaOutput) (count : RecordCount) : Value :=
  if isQuiet data.exception && isQuiet schema.exception then
    if t.tolerates data count && data.missingInSourceCount = 0 && data.missingInTargetCount = 0 then schema.valid
    else false
  else false

def aggregateVerdict (o : DataOutput) : Bool :=
  isQuiet o.exception && !(0 < o.mismatchCount || 0 < o.missingInSourceCount || 0 < o.missingInTargetCount)

/-! ### Rows -/

def mapColumn (id frame : Value) (kind : String) (status : Value) : Flow Value := do
  let parts := (← Spark.columns frame).flatMap fun (c : String) =>
    [Spark.applied (Spark.constant c) "alias" [c ++ "_key"],
     Spark.applied (Spark.applied (Spark.column c) "cast" ["string"]) "alias" [c ++ "_value"]]
  let frame ← Spark.make frame "select" [Spark.applied (Spark.function "create_map" parts) "alias" ["data"]]
  let frame ← Spark.make frame "withColumn" ["recon_table_id", Spark.constant id]
  let frame ← Spark.make frame "withColumn" ["recon_type", Spark.constant kind]
  let frame ← Spark.make frame "withColumn" ["status", Spark.constant status]
  let frame ← Spark.make frame "withColumn" ["inserted_ts", Spark.constant (← Flow.now "")]
  let frame ← Spark.make frame "groupBy" ["recon_table_id", "recon_type", "status", "inserted_ts"]
  let frame ← Spark.make frame "agg" [Spark.applied (Spark.function "collect_list" ["data"]) "alias" ["data"]]
  Spark.make frame "selectExpr" ["recon_table_id", "recon_type", "status", "data", "inserted_ts"]

def writeTable (frame : Value) (table : String) : Flow Unit := do
  let write : Flow Unit := do
    let writer ← Spark.make (Spark.member frame "write") "mode" ["append"]
    let _ ← Spark.act writer "saveAsTable" [table]
  match ← write.attempt with
  | .ok _ => return
  | .error e =>
    let reason := e.message
    throw (.writeToTable s!"Error writing data to {table}: {reason}")

/-- What records the results of a run. -/
structure Capture where
  database : Database
  runId : String
  reportType : String
  dialect : String
  user : String
  place : String
  /-- packs the rows of a frame into one row -/
  pack : Value → Value → String → Value → Flow Value := mapColumn
  write : Value → String → Flow Unit := writeTable

namespace Capture

variable (c : Capture)

def tableKey (t : Table) : String :=
  let source := match c.database.sourceCatalog with
    | none => s!"{c.database.sourceSchema}.{t.sourceName}"
    | some catalog => s!"{catalog}.{c.database.sourceSchema}.{t.sourceName}"
  s!"{c.runId}{source}{c.database.targetCatalog}.{c.database.targetSchema}.{t.targetName}"

def mainStatement (id : String) (t : Table) (time : Duration) (operation : String) : String :=
  let catalog := c.database.sourceCatalog.getD "None"
  let finish := time.finish.getD "None"
  "\n".intercalate [
    "",
    s!"                select {id} as recon_table_id,",
    s!"                '{c.runId}' as recon_id,",
    "                case",
    s!"                    when '{c.dialect}' = 'databricks' then 'Databricks'",
    s!"                    when '{c.dialect}' = 'snowflake' then 'Snowflake'",
    s!"                    when '{c.dialect}' = 'oracle' then 'Oracle'",
    s!"                    else '{c.dialect}'",
    "                end as source_type,",
    "                named_struct(",
    s!"                    'catalog', case when '{catalog}' = 'None' then null else '{catalog}' end,",
    s!"                    'schema', '{c.database.sourceSchema}',",
    s!"                    'table_name', '{t.sourceName}'",
    "                ) as source_table,",
    "                named_struct(",
    s!"                    'catalog', '{c.database.targetCatalog}',",
    s!"                    'schema', '{c.database.targetSchema}',",
    s!"                    'table_name', '{t.targetName}'",
    "                ) as target_table,",
    s!"                '{c.reportType}' as report_type,",
    s!"                '{operation}' as operation_name,",
    s!"                cast('{time.start}' as timestamp) as start_ts,",
    s!"                cast('{finish}' as timestamp) as end_ts",
    "            "]

def metricsStatement (id : String) (data : DataOutput) (schema : SchemaOutput) (verdict : Value)
    (now : String) : String :=
  let report := Text.lower c.reportType
  let user := c.user
  let exception := failureText data.exception schema.exception
  let missingInSource := Value.intText data.missingInSourceCount
  let missingInTarget := Value.intText data.missingInTargetCount
  let mismatch := Value.intText data.mismatchCount
  let threshold := Value.intText data.thresholdMismatchCount
  let columns := ",".intercalate ((data.mismatch.bind Mismatch.columns).getD [])
  let valid := schema.valid.shown
  let status := verdict.shown
  "\n".intercalate [
    "",
    s!"                select {id} as recon_table_id,",
    "                named_struct(",
    s!"                    'row_comparison', case when '{report}' in ('all', 'row', 'data')",
    s!"                        and '{exception}' = '' then",
    "                     named_struct(",
    s!"                        'missing_in_source', cast({missingInSource} as bigint),",
    s!"                        'missing_in_target', cast({missingInTarget} as bigint)",
    "                    ) else null end,",
    s!"                    'column_comparison', case when '{report}' in ('all', 'data')",
    s!"                        and '{exception}' = '' then",
    "                    named_struct(",
    s!"                        'absolute_mismatch', cast({mismatch} as bigint),",
    s!"                        'threshold_mismatch', cast({threshold} as bigint),",
    s!"                        'mismatch_columns', '{columns}'",
    "                    ) else null end,",
    s!"                    'schema_comparison', case when '{report}' in ('all', 'schema')",
    s!"                        and '{exception}' = '' then",
    s!"                        {valid} else null end",
    "                ) as recon_metrics,",
    "                named_struct(",
    s!"                    'status', {status},",
    s!"                    'run_by_user', '{user}',",
    s!"                    'exception_message', \"{exception}\"",
    "                ) as run_metrics,",
    s!"                cast('{now}' as timestamp) as inserted_ts",
    "            "]

def aggregateStatement (id ruleId : String) (o : DataOutput) (now : String) : String :=
  let user := c.user
  let exception := failureText o.exception none
  let missingInSource := Value.intText o.missingInSourceCount
  let missingInTarget := Value.intText o.missingInTargetCount
  let mismatch := Value.intText o.mismatchCount
  let status := (Value.bool (aggregateVerdict o)).shown
  "\n".intercalate [
    "",
    s!"                    select {id} as recon_table_id,",
    s!"                    {ruleId}  as rule_id,",
    s!"                    if('{exception}' = '', named_struct(",
    s!"                            'missing_in_source', {missingInSource},",
    s!"                            'missing_in_target', {missingInTarget},",
    s!"                            'mismatch', {mismatch}",
    "                    ), null) as recon_metrics,",
    "                    named_struct(",
    s!"                        'status', {status},",
    s!"                        'run_by_user', '{user}',",
    s!"                        'exception_message', \"{exception}\"",
    "                    ) as run_metrics,",
    s!"                    cast('{now}' as timestamp) as inserted_ts",
    "                "]

def recordMain (id : Value) (t : Table) (time : Duration) (operation : String) : Flow Unit := do
  c.write (← Spark.sql (c.mainStatement id.shown t time operation)) s!"{c.place}.{mainTable}"

def recordMetrics (id : Value) (data : DataOutput) (schema : SchemaOutput) (t : Table)
    (count : RecordCount) : Flow Unit := do
  let statement := c.metricsStatement id.shown data schema (verdict t data schema count) (← Flow.now "")
  c.write (← Spark.sql statement) s!"{c.place}.{metricsTable}"

def recordRows (id frame : Value) (kind : String) (status : Value) : Flow Unit := do
  c.write (← c.pack id frame kind status) s!"{c.place}.{detailsTable}"

def recordDetails (id : Value) (data : DataOutput) (schema : SchemaOutput) : Flow Unit := do
  if 0 < data.mismatchCount then
    match data.mismatch with
    | none => throw (.noMember "no mismatch")
    | some m => if let some frame := m.frame then c.recordRows id frame "mismatch" false
  if 0 < data.missingInSourceCount then
    if let some frame := data.missingInSource then c.recordRows id frame "missing_in_source" false
  if 0 < data.missingInTargetCount then
    if let some frame := data.missingInTarget then c.recordRows id frame "missing_in_target" false
  if 0 < data.thresholdMismatchCount then
    if let some frame := data.thresholdFrame then c.recordRows id frame "threshold_mismatch" false
  if let some frame := schema.frame then c.recordRows id frame "schema" schema.valid

def start (t : Table) (data : DataOutput) (schema : SchemaOutput) (time : Duration)
    (count : RecordCount) : Flow Unit := do
  let id ← Flow.digest (c.tableKey t)
  c.recordMain id t time "reconcile"
  c.recordMetrics id data schema t count
  c.recordDetails id data schema

/-! ### Aggregates -/

def ruleId (id : Value) (rule : AggregateRule) : Flow Value := Flow.digest (id.shown ++ "_" ++ rule.key)

def recordRules (id : Value) (outputs : List AggregateOutput) : Flow Unit := do
  let frames ← (outputs.filterMap AggregateOutput.rule).mapM fun rule => do
    let frame ← Spark.sql (rule.query (← ruleId id rule).shown)
    let frame ← Spark.make frame "withColumn" ["inserted_ts", Spark.constant (← Flow.now "")]
    Spark.make frame "select" ["rule_id", "rule_type", "rule_info", "inserted_ts"]
  unless frames.isEmpty do c.write (← Spark.union frames) s!"{c.place}.{aggregateRulesTable}"

def recordAggregateMetrics (id : Value) (outputs : List AggregateOutput) : Flow Unit := do
  let frames ← outputs.mapM fun o => do
    match o.rule with
    | none => throw (.broken "Aggregate Rule must be present for storing the metrics")
    | some rule =>
      Spark.sql (c.aggregateStatement id.shown (← ruleId id rule).shown o.output (← Flow.now ""))
  c.write (← Spark.union frames) s!"{c.place}.{aggregateMetricsTable}"

def packed (c : Capture) (id : Value) (count : Int) (frame : Option Value) (kind : String) : Flow (List Value) := do
  match frame with
  | some frame =>
    if 0 < count then
      let packed ← c.pack id frame kind false
      if (← Spark.act packed "isEmpty").isSet then return [] else return [packed]
    else return []
  | none => return []

def recordAggregateDetails (id : Value) (outputs : List AggregateOutput) : Flow Unit := do
  let frames ← outputs.mapM fun o => do
    let d := o.output
    let differing ← c.packed id d.mismatchCount (d.mismatch.bind Mismatch.frame) "mismatch"
    let inSource ← c.packed id d.missingInSourceCount d.missingInSource "missing_in_source"
    let inTarget ← c.packed id d.missingInTargetCount d.missingInTarget "missing_in_target"
    match differing ++ inSource ++ inTarget with
    | [] => return []
    | frames =>
      let all ← Spark.union frames
      match o.rule with
      | none => return []
      | some rule =>
        let named ← Spark.make all "withColumn" ["rule_id", Spark.constant (← ruleId id rule)]
        return [← Spark.make named "select" ["recon_table_id", "rule_id", "recon_type", "data", "inserted_ts"]]
  unless frames.flatten.isEmpty do
    c.write (← Spark.union frames.flatten) s!"{c.place}.{aggregateDetailsTable}"

def storeAggregates (t : Table) (time : Duration) (outputs : List AggregateOutput) : Flow Unit := do
  let id ← Flow.digest (c.tableKey t)
  c.recordMain id t time "aggregates-reconcile"
  c.recordRules id outputs
  c.recordAggregateMetrics id outputs
  c.recordAggregateDetails id outputs

end Capture

end WarehouseMigration.Reconcile
