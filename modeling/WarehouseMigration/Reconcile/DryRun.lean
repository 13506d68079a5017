import WarehouseMigration.Reconcile.Run
import WarehouseMigration.Session.Script

/-!
# Dry runs

A dry run goes through the steps of a comparison without a database: each query is its own description, each step is
noted with its arguments, and its result is taken from a script.
-/

/-! ### Traces of Spark

What a session asked of Spark: the methods called on the frames it made, or the full texts of its actions.
-/

namespace WarehouseMigration

namespace Call

def method (c : Call) : String := (Text.split c.name ".").getLast?.getD ""

def onSpark (c : Call) : Bool := !c.receiver.isNull && (Text.split c.name ".").head? == some "spark"

def text (c : Call) : String := Spark.textOf (Spark.applied c.receiver c.method c.parts c.named)

end Call

def Session.sparkCalls (s : Session) : List Call :=
  (s.calls.filter fun c => c.onSpark && c.method != "select").map fun c =>
    { c with name := c.method, parts := if c.method == "unionByName" then [] else c.parts }

def Session.otherCalls (s : Session) : List Call := s.calls.filter (!·.onSpark)

mutual

def Value.described : Value → Value
  | .plan _ text => .text text
  | .list items => .list (describedItems items)
  | .map entries => .map (describedEntries entries)
  | v => v

def describedItems : List Value → List Value
  | [] => []
  | v :: rest => Value.described v :: describedItems rest

def describedEntries : List (String × Value) → List (String × Value)
  | [] => []
  | (key, v) :: rest => (key, Value.described v) :: describedEntries rest

end

def Session.sparkScript (v : Value) : Session where
  replies := ("load", [Reply.read (v.getD "load")]) ::
    ["count", "collect", "save"].map fun action => (action, Reply.readAll (v.getD action))
  columns := fun path => ((v.getD "columns").getD path).parts.map Value.shown

def Session.actions (s : Session) : List String :=
  (s.calls.filter fun c => ["count", "collect", "save"].contains c.method).map Call.text

end WarehouseMigration

namespace WarehouseMigration.Reconcile.DryRun

def frame (name : String) : Value := .plan name name

def result (v : Value) (read : Value → Outcome α) : Flow α :=
  match Reply.read v with
  | .failure e => throw e
  | .value (.text reason) => throw (.dataSource reason)
  | .value v => Flow.ofOutcome (read v)

def timesCalled (name : String) : Flow Nat := do return ((← get).calls.filter (·.name == name)).length

/-! ### Single tables -/

variable (script : Value)

/-- A side whose reads are noted and numbered; those listed under the side's name in `fail` fail. -/
def side (name : String) : DataSource where
  normalize := Connector.memory.normalize
  columns := fun _ _ _ _ => pure []
  read := fun catalog schema table query options => do
    let n ← timesCalled s!"{name}.read"
    Flow.note s!"{name}.read" [catalog, schema, table, query, options]
    if (((script.getD "fail").getD name).parts.map Value.shown).contains s!"{n}" then
      throw (.dataSource s!"{name} read {n} failed")
    return frame s!"{name}{n}"

def queryWords : Query → String × String
  | .hash reportType => ("hash", s!"rows {reportType}")
  | .sampleAll => ("sampling", "all")
  | .sample keys => ("sampling", "rows " ++ keys.shown)
  | .threshold => ("threshold", "values")
  | .thresholdComparison => ("threshold", "comparison")
  | .count => ("count", "rows")

def describe (kind : String) (layer : Layer) (dialect wording : String) : String :=
  let name := layer.name
  s!"{kind} {name} dialect:{dialect} {wording}"

def scriptedRule (v : Value) : Value :=
  match AggregateRule.read v with
  | .ok rule => rule
  | .error _ => v

def planner : QueryPlanner Value where
  plan := fun query layer dialect _ _ =>
    let (kind, wording) := queryWords query
    pure (describe kind layer dialect wording)
  aggregates := fun layer dialect _ _ => pure ((script.getD "groups").parts.map fun group =>
    let key := (group.getD "by").shown
    ⟨layer, none, key, describe "aggregate" layer dialect s!"groups {key}",
      (group.getD "rules").parts.map scriptedRule⟩)

def steps : FrameComparison Value where
  schema := fun source target dialect t => do
    Flow.note "frames.schema" [source, target, s!"dialect:{dialect}", t]
    return {}
  rule := fun joined source target rule => do
    Flow.note "frames.rule" [joined, source, target, rule]
    return { mismatchCount := 1 }
  rows := fun source target keys reportType path => do
    Flow.note "frames.rows" [] [("source", source), ("target", target), ("key_columns", keys),
      ("report_type", reportType), ("spark", frame "spark"), ("path", path)]
    let output ← Flow.ofOutcome (DataOutput.read (script.getOr "output" (.map [])))
    return { output with
      mismatch := some ⟨some (frame "mismatch"), none⟩
      missingInSource := some (frame "missing_in_src")
      missingInTarget := some (frame "missing_in_tgt") }
  mismatch := fun source target keys => do
    Flow.note "frames.mismatch" [] [("source", source), ("target", target), ("key_columns", keys)]
    return ⟨none, some ["m"]⟩
  join := fun source target groups path => do
    Flow.note "frames.join" [] [("source", source), ("target", target), ("key_columns", groups),
      ("spark", frame "spark"), ("path", path)]
    return frame "joined"
  sample := fun _ keys count columns target => do
    Flow.note "sample" [keys, count, columns, target]
    return frame "sampled"

def reconciler : Outcome (Reconciler Value) := do
  return ⟨side script "source", side script "target", ← Database.read (script.getD "database"),
    (script.getD "report_type").shown, (script.getD "dialect").shown, "databricks",
    ← Metadata.read (script.getOr "metadata" (.map [])), planner script, steps script⟩

def reaction (c : Call) : Option Reply :=
  match c.method with
  | "count" => some (.value (script.getOr "count" (.int 0)))
  | "first" =>
    let side := if Text.startsWith c.name "source" then "source" else "target"
    some (.value ((script.getD "first").getOr side (.list [.int 7])))
  | _ => none

def step (r : Reconciler Value) (t : Table) (name : String) : Flow Value :=
  match name with
  | "data" => toValue <$> r.reconcileData t [] []
  | "schema" => toValue <$> r.reconcileSchema t [] []
  | "aggregates" => do
    return (← r.reconcileAggregates t [] []).map fun (rule, output) =>
      Value.map [("rule", rule), ("reconcile_output", output)]
  | _ => toValue <$> r.recordCount t

def session : Session where
  columns := fun path => [path ++ "_column"]
  reaction := reaction script

/-! ### Runs -/

def readAggregate (v : Value) : Outcome AggregateOutput := do
  return ⟨← (v.getD "rule").asRecord? AggregateRule.read, ← DataOutput.read (v.getOr "output" (.map []))⟩

def readSchema (v : Value) : Outcome SchemaOutput :=
  SchemaOutput.read (if (v.get? "is_valid").isSome then v else v.extended [("is_valid", true)])

def scripted (name : String) (t : Table) (read : Value → Outcome α) : Flow α := do
  let n ← timesCalled name
  Flow.note name [t.sourceName]
  result ((((script.getD "results").getD name).parts[n]?).getD (.map [])) read

def comparison : Outcome TableComparison := do
  let tables ← (script.getD "schemas").parts.mapM fun entry =>
    match entry with
    | .list [key, columns] => return (key.parts.map Value.shown, ← Column.readAll columns)
    | _ => throw (.wrongKind "not an entry")
  let memory := DataSource.memory tables []
  return ⟨memory, memory, (script.getD "report_type").shown,
    fun t _ _ => scripted script "schema" t readSchema, fun t _ _ => scripted script "data" t DataOutput.read,
    fun t _ _ => scripted script "aggregates" t fun v => v.parts.mapM readAggregate, fun _ => pure ⟨3, 4⟩⟩

def ends (time : Duration) : List Value := [time.start != "", time.finish.isSome]

def recording : Recording where
  runId := "recon-id"
  start := fun t data schema time count => Flow.note "capture.start" (ends time)
    [("data_reconcile_output", data), ("schema_reconcile_output", schema), ("table_conf", t), ("record_count", count)]
  store := fun t time outputs => Flow.note "capture.store" (ends time)
    [("reconcile_agg_output_list", outputs), ("table_conf", t)]

def withFrames (v : Value) : Outcome DataOutput := do
  let given := (v.getD "frames").parts.map Value.shown
  let frame? := fun name => if given.contains name then some (frame name) else none
  let output ← DataOutput.read (.map (v.pairs.filter fun (key, _) => key != "frames" && key != "rule"))
  return { output with
    mismatch := output.mismatch.map fun m => { m with frame := frame? "mismatch" }
    missingInSource := frame? "missing_in_src"
    missingInTarget := frame? "missing_in_tgt"
    thresholdFrame := frame? "threshold" }

def capture (c : Capture) : Capture :=
  { c with
    pack := fun id rows kind status => do
      Flow.note "frames.pack" [id, Spark.pathOf rows, kind, status]
      return frame s!"{kind}_frame"
    write := fun rows table =>
      let path := Spark.pathOf rows
      Flow.note "write" [(if Text.startsWith path "spark" then "spark" else path : String), table, "append"] }

end WarehouseMigration.Reconcile.DryRun
