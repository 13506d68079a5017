import WarehouseMigration.Reconcile.Rehearsal.Tables

/-!
# Rehearsing results

Scripts in which samples are drawn, results are captured and reports are put together.
-/

namespace WarehouseMigration.Reconcile.Rehearsal

open WarehouseMigration.Rehearsal

def withSpark (i : Value) (s : Session) : Session := { s with
  replies := [("collect", [Reply.read (i.getOr "rows" (.list []))])]
  reaction := fun c => if (i "fail").isSet && ["load", "sql", "saveAsTable"].contains c.method then
    some (.failure (.runtime (i "fail").shown)) else none }

def frames [ToValue α] (style : Style) (i : Value) (s : Session) (f : Flow α) : Value :=
  let (r, s) := f.exec { Session.sparkScript i with clock := s.clock }
  .map [("result", (outcome style r).described), ("calls", s.actions)]

def captureOf (i d : Value) : Outcome Capture := do
  let m ← Metadata.read (i.getOr "metadata" (.map []))
  return {
    database := ← Database.read d
    runId := "recon-id"
    reportType := (i.getOr "report_type" "all").shown
    dialect := (i.getOr "dialect" "snowflake").shown
    user := "tester"
    place := m.tablePlace (i "local").isSet }

def plainDatabases : Value := .map [("source_schema", "s"), ("target_catalog", "c"), ("target_schema", "t")]

def sparkOnly (done : Outcome Unit × Session) : Outcome Value := do done.1; return done.2.sparkCalls

def sample : Scene := fun style i s => do
  let o := (← (i "options").asRecord? SamplingOptions.read).getD .standard
  let m := match i.get? "as" with
    | some (.text "random") => SamplingMethod.random
    | some (.text "stratified") => .stratified
    | _ => o.method
  let seed := whole (i.getOr "seed" (.int 100))
  let (after, done) := o.settle m
  let head := [("sampler", toValue m.sampler), ("seed", seed), ("options", after)]
  if m = .stratified then return .map (("done", outcome style done) :: head)
  let (r, s) := (sampleRandom o seed Spark.session (whole (i "count"))).exec s
  return .map ([("done", outcome style (r.map fun _ => true)), ("calls", s.sparkCalls)] ++ head)

def stratifiedSample : Scene := fun style i s => do
  let o ← SamplingOptions.read (i "options")
  return frames style i s (sampleStratified o (whole (i.getOr "seed" (.int 100))) (DryRun.frame "keys") (names (i "keys"))
    (DryRun.frame "target"))

def tolerated : Scene := fun _ i _ => do
  return (← Table.read (i "table")).tolerates (← DataOutput.read (i "output")) (← RecordCount.read (i "count"))

def metrics : Scene := fun _ i s => do
  let c ← captureOf i plainDatabases
  sparkOnly ((c.recordMetrics (i "id") (← DataOutput.read (i "output")) (← SchemaOutput.read (i "schema_output"))
    (← Table.read (i "table")) (← RecordCount.read (i "count"))).exec (withSpark i s))

def aggregateMetrics : Scene := fun _ i s => do
  let c ← captureOf i plainDatabases
  let outputs ← (← (i "outputs").asItems).mapM DryRun.readAggregate
  sparkOnly ((c.recordAggregateMetrics (i "id") outputs).exec { withSpark i s with digest := fun _ => "<rule>" })

def writing : Scene := fun _ i s => do sparkOnly ((writeTable Spark.session (← (i "name").asText)).exec (withSpark i s))

def finalReport : Scene := fun style i s => do
  let m ← Metadata.read (i.getOr "metadata" (.map []))
  let f := if (i "aggregate").isSet then aggregateReport else report
  let (r, s) := (f (m.tablePlace (i "local").isSet) (← (i "recon_id").asText)).exec (withSpark i s)
  let v := match (← r).verify (i.getOr "operation" "reconcile").shown with
    | .ok o => toValue o
    | .error e => .map [("error", (style e).getD "error")]
  return .map [("calls", s.sparkCalls), ("output", ← r), ("verified", v)]

def volume : Scene := fun style i s => do
  let fail := (i "fail").shown
  let refusal := Reply.failure (.remote "PySparkException" (i.getOr "message" "").shown)
  let s := { s with reaction := fun c => if c.method == fail then some refusal else none }
  let p ← (i "path").asText
  let f : Flow Value := if (i "method").shown == "clean" then toValue <$> Volume.clean p
    else (fun _ => true) <$> Volume.keep Spark.session p
  let (r, s) := f.exec s
  return .map [("result", outcome style r),
    ("calls", Session.sparkCalls { s with calls := s.calls.filter (·.method != fail) })]

def rows : Scene := fun style i s => do
  let c := DryRun.capture (← captureOf i (i "database"))
  let time : Duration := ⟨"<start>", some "<end>"⟩
  let b ← Table.read (i "table")
  let s := { s with digest := fun x => s!"hash({x})" }
  let outs ← (i "outputs").parts.mapM fun v => do
    return (⟨← (v "rule").asRecord? AggregateRule.read, ← DryRun.withFrames v⟩ : AggregateOutput)
  let so : SchemaOutput :=
    { valid := i "schema_valid", frame := if (i "schema_frame").isSet then some (DryRun.frame "schema") else none }
  let o ← DryRun.withFrames (i.getOr "output" (.map []))
  let f := if (i "aggregate").isSet then c.storeAggregates b time outs else c.start b o so time ⟨10, 10⟩
  let (r, s) := f.exec s
  let plain := fun (c : Call) => { c with parts := c.parts.map fun | Value.record .. => .map [] | v => v }
  return .map [("result", outcome style r), ("calls", s.otherCalls.map plain), ("spark", s.sparkCalls)]

def comparison : Scene := fun style i s => do
  let source := DryRun.frame "source"
  let target := DryRun.frame "target"
  let keys ← (i "keys").asRecords? Value.asText
  match ← (i "what").asText with
  | "data" => return frames style i s (Comparison.rows source target keys (i "report").shown "volume")
  | "mismatch" => return frames style i s (Comparison.mismatch source target (keys.getD []))
  | "join" => return frames style i s (Comparison.joinAggregates source target keys "volume")
  | _ => return frames style i s (Flow.ofOutcome (Comparison.aggregateCondition
      (← (i "pairs").asRecords? ColumnMapping.read) (i.getOr "condition" "group_filter").shown
      (i.getOr "operator" "and").shown))

def aggregateComparison : Scene := fun style i s => do
  let r ← match ← (i "rule").asItems with
    | a :: b :: g :: k :: rest => do
      let kind := (rest.head?.getD "AGGREGATE").shown
      pure (⟨a.shown, b.shown, ← g.asRecords? Value.asText, k.shown, kind⟩ : AggregateRule)
    | _ => throw (.wrongKind "not a rule")
  return frames style i s (Comparison.aggregateRule (DryRun.frame "joined") (names (i "source")) (names (i "target")) r)

def packing : Scene := fun style i s => do
  let script := Value.map [("columns", .map [("frame", i "columns")])]
  return (frames style script s (mapColumn (i "id") (DryRun.frame "frame") (← (i "type").asText) (i "status"))) "result"

/-! ### Rehearsing runs

Scripts in which tables are compared as a whole.
-/

def keyed (f : Value → Outcome α) (v : Value) : Outcome (List (List String × α)) :=
  v.parts.mapM fun p => do return (names (p.parts.headD .null), ← f (p.parts.getLastD .null))

def single : Scene := fun _ i s => do
  let b ← Table.read (i "table")
  let seen := fun (k : String) (a b : List Column) => Flow.note k [a, b]
  let c ← DryRun.comparison i
  let c := { c with
    schema := fun _ x y => do seen "schema" x y; DryRun.result (i "schema_result") SchemaOutput.read
    data := fun _ x y => do seen "data" x y; DryRun.result (i "data_result") DataOutput.read }
  let (r, s) := (c.compare (← Database.read (i "database")) b).exec s
  let (schema, data, time) ← r
  return .map [("seen", s.calls.map fun c => Value.list (.text c.name :: c.parts)), ("schema", schema), ("data", data),
    ("finished", time.finish.isSome)]

def whole : Scene := fun style i s => do
  let m ← Metadata.read (i.getOr "metadata" (.map []))
  let go := if (i "aggregate").isSet then runAllAggregates else Reconcile.run
  let (r, s) := (go (← DryRun.comparison i) DryRun.recording (← Database.read (i "database")) m (i "local").isSet
    (← (← (i "tables").asItems).mapM Table.read)).exec (withSpark i s)
  return .map [("result", outcome style r), ("calls", s.otherCalls), ("spark", s.sparkCalls)]

def memory : Scene := fun style i s => do
  let d := DataSource.memory (← keyed Column.readAll (i "schemas")) (← keyed pure (i "frames"))
    (i.getOr "exception" "Mock Exception").shown
  return (← (i "calls").asItems).map fun c => match names c with
    | ["columns", _, place, n] => outcome style ((d.columns (c.parts[1]?.bind Value.shown?) place n true).exec s).1
    | ["read", _, place, n, q, _] => outcome style ((d.read (c.parts[1]?.bind Value.shown?) place n q none).exec s).1
    | [_, n] => toValue (d.normalize n)
    | _ => style (.wrongKind "not a call")

def reconciler : Scene := fun style i _ => do
  let r ← DryRun.reconciler i
  let b ← Table.read (i "table")
  let f : Flow (List Value) := (names (i "steps")).mapM fun s => do
    return outcome style (← Flow.attempt (DryRun.step r b s))
  let (a, s) := f.exec (DryRun.session i)
  return .map [("answers", outcome style a), ("calls", s.calls), ("report_type", r.reportType)]

end WarehouseMigration.Reconcile.Rehearsal
