import WarehouseMigration.Reconcile.Reconciler
import WarehouseMigration.Reconcile.Report

/-!
# Runs

A run compares the tables of a set one after another, records the result of each, and ends with a report.  A source
that cannot be read in a comparison is a result like the others: it is recorded, and the run goes on with the next
table.  A source whose rows cannot be counted ends the run.
-/

namespace WarehouseMigration.Reconcile

def reportTypes : List String := ["schema", "data", "row", "all", "aggregate"]

structure TableComparison where
  source : DataSource
  target : DataSource
  reportType : String
  schema : Table → List Column → List Column → Flow SchemaOutput
  data : Table → List Column → List Column → Flow DataOutput
  aggregates : Table → List Column → List Column → Flow (List AggregateOutput)
  recordCount : Table → Flow RecordCount

def Reconciler.comparison (r : Reconciler AggregateRule) : TableComparison where
  source := r.source
  target := r.target
  reportType := r.reportType
  schema := r.reconcileSchema
  data := r.reconcileData
  aggregates := fun t source target => do
    return (← r.reconcileAggregates t source target).map fun (rule, output) => ⟨some rule, output⟩
  recordCount := r.recordCount

structure Recording where
  runId : String
  start : Table → DataOutput → SchemaOutput → Duration → RecordCount → Flow Unit
  store : Table → Duration → List AggregateOutput → Flow Unit

def TableComparison.columns (c : TableComparison) (d : Database) (t : Table) (normalize : Bool) :
    Flow (List Column × List Column) := do
  let source ← c.source.columns d.sourceCatalog d.sourceSchema t.sourceName normalize
  let target ← c.target.columns (some d.targetCatalog) d.targetSchema t.targetName normalize
  return (source, target)

variable (c : TableComparison)

def TableComparison.runSchema (t : Table) (source target : List Column) : Flow SchemaOutput := do
  match ← (c.schema t source target).attempt with
  | .ok o => return o
  | .error e => if Volume.isSparkFailure e then return ⟨false, none, some e.message⟩ else throw e

def TableComparison.runData (t : Table) (source target : List Column) : Flow DataOutput := do
  match ← (c.data t source target).attempt with
  | .ok o => return o
  | .error (.dataSource reason) => return { exception := some reason }
  | .error e => throw e

def TableComparison.asksSchema : Bool := ["schema", "all"].contains c.reportType

def TableComparison.asksRows : Bool := ["data", "row", "all"].contains c.reportType

def TableComparison.schemaPart (t : Table) (source target : List Column) : Flow SchemaOutput :=
  if c.asksSchema then c.runSchema t source target else pure {}

/-- The result on the rows, which is empty if the report does not ask for it. -/
def TableComparison.dataPart (t : Table) (source target : List Column) : Flow DataOutput :=
  if c.asksRows then c.runData t source target else pure {}

def TableComparison.outputs (d : Database) (t : Table) : Flow (SchemaOutput × DataOutput) := do
  match ← (c.columns d t true).attempt with
  | .error (.dataSource reason) => return ({ valid := false, exception := some reason }, {})
  | .error e => throw e
  | .ok (source, target) => return (← c.schemaPart t source target, ← c.dataPart t source target)

def TableComparison.compare (d : Database) (t : Table) :
    Flow (SchemaOutput × DataOutput × Duration) := do
  let start ← Flow.now ""
  let (schema, data) ← c.outputs d t
  return (schema, data, ⟨start, some (← Flow.now "")⟩)

def Table.normalizeFor (t : Table) (source target : DataSource) : Table :=
  t.normalizeBy (fun name => (source.normalize name).ansi) (fun name => (target.normalize name).ansi)

def runTable (r : Recording) (d : Database) (m : Metadata) (t : Table) : Flow Unit := do
  let t := t.normalizeFor c.source c.target
  let (schema, data, time) ← c.compare d t
  let count ← c.recordCount t
  r.start t data schema time count
  unless c.reportType = "schema" do Volume.clean (t.volumePath m)

def conclude (r : Recording) (m : Metadata) (isLocal : Bool) : Flow Report := do
  let outcome ← report (m.tablePlace isLocal) r.runId
  Flow.ofOutcome (outcome.verify "reconcile")

def run (r : Recording) (d : Database) (m : Metadata) (isLocal : Bool) (tables : List Table) :
    Flow Report := do
  tables.forM (runTable c r d m)
  conclude r m isLocal

def runAggregates (r : Recording) (d : Database) (m : Metadata) (t : Table) : Flow Unit := do
  let start ← Flow.now ""
  let (source, target) ← match ← (c.columns d t false).attempt with
    | .ok columns => pure columns
    | .error (.dataSource reason) => throw (.reconciliation reason "None")
    | .error e => throw e
  if (t.aggregates.getD []).isEmpty then throw (.broken "Aggregates must be defined for Aggregates Reconciliation")
  let outputs ← match ← (c.aggregates t source target).attempt with
    | .ok outputs => pure outputs
    | .error (.dataSource reason) => pure [⟨none, { exception := some reason }⟩]
    | .error e => throw e
  r.store t ⟨start, some (← Flow.now "")⟩ outputs
  Volume.clean (t.volumePath m)

def runAllAggregates (r : Recording) (d : Database) (m : Metadata) (isLocal : Bool)
    (tables : List Table) : Flow Report := do
  tables.forM (runAggregates c r d m)
  let outcome ← aggregateReport (m.tablePlace isLocal) r.runId
  Flow.ofOutcome (outcome.verify "aggregates-reconcile")

end WarehouseMigration.Reconcile
