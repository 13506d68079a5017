import WarehouseMigration.Reconcile.Launch
import WarehouseMigration.Reconcile.Run

/-!
# The job

What the job in the workspace does: it reads its operation from the command line, loads the configurations, and
compares.
-/

namespace WarehouseMigration

def Connector.ofDialect (dialect : String) : Outcome Connector :=
  match dialect with
  | "snowflake" => pure .snowflake
  | "oracle" => pure .oracle
  | "databricks" => pure .databricks
  | "tsql" => pure .tsql
  | _ => throw (.invalid s!"Unsupported source type --> {dialect}")

namespace Reconcile

inductive Operation where
  | tables
  | aggregates
deriving DecidableEq

def Operation.ofArguments (arguments : List String) : Outcome Operation :=
  match arguments with
  | [_, "reconcile"] => pure .tables
  | [_, "aggregates-reconcile"] => pure .aggregates
  | [_, other] => throw (.broken s!"Invalid option: {other}")
  | _ => throw (.broken s!"Invalid number of arguments: {arguments.length}, Operation name must be specified.")

/-- Runs the job: `compare` does the work with the settings and the tables. -/
def runJob (compare : Operation → Settings → Value → Flow Unit) (arguments : List String) : Flow Unit := do
  let operation ← Flow.ofOutcome (Operation.ofArguments arguments)
  Flow.note "home" [productName]
  let settings ← Installation.reconcileConfig
  let file ← Flow.ofOutcome settings.tablesFile
  let tables ← Installation.load .tables (some file)
  match operation with
  | .tables => compare operation settings tables
  | .aggregates => compare operation { settings with reportType := "aggregate" } tables

structure Equipment where
  source : Connector
  target : Connector
  reportType : String
  place : String

def equipment (s : Settings) (isLocal : Bool) : Flow Equipment := do
  Flow.identifyClient (← Flow.distributionVersion)
  let reportType := Text.lower s.reportType
  Flow.ofOutcome (requireOneOf reportTypes "Invalid report type" reportType)
  let source ← Flow.ofOutcome (Connector.ofDialect s.dataSource)
  let metadata ← Flow.ofOutcome s.results
  return ⟨source, .databricks, reportType, metadata.tablePlace isLocal⟩

end Reconcile

end WarehouseMigration
