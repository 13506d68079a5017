import WarehouseMigration.Deployment.Reconciliation

/-!
# Upgrading the result tables

Tables that an earlier version made are altered, or made anew if their columns are not the expected ones.
-/

namespace WarehouseMigration.Deployment

variable (fullName : String)

def installedColumns : Flow (List String) := do
  let rows ← Flow.ofOutcome (← Flow.call "fetch" [s!"DESC {fullName}"]).asItems
  rows.mapM fun row => do return (← Flow.ofOutcome (row.member "col_name")).shown

def execute (statement : Value) : Flow Unit := do let _ ← Flow.call "execute" [statement]

def storedSettings : Flow (Option Reconcile.Settings) :=
  Flow.recover (some <$> Installation.reconcileConfig) fun e =>
      if Installation.isAbsent e then some (pure none) else none

def mainUpgrade : Flow (Option String) := do
  let installed ← installedColumns fullName
  let current ← Flow.ofOutcome (currentColumns "main" fullName)
  if mainDiffers installed current then recreate fullName installed current
  else return some s!"ALTER TABLE {fullName} ADD COLUMN operation_name  STRING AFTER report_type"

/-- Statements that give the counts in the table of metrics room for large numbers. -/
def widenings : List String :=
  s!"ALTER TABLE {fullName} SET TBLPROPERTIES ('delta.enableTypeWidening' = 'true')" ::
    ["row_comparison.missing_in_source", "row_comparison.missing_in_target", "column_comparison.absolute_mismatch",
     "column_comparison.threshold_mismatch"].map fun path =>
      s!"ALTER TABLE {fullName} ALTER COLUMN recon_metrics.{path} TYPE BIGINT"

def metricsUpgrade : Flow (List (Option String)) := do
  let installed ← installedColumns fullName
  let current ← Flow.ofOutcome (currentColumns "metrics" fullName)
  if differ installed current then return [← recreate fullName installed current]
  return (widenings fullName).map some

def upgradeMainTable (s : Reconcile.Settings) : Flow Unit := do
  let place ← Flow.ofOutcome s.results
  if let some statement ← mainUpgrade s!"{place.catalog}.{place.schema}.main" then
    execute statement
    Installation.save s

def upgradeMetricsTable (s : Reconcile.Settings) : Flow Unit := do
  let place ← Flow.ofOutcome s.results
  for statement in ← metricsUpgrade s!"{place.catalog}.{place.schema}.metrics" do execute statement
  Installation.save s

def upgradeMain (d : Deployers) : Flow Unit := do
  if let some s ← storedSettings then
    upgradeMainTable s
    d.job Reconcile.jobName s (← Flow.uploadPackage)

def upgradeMetrics : Flow Unit := do
  if let some s ← storedSettings then upgradeMetricsTable s

end WarehouseMigration.Deployment
