import WarehouseMigration.Deployment.Dashboard
import WarehouseMigration.Deployment.TableDefinition
import WarehouseMigration.Reconcile.Launch

/-!
# Deploying comparisons

Comparisons need their result tables, dashboards and the job in the workspace.
-/

namespace WarehouseMigration.Deployment

/-! ### Deploying the job

The job that runs comparisons is described to the workspace; a job that was deployed before is brought up to date.
-/

def clusterKey : String := "Remorph_Reconciliation_Cluster"

def jobLibraries (s : Reconcile.Settings) (package : Value) : List Value :=
  .record "Library" [] [("whl", package)] ::
    if s.dataSource == "oracle" then
      [.record "Library" [] [("maven", .record "MavenLibrary" ["com.oracle.database.jdbc:ojdbc8:23.4.0.24.05"] [])]]
    else []

def jobTask (s : Reconcile.Settings) (package : Value) : Value :=
  .record "Task" [] [("task_key", "run_reconciliation"), ("description", "Run the reconciliation process"),
    ("job_cluster_key", clusterKey), ("libraries", jobLibraries s package),
    ("python_wheel_task", .record "PythonWheelTask" [] [("package_name", "databricks_labs_remorph"),
      ("entry_point", "reconcile"), ("parameters", ["\x7b\x7bjob.parameters.[operation_name]\x7d\x7d"])])]

def jobSettings (name : String) (s : Reconcile.Settings) (package : Value) : Flow (List (String × Value)) := do
  let spark ← Flow.call "clusters.select_spark_version" [] [("latest", true), ("long_term_support", true)]
  let version ← Flow.distributionVersion
  let version := if (← Flow.setting "is_gcp").isSet then Text.replace version "+" "-" else version
  let hour ← Flow.now "75 minutes from now, %Y%m%d%H"
  let mark := if (← Flow.distribution) == .text "remorph" then [] else [("RemoveAfter", Value.text hour)]
  let title ← Installation.prefixed name
  let node ← Flow.call "clusters.select_node_type" [] [("local_disk", true), ("min_memory_gb", .int 16)]
  return [("name", title), ("tags", .map (("version", .text ("v" ++ version)) :: mark)),
    ("job_clusters", [Value.record "JobCluster" [] [("job_cluster_key", clusterKey),
      ("new_cluster", .record "ClusterSpec" [] [("data_security_mode", .constant "DataSecurityMode.USER_ISOLATION"),
        ("spark_conf", .map []), ("node_type_id", node),
        ("autoscale", .record "AutoScale" [] [("min_workers", .int 2), ("max_workers", .int 10)]),
        ("spark_version", spark)])]]),
    ("tasks", [jobTask s package]), ("max_concurrent_runs", .int 2),
    ("parameters", [Value.record "JobParameterDefinition" [] [("name", "operation_name"), ("default", "reconcile")]])]

def createJob (name : String) (description : List (String × Value)) : Flow Unit := do
  let job ← Flow.call "jobs.create" [] description
  let number ← Flow.ofOutcome (job.member "job_id")
  if number.isNull then throw (.broken "")
  modify fun s => { s with jobs := Sequence.put name (.text number.shown) s.jobs }

def updateOrCreateJob (name : String) (s : Reconcile.Settings) (package : Value) : Flow Unit := do
  let description ← jobSettings name s package
  match (← get).jobs.lookup name with
  | none => createJob name description
  | some number =>
    let number ← Flow.ofOutcome (Reconcile.wholeNumber number)
    Flow.recover (do let _ ← Flow.call "jobs.reset" [number, .record "JobSettings" [] description])
      fun e => if e.isRemote ["InvalidParameterValue"] then some do
        modify fun x => { x with jobs := x.jobs.filter (·.1 != name) }
        createJob name (← jobSettings name s package)
      else none

def deployJob (name : String) (s : Reconcile.Settings) (package : Value) : Flow Unit := do
  updateOrCreateJob name s package
  Flow.saveState

/-! ### Deploying all parts -/

structure Deployers where
  /-- makes a table of a catalog and schema from the definition in a file -/
  table : (catalog schema name file : String) → Flow Unit
  dashboards : Path → Reconcile.Settings → Flow Unit
  job : String → Reconcile.Settings → Value → Flow Unit
  folder : Path

def executeDefinition (definition : String) (catalog schema : Value) : Flow Unit := do
  let _ ← Flow.call "backend.execute" [definition] [("catalog", catalog), ("schema", schema)]

def deployTableFrom (file : Path) (catalog schema : Value) : Flow Unit := do
  executeDefinition (← Flow.readText file) catalog schema

def Deployers.ofWorkspace (folder : Path) : Deployers where
  table catalog schema _ file := do
    executeDefinition ((tableDefinitions.lookup (Path.ofString file).stem).getD "") catalog schema
  dashboards := deployDashboards
  job := deployJob
  folder := folder

def tableLabel (file : String) : String :=
  let drop := List.dropWhile fun c => ".sql".toList.contains c
  String.ofList (drop (drop file.toList).reverse).reverse

def comparisonJobs (withPresent : Bool) : Flow (List (String × Int)) := do
  let jobs := (← get).jobs.filter fun (name, _) =>
    Text.startsWith name "Reconciliation" && (withPresent || name != Reconcile.jobName)
  jobs.mapM fun (name, number) => do return (name, ← Flow.ofOutcome (Reconcile.wholeNumber number))

def removeJobs (jobs : List (String × Int)) : Flow Unit :=
  jobs.forM fun (name, number) => do
    modify fun s => { s with jobs := s.jobs.filter (·.1 != name) }
    Flow.recover (do let _ ← Flow.call "jobs.delete" [number]) fun e => if isGone e then some (pure ()) else none

def removeDashboards : Flow Unit := do
  (← get).dashboards.forM fun (reference, id) => removeDashboard reference id

def deployJobs (d : Deployers) (s : Reconcile.Settings) (package : Value) : Flow Unit := do
  d.job Reconcile.jobName s package
  removeJobs (← comparisonJobs false)

def deployTables (d : Deployers) (s : Reconcile.Settings) : Flow Unit := do
  let place ← Flow.ofOutcome s.results
  for (table, _) in tableDefinitions do
    let file := table ++ ".sql"
    d.table place.catalog place.schema (tableLabel file) file

def installReconciliation (d : Deployers) (s : Reconcile.Settings) (packages : List Value) : Flow Unit := do
  deployTables d s
  d.dashboards d.folder s
  match packages.filter fun p => Text.contains p.shown productName with
  | [] => throw (.noIndex "no package of the product")
  | package :: _ => deployJobs d s package
  Flow.saveState

def uninstallReconciliation (s : Reconcile.Settings) : Flow Unit := do
  removeDashboards
  removeJobs (← comparisonJobs true)
  let _ ← Flow.ofOutcome s.results

end WarehouseMigration.Deployment
