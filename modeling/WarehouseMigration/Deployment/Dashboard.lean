import WarehouseMigration.Workspace
import WarehouseMigration.Session.Files

/-!
# Deploying dashboards

Each folder with a dashboard's description becomes a dashboard of the workspace, and the workspace's identifiers of the
dashboards are kept by reference.
-/

namespace WarehouseMigration.Deployment

def dashboardReference (folder : Path) : String := Text.lower folder.stem

def isGone : Failure → Bool := Failure.isRemote ["InvalidParameterValue", "NotFound"]

def existingDashboard (id title : Value) : Flow Value := do
  let state ← Flow.ofOutcome ((← Flow.call "lakeview.get" [id]).member "lifecycle_state")
  if state.isNull then throw (.remote "NotFound" s!"Dashboard life cycle state: {title.shown} ({id.shown})")
  return if state == .constant "LifecycleState.TRASHED" then .null else id

/-- The dashboard to be replaced, null if a new one is to be made.  What is left of one that cannot be found is
removed first. -/
def dashboardToReplace (parent title : String) (known : Value) : Flow Value := do
  if known.isNull then return .null
  Flow.recover (existingDashboard known title) fun e => if isGone e then some do
    Flow.recover (do let _ ← Flow.call "workspace.delete" [s!"{parent}/{title}.lvdash.json"])
      fun e => if Installation.isAbsent e then some (pure ()) else none
    return .null
  else none

def deployDashboard (folder : Path) (parent : String) (place : Reconcile.Metadata) : Flow Unit := do
  let board ← Flow.call "metadata" [folder]
  let _ ← Flow.call "replace_database" [] [("catalog", place.catalog), ("catalog_to_replace", "remorph"),
    ("database", place.schema), ("database_to_replace", "reconcile")]
  let title ← Installation.prefixed (← Flow.ofOutcome (board.member "display_name")).shown
  let reference := dashboardReference folder
  let known := ((← get).dashboards.lookup reference).getD .null
  let replaced ← dashboardToReplace parent title known
  let made ← Flow.call "create_dashboard" [title] [("dashboard_id", replaced), ("parent_path", parent),
    ("warehouse_id", ← Flow.setting "warehouse_id"), ("publish", true)]
  if made.isNull then throw (.broken "")
  modify fun s => { s with dashboards := Sequence.put reference made s.dashboards }

def removeDashboard (reference : String) (id : Value) : Flow Unit := do
  modify fun s => { s with dashboards := s.dashboards.filter (·.1 != reference) }
  Flow.recover (do let _ ← Flow.call "lakeview.trash" [id]) fun e => if isGone e then some (pure ()) else none

/-- The table of dashboards must have as many entries as when one began to go through it. -/
def checkSize (size : Nat) : Flow Unit := do
  if (← get).dashboards.length != size then throw (.runtime "dictionary changed size during iteration")

def eachDashboard (size : Nat) (task : String → Value → Flow Unit) : List (String × Value) → Flow Unit
  | [] => checkSize size
  | (reference, id) :: rest => do
    checkSize size
    task reference id
    eachDashboard size task rest

def removeIfDeprecated (valid : List String) (reference : String) (id : Value) : Flow Unit := do
  unless valid.contains reference do removeDashboard reference id

def removeDeprecatedDashboards (valid : List String) : Flow Unit := do
  let table := (← get).dashboards
  eachDashboard table.length (removeIfDeprecated valid) table

def deployDashboards (folder : Path) (s : Reconcile.Settings) : Flow Unit := do
  let parent := (← Installation.folder) ++ "/dashboards"
  Flow.recover (do let _ ← Flow.call "workspace.mkdirs" [parent])
    fun e => if e.isRemote ["ResourceAlreadyExists"] then some (pure ()) else none
  let folders ← (← Flow.listDirectory folder).filterM fun p => do
    if ← Flow.isDirectory p then Flow.pathExists (p.child "dashboard.yml") else return false
  for p in folders do
    deployDashboard p parent (← Flow.ofOutcome s.results)
    Flow.saveState
  removeDeprecatedDashboards (folders.map dashboardReference)

end WarehouseMigration.Deployment
