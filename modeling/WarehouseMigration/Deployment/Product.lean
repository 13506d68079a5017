import WarehouseMigration.Deployment.Reconciliation
import WarehouseMigration.Value.Literal

/-!
# Deploying the product

The product is installed in a workspace or removed from it.  Before an installation, what earlier versions left there
is upgraded.
-/

namespace WarehouseMigration.Deployment

structure Configuration where
  transpile : Option Transpile.Config := none
  reconcile : Option Reconcile.Settings := none

instance : ToValue Configuration := ⟨fun c => .map [("transpile", c.transpile), ("reconcile", c.reconcile)]⟩

def Configuration.read (v : Value) : Outcome Configuration := do
  return ⟨← (v.getD "transpile").asRecord? Transpile.Config.read,
    ← (v.getD "reconcile").asRecord? Reconcile.Settings.readStored⟩

structure Components where
  install : Reconcile.Settings → List Value → Flow Unit
  uninstall : Reconcile.Settings → Flow Unit

abbrev VersionCheck := Value → Flow Unit

def versionRecord (version date : Value) : Value :=
  .record "Version" [] [("version", version), ("date", date),
    ("wheel", s!"databricks_labs_lakebridge-{version.shown}-py3-none-any.whl")]

def versionEntry (data : Value) (key : String) : Outcome Value :=
  match data with
  | .map _ =>
    match data.get? key with
    | some v => pure v
    | none => throw (.noKey key)
  | _ => throw (.wrongKind "not a map")

def localVersion (check : VersionCheck) (file : Path) : Flow Value := do
  let data ← Flow.ofOutcome (Literal.parse (← Flow.readText file))
  unless data.isSet do throw (.broken "Unable to read local version file.")
  let version ← Flow.ofOutcome (versionEntry data "version")
  let version ← Flow.recover (do check version; return version)
    fun e => if e.isInvalid then some (pure (.text "v0.3.0")) else none
  return versionRecord version (← Flow.ofOutcome (versionEntry data "date"))

def workspaceVersion : Flow Value :=
  Flow.recover (Installation.load .version)
    fun e => if e.isRemote ["ResourceDoesNotExist"] then some (pure .null) else none

def localVersionFile : Flow Path := do
  return .ofString s!".databricks/labs/{(← Flow.distribution).shown}/state/version.json"

def applyUpgrades (check : VersionCheck) : Flow Unit := do
  let known ← workspaceVersion
  let file ← localVersionFile
  let isLocal ← Flow.pathExists file
  if !known.isSet && isLocal then Installation.save (← localVersion check file)
  if known.isSet || isLocal then
    Flow.recover (do let _ ← Flow.call "upgrades.apply" [workspace]) fun e => if isGone e then some (pure ()) else none

def install (check : VersionCheck) (parts : Components) (c : Configuration) : Flow Unit := do
  applyUpgrades check
  let package ← Flow.uploadPackage
  if let some s := c.reconcile then parts.install s [package]

def uninstall (parts : Components) (c : Configuration) : Flow Unit := do
  unless ← Flow.confirm ("Do you want to uninstall Lakebridge from the workspace too, this would " ++
      "remove Lakebridge project folder, jobs, metadata and dashboards") do return
  let _ ← Flow.setting "host"
  match ← (Flow.call "installation.files").attempt with
  | .error e => if Installation.isAbsent e then return else throw e
  | .ok _ =>
    if let some s := c.reconcile then parts.uninstall s
    let _ ← Flow.call "installation.remove"

end WarehouseMigration.Deployment
