import WarehouseMigration.Context
import WarehouseMigration.Deployment.Upgrade
import WarehouseMigration.Rehearsal
import WarehouseMigration.Workspace.Script
import WarehouseMigration.Catalog.Setup

/-!
# Rehearsing deployments

Scripts in which tables, jobs and dashboards are deployed to a scripted workspace.
-/

namespace WarehouseMigration.Deployment.Rehearsal

open WarehouseMigration.Rehearsal

/-- A step with the record of deployments after it. -/
def stated [ToValue α] (style : Style) (f : Value → Flow α) (v : Value) : Flow Value := do
  return .map [("result", outcome style (← Flow.attempt (f v))), ("state", Workspace.state (← get))]

def delegate (name : String) (parts : List Value) : Flow Unit := do let _ ← Flow.call name parts

def definitions : Scene := fun style i s =>
  let a := (i "args").parts
  return report style s (show Flow Value from match (i "function").shown, a.map Value.shown with
    | "drop nested", [s] => pure (dropNested s)
    | "column texts", [s] => toValue <$> columnTexts s
    | "column name", [s] => pure (columnName s)
    | "recreation", [t, n] => toValue <$> recreation t n
    | "current columns", [t, n] => toValue <$> currentColumns t n
    | "differ", _ => pure (differ (names (a.headD .null)) (names (a.getLastD .null)))
    | _, n => toValue <$> recreate (n.headD "") (names (a[1]?.getD .null)) (names (a.getLastD .null)))

def mainTable : Scene := fun _ i _ => return mainDiffers (names (i "installed")) (names (i "current"))

def upgrade : Scene := fun style i s =>
  let d : Deployers :=
    { Deployers.ofWorkspace .here with job := fun n c w => delegate "job_deployment.deploy" [n, c, w] }
  let s := Workspace.session i s
  let rows := (i "installed").parts.map fun v => Value.object [("col_name", v)]
  let s := { s with reaction := fun c => if c.name == "fetch" then some (.value rows) else s.reaction c }
  return report style s (if (i "table").shown == "main" then upgradeMain d else upgradeMetrics)

def table : Scene := fun style i s =>
  let files := FileTree.ofValue (.map (if (i "ddl").isNull then [] else [("ddl.sql", i "ddl")]))
  return report style { s with files := files } (deployTableFrom (.ofString "ddl.sql") (i "catalog") (i "schema"))

def job : Scene := fun style i s => return answers style (Workspace.session i s) i (stated style fun v =>
  match v.parts with
  | [n, c, w] => do deployJob n.shown (← Reconcile.Settings.readStored c) w
  | _ => throw (.wrongKind "not a job"))

def withBoards (i : Value) (s : Session) : Session :=
  let s := Workspace.session i s
  { s with
    replies := ("create_dashboard", Reply.readAll (i "created")) :: s.replies
    reaction := fun c =>
      let n := (Path.ofString (c.parts.headD .null).shown).name
      if c.name == "metadata" then some (.value (.object [("display_name", (i "names").getOr n n)])) else s.reaction c }

def deployFrom (folder settings : Value) : Flow Value := do
  silently (deployDashboards (.ofString folder.shown) (← Reconcile.Settings.readStored settings))

def dashboards : Scene := fun style i s => return answers style (withBoards i s) i (stated style fun v =>
  match v.parts with
  | [.text "deploy", f, c] => deployFrom f c
  | [.text "title", n] => toValue <$> Installation.prefixed n.shown
  | [.text "reference", p] => pure (dashboardReference (.ofString p.shown))
  | [.text "existing", d, n] => existingDashboard d n
  | _ => silently (removeDeprecatedDashboards (names (v.parts.getLastD .null))))

def folder : Scene := fun style i s =>
  let (r, s) := (deployFrom (i "folder") (i "recon")).exec (withBoards i s)
  return .map [("result", outcome style r), ("calls", s.calls), ("state", Workspace.state s)]

def reconciliation : Scene := fun style i s =>
  let d : Deployers := ⟨fun c s n f => delegate "tables.deploy" [c, s, n, f],
    fun p c => delegate "dashboards_deployer.deploy" [p, c], fun n c w => delegate "jobs_deployer.deploy" [n, c, w],
    .ofString (i "folder").shown⟩
  let pairs := fun (l : List (String × Int)) => toValue (l.map fun (k, v) => Value.list [k, v])
  return answers style (Workspace.session i s) i (stated style fun v => (show Flow Value from do
    let c ← (v.parts[1]?.getD Value.null).asRecord? Reconcile.Settings.readStored
    match (v.parts.headD .null).shown, c with
    | "dashboards", _ => return (← get).dashboards.map fun ((k, v) : String × Value) => Value.list [k, v]
    | "jobs", _ => return pairs (← comparisonJobs true)
    | "deprecated jobs", _ => return pairs (← comparisonJobs false)
    | "remove dashboards", _ => silently removeDashboards
    | "remove jobs", _ => do silently (removeJobs (← comparisonJobs true))
    | "deploy tables", some c => silently (deployTables d c)
    | "deploy dashboards", some c => silently (d.dashboards d.folder c)
    | "deploy jobs", some c => silently (deployJobs d c (v.parts.getLastD .null))
    | "install", some c => silently (installReconciliation d c (v.parts.getLastD .null).parts)
    | "uninstall", some c => silently (uninstallReconciliation c)
    | _, _ => return .null))

def check (i : Value) : VersionCheck := fun v => do
  Flow.note "check" [v]
  unless (i "valid").isSet do throw (.invalid "not a version")

def version : Scene := fun style i s =>
  let files := FileTree.ofValue (.map [("v", i "text")])
  let (r, s) := (localVersion (check i) (.ofString "v")).exec { s with files := files }
  return .map [("result", outcome style r), ("calls", s.calls.map fun c => c.parts.headD .null)]

def product : Scene := fun style i s =>
  let c : Components := ⟨fun s p => delegate "recon.install" [s, p], fun s => delegate "recon.uninstall" [s]⟩
  let s := Workspace.session i s
  let version := Reply.read (i.getOr "version" (.map [("raise", "ResourceDoesNotExist")]))
  let asksVersion := fun (c : Call) => c.name == "installation.load" && c.parts.head? == some (.text Kept.version.name)
  let s := { s with reaction := fun c => if asksVersion c then some version else s.reaction c }
  return answers style s i fun v => match v.parts with
    | [.text "install", x] => do install (check i) c (← Configuration.read x)
    | [.text "uninstall", x] => do uninstall c (← Configuration.read x)
    | [.text "uninstall all"] => do uninstall c (← Context.configuration)
    | _ => applyUpgrades (check i)

def launch : Scene := fun style i s =>
  return report style (Workspace.session i s) (Reconcile.launch (i.getOr "operation" "reconcile"))

/-- The start of the comparison job, whose answers come from the operator's script. -/
def runner : Scene := fun style i s =>
  let stored := Value.map [("reconcile", i "config"), ("tables", .map [])]
  let s := Workspace.session (.map [("stored", stored), ("jobs", i "jobs")]) s
  let s := { s with
    shared := (Text.startsWith · "jobs.")
    reaction := fun c => if c.name == "installation.load" && c.parts.head? == some (i "fail") then
      some (.failure (.invalid "corrupted")) else s.reaction c }
  return report style s (Reconcile.launch (i.getOr "operation" "reconcile"))

end WarehouseMigration.Deployment.Rehearsal

/-! ### Rehearsing catalogs

Scripts in which catalogs are looked up, created and set up.
-/

namespace WarehouseMigration.Catalog.Rehearsal

open WarehouseMigration.Rehearsal

def step (c : Catalogs) (v : Value) : Flow Value :=
  let sets := fun (v : Value) => v.scripted.parts.map Value.parts
  match v.parts with
  | [.text "catalog"] => chooseCatalog c
  | [.text "schema", a, d] => chooseSchema c a.shown d
  | [.text "volume", a, b, d] => chooseVolume c a.shown b.shown d
  | [.text "warehouse", p] => chooseWarehouse p.shown
  | [.text "access", a, b, v] => silently (requireAccess c a.shown b.shown v.shown?)
  | [.text "missing", u, t, n, s] => toValue <$> missing id u t.scripted n (sets s)
  | _ =>
    match v.parts.tail.reverse with
    | s :: u :: n => toValue <$> mayUse c (.ofPath (n.reverse.map Value.shown)) u (sets s)
    | _ => throw (.noMember "no such step")

def setup : Scene := fun style i s => return answers style (Workspace.session i s) i (step (.ofWorkspace id))

def dialogue : Scene := fun style i s =>
  let ask := fun verb (s : Securable) names => Flow.ask s!"catalogs.{verb}_{s.kind}" (List.map Value.text names)
  return answers style (Workspace.session i s) i (step
    ⟨fun s => ask "get" s s.path, fun s => ask "create" s (if s.kind == "schema" then s.path.reverse else s.path),
      id⟩)

def operations : Scene := fun style i s => return answers style s i fun v => match names v with
  | ["create schema", n, c] => (Catalogs.ofWorkspace id).create (.schema c n)
  | verb :: a =>
    if Text.startsWith verb "create" then (Catalogs.ofWorkspace id).create (.ofPath a) else (Catalogs.ofWorkspace id).find (.ofPath a)
  | _ => throw (.noMember "no such step")

def access : Scene := fun style i s => do
  let (r, s) := (steps style (i "steps").parts fun v => (show Flow Bool from match v.parts with
    | [.text "privileges", u, k, n, w] => hasPrivileges u k n w.parts
    | [_, o, u] => hasAccess (.catalog "") (.object [("owner", o)]) u []
    | _ => throw (.noMember "no such step"))).exec { s with reaction := Workspace.grants (i "grants") }
  return .map [("answers", outcome style r), ("calls", s.calls.map fun c => c.parts ++ c.named.map (·.2))]

end WarehouseMigration.Catalog.Rehearsal
