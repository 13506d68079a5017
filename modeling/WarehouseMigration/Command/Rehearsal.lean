import WarehouseMigration.Command
import WarehouseMigration.Reconcile.Job
import WarehouseMigration.Text.Pattern
import WarehouseMigration.Transpile.Rehearsal
import WarehouseMigration.Transpiler.Rehearsal
import WarehouseMigration.Workspace.Script

/-!
# Rehearsing commands

Commands over a scripted workspace, and the smaller tasks that they are made of.
-/

namespace WarehouseMigration.Command.Rehearsal

open WarehouseMigration.Rehearsal

def tools (style : Style) : Tools where
  engine := fun m => Transpile.Rehearsal.idleEngine m.name
  installed := Transpiler.Rehearsal.labs
  validator := pure .workspace
  label := id
  analysis := fun _ _ _ => pure []
  reachable := fun source config => do
    let _ ← Flow.ofOutcome (Database.connect (.text source) config)
    return true
  nameOf := fun e => (style e).getD "error"
  terminal := false

def command : Scene := fun style i s => do
  let s := Workspace.session i s
  let (r, s) := (run (tools style) (i "name").shown (i.getOr "args" (.map []))).exec s
  return .map [("result", outcome style r), ("calls", s.calls), ("printed", s.printed),
    ("warehouse", (s.client.lookup "warehouse_id").getD .null),
    ("files", if (i "show_files").isSet then toValue s.files else .null)]

def clientSettings : Flow Value := do
  return .map [("warehouse_id", ← effectiveSetting "warehouse_id"), ("cluster_id", ← effectiveSetting "cluster_id")]

def transpilation : Scene := fun style i s => do
  let config ← Transpile.Config.read (i "transpile")
  let engine := Transpile.Rehearsal.idleEngine (i "name")
  let (r, s) := (runTranspiler config engine (pure .workspace)).exec (Workspace.session i s)
  return .map [("result", outcome style r), ("calls", s.calls), ("config", outcome style (clientSettings.exec s).1),
    ("files", s.files)]

def overrides : Scene := fun _ i s => ((do
  overrideClient (i "overrides")
  clientSettings : Flow Value).exec (Workspace.session i s)).1

def identity : Scene := fun _ i s => do
  let client := match i.get? "product" with
    | some v => [("_product_info", v)]
    | none => []
  let named ← ((do Flow.identifyClient ""; Flow.setting "_product_info" : Flow Value).exec { s with client := client }).1
  return .map [("same", true), ("product", named.parts.headD .null)]

def warehouse : Scene := fun style i s =>
  let task := match (i "function").shown with
    | "create warehouse" => Warehouse.create
    | _ => silently (Warehouse.remove ((i "args").parts.headD .null))
  return report style (Workspace.session i s) task

def backend : Scene := fun _ i s => do
  let s := { s with
    client := [("warehouse_id", i "configured")]
    environment := (i "environ").pairs.map fun ((k, v) : String × Value) => (k, v.shown) }
  match ← ((Warehouse.backend ((i "args").parts.headD .null)).exec s).1 with
  | .record name arguments _ => return .list [name, arguments.tail]
  | v => return v

def timing : Scene := fun style i s => do
  let (r, s) := (Telemetry.timed (i "module").shown do
    Flow.note "task" (i "args").parts (i "kwargs").pairs
    return i "result").exec s
  return .map [("result", outcome style r), ("calls", .list (s.calls.map fun c => .list [.list c.parts, .map c.named]))]

def firstInstallation : Scene := fun style i s =>
  return report style (withReplies "installer.upgrade" (.list [i "upgraded"]) s) (setUp (i "terminal"))

def proxy : Scene := fun _ i _ => return .list [.list [i "name", proxyHelp (i "name").shown]]

def proxyRun : Scene := fun style i s => do
  let reaction := fun (c : Call) => match c.name with
    | "wait" => some (Reply.value (i.getOr "code" (.int 0)))
    | "run" => match i "compile" with
      | .int code => some (Reply.failure (.process (Value.list c.parts).shown code))
      | _ => none
    | _ => none
  let (r, s) := (runProxy (.ofString "root") ((i "level").shown == "DEBUG") (names (i "arguments"))).exec
    { s with reaction := reaction }
  let r := if (i "command").isNull then r else r.map fun _ => .null
  return .map [("result", outcome style r), ("calls", .list (s.calls.map fun c => .list [c.name, .list c.parts]))]

def labels : Scene := fun _ i _ => do
  let test := fun (key : String) => match Text.Pattern.parse (i key).shown with
    | some p => pure p
    | none => throw (Failure.badPattern "no pattern")
  let alphanum ← test "alphanum"
  let semver ← test "semver"
  return ((names (i "values")).map (Telemetry.label alphanum.begins semver.begins))

def operation : Scene := fun _ i _ => do
  let _ ← Reconcile.Operation.ofArguments (names (i "argv"))
  return .null

def job : Scene := fun style i s =>
  let s := Workspace.session i s
  let compare := fun (o : Reconcile.Operation) (settings : Reconcile.Settings) (_ : Value) => do
    Flow.note (if o = .tables then "recon" else "aggregates") ["spark", workspace, settings]
    if let some reason := (i "fails").shown? then
      throw (.reconciliation reason (Text.quote "output"))
  return report style s (Reconcile.runJob compare ("main" :: names (i "arguments")))

def connectorName : Connector → String
  | .databricks => "databricks"
  | .snowflake => "snowflake"
  | .oracle => "oracle"
  | .tsql => "tsql"
  | .memory => "mock"

def equipment : Scene := fun _ i s => do
  let settings ← Reconcile.Settings.readStored (i "config")
  let (e, s) := (Reconcile.equipment settings (i "local").isSet).exec (Workspace.session i s)
  let e ← e
  return .map [("source", connectorName e.source), ("target", connectorName e.target), ("report_type", e.reportType),
    ("capture", [e.reportType, e.place]),
    ("same_product", ((s.client.lookup "_product_info").getD .null).parts.headD .null)]

def adapter : Scene := fun _ i _ => do return .text (connectorName (← Connector.ofDialect (i "dialect").shown))

end WarehouseMigration.Command.Rehearsal
