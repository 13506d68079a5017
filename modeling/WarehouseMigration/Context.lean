import WarehouseMigration.Deployment.Product

/-!
# Context

The parts that the commands work with.  Each part is made when it is first asked for, together with the parts that it
needs, and kept from then on.
-/

namespace WarehouseMigration.Context

def product : Flow Value := Flow.once "product" (Flow.call "product.describe")

def installation : Flow Value := Flow.once "installation" do
  let _ ← product
  Flow.call "installation.home" [workspace, ← Flow.call "product.label"]

def state : Flow Value := Flow.once "state" do Flow.call "state.open" [← installation]

def prompts : Flow Value := Flow.once "prompts" (Flow.call "prompts.open")

def upgrades : Flow Value := Flow.once "upgrades" do Flow.call "upgrades.open" [← product, ← installation]

def backend : Flow Value := Flow.once "backend" do
  return .record "StatementExecutionBackend" [workspace, ← Flow.setting "warehouse_id"] []

def part (name : String) (needs : List (Flow Value)) : Flow Value := Flow.once name do
  for need in needs do let _ ← need
  return .handle name

def catalogs : Flow Value := part "catalogs" []

def resources : Flow Value := part "resources" [prompts, catalogs]

def tables : Flow Value := part "tables" [backend]

def jobs : Flow Value := part "jobs" [installation, state, product]

def dashboards : Flow Value := part "dashboards" [installation, state]

def reconciliation : Flow Value := part "reconciliation" [installation, state, product, tables, jobs, dashboards]

def deployment : Flow Value := part "deployment" [prompts, installation, reconciliation, product, upgrades]

def analyzer : Flow Value := part "analyzer" [prompts, do
  Flow.call "runner" [(← Flow.consult "log.level") == .text "DEBUG"]]

def user : Flow Value := part "user" [Flow.consult "current_user.me"]

def parts : List (String × Flow Value) :=
  [("product", product), ("installation", installation), ("state", state), ("prompts", prompts),
   ("upgrades", upgrades), ("backend", backend), ("catalogs", catalogs), ("resources", resources), ("tables", tables),
   ("jobs", jobs), ("dashboards", dashboards), ("reconciliation", reconciliation), ("deployment", deployment),
   ("analyzer", analyzer), ("user", user)]

def stored (key : String) (load : Flow Value) : Flow Value :=
  Flow.once key (Flow.recover load fun e => if Installation.isAbsent e then some (pure .null) else none)

def transpileConfig : Flow (Option Transpile.Config) := do
  Flow.ofOutcome ((← stored "transpile configuration" (toValue <$> Installation.transpileConfig)).asRecord?
    Transpile.Config.read)

def reconcileConfig : Flow (Option Reconcile.Settings) := do
  Flow.ofOutcome ((← stored "reconcile configuration" (toValue <$> Installation.reconcileConfig)).asRecord?
    Reconcile.Settings.read)

def configuration : Flow Deployment.Configuration := do
  let transpile ← transpileConfig
  return ⟨transpile, ← reconcileConfig⟩

def addAgent (key value : Value) : Flow Unit := Flow.note "user_agent" [key, value]

end WarehouseMigration.Context
