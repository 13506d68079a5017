import WarehouseMigration.Operator
import WarehouseMigration.Reconcile.Settings
import WarehouseMigration.Transpile.Config

/-!
# Workspace

The workspace that a run works in: the settings of its client, the installation that keeps the configurations, and
the record of what was deployed.
-/

namespace WarehouseMigration

def productName : String := "lakebridge"

def workspace : Value := .handle "workspace"

namespace Flow

def setting (name : String) : Flow Value := do
  match (← get).client.lookup name with
  | some v => return v
  | none => throw (.noMember name)

def changeSetting (name : String) (v : Value) : Flow Unit :=
  modify fun s => { s with client := Sequence.put name v s.client }

def userName : Flow Value := do ofOutcome ((← consult "current_user.me").member "user_name")

def identifyClient (version : String) : Flow Unit := do
  let named ← setting "_product_info"
  unless named.parts.head? == some (.text productName) do
    changeSetting "_product_info" (.list [productName, version])

def browse (address : String) : Flow Unit := note "browser" [address]

end Flow

/-- What an installation keeps. -/
inductive Kept where
  | transpile
  | reconcile
  | tables
  | version

def Kept.name : Kept → String
  | transpile => "transpile"
  | reconcile => "reconcile"
  | tables => "tables"
  | version => "version"

namespace Installation

def load (kept : Kept) (file : Option String := none) : Flow Value := Flow.call "installation.load" [kept.name, file]

def save (v : Value) : Flow Unit := do let _ ← Flow.call "installation.save" [v]

def folder : Flow String := do return (← Flow.consult "installation.folder").shown

def product : Flow String := do return (← Flow.consult "installation.product").shown

def link (file : String) : Flow String := do return (← Flow.consult "installation.link" [file]).shown

def transpileConfig : Flow Transpile.Config := do Flow.ofOutcome (Transpile.Config.read (← load .transpile))

def reconcileConfig : Flow Reconcile.Settings := do Flow.ofOutcome (Reconcile.Settings.readStored (← load .reconcile))

def isAbsent : Failure → Bool := Failure.isRemote ["NotFound"]

def isCorrupted (e : Failure) : Bool :=
  e.isInvalid || e.isRemote ["PermissionDenied", "SerdeError"] ||
    match e with
    | .noMember _ => true
    | _ => false

def prefixed (name : String) : Flow String := do
  return Text.replace (Text.upper (← product) ++ "_" ++ name) " " "_"

end Installation

def Flow.distribution : Flow Value := Flow.consult "product.name"

def Flow.distributionVersion : Flow String := do return (← Flow.consult "product.version").shown

def Flow.uploadPackage : Flow String := do
  let path ← Flow.ensure (Flow.call "wheels.upload") (Flow.note "wheels.exit")
  return "/Workspace" ++ path.shown

def Flow.saveState : Flow Unit := do let _ ← Flow.call "state.save"

end WarehouseMigration

/-! ### Warehouses

The warehouses of a workspace, and the backend that statements are sent to.
-/

namespace WarehouseMigration.Warehouse

def create : Flow Value := do
  let stamp ← Flow.now "nanoseconds"
  let made ← Flow.call "warehouses.create_and_wait" []
    [("name", s!"{productName}-warehouse-{stamp}"),
     ("warehouse_type", .constant "CreateWarehouseRequestWarehouseType.PRO"), ("cluster_size", "Small"),
     ("auto_stop_mins", .int 30), ("enable_serverless_compute", true), ("max_num_clusters", .int 1)]
  let id ← Flow.ofOutcome (made.member "id")
  if id.isNull then
    let name ← Flow.ofOutcome (made.member "name")
    throw (.runtime s!"Failed to create warehouse {name.shown}")
  return id

def remove (id : Value) : Flow Unit := do let _ ← Flow.call "warehouses.delete" [id]

def backend (given : Value := .null) : Flow Value := do
  let id ← if given.isSet then pure given else Flow.setting "warehouse_id"
  if id.isSet then return .record "StatementExecutionBackend" [workspace, id] []
  if ((← get).environment.lookup "DATABRICKS_RUNTIME_VERSION").isSome then return .record "RuntimeBackend" [] []
  return .record "DatabricksConnectBackend" [workspace] []

end WarehouseMigration.Warehouse
