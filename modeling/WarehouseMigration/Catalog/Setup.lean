import WarehouseMigration.Catalog

/-!
# Setting up catalogs

The operator names the catalog, schema, volume and warehouse to work with.  What does not exist is created if they
agree, and the user's access to all of it is checked.
-/

namespace WarehouseMigration.Catalog

def createdName (created : Value) : Outcome Value := do
  let name ← created.member "name"
  if name.isNull then throw (.broken "") else return name

variable (catalogs : Catalogs)

/-- Makes sure that something exists; if the operator does not want it created, the run ends. -/
def obtain (s : Securable) (name : Value) (offer refusal : String) : Flow Value := do
  if (← catalogs.find s).isSet then return name
  if ← Flow.confirm offer then return ← Flow.ofOutcome (createdName (← catalogs.create s))
  throw (.exit refusal)

def chooseCatalog : Flow Value := do
  let name ← Flow.question "Enter catalog name" (some "remorph")
  obtain catalogs (.catalog name.shown) name s!"Catalog \x60{name.shown}\x60 doesn't exist. Create it?"
    "Cannot continue installation, without a valid catalog, Aborting the installation."

def chooseSchema (catalog : String) (proposal : Value) : Flow Value := do
  let name ← Flow.question "Enter schema name" (some proposal)
  obtain catalogs (.schema catalog name.shown) name
    s!"Schema \x60{name.shown}\x60 doesn't exist in catalog \x60{catalog}\x60. Create it?"
    "Cannot continue installation, without a valid schema. Aborting the installation."

def chooseVolume (catalog schema : String) (proposal : Value) : Flow Value := do
  let name ← Flow.question "Enter volume name" (some proposal)
  obtain catalogs (.volume catalog schema name.shown) name
    s!"Volume \x60{name.shown}\x60 doesn't exist in catalog \x60{catalog}\x60 and schema \x60{schema}\x60. Create it?"
    "Cannot continue installation, without a valid volume. Aborting the installation."

def memberName : Value → String
  | .constant name => Flow.lastName name
  | v => v.shown

def memberValue : Value → Outcome Value
  | .constant name => pure (Flow.lastName name)
  | v => v.member "value"

def warehouseOption (w : Value) : Outcome (Option (String × Value)) := do
  let type ← w.member "warehouse_type"
  unless type == .constant "EndpointInfoWarehouseType.PRO" do return none
  let name ← w.member "name"
  let id ← w.member "id"
  let kind ← if (← w.member "enable_serverless_compute").isSet then pure (.text "SERVERLESS") else memberValue type
  let state ← memberValue (← w.member "state")
  return some (s!"{name.shown} ({id.shown}, {kind.shown}, {state.shown})", id)

def createWarehouse (title : String) : Flow Value := do
  let created ← Flow.call "warehouses.create" [] [("name", title ++ " " ++ (← Flow.now "nanoseconds")),
    ("spot_instance_policy", .constant "SpotInstancePolicy.COST_OPTIMIZED"),
    ("warehouse_type", .constant "CreateWarehouseRequestWarehouseType.PRO"), ("cluster_size", "Small"),
    ("max_num_clusters", .int 1)]
  Flow.ofOutcome (created.member "id")

def chooseWarehouse (title : String) : Flow Value := do
  let listed ← Flow.ofOutcome ((← Flow.call "warehouses.list").asItems)
  let options ← Flow.ofOutcome (listed.mapM warehouseOption)
  let table := (options.filterMap id).foldl (fun table (label, number) => Sequence.put label number table)
    [("[Create new PRO SQL warehouse]", Value.text "create_new")]
  let chosen ← Flow.ask "choice_from_dict" ["Select PRO or SERVERLESS SQL warehouse", .map table]
  if chosen == .text "create_new" then createWarehouse title else return chosen

def missing (listed : List Value → List Value) (user type name : Value) (sets : List (List Value)) : Flow String := do
  unless name.isSet do throw (.broken s!"Catalog Resource name must be provided {name.shown}")
  let lacking ← sets.filterMapM fun wanted => do
    if ← hasPrivileges user type name wanted then return none
    return some (" * '" ++ Text.join ", " ((listed wanted).map memberName) ++ "' ")
  return Text.join " OR \n" lacking

def privilege (name : String) : Value := .constant ("Privilege." ++ name)

/-- The sets of privileges of which a user needs one. -/
def required : Securable → List (List Value)
  | .catalog _ => [[privilege "ALL_PRIVILEGES"], [privilege "USE_CATALOG"]]
  | .schema .. => [[privilege "ALL_PRIVILEGES"],
      ["USE_SCHEMA", "MODIFY", "SELECT", "CREATE_VOLUME"].map privilege,
          ["USE_SCHEMA", "MODIFY", "SELECT"].map privilege]
  | .volume .. => [[privilege "ALL_PRIVILEGES"], ["READ_VOLUME", "WRITE_VOLUME"].map privilege]

def mayUse (s : Securable) (user : Value) (sets : List (List Value)) : Flow Bool := do
  let found ← catalogs.find s
  unless found.isSet do throw (.broken s!"{Text.capitalize s.kind} not found {s.fullName}")
  if ← hasAccess s found user sets then return true
  let name ← Flow.ofOutcome (grantedName s found)
  let lacking ← missing catalogs.listed user s.type name sets
  let title := if s.kind == "catalog" then s.fullName else name.shown
  Flow.notice (s!"User \x60{user.shown}\x60 doesn't have required privileges :: \n\x60{lacking}\x60\n " ++
    s!"to access {s.kind} \x60{title}\x60 ")
  return false

def requireAccess (catalog schema : String) (volume : Option String) : Flow Unit := do
  let user ← Flow.userName
  if user.isNull then throw (.broken "")
  let securables := [Securable.catalog catalog, .schema catalog schema] ++
    ((volume.filter (· != "")).map (Securable.volume catalog schema)).toList
  let verdicts ← securables.mapM fun s => mayUse catalogs s user (required s)
  unless verdicts.all id do
    throw (.exit "Cannot continue installation, without necessary access. Aborting the installation.")

end WarehouseMigration.Catalog
