import WarehouseMigration.Operator
import WarehouseMigration.Connector.Secret

/-!
# Setting up connections

The operator tells how to reach a source, and the answers are stored as secrets under the names that the source's
connector reads.
-/

namespace WarehouseMigration.Connector

def sourceTypes : List String := ["snowflake", "oracle", "databricks", "mssql", "synapse"]

def hasScope (scope : Value) : Flow Bool := do
  return (← Flow.ofOutcome (← Flow.consult "secrets.list_scopes").asItems).any (· == scope)

def ensureScope (scope : Value) : Flow Unit := do
  if ← hasScope scope then return
  unless ← Flow.confirm "Do you want to create a new one?" do
    throw (.exit "Scope is needed to store Secrets in Databricks Workspace")
  let _ ← Flow.call "secrets.create_scope" [scope]

def hasSecret (scope key : Value) : Flow Bool :=
  Flow.recover (do let _ ← Flow.call "secrets.get_secret" [scope, key]; return true)
    fun e => if e.isRemote ["ResourceDoesNotExist"] then some (pure false) else none

def storeSecret (scope key text : Value) : Flow Unit := do
  let _ ← Flow.call "secrets.put_secret" [] [("scope", scope), ("key", key), ("string_value", text)]

def storeSecrets (scope : Value) (secrets : List (String × Value)) : Flow Unit :=
  secrets.forM fun (key, text) => do
    if ← hasSecret scope key then
      if ← Flow.confirm s!"Do you want to overwrite \x60{key}\x60?" then storeSecret scope key text
    else storeSecret scope key text

def chooseSource : Flow Value := Flow.choice "Select the source dialect" (sourceTypes.map Value.text)

def connectionQuestions : String → Option (List (String × String × Option Value))
  | "snowflake" => some [("sfUrl", "Enter Snowflake URL", none), ("account", "Enter Account Name", none),
      ("sfUser", "Enter User", none), ("sfPassword", "Enter Password", none), ("sfDatabase", "Enter Database", none),
      ("sfSchema", "Enter Schema", none), ("sfWarehouse", "Enter Snowflake Warehouse", none),
      ("sfRole", "Enter Role", some " ")]
  | "oracle" => some [("user", "Enter User", none), ("password", "Enter Password", none), ("host", "Enter host", none),
      ("port", "Enter port", none), ("database", "Enter database/SID", none)]
  | _ => none

/-- Asks how to reach a source and stores the answers as secrets.  For a source in the workspace itself nothing has
to be known. -/
def saveConnection (source : Value) : Flow Unit := do
  if source == .text "databricks" then return
  let scope ← Flow.question "Enter Secret Scope name"
  ensureScope scope
  match source.text?.bind connectionQuestions with
  | none => throw (.wrongKind "no questions are known for this source")
  | some questions =>
    storeSecrets scope (← questions.mapM fun (key, prompt, proposal) => do
      return (key, ← Flow.question prompt proposal))

end WarehouseMigration.Connector
