import WarehouseMigration.Credentials
import WarehouseMigration.Database
import WarehouseMigration.Machine
import WarehouseMigration.Reconcile.Launch

/-!
# Setting up the profiler

The dialogue in which the operator gives the credentials of a source system for the profiler.
-/

namespace WarehouseMigration.Profiler

def sources : List String := ["mssql", "synapse"]

def askNumber (prompt : String) : Flow Value := do
  let answer ← Flow.ask "question" [prompt] [("valid_number", true)]
  return .int (← Flow.ofOutcome (Reconcile.wholeNumber answer))

def askAll (parts : List (String × Flow Value)) : Flow Value := do
  return .map (← parts.mapM fun ((key, ask) : String × Flow Value) => do return (key, ← ask))

def askConsent (prompt : String) : Flow Value := Flow.ask "confirm" [prompt]

def askServer : Flow Value := askAll
  [("database", Flow.question "Enter the database name"), ("driver", Flow.question "Enter the driver details"),
   ("server", Flow.question "Enter the server or host details"), ("port", askNumber "Enter the port details"),
   ("user", Flow.question "Enter the user details"), ("password", Flow.question "Enter the password details")]

def askPools : Flow Value := askAll
  [("workspace", askAll
      [("name", Flow.question "Enter Synapse workspace name"),
       ("dedicated_sql_endpoint", Flow.question "Enter dedicated SQL endpoint"),
       ("serverless_sql_endpoint", Flow.question "Enter serverless SQL endpoint"),
       ("sql_user", Flow.question "Enter SQL user"), ("sql_password", Flow.question "Enter SQL password"),
       ("tz_info", Flow.question "Enter timezone (e.g. America/New_York)" (some "UTC"))]),
   ("azure_api_access", askAll
      [("development_endpoint", Flow.question "Enter development endpoint"),
       ("azure_client_id", Flow.question "Enter Azure client ID"),
       ("azure_tenant_id", Flow.question "Enter Azure tenant ID"),
       ("azure_client_secret", Flow.question "Enter Azure client secret")]),
   ("jdbc", askAll
      [("auth_type", Flow.choice "Select authentication type"
          ["sql_authentication", "ad_passwd_authentication", "spn_authentication"]),
       ("fetch_size", Flow.question "Enter fetch size" (some "1000")),
       ("login_timeout", Flow.question "Enter login timeout (seconds)" (some "30"))]),
   ("profiler", askAll
      [("exclude_serverless_sql_pool", askConsent "Exclude serverless SQL pool from profiling?"),
       ("exclude_dedicated_sql_pools", askConsent "Exclude dedicated SQL pools from profiling?"),
       ("exclude_spark_pools", askConsent "Exclude Spark pools from profiling?"),
       ("exclude_monitoring_metrics", askConsent "Exclude monitoring metrics from profiling?"),
       ("redact_sql_pools_sql_text", askConsent "Redact SQL pools SQL text?")])]

def keepCredentials (file : Path) (credentials : Value) : Flow Unit := do
  if ← Flow.pathExists file then Machine.copyFile file (file.withSuffix ".bak")
  Flow.writeText file (Yaml.render credentials)

def askCredentials (source : String) (file : Path) : Flow Unit := do
  let vault ← Flow.choice "Enter secret vault type (local | env)" ["local", "env"]
  let own ← if source == "mssql" then askServer else askPools
  keepCredentials file (.map
    [("secret_vault_type", Text.lower vault.shown), ("secret_vault_name", .null), (source, own)])

def testConnection (check : String → Value → Flow Bool) (source : String) : Flow Unit := do
  let credentials ← Credentials.load "lakebridge"
  let config ← Flow.ofOutcome (credentials.ofSource (← get).environment source)
  let refused : Failure := .exit "Connection validation failed. Exiting..."
  let reached ← Flow.recover (check source (.map config)) fun
    | .connection _ => some (throw refused)
    | _ => none
  unless reached do throw refused

/-- The whole dialogue for a source system; `check` tells whether a database can be reached. -/
def configure (check : String → Value → Flow Bool) (source : String) (file : Path) : Flow Unit := do
  unless sources.contains source do throw (.invalid s!"Unsupported source system: {source}")
  askCredentials source file
  if ← Flow.confirm s!"Do you want to test the connection to {source}?" then testConnection check source

end WarehouseMigration.Profiler
