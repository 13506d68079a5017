import WarehouseMigration.Session
import WarehouseMigration.Text.LetterCase
import WarehouseMigration.Value.Fields

/-!
# Databases

The connection to a source system: which kinds there are, what is needed for a connection, and how a query is run.
-/

namespace WarehouseMigration.Database

def need (config : Value) (key : String) : Outcome Value :=
  match config with
  | .map entries =>
    match entries.lookup key with
    | some v => pure v
    | none => throw (.noKey key)
  | _ => throw (.wrongKind "not a mapping")

def addressKeys : List String := ["user", "password", "server", "database", "port"]

def driverConnection (config : Value) : Outcome Value := do
  let driver ← need config "driver"
  let query := Sequence.put "driver" driver (config.pairs.filter fun (key, _) => !addressKeys.contains key)
  let user ← need config "user"
  let password ← need config "password"
  let server ← need config "server"
  let database ← need config "database"
  let address := Value.record "URL.create" ["mssql+pyodbc"]
    [("username", user), ("password", password), ("host", server), ("port", config.getOr "port" (.int 1433)),
     ("database", database), ("query", .map query)]
  return .record "create_engine" [address] []

def connect (kind : Value) (config : Value) : Outcome Value := do
  match Text.lower (← kind.asText) with
  | "snowflake" => throw (.notImplemented "Snowflake connector not implemented")
  | "mssql" | "tsql" | "synapse" => driverConnection config
  | _ => throw (.invalid s!"Unsupported database type: {kind.shown}")

def execute (connection : Option Value) (query : String) : Flow Value := do
  match connection with
  | none => throw (.connection "Not connected to the database.")
  | some engine =>
    Flow.note "sessionmaker" [engine]
    Flow.call "connection.execute" [s!"text({query})"]

/-- Runs a query; a server that cannot be reached is a failed connection. -/
def guarded (run : Flow α) : Flow α :=
  Flow.recover run fun e => if e.isRemote ["OperationalError"] then
    some (throw (.connection "Error connecting to the database check credentials")) else none

def answers (run : String → Flow Value) : Flow Bool := do
  match ← guarded (run "SELECT 101 AS test_column") with
  | .null => return false
  | .list (v :: _) => return v == .int 101
  | .list [] => throw (.noIndex "tuple index out of range")
  | _ => throw (.wrongKind "not a row")

end WarehouseMigration.Database
