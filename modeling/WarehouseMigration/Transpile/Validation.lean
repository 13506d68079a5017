import WarehouseMigration.Operator
import WarehouseMigration.Transpile.Config

/-!
# Validation

Transpiled SQL can be validated: the workspace is asked to explain the query.  A query that cannot be explained is
replaced by a note of the exception; some exceptions only say that tables are not there yet and count as warnings.
-/

namespace WarehouseMigration.Transpile

structure Verdict where
  sql : String
  complaint : Option String

instance : ToValue Verdict := ⟨fun v => .map [("validated_sql", v.sql), ("exception_msg", v.complaint)]⟩

structure Validator where
  validate : Config → String → Flow Verdict

namespace Validation

def explained (sql : String) : String :=
  "EXPLAIN " ++ Text.replace (Text.replace (Text.replace sql "$\x7b" "\x60\x7b") "\x7d" "\x7d\x60") "\x60\x60" "\x60"

/-- How an exception is to be taken. -/
inductive Weight where
  | error
  | warning
deriving DecidableEq

/-- Exceptions that only say that something is not there yet are warnings. -/
def weigh (message : String) : Weight :=
  let tells := Text.contains message
  if tells "[PARSE_SYNTAX_ERROR]" || tells "[UNRESOLVED_ROUTINE]" then .error
  else if tells "[TABLE_OR_VIEW_NOT_FOUND]" || tells "[TABLE_OR_VIEW_ALREADY_EXISTS]" ||
    tells "Hive support is required to CREATE Hive TABLE (AS SELECT).;" then .warning
  else .error

def planOf (row : Value) (standard : String) : Value := row.getOr "plan" (.text standard)

def exceptionIn (rows : List Value) : Outcome (Option String) := do
  match rows with
  | [] => return none
  | first :: rest =>
    if !(← (planOf first "").holds "Error occurred during query planning") then return none
    match rest with
    | second :: _ => return some (planOf second "Unknown error.").shown
    | [] => return some "Unknown error."

def explain (sql : String) (catalog schema : Value) : Flow (Option (Weight × String)) := do
  match ← Flow.attempt (Flow.call "fetch" [explained sql] [("catalog", catalog), ("schema", schema)]) with
  | .ok rows =>
    if rows.parts.isEmpty then return some (.error, "No results returned from explain query.")
    return (← exceptionIn rows.parts).map fun message => (weigh message, message)
  | .error (.remote "DatabricksError" message) => return some (weigh message, message)
  | .error failure => throw failure

/-- The text that takes the place of a query that is not valid. -/
def note (sql message : String) : String :=
  let shown :=
    Text.contains message "[UNRESOLVED_ROUTINE]" || Text.contains message "[UNRESOLVED_COLUMN.WITHOUT_SUGGESTION]"
  "-------------- Exception Start-------------------\n/*\n" ++ message ++ "\n*/\n" ++ (if shown then sql else "") ++
    "\n ---------------Exception End --------------------\n"

def validate (config : Config) (sql : String) : Flow Verdict := do
  match ← explain sql config.catalog config.schema with
  | none => return ⟨sql, none⟩
  | some (.warning, message) => return ⟨sql, some s!"[WARNING]: {message}"⟩
  | some (.error, message) => return ⟨note sql message, some message⟩

end Validation

def Validator.workspace : Validator := ⟨Validation.validate⟩

end WarehouseMigration.Transpile
