import WarehouseMigration.Session
import WarehouseMigration.Value.Fields

/-!
# Checking the profiler's tables

After a run the tables of the local database are checked: a column is to have no nulls, and a table is not to be empty.
-/

namespace WarehouseMigration.Profiler

inductive TableCheck where
  | noNulls (table column severity : Value)
  | notEmpty (table severity : Value)

structure Verdict where
  table : Value
  column : Value
  strategy : String
  passed : Bool
  severity : Value

instance : ToValue Verdict := ⟨fun v =>
  .map [("table", v.table), ("column", v.column), ("strategy", v.strategy),
    ("outcome", if v.passed then "PASS" else "FAIL"), ("severity", v.severity)]⟩

namespace TableCheck

def query : TableCheck → String
  | noNulls table column _ => s!"SELECT COUNT(*) FROM {table.shown} WHERE {column.shown} IS NULL"
  | notEmpty table _ => s!"SELECT COUNT(*) FROM {table.shown}"

def hasRows (row : Value) : Outcome (Option Bool) :=
  match row with
  | .list (count :: _) => some <$> count.isAbove 0
  | _ => pure none

def run (check : TableCheck) : Flow Verdict := do
  let rows ← Flow.ofOutcome (hasRows (← Flow.call "execute" [check.query]))
  return match check with
    | noNulls table column severity => ⟨table, column, "NullValidationCheck", rows == some false, severity⟩
    | notEmpty table severity => ⟨table, .null, "EmptyTableValidationCheck", rows == some true, severity⟩

end TableCheck

def checkTables (checks : List TableCheck) : Flow (List Verdict) := checks.mapM TableCheck.run

end WarehouseMigration.Profiler
