import WarehouseMigration.Identifier
import WarehouseMigration.Failure

/-!
# Connectors

The databases that can be read, with their ways of writing identifiers.
-/

namespace WarehouseMigration

inductive Connector where
  | databricks
  | snowflake
  | oracle
  | tsql
  | memory
deriving DecidableEq

namespace Connector

def ofName (name : String) : Outcome Connector :=
  match name with
  | "databricks" => pure databricks
  | "snowflake" => pure snowflake
  | "oracle" => pure oracle
  | "tsql" => pure tsql
  | "mock" => pure memory
  | _ => throw (.noKey name)

def delimiters : Connector → Delimiters
  | databricks | memory => .ansi
  | snowflake | oracle => .both '"'
  | tsql => ⟨['['], [']']⟩

def bracketQuoted (name : List Char) : List Char :=
  if (Delimiters.both '"').surround name then
    Connector.tsql.delimiters.wrap (Text.replaceChars ['"', '"'] ['"'] (Text.inner name))
  else name

/-- The spellings of a name.  The databases that fold the case of bare names take the bare name as their spelling,
and names held in memory are left as they are. -/
def normalize (connector : Connector) (name : String) : Identifier :=
  match connector with
  | databricks => .normalize databricks.delimiters name
  | snowflake => { Identifier.normalize snowflake.delimiters name with source := Identifier.bare name }
  | oracle => { Identifier.normalize oracle.delimiters name with source := Identifier.bare name }
  | tsql => .normalize tsql.delimiters (String.ofList (bracketQuoted name.toList))
  | memory => ⟨name, name⟩

end Connector

end WarehouseMigration
