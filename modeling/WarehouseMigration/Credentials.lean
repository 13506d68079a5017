import WarehouseMigration.Session.Files
import WarehouseMigration.Value.Fields
import WarehouseMigration.Yaml

/-!
# Credentials

The credentials of the source systems are kept in one file.  A value in it is the credential itself, or the name of an
environment variable, according to the vault that the file names.
-/

namespace WarehouseMigration

structure Credentials where
  entries : List (String × Value)
  vault : String

namespace Credentials

def file (home product : String) : Path :=
  (Path.ofString s!".databricks/labs/{product}/.credentials.yml").absolute home

def read (v : Value) : Outcome Credentials :=
  match v with
  | .map entries => do return ⟨entries, Text.lower (← ((entries.lookup "secret_vault_type").getD "local").asText)⟩
  | _ => throw (.noMember "not a mapping")

def load (product : String) : Flow Credentials := do
  let path := file (← get).home product
  let text ← Flow.recover (Flow.readLines path) fun
    | .file .notFound _ => some (throw (.missing .notFound s!"Credentials file not found at {path}"))
    | _ => none
  Flow.ofOutcome (read (← Yaml.ofFile path.toString text))

def look (c : Credentials) (environment : List (String × String)) (v : Value) : Outcome Value :=
  match c.vault with
  | "local" => pure v
  | "env" => pure (((environment.lookup v.shown).map .text).getD v)
  | "databricks" => throw (.notImplemented "Databricks secret vault not implemented")
  | vault => throw (.invalid s!"Unsupported secret vault type: {vault}")

def ofSource (c : Credentials) (environment : List (String × String)) (source : String) :
    Outcome (List (String × Value)) := do
  match c.entries.lookup source with
  | none => throw (.noKey s!"Source system: {source} credentials not found")
  | some (.map entries) => entries.mapM fun ((key, v) : String × Value) => do return (key, ← c.look environment v)
  | some _ => throw (.noKey s!"Invalid credential format for source: {source}")

end Credentials

end WarehouseMigration
