import WarehouseMigration.Path
import WarehouseMigration.Sequence
import WarehouseMigration.Value.Fields

/-!
# Configuration of a transpilation

What is to be transpiled, by which transpiler, and where the results and the error log go.  Configurations that were
stored by earlier versions are brought up to date step by step.
-/

namespace WarehouseMigration.Transpile

structure Config where
  /-- the file that describes the transpiler -/
  transpiler : Option String := none
  sourceDialect : Option String := none
  inputSource : Option String := none
  outputFolder : Option String := none
  errorFile : Option String := none
  client : Value := .null
  skipValidation : Value := .bool false
  catalog : Value := .text "remorph"
  schema : Value := .text "transpiler"
  /-- settings that only this transpiler has -/
  options : Value := .null

namespace Config

def settings : List String := ["transpiler_config_path", "source_dialect", "input_source", "output_folder",
  "error_file_path", "sdk_config", "skip_validation", "catalog_name", "schema_name", "transpiler_options"]

def read (v : Value) : Outcome Config := do
  let f ← Fields.ofValue [] settings v
  return {
    transpiler := (f.get "transpiler_config_path").shown?
    sourceDialect := (f.get "source_dialect").shown?
    inputSource := (f.get "input_source").shown?
    outputFolder := (f.get "output_folder").shown?
    errorFile := (f.get "error_file_path").shown?
    client := f.get "sdk_config"
    skipValidation := (f.get? "skip_validation").getD (.bool false)
    catalog := (f.get? "catalog_name").getD (.text "remorph")
    schema := (f.get? "schema_name").getD (.text "transpiler")
    options := f.get "transpiler_options" }

instance : ToValue Config := ⟨fun c => .map [
  ("transpiler_config_path", c.transpiler), ("source_dialect", c.sourceDialect), ("input_source", c.inputSource),
  ("output_folder", c.outputFolder), ("error_file_path", c.errorFile), ("sdk_config", c.client),
  ("skip_validation", c.skipValidation), ("catalog_name", c.catalog), ("schema_name", c.schema),
  ("transpiler_options", c.options)]⟩

def transpilerPath (c : Config) : Option Path := c.transpiler.map .ofString

def inputPath (c : Config) : Outcome Path :=
  match c.inputSource with
  | some source => pure (.ofString source)
  | none => throw (.invalid "Missing input source!")

def outputPath (c : Config) : Option Path := c.outputFolder.map .ofString

def errorPath (c : Config) : Option Path := (c.errorFile.filter (· != "")).map .ofString

def targetDialect : String := "databricks"

variable (raw : List (String × Value))

def migrateFirst : List (String × Value) := Sequence.put "version" (.int 2) raw

def renames : List (String × String) :=
  [("input_sql", "input_source"), ("output_folder", "output_path"), ("source", "source_dialect")]

def renamed (key : String) : String := (renames.lookup key).getD key

/-- Drops the mode, and gives the error log its standard place. -/
def refresh : List (String × Value) :=
  Sequence.put "error_file_path" (.text "error_log.txt")
    (Sequence.put "version" (.int 3) (raw.filter (·.1 != "mode")))

/-- Refreshes a configuration and gives its entries their new names. -/
def upgrade : List (String × Value) :=
  Sequence.lastOf ((refresh raw).map fun e => (renamed e.1, e.2))

/-- Brings a stored configuration from version 2, which has a mode, to version 3. -/
def migrateSecond : Outcome (List (String × Value)) := do
  if (raw.lookup "mode").isNone then throw (.noKey "mode")
  return upgrade raw

end Config

end WarehouseMigration.Transpile
