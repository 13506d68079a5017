import WarehouseMigration.Value.Fields
import WarehouseMigration.Text.LetterCase

/-!
# Settings of a comparison

Which databases are compared, where the results are kept, and which tables take part.
-/

namespace WarehouseMigration.Reconcile

structure Database where
  sourceSchema : String
  targetCatalog : String
  targetSchema : String
  sourceCatalog : Option String := none
deriving DecidableEq

namespace Database

def read (v : Value) : Outcome Database := do
  let f ← Fields.ofValue ["source_schema", "target_catalog", "target_schema"] ["source_catalog"] v
  return ⟨(f.get "source_schema").shown, (f.get "target_catalog").shown, (f.get "target_schema").shown,
    (f.get "source_catalog").shown?⟩

instance : ToValue Database := ⟨fun d => .map
  [("source_schema", d.sourceSchema), ("target_catalog", d.targetCatalog), ("target_schema", d.targetSchema),
   ("source_catalog", d.sourceCatalog)]⟩

end Database

/-- Where results and intermediate rows are kept. -/
structure Metadata where
  catalog : String := "remorph"
  schema : String := "reconcile"
  volume : String := "reconcile_volume"
deriving DecidableEq

namespace Metadata

def read (v : Value) : Outcome Metadata := do
  let f ← Fields.ofValue [] ["catalog", "schema", "volume"] v
  let text := fun name (standard : String) => ((f.get? name).getD standard).shown
  return ⟨text "catalog" "remorph", text "schema" "reconcile", text "volume" "reconcile_volume"⟩

def tablePlace (m : Metadata) (isLocal : Bool) : String :=
  if isLocal then "default" else s!"{m.catalog}.{m.schema}"

instance : ToValue Metadata := ⟨fun m => .map
  [("catalog", m.catalog), ("schema", m.schema), ("volume", m.volume)]⟩

end Metadata

/-- The tables of a schema that take part: all, only some, or all but some. -/
structure TableChoice where
  filter : String
  tables : List String
deriving DecidableEq

instance : ToValue TableChoice := ⟨fun c => .map [("filter_type", c.filter), ("tables_list", c.tables)]⟩

def TableChoice.read (v : Value) : Outcome TableChoice := do
  let f ← Fields.ofValue ["filter_type", "tables_list"] [] v
  return ⟨(f.get "filter_type").shown, (← (f.get "tables_list").asItems).map Value.shown⟩

structure Settings where
  dataSource : String
  reportType : String
  secretScope : String
  database : Option Database
  metadata : Option Metadata
  job : Value := .null
  tables : Option TableChoice := none

namespace Settings

def read (v : Value) : Outcome Settings := do
  let f ← Fields.ofValue ["data_source", "report_type", "secret_scope", "database_config", "metadata_config"]
    ["job_id", "tables"] v
  return ⟨(f.get "data_source").shown, (f.get "report_type").shown, (f.get "secret_scope").shown,
    ← (f.get "database_config").asRecord? Database.read, ← (f.get "metadata_config").asRecord? Metadata.read,
    f.get "job_id", ← (f.get "tables").asRecord? TableChoice.read⟩

def readStored (v : Value) : Outcome Settings :=
  match v with
  | .map entries =>
    read (if (entries.lookup "metadata_config").isSome then v else v.extended [("metadata_config", .map [])])
  | _ => read v

instance : ToValue Settings := ⟨fun s => .map
  [("data_source", s.dataSource), ("report_type", s.reportType), ("secret_scope", s.secretScope),
   ("database_config", s.database), ("metadata_config", s.metadata), ("job_id", s.job), ("tables", s.tables)]⟩

def databases (s : Settings) : Outcome Database :=
  match s.database with
  | some d => pure d
  | none => throw (.noMember "no database")

def results (s : Settings) : Outcome Metadata :=
  match s.metadata with
  | some m => pure m
  | none => throw (.noMember "no metadata")

end Settings

/-- The tables of one pair of schemas, whose names are kept in lower case. -/
structure TableSet where
  sourceSchema : String
  targetCatalog : String
  targetSchema : String
  tables : Value
  sourceCatalog : Value := .null

namespace TableSet

def read (v : Value) : Outcome TableSet := do
  let f ← Fields.ofValue ["source_schema", "target_catalog", "target_schema", "tables"] ["source_catalog"] v
  let sourceSchema ← (f.get "source_schema").asText
  let targetSchema ← (f.get "target_schema").asText
  let targetCatalog ← (f.get "target_catalog").asText
  let given := f.get "source_catalog"
  let sourceCatalog ← if given.isSet then Value.text <$> Text.lower <$> given.asText else pure given
  return ⟨Text.lower sourceSchema, Text.lower targetCatalog, Text.lower targetSchema, f.get "tables", sourceCatalog⟩

instance : ToValue TableSet := ⟨fun s => .map
  [("source_schema", s.sourceSchema), ("target_catalog", s.targetCatalog), ("target_schema", s.targetSchema),
   ("tables", s.tables), ("source_catalog", s.sourceCatalog)]⟩

end TableSet

def requireOneOf (allowed : List String) (message value : String) : Outcome Unit :=
  if allowed.contains value then pure ()
  else
    let choice := if allowed.isEmpty then "set()"
      else "\x7b" ++ ", ".intercalate (allowed.map Text.quote) ++ "\x7d"
    throw (.invalidInput s!"{message} --> {value} is not one of {choice}")

end WarehouseMigration.Reconcile
