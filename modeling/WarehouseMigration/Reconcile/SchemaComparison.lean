import WarehouseMigration.Reconcile.Output
import WarehouseMigration.Reconcile.Table
import WarehouseMigration.Spark

/-!
# Comparison of schemas

Each kept column of the source is paired with the column of the target that it is mapped to, and their types are
compared.  A schema is valid if every pair is.
-/

namespace WarehouseMigration.Reconcile

/-- A source column with the column of the target it is compared with. -/
structure SchemaMatch where
  source : String
  sourceAnsi : String
  sourceType : String
  target : String
  targetType : String
  valid : Bool := true
deriving DecidableEq

namespace SchemaMatch

instance : ToValue SchemaMatch := ⟨fun m => .map
  [("source_column_normalized", m.source), ("source_column_normalized_ansi", m.sourceAnsi),
   ("source_datatype", m.sourceType), ("databricks_column", m.target), ("databricks_datatype", m.targetType),
   ("is_valid", m.valid)]⟩

def read (v : Value) : Outcome SchemaMatch := do
  let f ← Fields.ofValue ["source_column_normalized", "source_column_normalized_ansi", "source_datatype",
    "databricks_column", "databricks_datatype"] ["is_valid"] v
  return ⟨(f.get "source_column_normalized").shown, (f.get "source_column_normalized_ansi").shown,
    (f.get "source_datatype").shown, (f.get "databricks_column").shown, (f.get "databricks_datatype").shown,
    ((f.get? "is_valid").getD true).isSet⟩

def checkTypes (m : SchemaMatch) : SchemaMatch :=
  { m with valid := m.valid && Text.lower m.sourceType = Text.lower m.targetType }

/-- A pair of two dialects is valid if the definition of the source column, as it reads in the target's dialect, is
the definition of the target column, but for the case of letters. -/
def checkDefinition (m : SchemaMatch) (definition : String) : SchemaMatch :=
  { m with valid := m.valid &&
      Text.lower definition = Text.lower s!"create table dummy ({m.sourceAnsi} {m.targetType})" }

def row (m : SchemaMatch) : Value :=
  .list [Identifier.bare m.sourceAnsi, m.sourceType, Identifier.bare m.target, m.targetType, m.valid]

end SchemaMatch

def allValid (pairs : List SchemaMatch) : Bool := pairs.all SchemaMatch.valid

namespace Table

def keeps (t : Table) (c : Column) : Bool :=
  (match t.selectColumns with
    | some (s :: rest) => (s :: rest).contains c.name
    | _ => true) && !(t.dropColumns.getD []).contains c.name

def typeOf (columns : List Column) (name : String) : String :=
  ((columns.find? fun c => c.ansi = name).map Column.type).getD ""

def schemaMatch (t : Table) (target : List Column) (c : Column) : SchemaMatch :=
  ⟨c.source, c.ansi, c.type, t.targetOf c.ansi, typeOf target (t.targetOf c.ansi), true⟩

def schemaMatches (t : Table) (source target : List Column) : List SchemaMatch :=
  (source.filter t.keeps).map (t.schemaMatch target)

end Table

inductive TypeCheck where
  | sameDialect
  /-- the definition of a source column is first read in the target's dialect -/
  | parsed (definition : String → String → Outcome String)

def TypeCheck.check (how : TypeCheck) (m : SchemaMatch) : Outcome SchemaMatch :=
  match how with
  | sameDialect => pure m.checkTypes
  | parsed definition => do return m.checkDefinition (← definition m.source m.sourceType)

def schemaReportColumns : Value :=
  let field := fun (name type : String) (nullable : Bool) =>
    Value.record "StructField" [name, .record type [] [], nullable] []
  .record "StructType" [.list [field "source_column" "StringType" false, field "source_datatype" "StringType" false,
    field "databricks_column" "StringType" true, field "databricks_datatype" "StringType" true,
    field "is_valid" "BooleanType" false]] []

def compareSchemas (how : TypeCheck) (t : Table) (source target : List Column) : Flow SchemaOutput := do
  let pairs ← (t.schemaMatches source target).mapM fun m => Flow.ofOutcome (how.check m)
  let frame ← Spark.make Spark.session "createDataFrame" [.list (pairs.map SchemaMatch.row), schemaReportColumns]
  return ⟨allValid pairs, some frame, none⟩

end WarehouseMigration.Reconcile
