import WarehouseMigration.Operator
import WarehouseMigration.Text.Blank

/-!
# Definitions of the result tables

The statements that make the tables in which reconciliations keep their results, and what can be read off them.
-/

namespace WarehouseMigration.Deployment

def tableDefinitions : List (String × String) :=
  [("main", Text.join "\n" [
     "CREATE TABLE IF NOT EXISTS main (",
     "    recon_table_id BIGINT NOT NULL,",
     "    recon_id STRING NOT NULL,",
     "    source_type STRING NOT NULL,",
     "    source_table STRUCT<",
     "                         catalog: STRING,",
     "                         schema: STRING NOT NULL,",
     "                         table_name: STRING NOT NULL",
     "                        > ,",
     "    target_table STRUCT<",
     "                         catalog: STRING NOT NULL,",
     "                         schema: STRING NOT NULL,",
     "                         table_name: STRING NOT NULL",
     "                        > NOT NULL,",
     "    report_type STRING NOT NULL,",
     "    operation_name  STRING NOT NULL,",
     "    start_ts TIMESTAMP,",
     "    end_ts TIMESTAMP",
     ")",
     "TBLPROPERTIES (",
     "    'delta.columnMapping.mode' = 'name',",
     "    'delta.minReaderVersion' = '2',",
     "    'delta.minWriterVersion' = '5'",
     ");",
     ""]),
   ("metrics", Text.join "\n" [
     "CREATE TABLE IF NOT EXISTS metrics (",
     "    recon_table_id BIGINT NOT NULL,",
     "    recon_metrics STRUCT<",
     "                        row_comparison: STRUCT<",
     "                                                missing_in_source: BIGINT,",
     "                                                missing_in_target: BIGINT",
     "                                              >,",
     "                        column_comparison: STRUCT<",
     "                                                   absolute_mismatch: BIGINT,",
     "                                                   threshold_mismatch: BIGINT,",
     "                                                   mismatch_columns: STRING",
     "                                                 >,",
     "                        schema_comparison: BOOLEAN",
     "                    >,",
     "    run_metrics STRUCT<",
     "                        status: BOOLEAN NOT NULL,",
     "                        run_by_user: STRING NOT NULL,",
     "                        exception_message: STRING",
     "                       > NOT NULL,",
     "    inserted_ts TIMESTAMP NOT NULL",
     ");",
     ""]),
   ("details", Text.join "\n" [
     "CREATE TABLE IF NOT EXISTS details (",
     "    recon_table_id BIGINT NOT NULL,",
     "    recon_type STRING NOT NULL,",
     "    status BOOLEAN NOT NULL,",
     "    data ARRAY<MAP<STRING, STRING>> NOT NULL,",
     "    inserted_ts TIMESTAMP NOT NULL",
     ");",
     ""]),
   ("aggregate_metrics", Text.join "\n" [
     "CREATE TABLE IF NOT EXISTS aggregate_metrics (",
     "    recon_table_id BIGINT NOT NULL,",
     "    rule_id BIGINT NOT NULL,",
     "    recon_metrics STRUCT<",
     "                                                missing_in_source: INTEGER,",
     "                                                missing_in_target: INTEGER,",
     "                                                mismatch: INTEGER",
     "                                           >,",
     "    run_metrics STRUCT<",
     "                        status: BOOLEAN NOT NULL,",
     "                        run_by_user: STRING NOT NULL,",
     "                        exception_message: STRING",
     "                       > NOT NULL,",
     "    inserted_ts TIMESTAMP NOT NULL",
     ");",
     ""]),
   ("aggregate_details", Text.join "\n" [
     "CREATE TABLE IF NOT EXISTS aggregate_details (",
     "    recon_table_id BIGINT NOT NULL,",
     "    rule_id BIGINT NOT NULL,",
     "    recon_type STRING NOT NULL,",
     "    data ARRAY<MAP<STRING, STRING>> NOT NULL,",
     "    inserted_ts TIMESTAMP NOT NULL",
     ");",
     ""]),
   ("aggregate_rules", Text.join "\n" [
     "CREATE TABLE IF NOT EXISTS aggregate_rules (",
     "    rule_id BIGINT NOT NULL,",
     "    rule_type STRING NOT NULL,",
     "    rule_info MAP<STRING, STRING> NOT NULL,",
     "    inserted_ts TIMESTAMP NOT NULL",
     ");",
     ""])]

def recreation (table fullName : String) : Outcome String :=
  match tableDefinitions.lookup table with
  | some sql => pure (Text.replace sql s!"CREATE TABLE IF NOT EXISTS {table}" s!"CREATE OR REPLACE TABLE {fullName}")
  | none => throw (.file .notFound (table ++ ".sql"))

/-- How many characters there are up to the bracket that closes a nested type.  Inside it there may be pairs of
brackets, but none inside of these. -/
def closingAngle (inside : Bool) : List Char → Option Nat
  | [] => none
  | c :: rest =>
    if c = '<' then if inside then none else (closingAngle true rest).map (· + 1)
    else if c = '>' then if inside then (closingAngle false rest).map (· + 1) else some 1
    else (closingAngle inside rest).map (· + 1)

def nestedLength (cs : List Char) : Option Nat :=
  ["STRUCT<", "MAP<"].findSome? fun word =>
    if word.toList.isPrefixOf cs then (closingAngle false (cs.drop word.length)).map (· + word.length) else none

/-- A text without the nested types in it; `skip` characters of one are still to be dropped. -/
def dropNestedFrom (skip : Nat) : List Char → List Char
  | [] => []
  | c :: rest =>
    match skip with
    | k + 1 => dropNestedFrom k rest
    | 0 =>
      match nestedLength (c :: rest) with
      | some n => dropNestedFrom (n - 1) rest
      | none => c :: dropNestedFrom 0 rest

def dropNested (sql : String) : String := String.ofList (dropNestedFrom 0 sql.toList)

def indexOf (c : Char) (cs : List Char) : Outcome Nat :=
  if cs.contains c then pure (cs.takeWhile (· != c)).length else throw (.invalid "substring not found")

def columnTexts (sql : String) : Outcome (List String) := do
  let cs := sql.toList
  let start ← indexOf '(' cs
  let stop ← indexOf ')' cs
  return Text.split (Text.strip (String.ofList ((cs.take stop).drop (start + 1)))) ","

def columnName (definition : String) : String :=
  let cs := ((definition.toList.dropWhile (· = '\n')).reverse.dropWhile (· = '\n')).reverse
  (Text.split (Text.strip (String.ofList cs)) " ").headD ""

def columnNames (sql : String) : Outcome (List String) := do
  return (← columnTexts (dropNested sql)).map columnName

def currentColumns (table fullName : String) : Outcome (List String) := do columnNames (← recreation table fullName)

def differ (installed current : List String) : Bool :=
  installed.length != current.length || installed.mergeSort != current.mergeSort

def mainDiffers (installed current : List String) : Bool :=
  installed.contains "operation_name" && installed.length != (current.filter (· != "operation_name")).length

/-- The statement that brings a table to its current columns.  If columns are missing, the table can only be made
anew, and the operator is asked first; none if they decline. -/
def recreate (fullName : String) (installed current : List String) : Flow (Option String) := do
  if current.all installed.contains then
    let columns := Text.join "," current
    return some s!"CREATE OR REPLACE TABLE {fullName} AS SELECT {columns} FROM {fullName}"
  if ← Flow.confirm (s!"The \x60{fullName}\x60 table columns are not as expected. " ++
      s!"Do you want to recreate the \x60{fullName}\x60 table?") then
    return some (← recreation ((Text.split fullName ".").getLastD "") fullName)
  return none

end WarehouseMigration.Deployment
