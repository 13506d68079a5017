import WarehouseMigration.SourceFile
import WarehouseMigration.Transpile.Engine

/-!
# The built-in engine

The tokens of a script are cut into chunks, one for each statement: a chunk ends with a semicolon or with the script.

The built-in engine knows many dialects of SQL through a grammar.  It transpiles a script as a whole; if that fails it
goes through the script statement by statement, and what it cannot transpile becomes a problem.
-/

namespace WarehouseMigration.Sql

structure Token where
  text : String
  kind : String
deriving DecidableEq

def Token.ends (t : Token) : Bool := t.kind == "SEMICOLON"

abbrev Chunk := List Token

def Chunk.text (c : Chunk) : String := Text.strip (" ".intercalate (c.map Token.text))

def chunks : List Token → List Chunk
  | [] => []
  | t :: rest =>
    if t.ends then [t] :: chunks rest
    else
      match chunks rest with
      | [] => [[t]]
      | c :: others => (t :: c) :: others

/-! ### The built-in engine -/

open WarehouseMigration.Transpile

def dialects : List String :=
  ["athena", "bigquery", "databricks", "mssql", "mysql", "netezza", "oracle", "postgresql", "presto", "redshift",
   "snowflake", "sqlite", "synapse", "teradata", "trino", "tsql", "vertica"]

def engineName : String := "sqlglot"

/-- What is to be known of a statement about tables and column aliases. -/
structure Statement where
  /-- the root table of each statement in it that makes or changes a table -/
  changes : List (Option String) := []
  /-- the root table of each query in it -/
  queries : List (Option String) := []
  /-- the aliases of columns that are used in a condition -/
  inConditions : List String := []
  /-- the aliases of columns that are used in a window -/
  inWindows : List String := []

/-- A grammar of the dialects, with statements of type `ε`. -/
structure Grammar (ε : Type) where
  tokens : (dialect text : String) → Flow (List Token)
  parse : (dialect : String) → Chunk → Flow (List ε)
  reset : Flow Unit
  /-- a statement in a dialect -/
  generate : (dialect : String) → ε → Flow String
  /-- a whole text from one dialect to another -/
  transpile : (source target text : String) → Flow (List String)
  /-- what is known of the statements of a text -/
  statements : (dialect text : String) → Flow (List (Option Statement))

/-- A statement and what is wrong with it. -/
structure Defect where
  sql : String
  problem : Problem

instance : ToValue Defect := ⟨fun d => .map [("original_sql", d.sql), ("transpile_error", d.problem)]⟩

/-- The problem of a statement that a grammar refused; other failures are no problems of the statement.  The word for
an error stands in the notice. -/
def refusal (word path sql : String) (failure : Failure) : Option Problem :=
  let problem := fun (code title : String) =>
    some (⟨code, .parsing, .error, path, errorNotice (title ++ " " ++ word) failure.message sql, none⟩ : Problem)
  match failure with
  | .remote "TokenError" _ => problem "TOKEN_ERROR" "Token"
  | .remote "ParseError" _ => problem "PARSE_ERROR" "Parsing"
  | .remote "UnsupportedError" _ => problem "UNSUPPORTED_SQL" "Unsupported SQL"
  | _ => none

def each (word path : String) (text : α → String) (act : α → Flow β) : List α → Flow (List β × List Defect)
  | [] => return ([], [])
  | a :: rest => do
    match ← (act a).attempt with
    | .ok b =>
      let (done, defects) ← each word path text act rest
      return (b :: done, defects)
    | .error e =>
      match refusal word path (text a) e with
      | none => throw e
      | some problem =>
        let (done, defects) ← each word path text act rest
        return (done, ⟨text a, problem⟩ :: defects)

namespace Grammar

variable {ε : Type}

variable (g : Grammar ε)

def parseChunk (dialect : String) (c : Chunk) : Flow (String × ε) :=
  Flow.ensure (do
    match ← g.parse dialect c with
    | e :: _ => return (c.text, e)
    | [] => throw (.noIndex "list index out of range")) g.reset

def parseChunks (dialect path : String) (cs : List Chunk) : Flow (List (String × ε) × List Defect) :=
  each "error" path Chunk.text (g.parseChunk dialect) cs

def parseText (dialect text path : String) : Flow (List (String × ε) × List Defect) := do
  match ← (g.tokens dialect text).attempt with
  | .ok ts => g.parseChunks dialect path (chunks ts)
  | .error e =>
    match e, refusal "error" path text e with
    | .remote "TokenError" _, some problem => return ([], [⟨text, problem⟩])
    | _, _ => throw e

def write (dialect : String) (e : ε) : Flow String := do
  let sql ← g.generate dialect e
  if Text.startsWith sql "--" then throw (.remote "UnsupportedError" "Unsupported SQL")
  return sql

def writeAll (dialect path : String) (parsed : List (String × ε)) : Flow (List String × List Defect) :=
  each "Error" path (·.1) (fun p => g.write dialect p.2) parsed

def transpileEach (source target text path : String) : Flow (List String × List Defect) := do
  let (parsed, defects) ← g.parseText source text path
  let (sqls, more) ← g.writeAll target path parsed
  return (sqls, defects ++ more)

def aliasSentence (place : String) : List String → List String
  | [] => []
  | aliases =>
    let listed := ", ".intercalate aliases
    [s!"Lateral column aliases \x60{listed}\x60 found in {place}."]

def aliasProblem (dialect text path : String) : Flow (Option Problem) := do
  match ← (g.statements dialect text).attempt with
  | .error e => if (refusal "" path text e).isSome then return none else throw e
  | .ok statements =>
    let known := statements.filterMap id
    let conditions := (known.flatMap Statement.inConditions).eraseDups
    let windows := (known.flatMap Statement.inWindows).eraseDups
    if conditions.isEmpty && windows.isEmpty then return none
    let sentences := s!"Unsupported operation found in file {path}. Needs manual review of transpiled query." ::
      (aliasSentence "where clause" conditions ++ aliasSentence "window expressions" windows)
    return some ⟨"UNSUPPORTED_LCA", .analysis, .error, path, " ".intercalate sentences, none⟩

def transpileChecked (check : Flow (Option Problem)) (source target text path : String) :
    Flow Transpiled := do
  if let some problem ← check then return ⟨text, 1, [problem]⟩
  match ← (g.transpile source target text).attempt with
  | .ok sqls => return ⟨"\n".intercalate sqls, sqls.length, []⟩
  | .error e =>
    if (refusal "" path text e).isNone then throw e
    let (sqls, defects) ← g.transpileEach source target text path
    return ⟨"\n".intercalate sqls, 1, defects.map Defect.problem⟩

def transpileText (source target text path : String) : Flow Transpiled :=
  g.transpileChecked (g.aliasProblem source text path) source target text path

def statementsOf (dialect text path : String) : Flow (Except Problem (List (Option Statement))) := do
  match ← (g.statements dialect text).attempt with
  | .ok statements => return .ok statements
  | .error e =>
    match refusal "Error" path text e with
    | some problem => return .error problem
    | none => throw e

end Grammar

def Statement.lineage (path : String) (s : Statement) : List (String × String) :=
  let made := s.changes.foldl (fun _ table => table.getD "") path
  s.queries.filterMap fun table =>
    match table with
    | none | some "" => none
    | some name => some (name, made)

def Grammar.lineage (g : Grammar ε) (dialect text path : String) : Flow (List (String × String)) := do
  match ← g.statementsOf dialect text path with
  | .ok statements => return (statements.filterMap id).flatMap (·.lineage path)
  | .error _ => return []

def engine (g : Grammar ε) : Engine where
  name := engineName
  transpile := fun source target text file => g.transpileText source target text file.toString
  supports := SourceFile.isSql

end WarehouseMigration.Sql
