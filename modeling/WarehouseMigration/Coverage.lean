import WarehouseMigration.SourceFile
import WarehouseMigration.Text.Blank
import WarehouseMigration.Value.Fields

/-!
# Coverage

How much of a corpus of SQL files a grammar can parse and transpile.  A survey writes one line for each file, and a
report adds up the lines of all surveys.
-/

namespace WarehouseMigration.Coverage

structure Entry where
  project : Value
  commit : Value
  version : Value
  time : Value
  source : Value
  target : Value
  file : Value
  parsed : Value := .int 0
  statements : Value := .int 0
  transpiled : Value := .int 0
  transpiledStatements : Value := .int 0
  failures : Value := .list []

namespace Entry

instance : ToValue Entry := ⟨fun e =>
  .map [("project", e.project), ("commit_hash", e.commit), ("version", e.version), ("timestamp", e.time),
    ("source_dialect", e.source), ("target_dialect", e.target), ("file", e.file), ("parsed", e.parsed),
    ("statements", e.statements), ("transpiled", e.transpiled), ("transpiled_statements", e.transpiledStatements),
    ("failures", e.failures)]⟩

def read (v : Value) : Outcome Entry := do
  let f ← Fields.ofValue
    ["project", "commit_hash", "version", "timestamp", "source_dialect", "target_dialect", "file"]
    ["parsed", "statements", "transpiled", "transpiled_statements", "failures"] v
  let number := fun (name : String) => (f.get? name).getD (.int 0)
  return ⟨f.get "project", f.get "commit_hash", f.get "version", f.get "timestamp", f.get "source_dialect",
    f.get "target_dialect", f.get "file", number "parsed", number "statements", number "transpiled",
    number "transpiled_statements", (f.get? "failures").getD (.list [])⟩

def line (e : Entry) : String := Json.render e ++ "\n"

end Entry

/-! ### Surveys -/

structure Survey where
  project : String
  commit : String
  version : String
  source : String
  target : String
  parse : String → Flow (List Value)
  generate : List Value → Flow (List String)
  nameOf : Failure → String

namespace Survey

def failure (s : Survey) (e : Failure) : Value :=
  let name := s.nameOf e
  .list [.map [("error_code", name), ("error_message", s!"{name}({Text.quote e.message})")]]

def examine (s : Survey) (file text : String) : Flow Entry := do
  let entry : Entry := { project := s.project, commit := s.commit, version := s.version, time := ← Flow.now "",
                         source := s.source, target := s.target, file := file }
  match ← (s.parse text).attempt with
  | .error e => return { entry with failures := s.failure e }
  | .ok statements =>
    let entry := { entry with parsed := .int 1, statements := statements.length }
    match ← (s.generate statements).attempt with
    | .error e => return { entry with failures := s.failure e }
    | .ok texts =>
      return { entry with
        transpiled := .int 1
        transpiledStatements := (texts.filter fun text => Text.strip text != "").length }

def readMarked (file : Path) : Flow String := do
  let text ← Flow.readLines file
  return match text.toList with
    | '﻿' :: rest => String.ofList rest
    | _ => text

def run (s : Survey) (input report : Path) : Flow Unit := do
  Flow.writeText report ""
  for file in ← SourceFile.sqlFiles input do
    let text ← readMarked file
    let shown := (file.relativeTo? input.parent).getD file
    Flow.appendText report (← s.examine shown.toString text).line

end Survey

def requireFolders (input output : Path) : Flow Unit := do
  unless ← Flow.isDirectory input do
    throw (.missing .notADirectory s!"The input path {input} doesn't exist or is not a directory")
  if !(← Flow.pathExists output) then Flow.makeDirectories output
  else unless ← Flow.isDirectory output do
    throw (.missing .notADirectory s!"The output path {output} exists but is not a directory")

def collect (s : Survey) (input output : Path) : Flow Unit := do
  requireFolders input output
  let stamp ← Flow.now "nanoseconds"
  s.run input (output.child (Text.lower s!"{s.project}_{s.source}_{s.target}_{stamp}.json"))

/-! ### Reports -/

def total : List Value → Outcome Value
  | [] => pure (.int 0)
  | v :: rest => go (.int 0) (v :: rest)
where
  go (sum : Value) : List Value → Outcome Value
    | [] => pure sum
    | v :: rest =>
      match sum.number?, v.number? with
      | some (.inl a), some (.inl b) => go (.int (a + b)) rest
      | some (.inl a), some (.inr b) => go (.float (Float.ofInt a + b)) rest
      | some (.inr a), some (.inl b) => go (.float (a + Float.ofInt b)) rest
      | some (.inr a), some (.inr b) => go (.float (a + b)) rest
      | _, _ => throw (.wrongKind "not a number")

def share (v : Value) (count : Nat) : Float :=
  match v.number? with
  | some (.inl n) => Float.ofInt n / Float.ofNat count
  | some (.inr x) => x / Float.ofNat count
  | none => 0

def summary (project dialect : Value) (entries : List Entry) : Outcome String := do
  let count := entries.length
  let parsed ← total (entries.map Entry.parsed)
  let transpiled ← total (entries.map Entry.transpiled)
  let parsedShare := Decimal.percent (share parsed count)
  let transpiledShare := Decimal.percent (share transpiled count)
  return s!"{project.shown} -> {dialect.shown}: {parsedShare} parsed ({parsed.shown}/{count}), " ++
    s!"{transpiledShare} transpiled ({transpiled.shown}/{count})"

def linesOf (text : String) : List String :=
  match (Text.split text "\n").reverse with
  | "" :: rest => rest.reverse
  | lines => lines.reverse

def readEntries (text : String) : Outcome (List Entry) :=
  (linesOf text).mapM fun (line : String) =>
    match Json.parse line with
    | some v => Entry.read v
    | none => throw (.badJson "Expecting value")

def surveyFiles (folder : Path) : Flow (List Path) := do
  unless ← Flow.isDirectory folder do return []
  return (← Flow.walk folder).flatMap fun (_, folders, files) =>
    (folders ++ files).filter fun file => Text.endsWith file.name ".json"

def precedes (a b : (Value × Value) × List Entry) : Bool :=
  Sequence.inOrder [a.1.1.shown, a.1.2.shown] [b.1.1.shown, b.1.2.shown]

def report (folder : Path) : Flow Unit := do
  let mut entries := []
  for file in ← surveyFiles folder do
    entries := entries ++ (← Flow.ofOutcome (readEntries (← Flow.readLines file)))
  let key := fun (e : Entry) => (e.project, e.source)
  let keys := (entries.map key).eraseDups
  let groups := keys.map fun k => (k, entries.filter fun e => key e == k)
  for (k, group) in groups.mergeSort precedes do
    Flow.printLine (← Flow.ofOutcome (summary k.1 k.2 group))

/-! ### Programs -/

def setting? (name : String) (required : Bool) : Flow (Option String) := do
  match (← get).environment.lookup name with
  | some v => return some v
  | none => if required then throw (.invalid s!"Environment variable {name} is not set") else return none

def requireContent (name : String) (value : Option String) : Flow String := do
  match value with
  | none | some "" => throw (.invalid s!"Environment variable \x60{name}\x60 is required")
  | some v => return v

def commit : Flow String := do
  let printed ← Flow.recover (Flow.call "git" ["/usr/bin/git", "rev-parse", "--short", "HEAD"]) fun
    | .process .. | .file .notFound _ => some (pure "")
    | _ => none
  unless printed.shown.toList.all (·.toNat < 128) do throw (.badEncoding "ordinal not in range(128)")
  return Text.strip printed.shown

def surveyProgram (s : Survey) (folder : String) (withCommit : Bool) : Flow Unit := do
  let input ← setting? "INPUT_DIR_PARENT" true
  let output ← setting? "OUTPUT_DIR" true
  let hash ← if withCommit then commit else pure s.commit
  let input ← requireContent "INPUT_DIR_PARENT" input
  let output ← requireContent "OUTPUT_DIR" output
  collect { s with commit := hash } ((Path.ofString input).child folder) (.ofString output)

def reportProgram : Flow Unit := do
  report (.ofString (← requireContent "OUTPUT_DIR" (← setting? "OUTPUT_DIR" true)))

end WarehouseMigration.Coverage
