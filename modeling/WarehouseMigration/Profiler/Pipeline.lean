import WarehouseMigration.Credentials
import WarehouseMigration.Database

/-!
# The profiler's pipeline

A pipeline is a list of steps.  A step runs a query, whose result is saved in a local database, or a script.  Each step
gives one result: it was skipped, it is complete, or it failed.
-/

namespace WarehouseMigration.Profiler

structure Step where
  name : Value
  kind : Value
  source : Value
  mode : Value
  frequency : Value
  flag : Value
  dependencies : Value := .list []
  comment : Value := .null

structure Pipeline where
  name : Value
  version : Value
  folder : Value
  comment : Value := .null
  steps : List Step := []

inductive Ending where
  | complete
  | failed (message : String)
  | skipped
deriving DecidableEq

structure StepResult where
  step : Value
  ending : Ending

namespace Ending

def name : Ending → String
  | complete => "COMPLETE"
  | failed _ => "ERROR"
  | skipped => "SKIPPED"

def message? : Ending → Option String
  | failed message => some message
  | _ => none

end Ending

instance : ToValue StepResult := ⟨fun r =>
  .map [("step_name", r.step), ("status", r.ending.name), ("error_message", r.ending.message?)]⟩

namespace Step

instance : ToValue Step := ⟨fun s =>
  .map [("name", s.name), ("type", s.kind), ("extract_source", s.source), ("mode", s.mode), ("frequency", s.frequency),
    ("flag", s.flag), ("dependencies", s.dependencies), ("comment", s.comment)]⟩

def read (v : Value) : Outcome Step := do
  let f ← Fields.ofValue ["name", "type", "extract_source", "mode", "frequency", "flag"] ["dependencies", "comment"] v
  let either := fun (key : String) (standard : Value) => if (f.get key).isNull then standard else f.get key
  return { name := f.get "name", kind := f.get "type", source := f.get "extract_source", mode := either "mode" "append",
           frequency := either "frequency" "once", flag := either "flag" "active",
           dependencies := (f.get? "dependencies").getD (.list []), comment := f.get "comment" }

def isActive (s : Step) : Bool := s.flag == .text "active"

end Step

def databaseName : String := "profiler_extract.db"

namespace Pipeline

instance : ToValue Pipeline := ⟨fun p =>
  .map [("name", p.name), ("version", p.version), ("extract_folder", p.folder), ("comment", p.comment),
    ("steps", p.steps)]⟩

def read (v : Value) : Outcome Pipeline := do
  let steps ← (← (← Database.need v "steps").asItems).mapM Step.read
  let name ← Database.need v "name"
  let version ← Database.need v "version"
  return { name := name, version := version, folder := ← Database.need v "extract_folder", steps := steps }

def load (file : Path) : Flow Pipeline := do
  Flow.ofOutcome (read (← Yaml.ofFile file.toString (← Flow.readLines file)))

def pathOf (v : Value) : Outcome Path :=
  match v with
  | .text s => pure (.ofString s)
  | _ => throw (.wrongKind "not a path")

def database (p : Pipeline) : Outcome String := do
  let folder ← pathOf p.folder
  let parts := Path.collapse folder.parts
  let shortest : Path := ⟨folder.anchor, if folder.isAbsolute then parts.dropWhile (· == "..") else parts⟩
  return s!"{shortest}/{databaseName}"

end Pipeline

/-! ### Steps that run a query -/

def batchSize : Nat := 1000

def batches (rows : List α) : List (List α) :=
  match rows with
  | [] => []
  | row :: rest => (row :: rest).take batchSize :: batches ((row :: rest).drop batchSize)
termination_by rows.length
decreasing_by
  have : 0 < batchSize := by decide
  simp only [List.length_drop, List.length_cons]
  omega

def columnNames (result : Value) : Outcome (List String) := do
  (← (result.getD "keys").asItems).mapM fun
    | .text s => pure s
    | _ => throw (.wrongKind "sequence item 0: expected str instance")

variable (folder : Path)

def save (result : Value) (table : String) (mode : String) : Flow Unit := do
  unless ← Flow.pathExists folder do Flow.makeDirectories folder
  let _ ← Flow.call "connect" [folder.child databaseName]
  Flow.ensure (do
    let columns ← Flow.ofOutcome (columnNames result)
    let layout := " STRING, ".intercalate columns ++ " STRING"
    if mode == "overwrite" then
      let _ ← Flow.call "duckdb.execute" [s!"CREATE OR REPLACE TABLE {table} ({layout})"]
    else if mode == "append" && !((← Flow.consult "duckdb.tables").parts.any (· == .text table)) then
      let _ ← Flow.call "duckdb.execute" [s!"CREATE TABLE {table} ({layout})"]
    let places := ", ".intercalate (columns.map fun _ => "?")
    for batch in batches (result.getD "rows").parts do
      let _ ← Flow.call "executemany" [s!"INSERT INTO {table} VALUES ({places})", batch.length, batch.headD .null])
    (Flow.note "close")

def readQuery (s : Step) : Flow String := do Flow.readLines (← Flow.ofOutcome (Pipeline.pathOf s.source))

def extract (s : Step) (query : String) : Flow Unit := do
  save folder (← Flow.call "query" [query]) s.name.shown s.mode.shown

/-- Runs the query of a step and saves its result; a failure of either, other than the end of the program, is a failure
of the step. -/
def runQuery (s : Step) : Flow Unit := do
  let query ← readQuery s
  Flow.recover (extract folder s query) fun
    | .exit _ => none
    | e => some (throw (.runtime s!"SQL execution failed: {e.message}"))

/-! ### Steps that run a script -/

def runProgram (name : String) (arguments : List Value) (complaint : String) : Flow Value := do
  let result ← Flow.recover (Flow.call name arguments) fun
    | .process .. => some (throw (.runtime s!"{complaint}: None"))
    | _ => none
  match result.get? "stderr" with
  | some text => throw (.runtime s!"{complaint}: {text.shown}")
  | none => return result.getD "stdout"

def packageNames (v : Value) : Outcome (List Value) := do
  (← v.asItems).mapM fun
    | .text s => pure (.text s)
    | _ => throw (.wrongKind "sequence item 0: expected str instance")

def readReport (output : String) : Outcome Unit :=
  match Json.parse output with
  | none => pure ()
  | some report => do
    let status ← Database.need report "status"
    let message ← Database.need report "message"
    unless status == .text "success" do throw (.runtime s!"Script reported error: {message.shown}")

def install (s : Step) : Flow Unit := do
  if s.dependencies.isSet then
    let packages ← Flow.ofOutcome (packageNames s.dependencies)
    let _ ← runProgram "pip" ["install", "--upgrade", "pip"] "Failed to install dependencies"
    let _ ← runProgram "pip" (.text "install" :: packages) "Failed to install dependencies"

def runScript (s : Step) : Flow Unit := do
  let _ ← Flow.call "venv" [true]
  install s
  let output ← runProgram "python" [s.source.shown, "--db-path", folder.child databaseName, "--credential-config-path",
    Credentials.file (← get).home "lakebridge"] "Script execution failed"
  Flow.ofOutcome (readReport output.shown)

/-! ### The pipeline -/

def Step.run (s : Step) : Flow Unit :=
  if s.kind == .text "sql" then runQuery folder s
  else if s.kind == .text "python" then runScript folder s
  else throw (.runtime s!"Unsupported step type: {s.kind.shown}")

def Step.process (s : Step) : Flow StepResult := do
  if !s.isActive then return ⟨s.name, .skipped⟩
  Flow.recover (do s.run folder; return ⟨s.name, .complete⟩) fun
    | .runtime message | .notImplemented message => some (return ⟨s.name, .failed message⟩)
    | _ => none

def Pipeline.execute (p : Pipeline) : Flow (List StepResult) := do
  let folder ← Flow.ofOutcome (Pipeline.pathOf p.folder)
  p.steps.mapM (·.process folder)

end WarehouseMigration.Profiler
