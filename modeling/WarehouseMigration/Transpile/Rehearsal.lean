import WarehouseMigration.Rehearsal
import WarehouseMigration.Transpile.Checker
import WarehouseMigration.Transpile.Header
import WarehouseMigration.Transpile.Run
import WarehouseMigration.Transpile.TextEdit

/-!
# Rehearsing a transpilation

Engines and the workspace's answers are scripted here.
-/

namespace WarehouseMigration.Transpile.Rehearsal

open WarehouseMigration.Rehearsal

def planReply (plans : Value) : Reply :=
  match Reply.read plans with
  | .value (.list plans) => .value (.list (plans.map fun p => if p.isNull then .map [] else .map [("plan", p)]))
  | reply => reply

def withPlans (script : Value) (s : Session) : Session :=
  { s with reaction := fun call => if call.name == "fetch" then some (planReply (script.getD "plans")) else none }

def fetches (s : Session) : List Value :=
  (s.calls.filter (·.name == "fetch")).map fun call => .list (call.parts ++ call.named.map (·.2))

def others (s : Session) : List Call := s.calls.filter (·.name != "fetch")

def sorted (vs : List Value) : List Value := vs.mergeSort fun a b => Json.render a ≤ Json.render b

def sortedProblems (ps : List Problem) : List Problem :=
  ps.mergeSort fun a b => Sequence.inOrder [a.path, a.code, a.message] [b.path, b.code, b.message]

def sortedLines (text : String) : List String := ((Text.split text "\n").filter (· != "")).mergeSort

def validation : Scene := fun style i s => do
  let config ← Config.read (i.getOr "config" (.map []))
  let (verdict, s) := (Validation.validate config (i "sql").shown).exec (withPlans i s)
  return .map [("calls", fetches s), ("result", outcome style verdict)]

/-- Of character sets with several bytes for a character, ASCII is rehearsed. -/
def wideCodecs : Text.Codecs := fun name =>
  if Text.Charset.wideNames.contains (Text.Charset.plainName name) then
    some ⟨Text.Charset.ascii.decode?, fun bytes => some (bytes.map .inr)⟩
  else none

def writing : Scene := fun style i s => do
  let name := (i "file").shown
  let folder := Path.ofString "out"
  let target : Target := ⟨{}, if (i.get? "plans").isSome then some .workspace else none,
    (Path.ofString "in").child name, folder, folder.child name⟩
  let problems ← (i "errors").parts.mapM Problem.read
  let code := (i "code").shown
  let s := { withPlans i s with files := (s.files.put ["out"] .directory) }
  let ((result, problems), s) :=
    (target.write wideCodecs code (i.getOr "source" "SOURCE").shown).exec problems s
  return .map [("mime", isMultipart code), ("failed", outcome style result), ("errors", problems), ("calls", fetches s),
    ("files", .map ((toValue s.files).pairs.filter fun (path, _) => path != "out/"))]

def idleEngine (name : Value) : Engine where
  name := name
  transpile := fun _ _ text _ => return ⟨text, 1, []⟩
  supports := Transpiler.supportsFile name

def running : Scene := fun _ i s => do
  let config ← Config.read (i.getOr "config" (.map []))
  let config := { config with skipValidation := .bool true }
  let (status, s) := (run config (idleEngine (i "name")) (pure .workspace)).exec s
  let status ← status
  let log := config.errorPath.bind fun p => (s.files.read p.parts).toOption
  return .map [("status", status), ("errors", sortedProblems status.summary.problems),
    ("log", match log with
      | some (.text text) => sortedLines text
      | _ => Value.null),
    ("files", match config.errorPath with
      | some p => s.files.remove p.parts
      | none => s.files)]

def scriptedEngine (script : Value) (results : List (String × Transpiled)) : Engine where
  name := script.getOr "name" "Other"
  transpile := fun source target text file => do
    Flow.note "transpile" [source, target, text, file]
    return (results.lookup file.toString).getD ⟨text, 1, []⟩
  codecs := wideCodecs
  supports := Transpiler.supportsFile (script.getOr "name" "Other")

def runningWith : Scene := fun style i s => do
  let config ← Config.read (i "config")
  let source := fun (file : String) => ((s.files.listing.lookup file).getD (.text "")).shown
  let results ← (i "results").pairs.mapM fun (file, v) => do
    return (file, (⟨(v.getOr "code" (source file)).shown, match v.getOr "count" (.int 1) with
      | .int n => n
      | _ => 1, ← (v.getD "errors").parts.mapM Problem.read⟩ : Transpiled))
  let read := fun (file : Path) (xml : Bool) => do
    Flow.note "read" [file, xml]
    Flow.readText file
  let (status, s) := (run config (scriptedEngine i results) (pure .workspace) read).exec (withPlans i s)
  let files := s.files.listing.map fun (path, v) =>
    if some path == config.errorFile then (path, toValue (sortedLines v.shown)) else (path, v)
  let result := status.map fun (st : Status) => Value.list [st, sortedProblems st.summary.problems]
  return .map [("result", outcome style result),
    ("calls", sorted ((others s).map toValue)), ("backend", sorted (fetches s)), ("files", .map files)]

def sequentialEngine : Engine where
  name := "Inline"
  transpile := fun source target text file => do
    match ← Flow.call "transpile" [source, target, text, file] with
    | .list [code, .int count, problems] =>
      return ⟨code.shown, count, ← Flow.ofOutcome (problems.parts.mapM Problem.read)⟩
    | _ => throw (.wrongKind "not a result")
  supports := fun _ => true

def inline : Scene := fun style i s =>
  let config : Config := { sourceDialect := some "snowflake", skipValidation := i "skip" }
  let validator : Flow Validator := do
    Flow.note "validator" ["backend"]
    return ⟨fun _ sql => do
      Flow.note "validate" [sql]
      let verdict := (i "validation").parts
      return ⟨(verdict.headD .null).shown, (verdict.getLastD .null).shown?⟩⟩
  let pair := fun ((a, b) : Transpiled × Option Verdict) => Value.list [a, b]
  let s := withReplies "transpile" (i "results") s
  match i.get? "sql" with
  | some sql => return report style s (pair <$> query config sequentialEngine validator sql.shown)
  | none => return report style s ((·.map pair) <$>
      expressions config sequentialEngine validator ((i "expressions").parts.map Value.shown))

def verdict : Scene := fun style i s => do
  return (← validation style i s).getD "result"

def edits : Scene := fun _ i _ => do
  return TextEdit.revise (← (i "source").asText) (← (← (i "changes").asItems).mapM TextEdit.read)
    ((← (i "diagnostics").parts.mapM Diagnostic.read).map (·.toProblem "in.sql")) "in.sql"

def header : Scene := fun _ i _ => do
  Header.make (Path.ofString (← (i "path").asText)).toString (← (← (i "errors").asItems).mapM Problem.read)

def status : Scene := fun _ i _ => do
  let ps ← (← (i "errors").asItems).mapM Problem.read
  let c := fun s => toValue (Problem.countOf s ps)
  return .map [("counts", .map [("analysis", c .analysis), ("parsing", c .parsing), ("generation", c .generation),
    ("validation", c .validation)]), ("lines", ps.map Problem.logLine)]

def highlighted : Scene := fun _ i _ => do return arrows (← (i "text").asText)

def notice : Scene := fun _ i _ => do
  return errorNotice (← (i "type").asText) (← (i "error").asText) (← (i "sql").asText)

def config : Scene := fun style i _ => do
  match (i "migrate").shown with
  | "first" => return .map (Config.migrateFirst (i "raw").pairs)
  | "second" => return .map (← Config.migrateSecond (i "raw").pairs)
  | _ =>
    let c ← Config.read (i "args")
    return .map [("transpiler_path", c.transpilerPath), ("input_path", outcome style c.inputPath),
      ("output_path", c.outputPath), ("error_path", c.errorPath), ("target_dialect", Config.targetDialect)]

def checkerStep (v : Value) : Check Value :=
  let a := v.parts[1]?.bind Value.shown?
  let no := fun (c : Check Unit) => (do c; return .bool false : Check Value)
  match (v.parts.headD .null).shown with
  | "transpiler" => no (.useTranspiler a)
  | "source dialect" => no (.useSourceDialect a)
  | "input" => no (.useInputSource a)
  | "output" => no (.useOutputFolder a)
  | "errors" => no (.useErrorFile a)
  | "skip validation" => no (.useSkipValidation a)
  | "catalog" => no (.useCatalog a)
  | "schema" => no (.useSchema a)
  | _ => (fun _ => true) <$> Check.check

def checker : Scene := fun style i s => do
  let c ← (i "config").asRecord? Config.read
  let (r, _, s) := (← (i "steps").asItems).foldl (fun (r, c, s) v =>
    let ((o, c), s) := (checkerStep v).exec c s
    (r ++ [Value.map [("result", outcome style o), ("config", c.config), ("override", c.dialectOverride)]], c, s))
    ([], (⟨c.getD {}, ⟨.ofString "labs"⟩, none⟩ : Checker), s)
  return .map [("answers", r), ("calls", s.calls)]

end WarehouseMigration.Transpile.Rehearsal
