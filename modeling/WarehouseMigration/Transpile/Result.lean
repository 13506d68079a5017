import WarehouseMigration.Mail
import WarehouseMigration.Session.Files
import WarehouseMigration.Transpile.Problem
import WarehouseMigration.Transpile.Validation

/-!
# Writing results

What an engine made of a file is either one text, which goes into a file of the same name, or a multipart message, of
which every part with a file name goes into a file of its own.  SQL is validated before it is written.
-/

namespace WarehouseMigration.Transpile

abbrev Reporting (α : Type) := ExceptT Failure (StateT (List Problem) (StateM Session)) α

namespace Reporting

def ofFlow (flow : Flow α) : Reporting α := fun problems session =>
  let (outcome, session) := flow.exec session
  ((outcome, problems), session)

def add (problem : Problem) : Reporting Unit := modify (· ++ [problem])

def exec (task : Reporting α) (problems : List Problem) (session : Session) : (Outcome α × List Problem) × Session :=
  task.run problems session

def complete (task : Reporting Unit) (problems : List Problem) : Flow (List Problem) := fun session =>
  match task.exec problems session with
  | ((.ok (), problems), session) => (.ok problems, session)
  | ((.error failure, _), session) => (.error failure, session)

end Reporting

/-- What is known of a file whose result is to be written. -/
structure Target where
  config : Config
  validator : Option Validator
  input : Path
  folder : Path
  output : Path

namespace Target

def validated (t : Target) (sql : String) : Reporting String := do
  match t.validator with
  | none => return sql
  | some validator =>
    let verdict ← .ofFlow (validator.validate t.config sql)
    if let some complaint := verdict.complaint then
      Reporting.add ⟨"VALIDATION_ERROR", .validation, .warning, t.input.toString, complaint, none⟩
    return verdict.sql

/-- Goes down from a folder; the folders on the way are made. -/
def descend (folder : Path) : List String → Flow Path
  | [] => return folder
  | segment :: rest => do
    Flow.makeDirectories (folder.child segment)
    descend (folder.child segment) rest

def writeFile (t : Target) (name content : String) : Reporting Unit := do
  let segments := Text.split (Path.ofString name).name "/"
  let folder ← .ofFlow (descend t.folder segments.dropLast)
  let output := folder.child (segments.getLastD "")
  let content ← if output.suffix == ".sql" then t.validated content else pure content
  .ofFlow (Flow.writeText output content)

def writePart (t : Target) (part : Mail.Message) : Reporting Unit := do
  if part.contentType == "text/plain" then
    let name? ← .ofFlow (Flow.ofOutcome part.filename?)
    let content ← .ofFlow (Flow.ofOutcome part.content)
    if let some name := name?.filter (· != "") then t.writeFile name content

def writeText (t : Target) (code source : String) : Reporting Unit := do
  let code ← if (← get).any (·.stage == .parsing) then pure source
    else if t.output.suffix == ".sql" then t.validated code
    else pure code
  .ofFlow (Flow.writeText t.output code)

end Target

def isMultipart (code : String) : Bool := Text.startsWith code "Content-Type: multipart/mixed; boundary="

def Target.write (t : Target) (codecs : Text.Codecs) (code source : String) : Reporting Unit := do
  if isMultipart code then (← .ofFlow (Flow.ofOutcome (Mail.parse codecs code))).walk.forM t.writePart
  else t.writeText code source

end WarehouseMigration.Transpile
