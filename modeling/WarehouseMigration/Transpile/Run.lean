import WarehouseMigration.SourceFile
import WarehouseMigration.Transpile.Engine
import WarehouseMigration.Transpile.Result

/-!
# Transpiling files

A run transpiles a file, or all files from a folder down.  The results go into an output folder that repeats the
folders of the input, the problems into an error log.
-/

namespace WarehouseMigration.Transpile

structure Job where
  config : Config
  engine : Engine
  validator : Option Validator
  /-- reads a file; the flag tells that it may be XML, which names its own encoding -/
  read : Path → Bool → Flow String := fun file _ => Flow.readText file

/-- What a run, or a part of it, did. -/
structure Summary where
  files : List Path := []
  count : Int := 0
  problems : List Problem := []

namespace Summary

def append (a b : Summary) : Summary := ⟨a.files ++ b.files, a.count + b.count, a.problems ++ b.problems⟩

instance : Append Summary := ⟨append⟩

def sum (parts : List Summary) : Summary := parts.foldl append {}

end Summary

namespace Job

def noDialect (file : Path) : Problem :=
  ⟨"no-source-dialect-specified", .internal, .error, file.toString, "No source dialect specified", none⟩

variable (job : Job)

def processFile (input folder output : Path) : Flow (Int × List Problem) := do
  let dialect := job.config.sourceDialect.getD ""
  if dialect == "" then return (0, [noDialect input])
  let source ← job.read input (Text.lower input.suffix == ".xml")
  let result ← job.engine.transpile dialect Config.targetDialect source input
  Flow.makeDirectory output.parent true
  let target : Target := ⟨job.config, job.validator, input, folder, output⟩
  return (result.count, ← (target.write job.engine.codecs result.code source).complete result.problems)

def takes (file : Path) : Bool := !Text.startsWith file.name "." && job.engine.supports file

def processFiles (job : Job) (folder : Path) : List Path → Flow (Int × List Problem)
  | [] => return (0, [])
  | file :: rest => do
    if !job.takes file then job.processFiles folder rest
    else
      let (count, problems) ← job.processFile file folder (folder.child file.name)
      let (more, others) ← job.processFiles folder rest
      return (count + more, problems ++ others)

def processFolder (job : Job) (root output : Path) : Nat → Path → Flow Summary
  | 0, _ => return {}
  | fuel + 1, folder => do
    let entries ← Flow.listDirectory folder
    let folders ← entries.filterM Flow.isDirectory
    let files ← entries.filterM Flow.isFile
    let (count, problems) ← job.processFiles (output.join ((folder.relativeTo? root).getD .here)) files
    let inner ← folders.mapM (job.processFolder root output fuel)
    return ⟨files, count, problems⟩ ++ Summary.sum inner

def outputFolder (input : Path) : Path := job.config.outputPath.getD (input.parent.child "transpiled")

def processInputFolder (input : Path) : Flow Summary := do
  let output := job.outputFolder input
  Flow.makeDirectories output
  job.processFolder input output (2 * (← get).files.entries.length + 2) input

def processInputFile (input : Path) : Flow Summary := do
  if !job.engine.supports input then return {}
  let output := job.outputFolder input
  Flow.makeDirectories output
  let (count, problems) ← job.processFile input output (output.child input.name)
  return ⟨[input], count, problems⟩

/-- Transpiles the input, whatever it is. -/
def process : Flow Summary := do
  let input ← job.config.inputPath
  if ← Flow.isDirectory input then job.processInputFolder input
  else if ← Flow.isFile input then job.processInputFile input
  else throw (.missing .notFound ((job.config.inputSource.getD "") ++ " does not exist."))

end Job

structure Status where
  summary : Summary
  errorLog : Option Path

instance : ToValue Status := ⟨fun s =>
  let count := fun stage => toValue (Problem.countOf stage s.summary.problems)
  .map [("total_files_processed", s.summary.files.length), ("total_queries_processed", s.summary.count),
    ("analysis_error_count", count .analysis), ("parsing_error_count", count .parsing),
    ("validation_error_count", count .validation), ("generation_error_count", count .generation),
    ("error_log_file", s.errorLog)]⟩

variable (config : Config)

def logProblems (problems : List Problem) : Flow (Option Path) := do
  match config.errorPath with
  | some log =>
    if problems.isEmpty then return none
    Flow.appendText log (String.join (problems.map fun p => p.logLine ++ "\n"))
    return some log
  | none => return none

def execute (engine : Engine) (validator : Flow Validator)
    (read : Path → Bool → Flow String := fun file _ => Flow.readText file) : Flow Status := do
  if (config.inputSource.getD "") == "" then throw (.invalid "Input SQL path is not provided.")
  let validator ← if config.skipValidation.isSet then pure none else some <$> validator
  let summary ← Job.process ⟨config, engine, validator, read⟩
  return ⟨summary, ← logProblems config summary.problems⟩

def run (engine : Engine) (validator : Flow Validator)
    (read : Path → Bool → Flow String := fun file _ => Flow.readText file) : Flow Status := do
  engine.start config
  let status ← execute config engine validator read
  engine.stop
  return status

def query (engine : Engine) (validator : Flow Validator) (sql : String) :
    Flow (Transpiled × Option Verdict) := do
  let result ← engine.transpile (config.sourceDialect.getD "") Config.targetDialect sql (.ofString "inline_sql")
  if config.skipValidation.isSet then return (result, none)
  let validator ← validator
  return (result, some (← validator.validate config result.code))

def expressions (engine : Engine) (validator : Flow Validator) (sqls : List String) :
    Flow (List (Transpiled × Option Verdict)) :=
  sqls.mapM (query { config with skipValidation := .bool true } engine validator)

end WarehouseMigration.Transpile
