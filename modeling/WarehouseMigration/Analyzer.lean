import WarehouseMigration.Operator
import WarehouseMigration.SourceFile

/-!
# The analyzer

The analyzer of legacy code is a program of its own.  It is told where the code stands, where its report goes and what
technology the code is for; what the command line does not tell is asked from the operator.
-/

namespace WarehouseMigration.Analyzer

structure Report where
  source : Path
  target : Path
  technology : String

instance : ToValue Report := ⟨fun r =>
  .map [("source_directory", r.source), ("output_directory", r.target), ("source_system", r.technology)]⟩

def askSource : Flow Path := do
  let home := (← get).home
  let answer ← Flow.question "Enter full path to the source directory" (some home)
  let path ← match answer with
    | .text s => pure (Path.ofString s)
    | _ => throw (.wrongKind "not a path")
  let absolute := path.absolute home
  return ⟨absolute.anchor, Path.collapse absolute.parts⟩

/-- Asks for the report: a name alone stands for a file in the folder of the code. -/
def askTarget (source : Path) : Flow Path := do
  let answer ← Flow.questionText "Enter report file name or custom export path including file name without extension"
    (some s!"{source}/lakebridge-analyzer-results.xlsx")
  return if Text.contains answer "/" then .ofString answer else source.child answer

def settleTechnology (known : List Value) (given : Value) : Flow String := do
  let known? := fun (v : Value) => known.any (· == v)
  let technology ← if known? given then pure given else Flow.choice "Select the source technology" known
  unless known? technology do throw (.broken "")
  return technology.shown

def run (source target : Path) (technology : String) (verbose : Value) : Flow Report := do
  let sourceThere ← SourceFile.isWritable source
  unless sourceThere && (← SourceFile.isWritable target) do
    throw (.invalid s!"Invalid path(s) provided: source_dir={source}, results_dir={target}")
  let result := ((Path.ofString target.name).withSuffix ".xlsx").toString
  Flow.note "run" [source, result, technology, verbose]
  Flow.note "move" [result, target]
  return ⟨source, target, technology⟩

def pathGiven (v : Value) : Option Path :=
  match v with
  | .text "" => none
  | .text s => some (.ofString s)
  | .map [("path", .text s)] => some (.ofString s)
  | _ => none

def analyse (known : List Value) (source target technology verbose : Value) : Flow Report := do
  let source ← match pathGiven source with
    | some path => pure path
    | none => askSource
  let target ← match pathGiven target with
    | some path => pure path
    | none => askTarget source
  run source target (← settleTechnology known technology) verbose

end WarehouseMigration.Analyzer
