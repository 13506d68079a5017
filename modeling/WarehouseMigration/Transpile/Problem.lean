import WarehouseMigration.Failure
import WarehouseMigration.Value.Show
import WarehouseMigration.Text.Blank
import WarehouseMigration.Text.Search

/-!
# Problems

What a transpiler reports about a file: a code, the stage at which it arose, how serious it is, and where it stands.
-/

namespace WarehouseMigration

inductive Severity where
  | info
  | warning
  | error
deriving DecidableEq

namespace Severity

def name : Severity → String
  | info => "INFO"
  | warning => "WARNING"
  | error => "ERROR"

def ofName (s : String) : Outcome Severity :=
  match s with
  | "INFO" => pure info
  | "WARNING" => pure warning
  | "ERROR" => pure error
  | _ => throw (.invalid (Text.quote s ++ " is not a valid ErrorSeverity"))

end Severity

inductive Stage where
  | analysis
  | parsing
  | generation
  | validation
  | internal
deriving DecidableEq

namespace Stage

def all : List Stage := [analysis, parsing, generation, validation, internal]

def name : Stage → String
  | analysis => "ANALYSIS"
  | parsing => "PARSING"
  | generation => "GENERATION"
  | validation => "VALIDATION"
  | internal => "INTERNAL"

def ofName? (s : String) : Option Stage := all.find? (·.name == s)

def ofName (s : String) : Outcome Stage :=
  match ofName? s with
  | some stage => pure stage
  | none => throw (.invalid (Text.quote s ++ " is not a valid ErrorKind"))

end Stage

/-- A position in a text, both parts counted from zero. -/
structure Position where
  line : Int
  character : Int
deriving DecidableEq

/-- A stretch of a text; its end is exclusive. -/
structure Extent where
  start : Position
  stop : Position
deriving DecidableEq

structure Problem where
  code : String
  stage : Stage
  severity : Severity
  path : String
  message : String
  extent : Option Extent := none
deriving DecidableEq

namespace Problem

def logLine (p : Problem) : String :=
  s!"TranspileError(code={p.code}, kind={p.stage.name}, severity={p.severity.name}, path='{p.path}', " ++
    s!"message='{p.message}')"

def countOf (stage : Stage) (problems : List Problem) : Nat := problems.countP (·.stage == stage)

end Problem

instance : ToValue Position := ⟨fun p => .map [("line", p.line), ("character", p.character)]⟩

instance : ToValue Extent := ⟨fun e => .map [("start", e.start), ("end", e.stop)]⟩

def Position.read : Value → Outcome Position
  | .list [.int line, .int character] => pure ⟨line, character⟩
  | _ => throw (.wrongKind "not a position")

def Extent.read : Value → Outcome Extent
  | .list [start, stop] => do return ⟨← Position.read start, ← Position.read stop⟩
  | _ => throw (.wrongKind "not an extent")

def Extent.read? (v : Value) : Outcome (Option Extent) := if v.isSet then some <$> Extent.read v else pure none

/-- Reads a problem; what is not given is an internal error in `in.sql`. -/
def Problem.read (v : Value) : Outcome Problem := do
  let text := fun (key : String) (standard : String) => (v.getOr key (.text standard)).shown
  return ⟨text "code" "CODE", ← Stage.ofName (text "kind" "INTERNAL"), ← Severity.ofName (text "severity" "ERROR"),
    text "path" "in.sql", text "message" "", ← Extent.read? (v.getD "range")⟩

instance : ToValue Problem := ⟨fun p => .map
  [("code", p.code), ("kind", p.stage.name), ("severity", p.severity.name), ("path", p.path), ("message", p.message),
   ("range", p.extent)]⟩

/-- The outcome of transpiling one text. -/
structure Transpiled where
  code : String
  /-- number of queries that were transpiled -/
  count : Int
  problems : List Problem

instance : ToValue Transpiled := ⟨fun t => .map
  [("transpiled_code", t.code), ("success_count", t.count), ("error_list", t.problems)]⟩

end WarehouseMigration

/-! ### Notices

How the messages of a parser are put into a text file.
-/

namespace WarehouseMigration.Transpile

def arrows (message : String) : String :=
  Text.replace (Text.replace message "\x1b[4m" "--> ") "\x1b[0m" " <--"

def errorNotice (kind message sql : String) : String :=
  Text.strip (s!"------------------------ {kind} Start:------------------------\n/*\n{message}\n*/\n\n" ++
    s!"/*\nOriginal Query:\n\n{sql}\n*/\n------------------------- {kind} End:-------------------------")

end WarehouseMigration.Transpile
