import WarehouseMigration.Text.Template
import WarehouseMigration.Transpile.Problem

/-!
# Headers of transpiled files

A comment that tells, on top of a transpiled file, which problems were found and where.  Positions refer to the file
with the header in front, so they can be filled in only once the number of header lines is known: the header is
first written as a template.
-/

namespace WarehouseMigration.Header

inductive Part where
  | plain (text : String)
  | message (text : String)
  /-- the number of a line, to be filled in -/
  | line (n : Int)

def tableName : String := "line_numbers"

/-- The template of a message: braces stand for themselves, and the mark `/n` breaks the line. -/
def messageTemplate (message : String) : String :=
  Text.replace (Text.replace (Text.replace message "\x7b" "\x7b\x7b") "\x7d" "\x7d\x7d") "/n" "\n        "

def Part.template : Part → List Char
  | plain text => text.toList
  | message text => (messageTemplate text).toList
  | line n => ("\x7b" ++ tableName ++ "[" ++ Value.intText n ++ "]\x7d").toList

def Part.line? : Part → Option Int
  | line n => some n
  | _ => none

def position (p : Position) : List Part :=
  [.plain "[", .line p.line, .plain (":" ++ Value.intText (p.character + 1) ++ "]")]

def positions (problems : List Problem) : List (List Part) :=
  problems.filterMap fun p => p.extent.map fun e => position e.start

def firstLine (message : String) : List (List Part) → List Part
  | [place] => .plain "      - " :: place ++ [.plain " ", .message message, .plain "\n"]
  | _ => [.plain "      - ", .message message, .plain "\n"]

def repeatLine (count : Nat) (places : List (List Part)) : List Part :=
  if 1 < places.length then
    .plain ("          Occurred " ++ toString count ++ " times at the following positions: ") ::
      List.intercalate [.plain ", "] places ++ [.plain "\n"]
  else if 1 < count then [.plain ("          Occurred " ++ toString count ++ " times\n")]
  else []

def entry (message : String) (problems : List Problem) : List Part :=
  firstLine message (positions problems) ++ repeatLine problems.length (positions problems)

def shownFor (severity : Severity) (problems : List Problem) : Option (List Problem) :=
  (Sequence.lastOf (Sequence.runs Problem.severity problems)).lookup severity

def messagesFor (severity : Severity) (problems : List Problem) : Option (List (String × List Problem)) :=
  (shownFor severity problems).map fun shown => Sequence.lastOf (Sequence.runs Problem.message shown)

def entries (messages : List (String × List Problem)) : List Part := messages.flatMap fun e => entry e.1 e.2

variable (path : String)

def opening : Option (List (String × List Problem)) → List Part
  | some messages =>
    .plain ("/*\n    Failed transpilation of " ++ path ++ "\n") ::
      .plain "\n    The following errors were found while transpiling:\n" :: entries messages
  | none => [.plain ("/*\n    Successfully transpiled from " ++ path ++ "\n")]

def warnings : Option (List (String × List Problem)) → List Part
  | some messages => .plain "\n    The following warnings were found while transpiling:\n" :: entries messages
  | none => []

def closing (unparsed : Bool) : List Part :=
  if unparsed then
    [.plain ("\n\n    Parsing errors prevented the converter from translating the input query.\n" ++
      "    We reproduce the input query unchanged below.\n\n"), .plain "*/\n"]
  else [.plain "*/\n"]

def parts (problems : List Problem) : List Part :=
  opening path (messagesFor .error problems) ++ warnings (messagesFor .warning problems) ++
    closing (((shownFor .error problems).getD []).any (·.stage == .parsing))

def template (path : String) (problems : List Problem) : List Char := (parts path problems).flatMap Part.template

def height (problems : List Problem) : Nat := (template path problems).count '\n'

def referredLines (problems : List Problem) : List Int :=
  ((parts path problems).filterMap Part.line?).eraseDups

def make (problems : List Problem) : Outcome String := do
  let table := (referredLines path problems).map fun line => (line, (height path problems : Int) + line + 1)
  return String.ofList (← Text.Template.fill ⟨tableName, table⟩ (template path problems))

end WarehouseMigration.Header
