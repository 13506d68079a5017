import WarehouseMigration.Session

/-!
# Spark frames

Frames and columns are not evaluated here: each is known by the calls that make it.  Building a frame is a call to
the Spark session, and an action on it (counting, collecting, saving) has an answer.
-/

namespace WarehouseMigration.Spark

def plainText (s : String) : String :=
  String.ofList ('"' :: s.toList.flatMap (fun c =>
    if c = '"' || c = '\\' then ['\\', c]
    else if c = '\n' then ['\\', 'n']
    else if c = '\t' then ['\\', 't']
    else if c = '\r' then ['\\', 'r']
    else [c]) ++ ['"'])

mutual

def argumentText : Value → String
  | .plan _ text => text
  | .list items => "[" ++ ", ".intercalate (argumentTexts items) ++ "]"
  | .map entries => "\x7b" ++ ", ".intercalate (entryTexts entries) ++ "\x7d"
  | .record type parts fields =>
    type ++ "(" ++ ", ".intercalate (argumentTexts parts ++ namedTexts fields) ++ ")"
  | .text s => plainText s
  | .null => "null"
  | .bool b => if b then "true" else "false"
  | v => v.quoted

def argumentTexts : List Value → List String
  | [] => []
  | v :: rest => argumentText v :: argumentTexts rest

def entryTexts : List (String × Value) → List String
  | [] => []
  | (key, v) :: rest => (key ++ ": " ++ argumentText v) :: entryTexts rest

def namedTexts : List (String × Value) → List String
  | [] => []
  | (key, v) :: rest => (key ++ "=" ++ argumentText v) :: namedTexts rest

end

def session : Value := .plan "spark" "spark"

def pathOf : Value → String
  | .plan path _ => path
  | .handle path => path
  | _ => ""

def textOf (v : Value) : String := argumentText v

variable (frame : Value)

def member (name : String) : Value := .plan (pathOf frame ++ "." ++ name) (textOf frame ++ "." ++ name)

/-- What a call on a frame or column makes. -/
def applied (receiver : Value) (method : String) (parts : List Value := []) (named : List (String × Value) := []) :
    Value :=
  .plan (pathOf receiver ++ "." ++ method)
    (textOf receiver ++ "." ++ method ++ "(" ++ ", ".intercalate (argumentTexts parts ++ namedTexts named) ++ ")")

def function (name : String) (parts : List Value) : Value :=
  .plan name (name ++ "(" ++ ", ".intercalate (argumentTexts parts) ++ ")")

def operator (symbol : String) (a b : Value) : Value :=
  .plan "" ("(" ++ textOf a ++ " " ++ symbol ++ " " ++ textOf b ++ ")")

def item (column : String) : Value := .plan "" (pathOf frame ++ "[" ++ plainText column ++ "]")

def column (name : String) : Value := function "col" [name]

def constant (v : Value) : Value := .record "lit" [v] []

def act (method : String) (parts : List Value := []) (named : List (String × Value) := []) :
    Flow Value := do
  let call : Call := ⟨pathOf frame ++ "." ++ method, parts, named, frame⟩
  Flow.record call
  Flow.replyTo method call

def make (method : String) (parts : List Value := []) (named : List (String × Value) := []) :
    Flow Value := do
  let _ ← act frame method parts named
  return applied frame method parts named

def columns (frame : Value) : Flow (List String) := do return (← get).columns (pathOf frame)

def number (method : String) : Flow Int := do
  match ← act frame method with
  | .int n => return n
  | _ => return 0

def collect (frame : Value) : Flow (List Value) := do
  match ← act frame "collect" with
  | .list rows => return rows
  | _ => return []

def fold (symbol : String) : List Value → Outcome Value
  | [] => throw (.wrongKind "nothing to combine")
  | c :: rest => pure (rest.foldl (operator symbol) c)

def union : List Value → Flow Value
  | [] => throw (.wrongKind "nothing to combine")
  | frame :: rest => rest.foldlM (fun all next => make all "unionByName" [next]) frame

def save (frame : Value) (format mode path : String) : Flow Unit := do
  let writer ← make (member frame "write") "format" [format]
  let writer ← make writer "mode" [mode]
  let _ ← act writer "save" [path]

def load (format path : String) : Flow Value := do
  let reader ← make (member session "read") "format" [format]
  make reader "load" [path]

def sql (query : String) : Flow Value := make session "sql" [query]

end WarehouseMigration.Spark
