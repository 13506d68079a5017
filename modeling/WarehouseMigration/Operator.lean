import WarehouseMigration.Session
import WarehouseMigration.Value.Fields
import WarehouseMigration.Text.LetterCase

/-!
# Asking the operator

The three kinds of questions that a run puts to the person in front of it.
-/

namespace WarehouseMigration.Flow

def question (prompt : String) (proposal : Option Value := none) : Flow Value :=
  ask "question" [prompt] (match proposal with
    | some v => [("default", v)]
    | none => [])

def questionText (prompt : String) (proposal : Option Value := none) : Flow String := do
  ofOutcome (← question prompt proposal).asText

def confirm (prompt : String) : Flow Bool := do return (← ask "confirm" [prompt]).isSet

def sortedOptions (options : List Value) : List Value :=
  options.mergeSort fun a b => a.shown ≤ b.shown

def choice (prompt : Value) (options : List Value) : Flow Value :=
  ask "choice" [prompt, sortedOptions options]

def choiceInOrder (prompt : Value) (options : List Value) : Flow Value :=
  ask "choice" [prompt, options]

end WarehouseMigration.Flow

/-! ### Interaction

Whether a command may ask the operator.
-/

namespace WarehouseMigration

/-- Reads the wish on the command line; `auto` means that the operator is asked if there is a terminal. -/
def interactiveMode (wish : String) (terminal : Bool) : Outcome Bool :=
  match Text.lower wish with
  | "true" => pure true
  | "false" => pure false
  | "auto" => pure terminal
  | _ => throw (.invalid s!"Invalid value for '--interactive': {Text.quote wish} must be 'true', 'false' or 'auto'.")

end WarehouseMigration
