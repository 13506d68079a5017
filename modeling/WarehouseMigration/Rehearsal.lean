import WarehouseMigration.Session.Script
import WarehouseMigration.Value.Fields

/-!
# Rehearsals

A rehearsal runs a task in a scripted session and gives a report: what the task returned and which calls it made.  How
a failure is written in a report is up to the reader of the report.
-/

namespace WarehouseMigration.Rehearsal

abbrev Style := Failure → Value

abbrev Scene := Style → Value → Session → Outcome Value

scoped instance : CoeFun Value fun _ => String → Value := ⟨Value.getD⟩

def names (v : Value) : List String := v.parts.map Value.shown

def whole : Value → Int
  | .int n => n
  | _ => 0

def bag (texts : List String) : Value := texts.eraseDups.mergeSort

def outcome [ToValue α] (style : Style) : Outcome α → Value
  | .ok a => toValue a
  | .error failure => style failure

def report [ToValue α] (style : Style) (session : Session) (flow : Flow α) : Value :=
  let (result, session) := flow.exec session
  .map [("result", outcome style result), ("calls", session.calls)]

def silently (flow : Flow α) : Flow Value := (fun _ => .null) <$> flow

def steps [ToValue α] (style : Style) (script : List Value) (step : Value → Flow α) : Flow (List Value) :=
  script.mapM fun v => do return outcome style (← Flow.attempt (step v))

def answers [ToValue α] (style : Style) (session : Session) (script : Value) (step : Value → Flow α) : Value :=
  let (result, session) := (steps style (script.getD "steps").parts step).exec session
  .map [("answers", outcome style result), ("calls", session.calls)]

def withReplies (name : String) (replies : Value) (s : Session) : Session :=
  { s with replies := (name, Reply.readAll replies) :: s.replies }

end WarehouseMigration.Rehearsal
