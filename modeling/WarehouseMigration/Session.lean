import WarehouseMigration.FileTree

/-!
# Sessions

A session is all that a run of a task can see and change: the answers its operator and the remote services are going
to give, the files of the working directory, and the record of the calls made so far.  A `Flow` is a task in a
session: it ends with a result or a failure, and what it did before a failure stays done.
-/

namespace WarehouseMigration

structure Call where
  name : String
  parts : List Value := []
  named : List (String × Value) := []
  /-- the frame or column that is called -/
  receiver : Value := .null

instance : ToValue Call := ⟨fun c => .list [c.name, .list c.parts, .map c.named]⟩

inductive Reply where
  | value (v : Value)
  | failure (f : Failure)

/-- The state of a run. -/
structure Session where
  /-- the calls made so far, in order -/
  calls : List Call := []
  /-- the answers of the operator that are still to come -/
  answers : List Reply := []
  /-- the answers of each service that are still to come -/
  replies : List (String × List Reply) := []
  /-- how a service reacts to a call for which no answer is scripted -/
  reaction : Call → Option Reply := fun _ => none
  files : FileTree := .empty
  home : String := ""
  printed : String := ""
  environment : List (String × String) := []
  client : List (String × Value) := []
  /-- the jobs that were deployed, by name -/
  jobs : List (String × Value) := []
  /-- the dashboards that were deployed, by reference -/
  dashboards : List (String × Value) := []
  /-- what was made once and is kept -/
  made : List (String × Value) := []
  notices : List String := []
  /-- whether a service takes its answers from the operator's script -/
  shared : String → Bool := fun _ => false
  clock : String → String := fun _ => ""
  /-- the number that stands for a text -/
  digest : String → Value := .text
  /-- the columns of each frame, by its path -/
  columns : String → List String := fun _ => []

abbrev Flow (α : Type) := ExceptT Failure (StateM Session) α

namespace Flow

def exec (flow : Flow α) (session : Session) : Outcome α × Session := (flow.run session)

def ofOutcome : Outcome α → Flow α
  | .ok a => pure a
  | .error e => throw e

instance : MonadLift (Except Failure) (ExceptT Failure (StateM Session)) := ⟨ofOutcome⟩

def attempt (flow : Flow α) : Flow (Outcome α) := fun session =>
  let (outcome, session) := flow.exec session
  (.ok outcome, session)

/-- Runs `last` after `flow`, whether it failed or not. -/
def ensure (flow : Flow α) (last : Flow Unit) : Flow α := do
  let outcome ← flow.attempt
  last
  ofOutcome outcome

def record (call : Call) : Flow Unit := modify fun s => { s with calls := s.calls ++ [call] }

def note (name : String) (parts : List Value := []) (named : List (String × Value) := []) : Flow Unit :=
  record ⟨name, parts, named, .null⟩

def receive : Reply → Flow Value
  | .value v => pure v
  | .failure f => throw f

/-- The answer to a call: the next one in the script under `key`, else the service's reaction, else null. -/
def replyTo (key : String) (call : Call) : Flow Value := do
  let s ← get
  match s.replies.lookup key with
  | some (reply :: rest) =>
    set { s with replies := Sequence.put key rest s.replies }
    receive reply
  | _ =>
    match s.reaction call with
    | some reply => receive reply
    | none => return .null

def lastName (name : String) : String := String.ofList (name.toList.reverse.takeWhile (· != '.')).reverse

def nextAnswer (kind : String) : Flow Value := do
  match (← get).answers with
  | reply :: rest =>
    modify fun s => { s with answers := rest }
    receive reply
  | [] => throw (.exhausted (lastName kind))

def call (name : String) (parts : List Value := []) (named : List (String × Value) := []) : Flow Value := do
  note name parts named
  if (← get).shared name then nextAnswer name else replyTo name ⟨name, parts, named, .null⟩

/-- Looks up what a service tells without being called. -/
def consult (name : String) (parts : List Value := []) : Flow Value := replyTo name ⟨name, parts, [], .null⟩

/-- What is made by a task when it is first asked for, and kept under a key from then on. -/
def once (key : String) (make : Flow Value) : Flow Value := do
  match (← get).made.lookup key with
  | some v => return v
  | none =>
    let v ← make
    modify fun s => { s with made := Sequence.put key v s.made }
    return v

def notice (text : String) : Flow Unit := modify fun s => { s with notices := s.notices ++ [text] }

def recover (flow : Flow α) (wayOut : Failure → Option (Flow α)) : Flow α := do
  match ← flow.attempt with
  | .ok a => return a
  | .error e =>
    match wayOut e with
    | some other => other
    | none => throw e

def ask (kind : String) (parts : List Value := []) (named : List (String × Value) := []) : Flow Value := do
  note kind parts named
  nextAnswer kind

def digest (text : String) : Flow Value := do return (← get).digest text

def now (layout : String) : Flow String := do return (← get).clock layout

def printLine (line : String) : Flow Unit := modify fun s => { s with printed := s.printed ++ line ++ "\n" }

end Flow

end WarehouseMigration
