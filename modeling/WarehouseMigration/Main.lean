import WarehouseMigration.Command.Rehearsal

/-!
# The program

The program is called with an invocation.  It reads the script of a session from standard input, runs the command in
it, and prints the report.
-/

/-! ### Invocations

The command line is one document: the name of a command and its flags.  Flags that are left empty count as not given,
and in names a hyphen stands for an underscore.
-/

namespace WarehouseMigration

structure Invocation where
  command : String
  flags : List (String × Value)

namespace Invocation

def unhyphenated (name : String) : String := Text.replace name "-" "_"

def read (v : Value) : Outcome Invocation := do
  let command ← match v.get? "command" with
    | some (.text name) => pure name
    | _ => throw (.noKey "command")
  let given := (v.getD "flags").pairs.filter fun (name, flag) => name != "log_level" && !(flag == .text "")
  return ⟨unhyphenated command, given.map fun (name, flag) => (unhyphenated name, flag)⟩

def parse (text : String) : Outcome Invocation :=
  match Json.parse text with
  | some v => read v
  | none => throw (.badJson "not a document")

def script (i : Invocation) (session : Value) : Value :=
  .map (session.pairs ++ [("name", .text i.command), ("args", .map i.flags)])

end Invocation

def rehearse (commandLine session : String) : Outcome Value := do
  let invocation ← Invocation.parse commandLine
  let script := invocation.script ((Json.parse session).getD (.map []))
  Command.Rehearsal.command (fun e => .map [("error", e.message)]) script (Session.scripted script)

end WarehouseMigration

open WarehouseMigration

def main (arguments : List String) : IO UInt32 := do
  let session ← (← IO.getStdin).getLine
  match rehearse (arguments.headD "") session with
  | .ok report =>
    IO.println (Json.render report)
    return 0
  | .error e =>
    IO.eprintln e.message
    return 1
