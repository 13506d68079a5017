import WarehouseMigration.Session.Files

/-!
# The machine

What a run asks of the machine it stands on: documents from the network, programs and their folders.
-/

namespace WarehouseMigration.Machine

def callNames : List String := ["download", "run", "environment"]

def fetch (address : String) : Flow Content := do
  match ← Flow.call "download" [address] with
  | .map members => return .archive (members.map fun (name, v) => (name, v.shown))
  | v => return .text v.shown

def fetchText (address : String) : Flow String := do
  match ← fetch address with
  | .text s => return s
  | .archive _ => throw (.badEncoding "invalid start byte")

/-- Runs a program to its end and gives the files it delivers; a failure code is a failure. -/
def run (command : List String) (checked : Bool) : Flow Value :=
  Flow.call "run" [command, checked]

def packageFolder (environment : Path) : Path := environment.child "lib/python/site-packages"

def makeEnvironment (environment : Path) (product : String) : Flow Unit := do
  Flow.note "environment" [] [("with_pip", true), ("prompt", product), ("symlinks", true)]
  Flow.makeDirectories (packageFolder environment)

def deliver (folder : Path) (files : Value) : Flow Unit :=
  files.pairs.forM fun (name, content) => do
    let file := folder.child name
    Flow.makeDirectories file.parent
    Flow.writeText file content.shown

def copyFile (source target : Path) : Flow Unit := do
  let content ← Flow.readContent source
  Flow.change target fun tree place => tree.write place content

def copyFolder (source target : Path) : Flow Unit := do
  let place ← Flow.place source
  Flow.listDirectory source *> Flow.change target fun tree goal => pure (tree.copyInto place goal)

end WarehouseMigration.Machine

namespace WarehouseMigration.Session

def addresses (s : Session) : List Value := (s.calls.filter (·.name == "download")).flatMap (·.parts)

def beyondMachine (s : Session) : List Call := s.calls.filter fun call => !Machine.callNames.contains call.name

end WarehouseMigration.Session
