import WarehouseMigration.Session

/-!
# Files in a session

Reading and changing the files of the working directory.
-/

namespace WarehouseMigration.Flow

def place (p : Path) : Flow (List String) := do
  if p.hasNull then throw (.invalid "embedded null byte")
  if p.parts.any fun part => 255 < part.utf8ByteSize then throw (.file .nameTooLong p.toString)
  match FileTree.locate (← get).home p with
  | some place => return place
  | none => throw (.file .notFound p.toString)

variable (p : Path)

def inspect (look : FileTree → List String → α) (outside : α) : Flow α := do
  if p.hasNull then return outside
  if p.parts.any fun part => 255 < part.utf8ByteSize then throw (.file .nameTooLong p.toString)
  let s ← get
  return match FileTree.locate s.home p with
    | some place => look s.files place
    | none => outside

def pathExists : Flow Bool := inspect p FileTree.holds false

def isDirectory (p : Path) : Flow Bool := inspect p FileTree.isDirectory false

def isFile (p : Path) : Flow Bool := inspect p FileTree.isFile false

def change (act : FileTree → List String → Except FileFault FileTree) : Flow Unit := do
  let place ← place p
  match act (← get).files place with
  | .ok files => modify fun s => { s with files := files }
  | .error fault => throw (.file fault p.toString)

def readContent : Flow Content := do
  match (← get).files.read (← place p) with
  | .ok content => return content
  | .error fault => throw (.file fault p.toString)

def readText : Flow String := do
  match ← readContent p with
  | .text s => return s
  | .archive _ => throw (.badEncoding "invalid start byte")

def readLines : Flow String := do return Text.newlines (← readText p)

def writeText (text : String) : Flow Unit := change p fun t place => t.write place (.text text)

def appendText (text : String) : Flow Unit := do
  let old ← inspect p (fun t place => match t.read place with
    | .ok (.text s) => s
    | _ => "") ""
  writeText p (old ++ text)

def makeDirectories (p : Path) : Flow Unit := change p FileTree.makeDirectories

def makeDirectory (p : Path) (existing : Bool := false) : Flow Unit := change p fun t place =>
  t.makeDirectory place existing

def listDirectory : Flow (List Path) := do
  let place ← place p
  let files := (← get).files
  match files.find? place with
  | some .directory => return (files.names place).map fun name => ⟨p.anchor, p.parts ++ [name]⟩
  | some (.file _) => throw (.file .notADirectory p.toString)
  | none => throw (.file (files.absence place) p.toString)

def removeDirectory (p : Path) : Flow Unit := change p FileTree.removeDirectory

def removeTree : Flow Unit := change p fun t place =>
  if t.holds place then pure (t.remove place) else throw (t.absence place)

def removeFile : Flow Unit := change p fun t place =>
  if t.isDirectory place then throw .isADirectory
  else if t.holds place then pure (t.remove place)
  else throw (t.absence place)

def rename (source target : Path) : Flow Unit := do
  let target ← place target
  change source fun t place => t.rename place target

def move (source target : Path) : Flow Unit := do
  if ← isDirectory target then
    let inside := target.child source.name
    if ← pathExists inside then throw (.file .exists inside.toString)
    rename source inside
  else rename source target

def inDirectory (flow : Flow α) : Flow α := do
  let folder ← place p
  let tree := (← get).files
  match tree.find? folder with
  | some .directory => pure ()
  | some (.file _) => throw (.file .notADirectory p.toString)
  | none => throw (.file (tree.absence folder) p.toString)
  modify fun s => { s with files := s.files.below folder }
  ensure flow (modify fun s => { s with files := ⟨tree.entries.filter (fun (at', _) =>
    !(folder.isPrefixOf at' && at' != folder)) ++ s.files.entries.map fun (at', entry) => (folder ++ at', entry)⟩ })

def walkFrom : Nat → Path → Flow (List (Path × List Path × List Path))
  | 0, _ => return []
  | fuel + 1, p => do
    let entries ← listDirectory p
    let folders ← entries.filterM isDirectory
    let files ← entries.filterM isFile
    let inner ← folders.mapM (walkFrom fuel)
    return (p, folders, files) :: inner.flatten

def walk : Flow (List (Path × List Path × List Path)) := do
  walkFrom ((← get).files.entries.length + 1) p

end WarehouseMigration.Flow
