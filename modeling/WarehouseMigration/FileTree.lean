import WarehouseMigration.Failure
import WarehouseMigration.Path
import WarehouseMigration.Value.Json

/-!
# File trees

The files and folders below the working directory.  Every operation gives the tree it leaves behind or the reason
why it was refused.  Names below a folder are listed in the order in which they were made.
-/

namespace WarehouseMigration

inductive Content where
  | text (s : String)
  | archive (members : List (String × String))

inductive Entry where
  | directory
  | file (content : Content)

def Entry.isDirectory : Entry → Bool
  | directory => true
  | file _ => false

/-- The entries below the working directory, each with the names that lead to it. -/
structure FileTree where
  entries : List (List String × Entry)

namespace FileTree

def empty : FileTree := ⟨[]⟩

/-- The names that lead from the working directory `home` to a path; none for a path outside of it. -/
def locate (home : String) (p : Path) : Option (List String) :=
  let parts := Path.collapse p.parts
  if p.anchor != "" && p.anchor != home || parts.head? == some ".." then none else some parts

variable (t : FileTree)

def find? (place : List String) : Option Entry :=
  if place.isEmpty then some .directory else t.entries.lookup place

def holds (place : List String) : Bool := (t.find? place).isSome

def isDirectory (t : FileTree) (place : List String) : Bool :=
  match t.find? place with
  | some entry => entry.isDirectory
  | none => false

def isFile (place : List String) : Bool :=
  match t.find? place with
  | some (.file _) => true
  | _ => false

def names (place : List String) : List String :=
  t.entries.filterMap fun (at', _) => if at' != [] && at'.dropLast == place then at'.getLast? else none

def absence (place : List String) : FileFault :=
  if ((Sequence.initials place).any fun above => above != place && t.isFile above) then .notADirectory else .notFound

def put (t : FileTree) (place : List String) (entry : Entry) : FileTree := ⟨Sequence.put place entry t.entries⟩

def remove (place : List String) : FileTree :=
  ⟨t.entries.filter fun (at', _) => !place.isPrefixOf at'⟩

def move (source target : List String) : FileTree :=
  ⟨(t.remove target).entries.map fun (at', entry) =>
    if source.isPrefixOf at' then (target ++ at'.drop source.length, entry) else (at', entry)⟩

def below (place : List String) : FileTree :=
  ⟨t.entries.filterMap fun (at', entry) =>
    if place.isPrefixOf at' && at' != place then some (at'.drop place.length, entry) else none⟩

def withParents (place : List String) : FileTree :=
  (Sequence.initials place.dropLast).foldl (fun t above => if t.holds above then t else t.put above .directory) t

def addFile (place : List String) (content : Content) : FileTree :=
  (t.withParents place).put place (.file content)

def admits (place : List String) : Except FileFault Unit :=
  if t.isDirectory place.dropLast then pure () else throw (t.absence place)

def write (place : List String) (content : Content) : Except FileFault FileTree := do
  if t.isDirectory place then throw .isADirectory
  t.admits place
  return t.put place (.file content)

def read (place : List String) : Except FileFault Content :=
  match t.find? place with
  | some (.file content) => pure content
  | some .directory => throw .isADirectory
  | none => throw (t.absence place)

def makeDirectory (place : List String) (existing : Bool) : Except FileFault FileTree := do
  if t.holds place then
    if existing && t.isDirectory place then return t else throw .exists
  t.admits place
  return t.put place .directory

def makeDirectories (place : List String) : Except FileFault FileTree := do
  match (Sequence.initials place).find? t.isFile with
  | some file => if file == place then throw .exists else throw .notADirectory
  | none => return (Sequence.initials place).foldl (fun t above =>
      if t.holds above then t else t.put above .directory) t

def rename (source target : List String) : Except FileFault FileTree := do
  let some entry := t.find? source | throw (t.absence source)
  t.admits target
  if source == target then return t
  match t.find? target with
  | some .directory =>
    if !entry.isDirectory then throw .isADirectory
    if !(t.names target).isEmpty then throw .notEmpty
  | some (.file _) => if entry.isDirectory then throw .notADirectory
  | none => pure ()
  return t.move source target

def removeDirectory (place : List String) : Except FileFault FileTree := do
  match t.find? place with
  | none => throw (t.absence place)
  | some (.file _) => throw .notADirectory
  | some .directory => if (t.names place).isEmpty then return t.remove place else throw .notEmpty

def copyInto (source target : List String) : FileTree :=
  (t.below source).entries.foldl (fun t (at', entry) => t.put (target ++ at') entry)
    ((t.withParents (target ++ [""])))

def listed (place : List String) (content : Content) : Value :=
  match content with
  | .text s =>
    if place.getLast? == some "version.json" then ((Json.parse s).map (·.getD "version")).getD (.text s) else .text s
  | .archive _ => .text (if (place.getLast?.getD "").endsWith ".jar" then "<jar>" else "<zip>")

def listing : List (String × Value) :=
  t.entries.filterMap fun (place, entry) =>
    match entry with
    | .file content => some ("/".intercalate place, listed place content)
    | .directory => if (t.names place).isEmpty then some ("/".intercalate place ++ "/", .null) else none

instance : ToValue FileTree := ⟨fun t => .map t.listing⟩

end FileTree

end WarehouseMigration
