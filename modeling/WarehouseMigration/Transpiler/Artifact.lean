import WarehouseMigration.Machine
import WarehouseMigration.Markup

/-!
# Artifacts

The files in which transpilers are delivered.  An artifact tells its version by its name.
-/

namespace WarehouseMigration.Transpiler.Artifact

def readPart (cs : List Char) : Option (List Char × List Char) :=
  match cs with
  | [] => none
  | c :: rest =>
    let word := rest.takeWhile Text.isWord
    let body := (word.reverse.dropWhile fun d => !Text.isDecimal d).reverse
    if (c = '.' || c = '-' || c = '_') && !body.isEmpty then some (c :: body, rest.drop body.length) else none

def readParts : Nat → List Char → List Char
  | 0, _ => []
  | fuel + 1, cs =>
    match readPart cs with
    | some (part, rest) => part ++ readParts fuel rest
    | none => []

def versionHere (cs : List Char) : Option (List Char) :=
  let number := cs.takeWhile Text.isDecimal
  let parts := readParts cs.length (cs.dropWhile Text.isDecimal)
  if number.isEmpty || parts.isEmpty then none else some (number ++ parts)

def findVersion : List Char → Option (List Char)
  | [] => none
  | c :: rest =>
    match if c = '-' || c = '_' then versionHere rest else none with
    | some version => some (c :: version)
    | none => findVersion rest

def version (artifact : Path) : Option String := do
  let found ← findVersion artifact.stem.toList
  return String.ofList (Text.dropTail "-py3".toList (Text.dropStart ['-'] found))

end WarehouseMigration.Transpiler.Artifact

/-! ### Maven Central

Where the artifacts of a group are found, which version is the present one, and how an artifact is fetched.
-/

namespace WarehouseMigration.Transpiler.Maven

def base (group artifact : String) : String :=
  "https://repo.maven.apache.org/maven2/" ++ Text.replace group "." "/" ++ "/" ++ artifact ++ "/"

def metadataAddress (group artifact : String) : String := base group artifact ++ "maven-metadata.xml"

def address (group artifact version : String) (classifier : String := "") (extension : String := "jar") : String :=
  base group artifact ++ version ++ "/" ++ artifact ++ "-" ++ version ++
    (if classifier == "" then "" else "-" ++ classifier) ++ "." ++ extension

def present (root : Element) : Option String :=
  ((root.select ["versioning", "release"]).head?.or (root.select ["versioning", "latest"]).head?).or
    ((root.select ["versioning", "versions"]).findSome? fun versions => (versions.named "version").getLast?)
  |>.map (·.text)

def presentIn (metadata : String) : Outcome (Option String) := present <$> Markup.parse metadata

def latest (group artifact : String) : Flow (Option String) := do
  match ← Flow.attempt (Machine.fetch (metadataAddress group artifact)) with
  | .ok (.text metadata) => present <$> Markup.parseBytes metadata
  | .ok (.archive _) => throw (.badMarkup "not well-formed")
  | .error (.http ..) => return none
  | .error failure => throw failure

def download (group artifact version : String) (target : Path) (classifier : String := "")
    (extension : String := "jar") :
    Flow Bool := do
  if ← Flow.pathExists target then return true
  match ← Flow.attempt (Machine.fetch (address group artifact version classifier extension)) with
  | .ok content =>
    Flow.change target fun tree place => tree.write place content
    return true
  | .error (.http ..) | .error (.unreachable _) => return false
  | .error failure => throw failure

end WarehouseMigration.Transpiler.Maven
