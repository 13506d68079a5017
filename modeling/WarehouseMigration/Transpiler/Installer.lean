import WarehouseMigration.Transpiler.Artifact
import WarehouseMigration.Transpiler.Backup
import WarehouseMigration.Transpiler.Installed
import WarehouseMigration.Transpiler.Java

/-!
# Installing transpilers

A transpiler is installed from a local artifact or from the network, in one of two ways: as a package for an
environment of its own, or as an archive that holds its description.  A failed installation leaves the product as it
was before.
-/

namespace WarehouseMigration.Transpiler

def noteVersion (product : Path) (version : String) : Flow Unit := do
  let state := product.child "state"
  Flow.makeDirectory state
  Flow.writeText (state.child "version.json") (Json.render (.map [("version", "v" ++ version),
    ("date", ← Flow.now "")]) ++ "\n")

def isRefusal : Failure → Bool
  | .process .. => true
  | failure => failure.isInvalid || failure.isNoKey

/-- Installs a version into a new folder by a given task, which tells whether it succeeded.  The folder is given back if
it did; the flag tells whether it is to be kept. -/
def fillFolder (folder : Path) (version : String) (task : Path → Flow Bool) : Flow (Option Path × Bool) := do
  Flow.makeDirectories (folder.child "lib")
  let done ← match ← Flow.attempt (task (folder.child "lib")) with
    | .ok done => pure done
    | .error failure => if isRefusal failure then pure false else throw failure
  if !done then return (none, false)
  noteVersion folder version
  return (some folder, true)

/-- Installs a version of a product.  The product's folder is given back if it succeeded; if not, the product is as it
was before. -/
def installVersion (i : Installed) (product version : String) (task : Path → Flow Bool) : Flow (Option Path) :=
  Backup.guard (i.productFolder product) (fillFolder (i.productFolder product) version task)

def installLatest (i : Installed) (product : String) (latest : Flow (Option String))
    (task : String → Path → Flow Bool) :
    Flow (Option Path) := do
  let some version ← latest | return none
  if (← i.version product) == some version then return none
  installVersion i product version (task version)

/-! ### Packages -/

def latestPackage (package : String) : Flow (Option Value) := do
  match ← Flow.attempt (Machine.fetchText s!"https://pypi.org/pypi/{package}/json") with
  | .error (.http ..) => return none
  | .error failure => throw failure
  | .ok text =>
    let some data := Json.parse (String.ofList (Text.withoutMark text)) | throw (.badJson "not well-formed")
    if data.entries?.isNone || (data.getOr "info" (.map [])).entries?.isNone then throw (.noMember "not a map")
    return ((data.getD "info").get? "version").filter fun v => !v.isNull

def installPackage (product source : String) (library : Path) : Flow Bool := do
  let environment := library.child ".venv"
  Machine.makeEnvironment environment product
  let files ← Machine.run [(environment.child "bin/python").toString, "-m", "pip", "--disable-pip-version-check",
    "install", source] false
  Machine.deliver (Machine.packageFolder environment) files
  let own := (Machine.packageFolder environment).child "lsp"
  if !(← Flow.pathExists own) then throw (.invalid "Installed transpiler is missing a 'lsp' folder")
  Machine.copyFolder own library
  if !(← Flow.pathExists (library.child "config.yml")) then
    throw (.invalid "Installed transpiler is missing a 'config.yml' file in its 'lsp' folder")
  let installer := library.child "installer.sh"
  if ← Flow.pathExists installer then
    let _ ← Machine.run [installer.toString] true
  return true

def installWheel (i : Installed) (product package : String) (artifact : Option Path) : Flow (Option Path) :=
  installLatest i product
    (match artifact with
      | some file => pure (Artifact.version file)
      | none => do return (← latestPackage package).map Value.shown)
    fun _ => installPackage product ((artifact.map Path.toString).getD package)

/-! ### Archives -/

def extractDescription (archive library : Path) : Flow Unit := do
  match ← Flow.readContent archive with
  | .text _ => throw (.badArchive "File is not a zip file")
  | .archive members =>
    match members.lookup "lsp/config.yml" with
    | some text => Flow.writeText (library.child "config.yml") text
    | none => throw (.noKey "There is no item named 'lsp/config.yml' in the archive")

def installArchive (i : Installed) (product group name : String) (artifact : Option Path) : Flow (Option Path) :=
  installLatest i product
    (match artifact with
      | some file => pure (Artifact.version file)
      | none => Maven.latest group name)
    fun version library => do
      let archive := library.child (name ++ ".jar")
      if let some file := artifact then Machine.copyFile file archive
      else if !(← Maven.download group name version archive) then return false
      extractDescription archive library
      return true

/-! ### The known transpilers -/

/-- The transpilers that can be installed. -/
inductive Product where
  | bladebridge
  | morpheus
deriving DecidableEq

namespace Product

def name : Product → String
  | bladebridge => "Bladebridge"
  | morpheus => "Morpheus"

def accepts (artifact : Path) : Product → Bool
  | bladebridge => Text.contains artifact.name "databricks_bb_plugin" && artifact.suffix == ".whl"
  | morpheus => Text.contains artifact.name "databricks-morph-plugin" && artifact.suffix == ".jar"

def install (i : Installed) (artifact : Option Path) : Product → Flow Bool
  | bladebridge => do return (← installWheel i "bladebridge" "databricks-bb-plugin" artifact).isSome
  | morpheus => do
    if !(← Java.isRecent) then return false
    return (← installArchive i "databricks-morph-plugin" "com.databricks.labs" "databricks-morph-plugin" artifact).isSome

end Product

end WarehouseMigration.Transpiler
