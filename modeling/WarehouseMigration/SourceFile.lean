import WarehouseMigration.Session.Files
import WarehouseMigration.Text.LetterCase

/-!
# Source files

The files of a project that a migration looks at, and where its results go.
-/

namespace WarehouseMigration.SourceFile

def isSql (file : Path) : Bool := [".sql", ".ddl"].contains (Text.lower file.suffix)

def isDbtProject (file : Path) : Bool := file.name == "dbt_project.yml"

def sqlFiles (folder : Path) : Flow (List Path) := do
  return (← Flow.walk folder).flatMap fun (_, _, files) => files.filter isSql

def isWritable (file : Path) : Flow Bool := do
  match ← Flow.attempt (Flow.pathExists file) with
  | .error _ => return false
  | .ok true => return true
  | .ok false =>
    match ← Flow.attempt (Flow.pathExists file.parent) with
    | .ok there => return there
    | .error _ => return false

/-- Moves a result out of its temporary folder, which is removed, next to `target`.  If a file of that name is in
the way, the result goes into a folder named for the present time. -/
def moveResult (result target : Path) : Flow Unit :=
  Flow.ensure (do
    match ← Flow.attempt (Flow.move result target.parent) with
    | .ok () => pure ()
    | .error (.file .exists _) =>
      let folder := target.parent.child (← Flow.now "%Y%m%d-%H%M%S")
      Flow.makeDirectory folder true
      Flow.move result folder
    | .error failure => throw failure)
    (Flow.removeDirectory result.parent)

end WarehouseMigration.SourceFile
