import WarehouseMigration.Session.Files

/-!
# Migration of packages

An uploaded package of data flows is a single package, a project of packages, or an archive of packages.  What its
migration gives is told by the kind of the file, and for an archive by the number of packages in it; the archive is
unpacked into a folder for that, which is removed afterwards.
-/

namespace WarehouseMigration.Web

structure MigrationOptions where
  controlFlow : Bool
  dataFlow : Bool
  sqlTasks : Bool
  notebooks : Bool
  workflow : Bool

namespace MigrationOptions

def ofForm (form : List (String × String)) : MigrationOptions :=
  let ticked := fun (name : String) => form.lookup name == some "on"
  ⟨ticked "convert_control_flow", ticked "convert_data_flow", ticked "convert_sql_tasks", ticked "generate_notebooks",
    ticked "create_workflow"⟩

instance : ToValue MigrationOptions := ⟨fun o => .map [("control_flow", o.controlFlow), ("data_flow", o.dataFlow),
  ("sql_tasks", o.sqlTasks), ("notebooks", o.notebooks), ("workflow", o.workflow)]⟩

end MigrationOptions

structure Migration where
  tasks : Nat := 0
  notebooks : Nat := 0
  workflows : Nat := 0
  artifacts : List String := []

namespace Migration

variable (o : MigrationOptions)

def ofParts (tasks : Nat) (notebooks queries : List String) : Migration where
  tasks := tasks
  notebooks := if o.notebooks then notebooks.length else 0
  workflows := if o.workflow then 1 else 0
  artifacts := (if o.notebooks then notebooks else []) ++ (if o.workflow then ["workflow_definition.json"] else []) ++
    (if o.sqlTasks then queries else [])

def notebookNames (count : Nat) : List String := (List.range count).map fun k => s!"notebook_{k + 1}.py"

def ofPackage : Migration :=
  ofParts o 5 ["migration_notebook.py"] ["converted_sql_queries.sql"]

def ofProject : Migration := ofParts o 12 (notebookNames 3) ["converted_sql_queries.sql"]

def ofPackages (count : Nat) : Migration := ofParts o (3 * count) (notebookNames count) []

end Migration

/-! ### Archives -/

def memberPlace (folder : Path) (name : String) : Path :=
  ⟨folder.anchor, folder.parts ++ (Text.split name "/").filter fun part => !(["", ".", ".."].contains part)⟩

def unpackMember (folder : Path) (name text : String) : Flow Unit := do
  let place := memberPlace folder name
  if !(← Flow.pathExists place.parent) then Flow.makeDirectories place.parent
  if Text.endsWith name "/" then
    if !(← Flow.isDirectory place) then Flow.makeDirectory place
  else Flow.writeText place text

def unpack (archive folder : Path) : Flow Unit := do
  match ← Flow.readContent archive with
  | .text _ => throw (.badArchive "File is not a zip file")
  | .archive members =>
    for (name, text) in members do
      unpackMember folder name text

def countPackages (folder : Path) : Flow Nat := do
  let found := (← Flow.walk folder).flatMap fun (_, folders, files) => folders ++ files
  return (found.filter fun path => Text.endsWith path.name ".dtsx").length

/-- Migrates an archive.  The folder is removed once all is unpacked and counted; of an archive that cannot be unpacked
nothing is migrated. -/
def migrateArchive (o : MigrationOptions) (folder archive : Path) : Flow Migration := do
  Flow.makeDirectory folder true
  let counted ← Flow.attempt do
    unpack archive folder
    let count ← countPackages folder
    Flow.removeTree folder
    return count
  return match counted with
    | .ok count => .ofPackages o count
    | .error _ => {}

def migrate (o : MigrationOptions) (uploads package : Path) : Flow Migration := do
  if Text.endsWith package.name ".zip" then migrateArchive o (uploads.child "extracted") package
  else if Text.endsWith package.name ".dtsx" then return .ofPackage o
  else if Text.endsWith package.name ".ispac" then return .ofProject o
  else return {}

end WarehouseMigration.Web
