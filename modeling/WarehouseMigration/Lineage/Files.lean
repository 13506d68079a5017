import WarehouseMigration.Lineage.Graph
import WarehouseMigration.SourceFile

/-!
# Lineage of files

The lineage graph of a file, or of all SQL files from a folder down, and the flowchart that is written of it.
-/

namespace WarehouseMigration.Lineage

abbrev Analysis := (dialect text : String) → Path → Flow (List (Option String × Option String))

def Graph.addPairs (g : Graph) : List (Option String × Option String) → Outcome Graph
  | [] => pure g
  | (root, child) :: rest =>
    match (g.addNode child).addEdge root child with
    | (g, .ok ()) => g.addPairs rest
    | (_, .error failure) => throw failure

def addFiles (analyse : Analysis) (dialect : String) (g : Graph) : List Path → Flow Graph
  | [] => return g
  | file :: rest => do
    let pairs ← analyse dialect (← Flow.readText file) file
    addFiles analyse dialect (← g.addPairs pairs) rest

/-- The lineage of a file, or of the SQL files from a folder down. -/
def graphOf (analyse : Analysis) (dialect : String) (input : Path) : Flow Graph := do
  addFiles analyse dialect {} (← if SourceFile.isSql input then pure [input] else SourceFile.sqlFiles input)

def generate (analyse : Analysis) (dialect input output : String) : Flow Unit := do
  let g ← graphOf analyse dialect (.ofString input)
  let folder := if Text.endsWith output "/" then output else output ++ "/"
  Flow.writeText (.ofString (folder ++ "lineage_" ++ (← Flow.now "%d%m%y") ++ ".dot")) g.flowchart

end WarehouseMigration.Lineage
