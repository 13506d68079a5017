import WarehouseMigration.Reconcile.Settings
import WarehouseMigration.Reconcile.Table
import WarehouseMigration.Spark

/-!
# Intermediate rows

The rows of a table are kept in a volume between the steps of its comparison.
-/

namespace WarehouseMigration.Reconcile

def Table.volumePath (t : Table) (m : Metadata) : String :=
  s!"/Volumes/{m.catalog}/{m.schema}/{m.volume}/{t.sourceName}_{t.targetName}/"

namespace Volume

def isSparkFailure : Failure → Bool
  | .remote "PySparkException" _ | .volumeAccess _ | .volumeClean _ => true
  | _ => false

def reword (words : String → Failure) (flow : Flow α) : Flow α := do
  match ← flow.attempt with
  | .ok a => return a
  | .error e => throw (if isSparkFailure e then words e.message else e)

/-- Empties a folder: a frame without rows is written over it. -/
def clean (path : String) : Flow Unit :=
  reword (fun reason => .volumeClean s!"Error cleaning up unmatched DF from {path} volumes --> {reason}") do
    let column := Value.record "StructField" ["empty", .record "StringType" [] [], true] []
    let empty ← Spark.make Spark.session "createDataFrame" [.list []]
      [("schema", .record "StructType" [.list [column]] [])]
    Spark.save empty "parquet" "overwrite" path

def keep (frame : Value) (path : String) : Flow Value :=
  reword (fun reason =>
      .volumeAccess s!"Exception in reading or writing unmatched DF with volumes {path} --> {reason}") do
    Spark.save frame "parquet" "overwrite" path
    Spark.load "parquet" path

end Volume

end WarehouseMigration.Reconcile
