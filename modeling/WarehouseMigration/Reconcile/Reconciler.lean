import WarehouseMigration.Reconcile.Comparison
import WarehouseMigration.Reconcile.DataSource
import WarehouseMigration.Reconcile.Sampler
import WarehouseMigration.Reconcile.SchemaComparison

/-!
# Reconciliation of a table

The steps of comparing one table: queries for both sides are made and read, the rows are compared, samples of the rows
that do not agree are read, and the columns with thresholds are compared on their own.
-/

namespace WarehouseMigration.Reconcile

inductive Query where
  /-- the hashes of rows, for a kind of report -/
  | hash (reportType : String)
  /-- all rows under their aliases -/
  | sampleAll
  /-- the rows with the keys of a frame -/
  | sample (keys : Value)
  | threshold
  | thresholdComparison
  | count

/-- A query for aggregates that share their groups, with the rules it serves. -/
structure AggregateQuery (ρ : Type) where
  layer : Layer
  groupBy : Option (List String)
  groupKey : String
  query : String
  rules : List ρ

/-- What turns a query on a table into SQL of a dialect. -/
structure QueryPlanner (ρ : Type) where
  plan : Query → Layer → String → Table → List Column → Flow String
  aggregates : Layer → String → Table → List Column → Flow (List (AggregateQuery ρ))

/-- The steps of a comparison that work on frames. -/
structure FrameComparison (ρ : Type) where
  schema : List Column → List Column → String → Table → Flow SchemaOutput
  rule : Value → List String → List String → ρ → Flow DataOutput
  rows : Value → Value → Option (List String) → String → String → Flow DataOutput := Comparison.rows
  mismatch : Value → Value → Option (List String) → Flow Mismatch := fun source target keys =>
    match keys with
    | some keys => Comparison.mismatch source target keys
    | none => throw (.wrongKind "no key columns")
  join : Value → Value → Option (List String) → String → Flow Value := Comparison.joinAggregates
  sample : Option SamplingOptions → Value → Int → Option (List String) → Value → Flow Value :=
    fun options frame count keys target => Reconcile.sample options 100 frame count (keys.getD []) target

/-- What compares the tables of two databases, where `ρ` is the type of the rules of aggregates. -/
structure Reconciler (ρ : Type) where
  source : DataSource
  target : DataSource
  database : Database
  reportType : String
  dialect : String
  targetDialect : String
  metadata : Metadata
  planner : QueryPlanner ρ
  compare : FrameComparison ρ

namespace Reconciler

variable {ρ : Type}

variable (r : Reconciler ρ)

def readSource (t : Table) (query : String) (options : Option ReaderOptions) : Flow Value :=
  r.source.read r.database.sourceCatalog r.database.sourceSchema t.sourceName query options

def readTarget (t : Table) (query : String) (options : Option ReaderOptions) : Flow Value :=
  r.target.read (some r.database.targetCatalog) r.database.targetSchema t.targetName query options

def compareHashes (t : Table) (source target : List Column) : Flow DataOutput := do
  let sourceQuery ← r.planner.plan (.hash r.reportType) .source r.dialect t source
  let targetQuery ← r.planner.plan (.hash r.reportType) .target r.dialect t target
  let sourceRows ← r.readSource t sourceQuery t.reader
  let targetRows ← r.readTarget t targetQuery t.reader
  r.compare.rows sourceRows targetRows t.joinColumns r.reportType (t.volumePath r.metadata)

def sampleMismatch (t : Table) (source target : List Column) (count : Int) (frame : Value) :
    Flow Mismatch := do
  let all ← r.planner.plan .sampleAll .target r.targetDialect t target
  let model ← r.readTarget t all none
  let keys ← Spark.make (← r.compare.sample t.sampling frame count t.joinColumns model) "cache"
  let sourceQuery ← r.planner.plan (.sample keys) .source r.dialect t source
  let targetQuery ← r.planner.plan (.sample keys) .target r.targetDialect t target
  let sourceRows ← r.readSource t sourceQuery none
  let targetRows ← r.readTarget t targetQuery none
  r.compare.mismatch sourceRows targetRows t.joinColumns

def frameOf (frame : Option Value) : Value := frame.getD .null

def sampleRows (t : Table) (o : DataOutput) (source target : List Column) : Flow DataOutput := do
  let mismatch ← if 0 < o.mismatchCount then
      some <$> r.sampleMismatch t source target o.mismatchCount (frameOf (o.mismatch.bind Mismatch.frame))
    else pure none
  let missingInSource ← if 0 < o.missingInSourceCount then do
      let query ← r.planner.plan (.sample (frameOf o.missingInSource)) .target r.targetDialect t target
      some <$> r.readTarget t query none
    else pure none
  let missingInTarget ← if 0 < o.missingInTargetCount then do
      let query ← r.planner.plan (.sample (frameOf o.missingInTarget)) .source r.dialect t source
      some <$> r.readSource t query none
    else pure none
  return {
    mismatchCount := o.mismatchCount
    missingInSourceCount := o.missingInSourceCount
    missingInTargetCount := o.missingInTargetCount
    mismatch, missingInSource, missingInTarget }

def outsideThreshold (columns : List String) : String :=
  " OR ".intercalate (columns.map fun c =>
    let name := Identifier.bare c
    s!"\x60{name}_match\x60 = 'Failed'")

def compareThresholds (t : Table) (source target : List Column) : Flow (Option Value × Int) := do
  let sourceQuery ← r.planner.plan .threshold .source r.dialect t source
  let targetQuery ← r.planner.plan .threshold .target r.targetDialect t target
  let sourceRows ← r.readSource t sourceQuery t.reader
  let targetRows ← r.readTarget t targetQuery t.reader
  let _ ← Spark.act sourceRows "createOrReplaceTempView" [s!"source_{t.sourceName}_df_threshold_vw"]
  let _ ← Spark.act targetRows "createOrReplaceTempView" [s!"target_{t.targetName}_df_threshold_vw"]
  let query ← r.planner.plan .thresholdComparison .target r.targetDialect t source
  let compared ← r.readTarget t query t.reader
  let outside ← Spark.make compared "filter" [outsideThreshold (t.thresholdColumns .source)]
  let count ← Spark.number outside "count"
  let frame ← if 0 < count then some <$> Spark.make outside "limit" [shownRows] else pure none
  return (frame, count)

def reconcileData (t : Table) (source target : List Column) : Flow DataOutput := do
  let hashed ← r.compareHashes t source target
  if r.reportType = "data" || r.reportType = "all" then
    let sampled ← r.sampleRows t hashed source target
    if (t.thresholdColumns .source).isEmpty then return sampled
    let (frame, count) ← r.compareThresholds t source target
    return { sampled with thresholdFrame := frame, thresholdMismatchCount := count }
  return hashed

def reconcileSchema (t : Table) (source target : List Column) : Flow SchemaOutput :=
  r.compare.schema source target r.dialect t

def reconcileGroup (t : Table) (source target : AggregateQuery ρ) : Flow (List (ρ × DataOutput)) := do
  let path := t.volumePath r.metadata
  let joined : Flow (Value × Value × Value) := do
    let sourceRows ← r.readSource t source.query t.reader
    let targetRows ← r.readTarget t target.query t.reader
    return (sourceRows, targetRows, ← r.compare.join sourceRows targetRows source.groupBy (path ++ source.groupKey))
  match ← joined.attempt with
  | .ok (sourceRows, targetRows, frame) =>
    source.rules.mapM fun rule => do
      return (rule, ← r.compare.rule frame (← Spark.columns sourceRows) (← Spark.columns targetRows) rule)
  | .error (.dataSource reason) => return source.rules.map fun rule => (rule, { exception := some reason })
  | .error e => throw e

def reconcileAggregates (t : Table) (source target : List Column) :
    Flow (List (ρ × DataOutput)) := do
  let sourceQueries ← r.planner.aggregates .source r.dialect t source
  let targetQueries ← r.planner.aggregates .target r.targetDialect t target
  return (← (sourceQueries.zip targetQueries).mapM fun (s, g) => r.reconcileGroup t s g).flatten

def rowNumber : Value → Outcome Int
  | .null => pure 0
  | .list (.text s :: _) => Text.toInt s
  | .list (n :: _) => n.truncated
  | .list [] => throw (.noIndex "empty row")
  | _ => throw (.wrongKind "not a row")

def recordCount (t : Table) : Flow RecordCount := do
  if r.reportType = "schema" then return {}
  let sourceQuery ← r.planner.plan .count .source r.dialect t []
  let targetQuery ← r.planner.plan .count .target r.targetDialect t []
  let sourceRow ← Spark.act (← r.readSource t sourceQuery none) "first"
  let targetRow ← Spark.act (← r.readTarget t targetQuery none) "first"
  return ⟨← Flow.ofOutcome (rowNumber sourceRow), ← Flow.ofOutcome (rowNumber targetRow)⟩

end Reconciler

end WarehouseMigration.Reconcile
