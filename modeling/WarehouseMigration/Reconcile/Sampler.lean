import WarehouseMigration.Reconcile.Sampling
import WarehouseMigration.Spark

/-!
# Samplers

A sampler takes some of the mismatching rows, at random or in proportion to strata.  Sizes of samples are kept
between 50 and 400, numbers of strata between 2 and 50.
-/

namespace WarehouseMigration.Reconcile

def leastSample : Int := 50

def greatestSample : Int := 400

def leastBuckets : Int := 2

def greatestBuckets : Int := 50

namespace SamplingMethod

def sampler : SamplingMethod → String
  | random => "RandomSampler"
  | stratified => "StratifiedSampler"

end SamplingMethod

namespace SamplingOptions

def standard : SamplingOptions := ⟨.random, some ⟨.count, .int leastSample⟩, none, .null⟩

/-- A number moved into the range between two bounds. -/
def clamp (least greatest : Int) (amount : Value) : Outcome Value := do
  if ← amount.isBelow least then return .int least
  if ← amount.isAbove greatest then return .int greatest
  return amount

def boundSize (o : SamplingOptions) : Outcome SamplingOptions := do
  match o.size with
  | none => throw (.noMember "no specifications")
  | some ⟨.fraction, _⟩ => return o
  | some ⟨.count, .null⟩ => return { o with size := some ⟨.count, .int leastSample⟩ }
  | some ⟨.count, amount⟩ => return { o with size := some ⟨.count, ← clamp leastSample greatestSample amount⟩ }

def boundBuckets (o : SamplingOptions) : Outcome SamplingOptions := do
  return { o with buckets := ← clamp leastBuckets greatestBuckets o.buckets }

def settle (o : SamplingOptions) (method : SamplingMethod) : SamplingOptions × Outcome Unit :=
  if o.method ≠ method then
    let sampler := method.sampler
    let wanted := method.name
    (o, throw (.invalid s!"{sampler}: Only '{wanted}' sampling method is supported"))
  else
    match o.boundSize with
    | .error e => (o, throw e)
    | .ok sized =>
      match method with
      | .random => (sized, pure ())
      | .stratified =>
        match sized.boundBuckets with
        | .error e => (sized, throw e)
        | .ok bounded => (bounded, pure ())

end SamplingOptions

def atMostOne (x : Float) : Float := if 1.0 ≤ x then 1.0 else x

def quotient (a b : Int) : Outcome Float :=
  if b = 0 then throw (.divisionByZero "division by zero") else pure (Float.ofInt a / Float.ofInt b)

def SamplingOptions.wanted (o : SamplingOptions) : Outcome Int :=
  match o.size with
  | some size => size.amount.truncated
  | none => throw (.noMember "no specifications")

/-- Samples rows at random; `count` is the number of rows there are. -/
def sampleRandom (o : SamplingOptions) (seed : Int) (keys : Value) (count : Int) : Flow Value := do
  let (o, accepted) := o.settle .random
  Flow.ofOutcome accepted
  let _ ← Spark.make keys "limit" [leastSample]
  let size ← Flow.ofOutcome o.wanted
  let fraction := atMostOne (← Flow.ofOutcome (quotient size count))
  let sampled ← Spark.make keys "sample" [] [("fraction", .float fraction), ("seed", seed)]
  Spark.make sampled "limit" [size]

/-- The share of a stratum of `rows` rows in a sample of `size` rows out of `total`. -/
def stratumShare (size rows total : Int) : Outcome Float := do
  let share ← quotient (size * rows) total
  if rows = 0 then throw (.divisionByZero "float division by zero")
  return atMostOne (share / Float.ofInt rows)

def rowPart (row : Value) (name : String) : Outcome Value :=
  match row.get? name with
  | some v => pure v
  | none => throw (.noKey name)

def sampleStratified (o : SamplingOptions) (seed : Int) (keys : Value) (keyColumns : List String) (target : Value) :
    Flow Value := do
  let (o, accepted) := o.settle .stratified
  Flow.ofOutcome accepted
  let columns := o.columns.getD []
  let others := columns.filter fun c => !keyColumns.contains c
  let buckets := if o.buckets.isSet then o.buckets else .int leastBuckets
  let _ ← Spark.make keys "select" (keyColumns.map Value.text)
  let _ ← Spark.make keys "limit" [leastSample]
  let conditions := keyColumns.map fun c => Spark.operator "==" (Spark.item keys c) (Spark.item target c)
  let joined ← Spark.make keys "join" [target, .list conditions, "inner"]
  let joined ← Spark.make joined "select" (keyColumns.map (Spark.item keys) ++ others.map (Spark.item target))
  let bucket := Spark.function "pmod"
    [Spark.function "abs" [Spark.function "hash" (columns.map Spark.column)], buckets]
  let bucketed ← Spark.make joined "withColumn" ["bucket", bucket]
  let size ← Flow.ofOutcome o.wanted
  let groups ← Spark.make bucketed "groupBy" ["bucket"]
  let rows ← Spark.collect (Spark.applied groups "count")
  let counts ← rows.mapM fun row => Flow.ofOutcome do
    return ((← rowPart row "bucket").shown, ← (← rowPart row "count").truncated)
  let total := counts.foldl (fun sum (_, n) => sum + n) 0
  let shares ← counts.mapM fun (bucket, n) => Flow.ofOutcome do
    return (bucket, Value.float (← stratumShare size n total))
  let sampled ← Spark.make bucketed "sampleBy" ["bucket"]
    [("fractions", .map (Sequence.lastOf shares)), ("seed", seed)]
  let sampled ← Spark.make sampled "limit" [size]
  Spark.make sampled "select" (keyColumns.map Value.text)

/-- Samples rows with the options of a table; `count` is the number of rows there are. -/
def sample (o : Option SamplingOptions) (seed : Int) (keys : Value) (count : Int) (keyColumns : List String)
    (target : Value) : Flow Value :=
  let o := o.getD .standard
  match o.method with
  | .random => sampleRandom o seed keys count
  | .stratified => sampleStratified o seed keys keyColumns target

end WarehouseMigration.Reconcile
