import WarehouseMigration.Value.Fields
import WarehouseMigration.Text.LetterCase

/-!
# Sampling options

How many of the mismatching rows are shown, and how they are chosen.
-/

namespace WarehouseMigration.Reconcile

inductive SamplingMethod where
  | random
  | stratified
deriving DecidableEq

def SamplingMethod.name : SamplingMethod → String
  | random => "random"
  | stratified => "stratified"

inductive SampleUnit where
  | count
  | fraction
deriving DecidableEq

def SampleUnit.name : SampleUnit → String
  | count => "count"
  | fraction => "fraction"

structure SampleSize where
  unit : SampleUnit
  amount : Value

namespace SampleSize

def read (v : Value) : Outcome SampleSize := do
  let f ← Fields.ofValue ["type", "value"] [] v
  match Text.lower (f.get "type").shown with
  | "count" => return ⟨.count, f.get "value"⟩
  | "fraction" => throw (.invalid "SamplingSpecifications: 'FRACTION' type is disabled")
  | other => throw (.invalid (Text.quote other ++ " is not a valid SamplingSpecificationsType"))

instance : ToValue SampleSize := ⟨fun s => .map [("type", s.unit.name), ("value", s.amount)]⟩

end SampleSize

structure SamplingOptions where
  method : SamplingMethod
  size : Option SampleSize
  columns : Option (List String)
  buckets : Value

namespace SamplingOptions

def lowered (o : SamplingOptions) : SamplingOptions := { o with columns := o.columns.map (·.map Text.lower) }

/-- What becomes of a record when it is made. -/
def made (o : SamplingOptions) : Outcome SamplingOptions := do
  if o.method = .stratified && ((o.columns.getD []).isEmpty || !o.buckets.isSet) then
    throw (.invalid
      "SamplingOptions : stratified_columns and stratified_buckets are required for STRATIFIED method")
  return o.lowered

def read (v : Value) : Outcome SamplingOptions := do
  let size ← match v.get? "specifications" with
    | some (.map entries) => some <$> SampleSize.read (.map entries)
    | _ => pure none
  let f ← Fields.ofValue ["method", "specifications"] ["stratified_columns", "stratified_buckets"] v
  let method ← match Text.lower (f.get "method").shown with
    | "random" => pure SamplingMethod.random
    | "stratified" => pure .stratified
    | other => throw (.invalid (Text.quote other ++ " is not a valid SamplingOptionMethod"))
  let given := f.get "stratified_columns"
  let columns ← if given.isNull then pure none else some <$> given.asTexts
  made ⟨method, size, columns, f.get "stratified_buckets"⟩

instance : ToValue SamplingOptions := ⟨fun o => .map
  [("method", o.method.name), ("specifications", o.size), ("stratified_columns", o.columns),
   ("stratified_buckets", o.buckets)]⟩

end SamplingOptions

end WarehouseMigration.Reconcile
