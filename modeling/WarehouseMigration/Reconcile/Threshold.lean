import WarehouseMigration.Value.Fields
import WarehouseMigration.Text.Integer
import WarehouseMigration.Text.LetterCase

/-!
# Thresholds

How far a column or a whole table may differ and still count as reconciled.
-/

namespace WarehouseMigration.Reconcile

inductive ThresholdMode where
  | percentage
  | absolute
deriving DecidableEq

def ThresholdMode.name : ThresholdMode → String
  | percentage => "percentage"
  | absolute => "absolute"

/-- The tolerated difference of a column. -/
structure ColumnThreshold where
  column : String
  lower : Value
  upper : Value
  type : String

namespace ColumnThreshold

def lowered (t : ColumnThreshold) : ColumnThreshold :=
  { t with column := Text.lower t.column, type := Text.lower t.type }

def read (v : Value) : Outcome ColumnThreshold := do
  let f ← Fields.ofValue ["column_name", "lower_bound", "upper_bound", "type"] [] v
  let column ← (f.get "column_name").asText
  let type ← (f.get "type").asText
  return lowered ⟨column, f.get "lower_bound", f.get "upper_bound", type⟩

/-- The bounds are shares as soon as one of them has a percent sign. -/
def mode (t : ColumnThreshold) : Outcome ThresholdMode := do
  if ← t.lower.holds "%" then return .percentage
  if ← t.upper.holds "%" then return .percentage
  return .absolute

instance : ToValue ColumnThreshold := ⟨fun t => .map
  [("column_name", t.column), ("lower_bound", t.lower), ("upper_bound", t.upper), ("type", t.type)]⟩

end ColumnThreshold

/-- The tolerated number or share of mismatching rows of a table. -/
structure TableThreshold where
  lower : String
  upper : String
  model : String
deriving DecidableEq

namespace TableThreshold

def boundValue (bound : String) : Outcome Int := Text.toInt (Text.replace bound "%" "")

def read (v : Value) : Outcome TableThreshold := do
  let f ← Fields.ofValue ["lower_bound", "upper_bound", "model"] [] v
  let model := Text.lower (← (f.get "model").asText)
  let lower ← (f.get "lower_bound").asText
  let least ← boundValue lower
  let upper ← (f.get "upper_bound").asText
  let most ← boundValue upper
  if least < 0 || most < 0 then throw (.thresholdBounds "Threshold bounds for table cannot be negative.")
  if most < least then throw (.thresholdBounds "Lower bound cannot be greater than upper bound.")
  if model != "mismatch" then
    throw (.thresholdModel s!"Invalid model for Table Threshold: expected 'mismatch', but got '{model}'.")
  return ⟨lower, upper, model⟩

/-- The bounds are shares as soon as one of them has a percent sign. -/
def mode (t : TableThreshold) : ThresholdMode :=
  if Text.contains t.lower "%" || Text.contains t.upper "%" then .percentage else .absolute

instance : ToValue TableThreshold := ⟨fun t => .map
  [("lower_bound", t.lower), ("upper_bound", t.upper), ("model", t.model)]⟩

end TableThreshold

end WarehouseMigration.Reconcile
