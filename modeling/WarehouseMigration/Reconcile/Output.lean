import WarehouseMigration.Reconcile.Aggregate

/-!
# Results of a comparison

What comparing one table gives: numbers of mismatching and missing rows with the rows themselves, the verdict on the
schema, and the failure that stopped it, if any.
-/

namespace WarehouseMigration.Reconcile

structure Mismatch where
  frame : Option Value := none
  columns : Option (List String) := none

instance : ToValue Mismatch := ⟨fun m => .map [("mismatch_df", m.frame), ("mismatch_columns", m.columns)]⟩

structure DataOutput where
  mismatchCount : Int := 0
  missingInSourceCount : Int := 0
  missingInTargetCount : Int := 0
  mismatch : Option Mismatch := some {}
  missingInSource : Option Value := none
  missingInTarget : Option Value := none
  thresholdFrame : Option Value := none
  thresholdMismatchCount : Int := 0
  exception : Option String := none

instance : ToValue DataOutput := ⟨fun o => .map
  [("mismatch_count", o.mismatchCount), ("missing_in_src_count", o.missingInSourceCount),
   ("missing_in_tgt_count", o.missingInTargetCount),
   ("mismatch", o.mismatch),
   ("missing_in_src", o.missingInSource), ("missing_in_tgt", o.missingInTarget),
   ("threshold_output", .map [("threshold_df", o.thresholdFrame),
       ("threshold_mismatch_count", o.thresholdMismatchCount)]),
   ("exception", o.exception)]⟩

namespace DataOutput

def read (v : Value) : Outcome DataOutput := do
  let f ← Fields.ofValue [] ["mismatch_count", "missing_in_src_count", "missing_in_tgt_count", "exception",
    "mismatch_columns", "threshold_mismatch_count"] v
  let count := fun name => ((f.get? name).getD (.int 0)).truncated
  let columns ← (f.get "mismatch_columns").asRecords? Value.asText
  return {
    mismatchCount := ← count "mismatch_count"
    missingInSourceCount := ← count "missing_in_src_count"
    missingInTargetCount := ← count "missing_in_tgt_count"
    mismatch := some ⟨none, columns⟩
    thresholdMismatchCount := ← count "threshold_mismatch_count"
    exception := ← (f.get "exception").asRecord? Value.asText }

end DataOutput

structure SchemaOutput where
  valid : Value := .bool true
  frame : Option Value := none
  exception : Option String := none

instance : ToValue SchemaOutput := ⟨fun o => .map
  [("is_valid", o.valid), ("compare_df", o.frame), ("exception", o.exception)]⟩

def SchemaOutput.read (v : Value) : Outcome SchemaOutput := do
  let f ← Fields.ofValue ["is_valid"] ["compare_df", "exception"] v
  return ⟨f.get "is_valid", none, ← (f.get "exception").asRecord? Value.asText⟩

structure RecordCount where
  source : Int := 0
  target : Int := 0
deriving DecidableEq

instance : ToValue RecordCount := ⟨fun c => .map [("source", c.source), ("target", c.target)]⟩

def RecordCount.read (v : Value) : Outcome RecordCount := do
  let f ← Fields.ofValue [] ["source", "target"] v
  return ⟨← ((f.get? "source").getD (.int 0)).truncated, ← ((f.get? "target").getD (.int 0)).truncated⟩

structure AggregateOutput where
  rule : Option AggregateRule
  output : DataOutput

instance : ToValue AggregateOutput := ⟨fun o => .map [("rule", o.rule), ("reconcile_output", o.output)]⟩

/-- The verdicts on a table; those that were not asked for are absent. -/
structure Status where
  row : Value := .null
  column : Value := .null
  schema : Value := .null
  aggregate : Value := .null

instance : ToValue Status := ⟨fun s => .map
  [("row", s.row), ("column", s.column), ("schema", s.schema), ("aggregate", s.aggregate)]⟩

structure TableReport where
  target : Value
  source : Value
  status : Status
  exception : Value

instance : ToValue TableReport := ⟨fun r => .map
  [("target_table_name", r.target), ("source_table_name", r.source), ("status", r.status),
   ("exception_message", r.exception)]⟩

structure Report where
  id : String
  tables : List TableReport

instance : ToValue Report := ⟨fun r => .map [("recon_id", r.id), ("results", r.tables)]⟩

end WarehouseMigration.Reconcile
