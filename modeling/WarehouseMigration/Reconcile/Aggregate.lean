import WarehouseMigration.Value.Fields
import WarehouseMigration.Text.LetterCase

/-!
# Aggregates

Aggregates of columns that are compared instead of single rows.  Each aggregated column of an aggregate gives one
rule.
-/

namespace WarehouseMigration.Reconcile

def aggregateTypes : List String :=
  ["min", "max", "count", "sum", "avg", "mean", "mode", "stddev", "variance", "median"]

structure Aggregate where
  columns : List String
  type : String
  groupBy : Option (List String)
deriving DecidableEq

namespace Aggregate

def joined (columns : List String) : String := "+__+".intercalate columns

def lowered (a : Aggregate) : Aggregate :=
  ⟨a.columns.map Text.lower, Text.lower a.type, a.groupBy.map (·.map Text.lower)⟩

def made (a : Aggregate) : Outcome Aggregate := do
  let a := a.lowered
  if !aggregateTypes.contains a.type then throw (.broken s!"Invalid aggregate type: {a.type}")
  return a

def read (v : Value) : Outcome Aggregate := do
  let f ← Fields.ofValue ["agg_columns", "type"] ["group_by_columns"] v
  let columns ← (f.get "agg_columns").asTexts
  let type ← (f.get "type").asText
  let given := f.get "group_by_columns"
  let groupBy ← if given.isSet then some <$> given.asTexts else pure none
  made ⟨columns, type, groupBy⟩

def groupKey (a : Aggregate) : String :=
  match a.groupBy with
  | some (c :: rest) => joined (c :: rest)
  | _ => "NA"

instance : ToValue Aggregate := ⟨fun a => .map
  [("agg_columns", a.columns), ("type", a.type), ("group_by_columns", a.groupBy)]⟩

end Aggregate

structure AggregateRule where
  type : String
  column : String
  groupBy : Option (List String)
  groupKey : String
  kind : String := "AGGREGATE"
deriving DecidableEq

namespace AggregateRule

def read (v : Value) : Outcome AggregateRule := do
  let f ← Fields.ofValue ["agg_type", "agg_column", "group_by_columns", "group_by_columns_as_str"] ["rule_type"] v
  let groupBy ← if (f.get "group_by_columns").isNull then pure none else some <$> (f.get "group_by_columns").asTexts
  return ⟨(f.get "agg_type").shown, (f.get "agg_column").shown, groupBy, (f.get "group_by_columns_as_str").shown,
    ((f.get? "rule_type").getD "AGGREGATE").shown⟩

def key (r : AggregateRule) : String := s!"{r.type}_{r.column}_{r.groupKey}"

def groupLiteral (r : AggregateRule) : String :=
  match r.groupBy with
  | some (c :: rest) => "\"" ++ ", ".intercalate (((c :: rest).mergeSort).map Text.lower) ++ "\""
  | _ => "NULL"

def query (r : AggregateRule) (id : String) : String :=
  let groups := r.groupLiteral
  s!" SELECT {id} as rule_id,  '{r.kind}' as rule_type,   map( 'agg_type', '{r.type}',\n" ++
    s!"                 'agg_column', '{r.column}',\n                 'group_by_columns', {groups}\n" ++
    "                 )\n         as rule_info "

instance : ToValue AggregateRule := ⟨fun r => .map
  [("agg_type", r.type), ("agg_column", r.column), ("group_by_columns", r.groupBy),
   ("group_by_columns_as_str", r.groupKey), ("rule_type", r.kind)]⟩

end AggregateRule

def Aggregate.rules (a : Aggregate) : List AggregateRule :=
  a.columns.map fun column => ⟨a.type, column, a.groupBy, a.groupKey, "AGGREGATE"⟩

end WarehouseMigration.Reconcile
