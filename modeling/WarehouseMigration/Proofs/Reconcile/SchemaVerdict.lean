import Mathlib.Data.List.Forall2
import WarehouseMigration.Proofs.Sequence.Keyed
import WarehouseMigration.Proofs.Text.Lowering
import WarehouseMigration.Reconcile.SchemaComparison

/-!
# The verdict on a schema

Two schemas of one dialect are compared column by column.  What is kept of the source (`Kept`) is looked up in the
target under the name that it is mapped to (`MapsTo`), and the types are compared without regard to letter case.  A
column that the target lacks counts as one with an empty type.  No type of the source is empty, so such a column never
agrees (`lower_typeOf_iff`).

The target is only asked for one name at a time, and no name occurs in it twice.  Its order does not matter then, nor
does any column that nothing is mapped to (`typeOf_eq_of_perm`).
-/

namespace WarehouseMigration.Reconcile

open Text (lower)

namespace Table

/-- A column takes part: it is selected if there is a selection, and it is not dropped. -/
def Kept (t : Table) (c : Column) : Prop :=
  (∀ names, t.selectColumns = some names → names ≠ [] → c.name ∈ names) ∧
    ∀ names, t.dropColumns = some names → c.name ∉ names

/-- The name of a source column in the target: that of its last mapping, or its own if it has none. -/
inductive MapsTo (t : Table) (name : String) : String → Prop where
  | mapped {before after : List ColumnMapping} {target : String}
      (h : t.columnMapping.getD [] = before ++ ⟨name, target⟩ :: after) (hlast : ∀ m ∈ after, m.source ≠ name) :
      MapsTo t name target
  | own (h : ∀ m ∈ t.columnMapping.getD [], m.source ≠ name) : MapsTo t name name

/-- A source column agrees with a target: under its name there, the target has a column of the same type. -/
def Agrees (t : Table) (target : List Column) (c : Column) : Prop :=
  ∃ name, t.MapsTo c.ansi name ∧ ∃ d ∈ target, d.ansi = name ∧ lower d.type = lower c.type

/-- The row of a source column: both names without backticks, both types, and whether the column agrees.  The type of a
column that the target lacks is empty. -/
def Reports (t : Table) (target : List Column) (c : Column) (row : Value) : Prop :=
  ∃ (name type : String) (valid : Bool), t.MapsTo c.ansi name ∧
    ((∃ d ∈ target, d.ansi = name ∧ d.type = type) ∨ (∀ d ∈ target, d.ansi ≠ name) ∧ type = "") ∧
    (valid = true ↔ t.Agrees target c) ∧
    row = .list [Identifier.bare c.ansi, c.type, Identifier.bare name, type, valid]

variable {t : Table} {c d : Column} {source target other extra : List Column} {name : String}

/-! ### Kept columns and their names -/

/-- The columns that are compared are those that the configuration keeps. -/
theorem keeps_iff_kept : t.keeps c = true ↔ t.Kept c := by
  rw [keeps, Bool.and_eq_true]
  refine and_congr ?_ ?_
  · rcases t.selectColumns with _ | (_ | ⟨first, rest⟩) <;> simp
  · cases t.dropColumns <;> simp

instance : DecidablePred t.Kept := fun _ => decidable_of_iff _ keeps_iff_kept

private theorem filter_keeps (t : Table) (source : List Column) : source.filter t.keeps = source.filter (t.Kept ·) := by
  refine List.filter_congr fun c _ => ?_
  rw [Bool.eq_iff_iff, keeps_iff_kept, decide_eq_true_eq]

private theorem lookup_toTarget (t : Table) (name : String) :
    t.toTarget.lookup name =
      ((t.columnMapping.getD []).filter fun m => name == m.source).getLast?.map ColumnMapping.target := by
  rw [toTarget, Sequence.lookup_lastOf, List.filter_map, List.getLast?_map, Option.map_map]
  rfl

private theorem filter_source_eq_nil {mappings : List ColumnMapping} (h : ∀ m ∈ mappings, m.source ≠ name) :
    (mappings.filter fun m => name == m.source) = [] := by
  rw [List.filter_eq_nil_iff]
  intro m hm heq
  exact h m hm (eq_of_beq heq).symm

private theorem MapsTo.eq_targetOf {image : String} (h : t.MapsTo name image) : image = t.targetOf name := by
  have hlookup := t.lookup_toTarget name
  rw [targetOf, Table.image]
  cases h with
  | @mapped before after _ h hlast =>
    have hsame : (name == (⟨name, image⟩ : ColumnMapping).source) = true := beq_self_eq_true name
    rw [h, List.filter_append, List.filter_cons, if_pos hsame, filter_source_eq_nil hlast,
      List.getLast?_concat] at hlookup
    rw [hlookup]
    rfl
  | own h =>
    rw [filter_source_eq_nil h] at hlookup
    rw [hlookup]
    rfl

private theorem exists_last_mapping (mappings : List ColumnMapping) (name : String) :
    (∀ m ∈ mappings, m.source ≠ name) ∨
      ∃ before target after, mappings = before ++ ⟨name, target⟩ :: after ∧ ∀ m ∈ after, m.source ≠ name := by
  induction mappings with
  | nil => exact .inl (List.forall_mem_nil _)
  | cons m rest ih =>
    rcases ih with hnone | ⟨before, target, after, rfl, hlast⟩
    · by_cases hm : m.source = name
      · exact .inr ⟨[], m.target, rest, by rw [← hm]; rfl, hnone⟩
      · exact .inl (List.forall_mem_cons.2 ⟨hm, hnone⟩)
    · exact .inr ⟨m :: before, target, after, rfl, hlast⟩

private theorem mapsTo_iff {image : String} : t.MapsTo name image ↔ image = t.targetOf name := by
  refine ⟨MapsTo.eq_targetOf, ?_⟩
  rintro rfl
  have hmaps : ∃ image, t.MapsTo name image := by
    rcases exists_last_mapping (t.columnMapping.getD []) name with hnone | ⟨before, target, after, h, hlast⟩
    · exact ⟨name, .own hnone⟩
    · exact ⟨target, .mapped h hlast⟩
  obtain ⟨image, h⟩ := hmaps
  exact h.eq_targetOf ▸ h

/-! ### Looking up a column of the target -/

private theorem typeOf_of_unique (hd : d ∈ target) (hname : d.ansi = name) (h : ∀ e ∈ target, e.ansi = name → e = d) :
    typeOf target name = d.type := by
  have hfind : target.find? (fun e => e.ansi = name) = some d := by
    cases hfound : target.find? (fun e => e.ansi = name) with
    | none => exact absurd (decide_eq_true hname) (List.find?_eq_none.1 hfound d hd)
    | some e =>
      have hsame := List.find?_some hfound
      rw [decide_eq_true_eq] at hsame
      rw [h e (List.mem_of_find?_eq_some hfound) hsame]
  rw [typeOf, hfind]
  rfl

private theorem typeOf_of_missing (h : ∀ d ∈ target, d.ansi ≠ name) : typeOf target name = "" := by
  have hfind : target.find? (fun e => e.ansi = name) = none := by
    rw [List.find?_eq_none]
    intro d hd heq
    exact h d hd (of_decide_eq_true heq)
  rw [typeOf, hfind]
  rfl

private theorem eq_of_ansi_eq (hnames : (target.map Column.ansi).Nodup) (hd : d ∈ target) (hname : d.ansi = name) :
    ∀ e ∈ target, e.ansi = name → e = d := by
  intro e he hsame
  exact List.inj_on_of_nodup_map hnames he hd (hsame.trans hname.symm)

private theorem typeOf_of_mem (hnames : (target.map Column.ansi).Nodup) (hd : d ∈ target) (hname : d.ansi = name) :
    typeOf target name = d.type :=
  typeOf_of_unique hd hname (eq_of_ansi_eq hnames hd hname)

private theorem exists_mem_or_missing (target : List Column) (name : String) :
    (∃ d ∈ target, d.ansi = name) ∨ ∀ d ∈ target, d.ansi ≠ name := by
  by_cases h : ∃ d ∈ target, d.ansi = name
  · exact .inl h
  · exact .inr fun d hd heq => h ⟨d, hd, heq⟩

/-- The type found for a name depends neither on the order nor on other columns. -/
theorem typeOf_eq_of_perm (hnames : (target.map Column.ansi).Nodup) (hperm : other.Perm (target ++ extra))
    (hextra : ∀ d ∈ extra, d.ansi ≠ name) : typeOf other name = typeOf target name := by
  have hmem : ∀ d, d ∈ other → d.ansi = name → d ∈ target := by
    intro d hd hname
    rcases List.mem_append.1 (hperm.mem_iff.1 hd) with h | h
    · exact h
    · exact absurd hname (hextra d h)
  rcases exists_mem_or_missing target name with ⟨d, hd, hname⟩ | hmissing
  · have hother : d ∈ other := hperm.mem_iff.2 (List.mem_append_left extra hd)
    rw [typeOf_of_mem hnames hd hname]
    -- `other` may hold a name of `extra` twice, but not this one
    exact typeOf_of_unique hother hname fun e he h => eq_of_ansi_eq hnames hd hname e (hmem e he h) h
  · rw [typeOf_of_missing hmissing]
    exact typeOf_of_missing fun d hd h => hmissing d (hmem d hd h) h

/-- The types agree up to case if the target has a column of this name and type. -/
theorem lower_typeOf_iff (hnames : (target.map Column.ansi).Nodup) (htype : c.type ≠ "") :
    lower c.type = lower (typeOf target name) ↔ ∃ d ∈ target, d.ansi = name ∧ lower d.type = lower c.type := by
  constructor
  · intro h
    rcases exists_mem_or_missing target name with ⟨d, hd, hname⟩ | hmissing
    · rw [typeOf_of_mem hnames hd hname] at h
      exact ⟨d, hd, hname, h.symm⟩
    · rw [typeOf_of_missing hmissing] at h
      exact absurd h (Text.lower_ne_empty htype)
  · rintro ⟨d, hd, hname, h⟩
    rw [typeOf_of_mem hnames hd hname, h]

/-! ### Pairs of columns -/

private theorem valid_checkTypes_iff (hnames : (target.map Column.ansi).Nodup) (htype : c.type ≠ "") :
    (t.schemaMatch target c).checkTypes.valid = true ↔ t.Agrees target c := by
  have hvalid : (t.schemaMatch target c).checkTypes.valid = true ↔
      lower c.type = lower (typeOf target (t.targetOf c.ansi)) :=
    decide_eq_true_iff
  rw [hvalid, lower_typeOf_iff hnames htype, Agrees]
  simp only [mapsTo_iff, exists_eq_left]

private theorem reports_row (hnames : (target.map Column.ansi).Nodup) (htype : c.type ≠ "") :
    t.Reports target c (t.schemaMatch target c).checkTypes.row := by
  refine ⟨t.targetOf c.ansi, typeOf target (t.targetOf c.ansi), (t.schemaMatch target c).checkTypes.valid,
    mapsTo_iff.2 rfl, ?_, valid_checkTypes_iff hnames htype, rfl⟩
  rcases exists_mem_or_missing target (t.targetOf c.ansi) with ⟨d, hd, hname⟩ | hmissing
  · exact .inl ⟨d, hd, hname, (typeOf_of_mem hnames hd hname).symm⟩
  · exact .inr ⟨hmissing, typeOf_of_missing hmissing⟩

/-- There is one row for each source column. -/
private theorem Reports.unique {row row' : Value} (hnames : (target.map Column.ansi).Nodup) (h : t.Reports target c row)
    (h' : t.Reports target c row') : row = row' := by
  obtain ⟨name, type, valid, hmaps, htype, hvalid, rfl⟩ := h
  obtain ⟨name', type', valid', hmaps', htype', hvalid', rfl⟩ := h'
  obtain rfl : name = name' := hmaps.eq_targetOf.trans hmaps'.eq_targetOf.symm
  have hsame : type = type' := by
    rcases htype with ⟨d, hd, hname, rfl⟩ | ⟨hnone, rfl⟩
    · rcases htype' with ⟨d', hd', hname', rfl⟩ | ⟨hnone', -⟩
      · rw [List.inj_on_of_nodup_map hnames hd hd' (hname.trans hname'.symm)]
      · exact absurd hname (hnone' d hd)
    · rcases htype' with ⟨d', hd', hname', -⟩ | ⟨-, rfl⟩
      · exact absurd hname' (hnone d' hd')
      · rfl
  rw [hsame, Bool.eq_iff_iff.2 (hvalid.trans hvalid'.symm)]

private theorem schemaMatches_eq_of_perm (hnames : (target.map Column.ansi).Nodup)
    (hperm : other.Perm (target ++ extra)) (hextra : ∀ d ∈ extra, ∀ c ∈ source, t.Kept c → ¬ t.MapsTo c.ansi d.ansi) :
    t.schemaMatches source other = t.schemaMatches source target := by
  refine List.map_congr_left fun c hc => ?_
  obtain ⟨hmem, hkeeps⟩ := List.mem_filter.1 hc
  have hforeign : ∀ d ∈ extra, d.ansi ≠ t.targetOf c.ansi := fun d hd heq =>
    hextra d hd c hmem (keeps_iff_kept.1 hkeeps) (mapsTo_iff.2 heq)
  rw [schemaMatch, schemaMatch, typeOf_eq_of_perm hnames hperm hforeign]

end Table

/-! ### The comparison -/

private theorem compareSchemas_sameDialect (t : Table) (source target : List Column) :
    let pairs := (t.schemaMatches source target).map SchemaMatch.checkTypes
    compareSchemas .sameDialect t source target = do
      let frame ← Spark.make Spark.session "createDataFrame" [.list (pairs.map SchemaMatch.row), schemaReportColumns]
      return ⟨allValid pairs, some frame, none⟩ := by
  have hcheck : ((t.schemaMatches source target).mapM fun m => Flow.ofOutcome (TypeCheck.sameDialect.check m)) =
      pure ((t.schemaMatches source target).map SchemaMatch.checkTypes) :=
    List.mapM_pure
  rw [compareSchemas, hcheck, pure_bind]

/-- Two schemas of one dialect agree exactly if every kept column of the source has, under its name in the target, a
column of the same type.  The report has one row for each kept column, in the order of the source.  Neither depends on
the order of the target or on columns that no kept column is mapped to. -/
theorem compareSchemas_valid_iff (t : Table) (source target : List Column) (htypes : ∀ c ∈ source, c.type ≠ "")
    (hnames : (target.map Column.ansi).Nodup) :
    ∃ (valid : Bool) (rows : List Value),
      (compareSchemas .sameDialect t source target = do
        let frame ← Spark.make Spark.session "createDataFrame" [.list rows, schemaReportColumns]
        return ⟨valid, some frame, none⟩) ∧
      (valid = true ↔ ∀ c ∈ source, t.Kept c → t.Agrees target c) ∧
      List.Forall₂ (t.Reports target) (source.filter (t.Kept ·)) rows ∧
      ∀ other extra, other.Perm (target ++ extra) →
        (∀ d ∈ extra, ∀ c ∈ source, t.Kept c → ¬ t.MapsTo c.ansi d.ansi) →
        compareSchemas .sameDialect t source other = compareSchemas .sameDialect t source target := by
  refine ⟨_, _, compareSchemas_sameDialect t source target, ?_, ?_, ?_⟩
  · rw [allValid, Table.schemaMatches, Table.filter_keeps, List.map_map, List.all_map, List.all_eq_true]
    constructor
    · intro h c hc hkept
      have hvalid := h c (List.mem_filter.2 ⟨hc, decide_eq_true hkept⟩)
      exact (Table.valid_checkTypes_iff hnames (htypes c hc)).1 hvalid
    · intro h c hfiltered
      obtain ⟨hc, hkept⟩ := List.mem_filter.1 hfiltered
      exact (Table.valid_checkTypes_iff hnames (htypes c hc)).2 (h c hc (of_decide_eq_true hkept))
  · rw [Table.schemaMatches, Table.filter_keeps, List.map_map, List.map_map, List.forall₂_map_right_iff,
      List.forall₂_same]
    intro c hfiltered
    exact Table.reports_row hnames (htypes c (List.mem_of_mem_filter hfiltered))
  · intro other extra hperm hextra
    rw [compareSchemas, compareSchemas, Table.schemaMatches_eq_of_perm hnames hperm hextra]

def ledger : Table :=
  { sourceName := "ledger", targetName := "ledger", dropColumns := some ["note"]
    columnMapping := some [⟨"id", "key"⟩] }

def ledgerColumns : List Column :=
  [⟨"id", "int", "id", "id"⟩, ⟨"amount", "DOUBLE", "amount", "amount"⟩, ⟨"note", "string", "note", "note"⟩]

def ledgerTarget : List Column :=
  [⟨"amount", "double", "amount", "amount"⟩, ⟨"key", "INT", "key", "key"⟩]

theorem compareSchemas_valid_ledger :
    (∀ c ∈ ledgerColumns, c.type ≠ "") ∧ (ledgerTarget.map Column.ansi).Nodup ∧
      compareSchemas .sameDialect ledger ledgerColumns ledgerTarget = do
        let frame ← Spark.make Spark.session "createDataFrame" [.list [.list ["id", "int", "key", "INT", true],
          .list ["amount", "DOUBLE", "amount", "double", true]], schemaReportColumns]
        return ⟨true, some frame, none⟩ := by
  have htypes : ∀ c ∈ ledgerColumns, c.type ≠ "" := by decide
  have hnames : (ledgerTarget.map Column.ansi).Nodup := by decide
  refine ⟨htypes, hnames, ?_⟩
  obtain ⟨valid, rows, hrun, hvalid, hreports, -⟩ :=
    compareSchemas_valid_iff ledger ledgerColumns ledgerTarget htypes hnames
  have hagree : ∀ c ∈ ledgerColumns, ledger.Kept c → ledger.Agrees ledgerTarget c := by
    intro c hc hkept
    have hchecked : ∀ c ∈ ledgerColumns, ledger.keeps c = true →
        (ledger.schemaMatch ledgerTarget c).checkTypes.valid = true := by
      decide +kernel
    exact (Table.valid_checkTypes_iff hnames (htypes c hc)).1 (hchecked c hc (Table.keeps_iff_kept.2 hkept))
  have hkept : ledgerColumns.filter (ledger.Kept ·) =
      [⟨"id", "int", "id", "id"⟩, ⟨"amount", "DOUBLE", "amount", "amount"⟩] := by decide
  rw [hkept] at hreports
  obtain ⟨row, rest, hid, hrest, rfl⟩ := List.forall₂_cons_left_iff.1 hreports
  obtain ⟨row', rest, hamount, hnil, rfl⟩ := List.forall₂_cons_left_iff.1 hrest
  rw [hvalid.2 hagree, List.forall₂_nil_left_iff.1 hnil, hid.unique hnames (Table.reports_row hnames (by decide)),
    hamount.unique hnames (Table.reports_row hnames (by decide))] at hrun
  exact hrun

end WarehouseMigration.Reconcile
