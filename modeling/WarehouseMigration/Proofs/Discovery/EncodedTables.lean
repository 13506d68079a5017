import WarehouseMigration.Discovery
import WarehouseMigration.Proofs.Sequence.Keyed
import WarehouseMigration.Proofs.Session.Exec
import WarehouseMigration.Proofs.Text.Splitting
import WarehouseMigration.Proofs.Value.Reading

/-!
# Encoded tables

The query for the tables of a catalog packs all columns of a table into one text of its result, and all names of its
key into another.  Here is the writer of such a result, a table as the server knows it (`Found`) and what stands in
each column of the result for it (`Found.cell`).  The reader undoes it: `columnsOf_encoded` for the columns, with two
separators one inside the other, `pieces_key` for the key, and for the whole result `tables_returns_found`.
-/

namespace WarehouseMigration.Discovery

open WarehouseMigration.Flow

/-- A table as the server knows it. -/
structure Found where
  name : TableName
  location : Value
  format : Value
  view : Value
  columns : List Column
  key : List String
  size : Value
  comment : Value

def Column.parts (c : Column) : List String := [c.name, c.kind, c.nullable, c.comment]

def Column.encoded (c : Column) : String := Text.join "§" c.parts

namespace Found

/-- What stands for a table in the column of the given name. -/
def cell (t : Found) : String → Value
  | "TABLE_CATALOG" => t.name.catalog
  | "TABLE_SCHEMA" => t.name.schema
  | "TABLE_NAME" => t.name.name
  | "location" => t.location
  | "TABLE_FORMAT" => t.format
  | "view_definition" => t.view
  | "DERIVED_SCHEMA" => .text (Text.join "‡" (t.columns.map Column.encoded))
  | "SIZE_GB" => t.size
  | "TABLE_COMMENT" => t.comment
  | "PK_COLUMN_NAME" => .text (Text.join ":" t.key)
  | _ => .null

/-- What is to be read from the row of a table. -/
def definition (t : Found) : TableDefinition where
  name := t.name
  location := t.location
  format := t.format
  view := t.view
  columns := t.columns
  key := if t.key = [] then none else some t.key
  size := t.size
  comment := t.comment

/-- No separator stands where it would be taken for one. -/
structure Separable (t : Found) : Prop where
  columns_ne_nil : t.columns ≠ []
  columns : ∀ c ∈ t.columns, ∀ part ∈ c.parts, '§' ∉ part.toList ∧ '‡' ∉ part.toList
  key : ∀ name ∈ t.key, name ≠ "" ∧ ':' ∉ name.toList

end Found

def resultNames : List String :=
  ["TABLE_CATALOG", "TABLE_SCHEMA", "TABLE_NAME", "location", "TABLE_FORMAT", "view_definition", "DERIVED_SCHEMA",
   "SIZE_GB", "TABLE_COMMENT", "PK_COLUMN_NAME"]

def encodedResult (names : List String) (found : List Found) : Value :=
  .map [("keys", .list (names.map Value.text)), ("rows", .list (found.map fun t => .list (names.map t.cell)))]

variable {t : Found} {names : List String}

/-! ### Columns -/

private theorem Column.parse_encoded {c : Column} (h : ∀ part ∈ c.parts, '§' ∉ part.toList) :
    Column.parse c.encoded = .ok c := by
  have hsplit : Text.split c.encoded "§" = c.parts := Text.split_intercalate "§" rfl (by simp [Column.parts]) h
  rw [Column.parse, hsplit]
  rfl

/-- The outer separator does not get into an encoded column. -/
private theorem Column.not_mem_encoded {c : Column} (h : ∀ part ∈ c.parts, '‡' ∉ part.toList) :
    '‡' ∉ c.encoded.toList := by
  rw [Column.encoded, Text.join, String.toList_intercalate]
  refine Text.not_mem_intercalate (by decide) ?_
  simpa using h

private theorem Column.encoded_ne_empty (c : Column) : c.encoded ≠ "" := by
  intro h
  have hchars := congrArg String.toList h
  simp [Column.encoded, Column.parts, Text.join] at hchars

private theorem join_ne_empty {sep : String} {parts : List String} (hne : parts ≠ []) (h : ∀ part ∈ parts, part ≠ "") :
    Text.join sep parts ≠ "" := by
  cases parts with
  | nil => exact absurd rfl hne
  | cons part parts =>
    intro hempty
    have hchars := congrArg String.toList hempty
    have hpart : part.toList ≠ [] := by simpa using h part List.mem_cons_self
    cases parts <;> simp_all [Text.join]

private theorem pieces_text {text sep : String} (h : text ≠ "") :
    pieces (.text text) sep = .ok (some (Text.split text sep)) := by
  have hset : (Value.text text).isSet = true := bne_iff_ne.2 h
  rw [pieces, if_pos hset]
  rfl

/-- The columns are read as they were encoded. -/
theorem columnsOf_encoded (h : t.Separable) : columnsOf (t.cell "DERIVED_SCHEMA") = .ok t.columns := by
  have hne : t.columns.map Column.encoded ≠ [] := by simpa using h.columns_ne_nil
  have hset : Text.join "‡" (t.columns.map Column.encoded) ≠ "" :=
    join_ne_empty hne (by simpa using fun c _ => c.encoded_ne_empty)
  have hsplit : Text.split (Text.join "‡" (t.columns.map Column.encoded)) "‡" = t.columns.map Column.encoded := by
    refine Text.split_intercalate "‡" rfl hne ?_
    rw [List.forall_mem_map]
    exact fun c hc => Column.not_mem_encoded fun part hpart => (h.columns c hc part hpart).2
  have hparse : (t.columns.map Column.encoded).mapM Column.parse = .ok (t.columns.map id) := by
    rw [List.mapM_map]
    exact Outcome.mapM_eq_ok fun c hc => Column.parse_encoded fun part hpart => (h.columns c hc part hpart).1
  rw [List.map_id] at hparse
  rw [columnsOf, Found.cell, pieces_text hset, hsplit]
  exact hparse

/-- The key is read as it was encoded. -/
theorem pieces_key (h : t.Separable) : pieces (t.cell "PK_COLUMN_NAME") ":" = .ok t.definition.key := by
  rw [Found.cell, Found.definition]
  by_cases hkey : t.key = []
  · rw [hkey, if_pos rfl]
    rfl
  · have hset : Text.join ":" t.key ≠ "" := join_ne_empty hkey fun name hname => (h.key name hname).1
    have hplain : ∀ name ∈ t.key, ':' ∉ name.toList := fun name hname => (h.key name hname).2
    rw [pieces_text hset, if_neg hkey, Text.join, Text.split_intercalate ":" rfl hkey hplain]

/-! ### Rows -/

/-- What a row says in a column is found by its name, wherever the column stands. -/
private theorem need_row {name : String} (h : name ∈ names) (cell : String → Value) :
    Database.need (.map (Sequence.lastOf (names.zip (names.map cell)))) name = .ok (cell name) := by
  have hzip : names.zip (names.map cell) = names.map fun n => (n, cell n) := by
    simpa using List.zip_map' (f := id) (g := cell) (l := names)
  have hlookup : (Sequence.lastOf (names.map fun n => (n, cell n))).lookup name = some (cell name) := by
    rw [Sequence.lookup_lastOf, List.filter_map, List.getLast?_map]
    have hmem : name ∈ names.filter fun n => name == n := by simpa using h
    obtain ⟨last, hlast⟩ := Option.isSome_iff_exists.1 (List.getLast?_isSome.2 (List.ne_nil_of_mem hmem))
    have heq : name = last := by simpa using (List.mem_filter.1 (List.mem_of_getLast? hlast)).2
    have hlast' : (names.filter ((fun e : String × Value => name == e.1) ∘ fun n => (n, cell n))).getLast? =
        some last := hlast
    rw [hlast', heq]
    rfl
  rw [hzip, Database.need, hlookup]
  rfl

private theorem ofRow_encoded (hnames : ∀ name ∈ resultNames, name ∈ names) (h : t.Separable) :
    TableDefinition.ofRow names (names.map t.cell) = .ok t.definition := by
  have hneed : ∀ name ∈ resultNames,
      Database.need (.map (Sequence.lastOf (names.zip (names.map t.cell)))) name = .ok (t.cell name) :=
    fun name hname => need_row (hnames name hname) t.cell
  simp only [resultNames, List.forall_mem_cons] at hneed
  obtain ⟨hcatalog, hschema, hname, hlocation, hformat, hview, hcolumns, hsize, hcomment, hkey, -⟩ := hneed
  simp only [TableDefinition.ofRow, hcatalog, hschema, hname, hlocation, hformat, hview, hcolumns, hsize, hcomment,
    hkey, columnsOf_encoded h, pieces_key h, bind, Except.bind]
  rfl

private theorem definitions_encoded (hnames : ∀ name ∈ resultNames, name ∈ names) {found : List Found}
    (h : ∀ t ∈ found, t.Separable) :
    definitions names (found.map fun t => names.map t.cell) = .ok (found.map Found.definition) := by
  rw [definitions, List.mapM_map]
  exact Outcome.mapM_eq_ok fun t ht => ofRow_encoded hnames (h t ht)

/-- If the query is answered by the encoded tables, with the columns of the result in whatever order, then these tables
are given back: one definition for each row, in the order of the rows, with all parts of all columns, and with the names
of the key if there are any. -/
theorem tables_returns_found {catalog : String} {found : List Found} {s s' : Session}
    (hnames : ∀ name ∈ resultNames, name ∈ names) (hfound : ∀ t ∈ found, t.Separable)
    (hquery : (call "query" [tablesQuery catalog]).exec s = (.ok (encodedResult names found), s')) :
    (tables catalog).exec s = (.ok (found.map Found.definition), s') := by
  have hkeys : ((encodedResult names found).getD "keys").parts.map Value.shown = names := by
    have hshown : Value.shown ∘ Value.text = id := rfl
    rw [show (encodedResult names found).getD "keys" = .list (names.map Value.text) from rfl, Value.parts, List.map_map,
      hshown, List.map_id]
  have hrows : ((encodedResult names found).getD "rows").parts.map Value.parts =
      found.map fun t => names.map t.cell := by
    rw [show (encodedResult names found).getD "rows" = .list (found.map fun t => .list (names.map t.cell)) from rfl,
      Value.parts, List.map_map]
    rfl
  rw [tables, exec_bind_of_ok hquery, hkeys, hrows, definitions_encoded hnames hfound]
  rfl

def twoFound : List Found :=
  [⟨⟨"shop", "dbo", "orders"⟩, .null, "ROWS", "", [⟨"id", "int", "false", ""⟩,
    ⟨"note", "varchar(9)", "true", "free: text"⟩], ["id", "note"], .int 3, .null⟩,
   ⟨⟨"shop", "dbo", "log"⟩, "C:", "ROWS", "", [⟨"line", "", "", ""⟩], [], .int 0, "kept"⟩]

theorem tables_returns_found_two : ∃ s', (∀ t ∈ twoFound, t.Separable) ∧
    (tables "shop").exec { replies := [("query", [.value (encodedResult resultNames twoFound)])] } =
      (.ok (twoFound.map Found.definition), s') ∧
    (twoFound.map Found.definition).map TableDefinition.key = [some ["id", "note"], none] := by
  have hfound : ∀ t ∈ twoFound, t.Separable := by
    rw [twoFound, List.forall_mem_cons, List.forall_mem_singleton]
    exact ⟨⟨by simp, by decide, by decide⟩, ⟨by simp, by decide, by decide⟩⟩
  exact ⟨_, hfound, tables_returns_found (fun _ h => h) hfound rfl, rfl⟩

end WarehouseMigration.Discovery
