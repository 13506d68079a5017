import Mathlib.Data.List.Forall2
import WarehouseMigration.Proofs.Identifier.Settled
import WarehouseMigration.Proofs.Value.Reading
import WarehouseMigration.Reconcile.Table

/-!
# Normalised table configurations

Normalisation of a table configuration spells its columns and changes nothing else (`Respelled`), and done again it
changes nothing at all.  Both are read off a plain description: on a configuration that is kept in lower case
(`Table.Lowered`, which every configuration that was read is), normalisation is `Table.respelt`, and spelling
twice is spelling by the composed spelling (`Table.respelt_respelt`).
-/

namespace WarehouseMigration.Reconcile

open Outcome

/-! ### Lists that may be absent -/

namespace Table

variable {α : Type} {f g : α → α}

theorem mapItems_some {items : List α} (h : items ≠ []) : mapItems f (some items) = some (items.map f) := by
  cases items with
  | nil => exact absurd rfl h
  | cons a rest => rfl

@[simp] theorem getD_mapItems (f : α → α) (items : Option (List α)) :
    (mapItems f items).getD [] = (items.getD []).map f := by
  rcases items with - | (- | ⟨a, rest⟩) <;> rfl

private theorem mapItems_mapItems (f g : α → α) (items : Option (List α)) :
    mapItems g (mapItems f items) = mapItems (g ∘ f) items := by
  rcases items with - | (- | ⟨a, rest⟩)
  · rfl
  · rfl
  · simp [mapItems]

private theorem mapItems_congr {items : Option (List α)} (h : ∀ a ∈ items.getD [], f a = g a) :
    mapItems f items = mapItems g items := by
  rcases items with - | (- | ⟨a, rest⟩)
  · rfl
  · rfl
  · exact congrArg some (List.map_congr_left h)

end Table

/-! ### Records in lower case -/

private theorem SamplingOptions.lowered_lowered (o : SamplingOptions) : o.lowered.lowered = o.lowered := by
  simp [lowered, Function.comp_def, Text.lower_lower]

private theorem Aggregate.lowered_lowered (a : Aggregate) : a.lowered.lowered = a.lowered := by
  simp [lowered, Function.comp_def, Text.lower_lower]

private theorem ColumnMapping.lowered_lowered (m : ColumnMapping) : m.lowered.lowered = m.lowered := by
  simp [lowered, Text.lower_lower]

private theorem ColumnThreshold.lowered_lowered (c : ColumnThreshold) : c.lowered.lowered = c.lowered := by
  simp [lowered, Text.lower_lower]

private theorem ReaderOptions.lowered_lowered (o : ReaderOptions) : o.lowered.lowered = o.lowered := by
  unfold lowered
  cases hcolumn : o.partitionColumn with
  | none => rfl
  | some column =>
    by_cases hempty : column = ""
    · simp [Option.filter, hempty]
    · simp [Option.filter, hempty, Text.lower_ne_empty hempty, Text.lower_lower]

private theorem Table.lowered_lowered (t : Table) : t.lowered.lowered = t.lowered := by
  simp [lowered, mapItems_mapItems, Function.comp_def, Text.lower_lower]

/-- Stratified sampling needs columns and buckets. -/
theorem SamplingOptions.made_eq_ok_iff {o o' : SamplingOptions} : o.made = .ok o' ↔
    o.lowered = o' ∧ (o.method = .stratified → o.columns.getD [] ≠ [] ∧ o.buckets.isSet = true) := by
  rw [made]
  split
  case isTrue hcheck =>
    refine ⟨nofun, fun ⟨_, h⟩ => ?_⟩
    simp_all
  case isFalse hcheck =>
    refine ⟨fun h => ⟨Except.ok.inj h, fun hmethod => ?_⟩, fun ⟨h, _⟩ => congrArg Except.ok h⟩
    simp_all

/-- An aggregate is of one of the known types. -/
theorem Aggregate.made_eq_ok_iff {a a' : Aggregate} :
    a.made = .ok a' ↔ a.lowered = a' ∧ Text.lower a.type ∈ aggregateTypes := by
  rw [made]
  dsimp only
  split
  case isTrue hcheck =>
    refine ⟨nofun, fun ⟨_, h⟩ => ?_⟩
    simp_all [lowered]
  case isFalse hcheck =>
    refine ⟨fun h => ⟨Except.ok.inj h, ?_⟩, fun ⟨h, _⟩ => congrArg Except.ok h⟩
    simpa [lowered] using hcheck

/-- A record that was made is made again as it is. -/
private theorem SamplingOptions.made_of_made {o o' : SamplingOptions} (h : o.made = .ok o') : o'.made = .ok o' := by
  obtain ⟨rfl, hcheck⟩ := made_eq_ok_iff.1 h
  refine made_eq_ok_iff.2 ⟨lowered_lowered o, fun hmethod => ⟨?_, (hcheck hmethod).2⟩⟩
  have hne := (hcheck hmethod).1
  rw [lowered]
  cases hcolumns : o.columns with
  | none => simp [hcolumns] at hne
  | some columns => simpa [hcolumns] using hne

private theorem Aggregate.made_of_made {a a' : Aggregate} (h : a.made = .ok a') : a'.made = .ok a' := by
  obtain ⟨rfl, htype⟩ := made_eq_ok_iff.1 h
  refine made_eq_ok_iff.2 ⟨lowered_lowered a, ?_⟩
  rwa [lowered, Text.lower_lower]

private theorem SamplingOptions.gives_made (v : Value) : Gives (fun o => o.made = .ok o) (read v) := by
  unfold read
  extract_lets withSize
  have hsize : ∀ size, Gives (fun o => o.made = .ok o) (withSize size) := by
    refine fun size => gives_bind fun f => ?_
    dsimp only
    split
    all_goals refine gives_bind fun method => gives_ite (gives_bind fun columns => ?_) (gives_bind fun columns => ?_)
    all_goals exact fun o => made_of_made
  split
  all_goals exact gives_bind hsize

theorem Aggregate.gives_made (v : Value) : Gives (fun a => a.made = .ok a) (read v) := by
  refine gives_bind fun _ => gives_bind fun _ => gives_bind fun _ => ?_
  exact gives_ite (gives_bind fun _ _ => made_of_made) (gives_bind fun _ _ => made_of_made)

private theorem ColumnMapping.gives_lowered (v : Value) : Gives (fun m => m.lowered = m) (read v) := by
  unfold read
  split
  · exact gives_pure (lowered_lowered _)
  · exact gives_bind fun _ => gives_bind fun _ => gives_bind fun _ => gives_pure (lowered_lowered _)

private theorem ColumnThreshold.gives_lowered (v : Value) : Gives (fun c => c.lowered = c) (read v) :=
  gives_bind fun _ => gives_bind fun _ => gives_bind fun _ => gives_pure (lowered_lowered _)

private theorem ReaderOptions.gives_lowered (v : Value) : Gives (fun o => o.lowered = o) (read v) :=
  gives_bind fun _ => gives_bind fun _ => gives_pure (lowered_lowered _)

private theorem map_lower_eq_iff {names : List String} :
    names.map Text.lower = names ↔ ∀ name ∈ names, Text.lower name = name := by
  nth_rewrite 2 [← List.map_id names]
  exact List.map_inj_left

private theorem SamplingOptions.lowered_eq_iff {o : SamplingOptions} :
    o.lowered = o ↔ ∀ column ∈ o.columns.getD [], Text.lower column = column := by
  obtain ⟨method, size, columns, buckets⟩ := o
  cases columns with
  | none => simp [lowered]
  | some columns => simpa [lowered] using map_lower_eq_iff

/-- When lower case changes nothing in an aggregate. -/
theorem Aggregate.lowered_eq_iff {a : Aggregate} :
    a.lowered = a ↔ (∀ column ∈ a.columns, Text.lower column = column) ∧ Text.lower a.type = a.type ∧
      ∀ column ∈ a.groupBy.getD [], Text.lower column = column := by
  obtain ⟨columns, type, groupBy⟩ := a
  cases groupBy with
  | none => simp [lowered, map_lower_eq_iff]
  | some groupBy => simp [lowered, map_lower_eq_iff]

private theorem ColumnMapping.lowered_eq_iff {m : ColumnMapping} :
    m.lowered = m ↔ Text.lower m.source = m.source ∧ Text.lower m.target = m.target := by
  obtain ⟨source, target⟩ := m
  simp [lowered]

private theorem ColumnThreshold.lowered_eq_iff {c : ColumnThreshold} :
    c.lowered = c ↔ Text.lower c.column = c.column ∧ Text.lower c.type = c.type := by
  obtain ⟨column, lower, upper, type⟩ := c
  simp [lowered]

private theorem ReaderOptions.lowered_eq_iff {o : ReaderOptions} :
    o.lowered = o ↔ ∀ column ∈ o.partitionColumn, column ≠ "" ∧ Text.lower column = column := by
  obtain ⟨partitions, column, lower, upper, fetchSize⟩ := o
  cases column with
  | none => simp [lowered]
  | some column =>
    by_cases hempty : column = ""
    · simp [lowered, Option.filter, hempty]
    · simp [lowered, Option.filter, hempty]

private theorem Table.lowered_eq_iff {t : Table} :
    t.lowered = t ↔ Text.lower t.sourceName = t.sourceName ∧ Text.lower t.targetName = t.targetName ∧
      mapItems Text.lower t.joinColumns = t.joinColumns ∧ mapItems Text.lower t.selectColumns = t.selectColumns ∧
      mapItems Text.lower t.dropColumns = t.dropColumns := by
  obtain ⟨sourceName, targetName, sampling, aggregates, joinColumns, reader, selectColumns, dropColumns, columnMapping,
    transformations, columnThresholds, filters, tableThresholds⟩ := t
  simp [lowered]

private theorem Table.lower_of_mapItems {columns : Option (List String)} (h : mapItems Text.lower columns = columns) :
    ∀ column ∈ columns.getD [], Text.lower column = column := by
  rw [← map_lower_eq_iff, ← getD_mapItems, h]

/-- A table configuration that is kept in lower case; each of its records is as it is when it is made. -/
structure Table.Lowered (t : Table) : Prop where
  itself : t.lowered = t
  sampling : ∀ o ∈ t.sampling, o.made = .ok o
  aggregates : ∀ a ∈ t.aggregates.getD [], a.made = .ok a
  columnMapping : ∀ m ∈ t.columnMapping.getD [], m.lowered = m
  columnThresholds : ∀ c ∈ t.columnThresholds.getD [], c.lowered = c
  reader : ∀ o ∈ t.reader, o.lowered = o

/-- A configuration that was read is kept in lower case. -/
theorem Table.gives_lowered (v : Value) : Gives Table.Lowered (read v) := by
  refine gives_bind fun f => ?_
  refine (gives_asRecord? SamplingOptions.gives_made _).bind fun sampling hsampling => ?_
  refine (gives_asRecords? Aggregate.gives_made _).bind fun aggregates haggregates => ?_
  refine (gives_asRecord? ReaderOptions.gives_lowered _).bind fun reader hreader => ?_
  refine (gives_asRecords? ColumnMapping.gives_lowered _).bind fun mapping hmapping => ?_
  refine gives_bind fun transformations => ?_
  refine (gives_asRecords? ColumnThreshold.gives_lowered _).bind fun thresholds hthresholds => ?_
  refine gives_bind fun filters => gives_bind fun tableThresholds => ?_
  refine gives_bind fun sourceName => gives_bind fun targetName => ?_
  refine gives_bind fun select => gives_bind fun drop => gives_bind fun join => gives_pure ?_
  exact ⟨lowered_lowered _, hsampling, haggregates, hmapping, hthresholds, hreader⟩

/-! ### Spelling the columns -/

def Table.respelt (t : Table) (source target : String → String) : Table :=
  { t with
    sampling := t.sampling.map fun o => { o with columns := mapItems source o.columns }
    aggregates := mapItems (fun a => { a with columns := a.columns.map source, groupBy := mapItems source a.groupBy })
      t.aggregates
    joinColumns := mapItems source t.joinColumns
    selectColumns := mapItems source t.selectColumns
    dropColumns := mapItems source t.dropColumns
    columnMapping := mapItems (fun m => ⟨source m.source, target m.target⟩) t.columnMapping
    transformations := mapItems (fun c => { c with column := source c.column }) t.transformations
    columnThresholds := mapItems (fun c => { c with column := source c.column }) t.columnThresholds
    reader := t.reader.map fun o => { o with partitionColumn := o.partitionColumn.map source } }

/-- Changing the names twice is changing them by both changes at once. -/
theorem Table.respelt_respelt (t : Table) (source source' target target' : String → String) :
    (t.respelt source target).respelt source' target' = t.respelt (source' ∘ source) (target' ∘ target) := by
  simp [respelt, mapItems_mapItems, Function.comp_def]

/-- A way to spell columns: it settles a name, keeps lower case and loses no name. -/
structure Spelling (spell : String → String) : Prop where
  settles : ∀ name, spell (spell name) = spell name
  lower : ∀ name, Text.lower name = name → Text.lower (spell name) = spell name
  filled : ∀ name, Text.strip name ≠ "" → spell name ≠ ""

private theorem spelling_ansiName (connector : Connector) : Spelling connector.ansiName :=
  ⟨connector.ansiName_ansiName, fun _ => connector.lower_ansiName, fun _ => connector.ansiName_ne_empty⟩

/-- The column by which reading is divided, if there is one, is not blank. -/
def Table.NoBlankPartition (t : Table) : Prop := ∀ o ∈ t.reader, ∀ column ∈ o.partitionColumn, Text.strip column ≠ ""

instance (t : Table) : Decidable t.NoBlankPartition :=
  inferInstanceAs (Decidable (∀ o ∈ t.reader, ∀ column ∈ o.partitionColumn, Text.strip column ≠ ""))

section Spell

variable {t : Table} {source target : String → String}

private theorem Table.Lowered.normalizeBy_eq (ht : t.Lowered) (hsource : Spelling source) (htarget : Spelling target) :
    t.normalizeBy source target = t.respelt source target := by
  rw [normalizeBy, ht.itself, respelt]
  congr 1
  · exact Option.map_congr fun o ho => by rw [(SamplingOptions.made_eq_ok_iff.1 (ht.sampling o ho)).1]
  · exact mapItems_congr fun a ha => by rw [(Aggregate.made_eq_ok_iff.1 (ht.aggregates a ha)).1]
  · exact Option.map_congr fun o ho => by rw [ht.reader o ho]
  · refine mapItems_congr fun m hm => ?_
    obtain ⟨hleft, hright⟩ := ColumnMapping.lowered_eq_iff.1 (ht.columnMapping m hm)
    exact ColumnMapping.lowered_eq_iff.2 ⟨hsource.lower _ hleft, htarget.lower _ hright⟩
  · exact mapItems_congr fun c hc => by rw [ht.columnThresholds c hc]

/-- Spelling keeps names in lower case. -/
private theorem Spelling.lower_mapItems (hsource : Spelling source) {columns : Option (List String)}
    (h : ∀ column ∈ columns.getD [], Text.lower column = column) :
    ∀ column ∈ (Table.mapItems source columns).getD [], Text.lower column = column := by
  rw [Table.getD_mapItems]
  exact List.forall_mem_map.2 fun column hcolumn => hsource.lower column (h column hcolumn)

private theorem Spelling.mapItems_lower_mapItems (hsource : Spelling source) {columns : Option (List String)}
    (h : Table.mapItems Text.lower columns = columns) :
    Table.mapItems Text.lower (Table.mapItems source columns) = Table.mapItems source columns := by
  rw [Table.mapItems_mapItems]
  exact Table.mapItems_congr fun column hcolumn => hsource.lower column (Table.lower_of_mapItems h column hcolumn)

/-- Spelling keeps a configuration in lower case. -/
theorem Table.Lowered.respelt (ht : t.Lowered) (hsource : Spelling source) (htarget : Spelling target)
    (hpartition : t.NoBlankPartition) : (t.respelt source target).Lowered where
  itself := by
    obtain ⟨hsourceName, htargetName, hjoin, hselect, hdrop⟩ := Table.lowered_eq_iff.1 ht.itself
    exact Table.lowered_eq_iff.2 ⟨hsourceName, htargetName, hsource.mapItems_lower_mapItems hjoin,
      hsource.mapItems_lower_mapItems hselect, hsource.mapItems_lower_mapItems hdrop⟩
  sampling := by
    intro o' ho'
    obtain ⟨o, ho, rfl⟩ := Option.map_eq_some_iff.1 ho'
    obtain ⟨hlowered, hcheck⟩ := SamplingOptions.made_eq_ok_iff.1 (ht.sampling o ho)
    refine SamplingOptions.made_eq_ok_iff.2 ⟨?_, fun hmethod => ⟨?_, (hcheck hmethod).2⟩⟩
    · exact SamplingOptions.lowered_eq_iff.2 (hsource.lower_mapItems (SamplingOptions.lowered_eq_iff.1 hlowered))
    · simpa using (hcheck hmethod).1
  aggregates := by
    rw [Table.respelt, Table.getD_mapItems, List.forall_mem_map]
    intro a ha
    obtain ⟨hlowered, hsupported⟩ := Aggregate.made_eq_ok_iff.1 (ht.aggregates a ha)
    obtain ⟨hcolumns, htype, hgroupBy⟩ := Aggregate.lowered_eq_iff.1 hlowered
    refine Aggregate.made_eq_ok_iff.2 ⟨Aggregate.lowered_eq_iff.2 ⟨?_, htype, hsource.lower_mapItems hgroupBy⟩,
      hsupported⟩
    exact List.forall_mem_map.2 fun column hcolumn => hsource.lower column (hcolumns column hcolumn)
  columnMapping := by
    rw [Table.respelt, Table.getD_mapItems, List.forall_mem_map]
    intro m hm
    obtain ⟨hleft, hright⟩ := ColumnMapping.lowered_eq_iff.1 (ht.columnMapping m hm)
    exact ColumnMapping.lowered_eq_iff.2 ⟨hsource.lower _ hleft, htarget.lower _ hright⟩
  columnThresholds := by
    rw [Table.respelt, Table.getD_mapItems, List.forall_mem_map]
    intro c hc
    obtain ⟨hcolumn, htype⟩ := ColumnThreshold.lowered_eq_iff.1 (ht.columnThresholds c hc)
    exact ColumnThreshold.lowered_eq_iff.2 ⟨hsource.lower _ hcolumn, htype⟩
  reader := by
    intro o' ho'
    obtain ⟨o, ho, rfl⟩ := Option.map_eq_some_iff.1 ho'
    refine ReaderOptions.lowered_eq_iff.2 fun column' hcolumn' => ?_
    obtain ⟨column, hcolumn, rfl⟩ := Option.map_eq_some_iff.1 hcolumn'
    have hlower := (ReaderOptions.lowered_eq_iff.1 (ht.reader o ho) column hcolumn).2
    exact ⟨hsource.filled column (hpartition o ho column hcolumn), hsource.lower column hlower⟩

end Spell

/-! ### What normalisation changes -/

/-- The second configuration is the first one with each column of the source spelt by `source` and each column of the
target by `target`, in the same places; an empty list and an absent one count as the same. -/
structure Respelled (source target : String → String) (t t' : Table) : Prop where
  sourceName : t'.sourceName = t.sourceName
  targetName : t'.targetName = t.targetName
  filters : t'.filters = t.filters
  tableThresholds : t'.tableThresholds = t.tableThresholds
  joinColumns : t'.joinColumns.getD [] = (t.joinColumns.getD []).map source
  selectColumns : t'.selectColumns.getD [] = (t.selectColumns.getD []).map source
  dropColumns : t'.dropColumns.getD [] = (t.dropColumns.getD []).map source
  sampling : Option.Rel (fun o o' => o'.method = o.method ∧ o'.size = o.size ∧ o'.buckets = o.buckets ∧
    o'.columns.getD [] = (o.columns.getD []).map source) t.sampling t'.sampling
  aggregates : List.Forall₂ (fun a a' => a'.type = a.type ∧ a'.columns = a.columns.map source ∧
    a'.groupBy.getD [] = (a.groupBy.getD []).map source) (t.aggregates.getD []) (t'.aggregates.getD [])
  columnMapping : t'.columnMapping.getD [] =
    (t.columnMapping.getD []).map fun m => ⟨source m.source, target m.target⟩
  transformations : t'.transformations.getD [] =
    (t.transformations.getD []).map fun c => { c with column := source c.column }
  columnThresholds : t'.columnThresholds.getD [] =
    (t.columnThresholds.getD []).map fun c => { c with column := source c.column }
  reader : t'.reader = t.reader.map fun o => { o with partitionColumn := o.partitionColumn.map source }

/-- What changing the names does to a configuration. -/
theorem Table.respelled_respelt (t : Table) (source target : String → String) :
    Respelled source target t (t.respelt source target) where
  sourceName := rfl
  targetName := rfl
  filters := rfl
  tableThresholds := rfl
  joinColumns := getD_mapItems ..
  selectColumns := getD_mapItems ..
  dropColumns := getD_mapItems ..
  sampling := by
    rw [respelt]
    cases t.sampling with
    | none => exact .none
    | some o => exact .some ⟨rfl, rfl, rfl, getD_mapItems ..⟩
  aggregates := by
    rw [respelt, getD_mapItems, List.forall₂_map_right_iff, List.forall₂_same]
    exact fun a _ => ⟨rfl, rfl, getD_mapItems ..⟩
  columnMapping := getD_mapItems ..
  transformations := getD_mapItems ..
  columnThresholds := getD_mapItems ..
  reader := rfl

namespace Table.Lowered

variable {t : Table} (ht : t.Lowered) (source target : Connector)

include ht

/-- Normalizing changes names into their ANSI spellings. -/
theorem normalize_eq : t.normalize source target = t.respelt source.ansiName target.ansiName :=
  ht.normalizeBy_eq (spelling_ansiName source) (spelling_ansiName target)

theorem normalize (hpartition : t.NoBlankPartition) : (t.normalize source target).Lowered := by
  rw [ht.normalize_eq]
  exact ht.respelt (spelling_ansiName source) (spelling_ansiName target) hpartition

/-- A configuration that is normalised already stays as it is, unless reading is divided by a blank column. -/
theorem normalize_normalize (hpartition : t.NoBlankPartition) :
    (t.normalize source target).normalize source target = t.normalize source target := by
  rw [(ht.normalize source target hpartition).normalize_eq, ht.normalize_eq, Table.respelt_respelt,
    show source.ansiName ∘ source.ansiName = source.ansiName from funext (spelling_ansiName source).settles,
    show target.ansiName ∘ target.ansiName = target.ansiName from funext (spelling_ansiName target).settles]

end Table.Lowered

/-- The spelling of a blank column is empty, which the next normalisation takes for no column. -/
example : ((Table.normalize { sourceName := "a", targetName := "b", reader := some { partitionColumn := some " " } }
    .oracle .databricks).normalize .oracle .databricks).reader.map ReaderOptions.partitionColumn = some none := by
  decide

end WarehouseMigration.Reconcile
