import WarehouseMigration.Proofs.Reconcile.Normalization
import WarehouseMigration.Reconcile.Records

/-!
# Normalised copies

Normalisation makes a copy of a table configuration and assigns to its fields.  Whatever is assigned is a new record or
a field of the copy, so that the records that were there stay as they were; the configuration itself is one of them.

All records are the old ones, then the copy, then the new records that it refers to (`Copied`).  A change of the copy
carries the configuration that the copy shows to another one (`Carries`), and the changes are made one after the other
(`Leads.bind`).
-/

namespace WarehouseMigration.Reconcile

variable {α : Type} {rs old fresh : RecordStore} {kind : Record.Kind α}

/-! ### Records that are found -/

section Mono

variable {f g : Nat → Option α} (h : ∀ i a, f i = some a → g i = some a)

include h

private theorem list_mapM_mono {places : List Nat} {as : List α} (has : places.mapM f = some as) :
    places.mapM g = some as := by
  induction places generalizing as with
  | nil => exact has
  | cons i places ih =>
    simp only [List.mapM_cons, Option.bind_eq_bind, Option.bind_eq_some_iff] at has ⊢
    obtain ⟨a, ha, rest, hrest, heq⟩ := has
    exact ⟨a, h i a ha, rest, ih hrest, heq⟩

private theorem option_mapM_mono {place : Option Nat} {a : Option α} (ha : place.mapM f = some a) :
    place.mapM g = some a := by
  cases place with
  | none => exact ha
  | some i =>
    obtain ⟨b, hb, rfl⟩ := Option.map_eq_some_iff.1 ha
    exact Option.map_eq_some_iff.2 ⟨b, h i b hb, rfl⟩

private theorem items_mapM_mono {items : Option (List Nat)} {as : Option (List α)}
    (has : items.mapM (·.mapM f) = some as) : items.mapM (·.mapM g) = some as := by
  cases items with
  | none => exact has
  | some places =>
    obtain ⟨bs, hbs, rfl⟩ := Option.map_eq_some_iff.1 has
    exact Option.map_eq_some_iff.2 ⟨bs, list_mapM_mono h hbs, rfl⟩

end Mono

namespace RecordStore

private theorem find?_append {place : Nat} {a : α} (h : rs.find? kind place = some a) (more : RecordStore) :
    (rs ++ more).find? kind place = some a := by
  obtain ⟨record, hrecord, ha⟩ := Option.bind_eq_some_iff.1 h
  rw [find?, List.getElem?_append_left (List.getElem?_eq_some_iff.1 hrecord).1, hrecord]
  exact ha

private theorem find?_length (rs : RecordStore) (kind : Record.Kind α) (a : α) (more : RecordStore) :
    (rs ++ kind.wrap a :: more).find? kind rs.length = some a := by
  simp [find?, kind.unwrap?_wrap]

/-- Where the copy stands, there is no record of another kind. -/
private theorem find?_table (kind : Record.Kind α) (hkind : ∀ r, kind.unwrap? (.table r) = none) (r r' : TableRecord) :
    (old ++ .table r :: fresh).find? kind = (old ++ .table r' :: fresh).find? kind := by
  funext place
  rw [find?, find?, List.getElem?_append, List.getElem?_append]
  split
  · rfl
  · cases place - old.length with
    | zero => simp [hkind]
    | succ n => rfl

private theorem view_table (r r' : TableRecord) :
    (old ++ .table r :: fresh).view = (old ++ .table r' :: fresh).view := by
  funext s
  simp only [view, find?_table .sampling (fun _ => rfl) r r', find?_table .aggregate (fun _ => rfl) r r',
    find?_table .reader (fun _ => rfl) r r', find?_table .mapping (fun _ => rfl) r r',
    find?_table .transformation (fun _ => rfl) r r', find?_table .threshold (fun _ => rfl) r r']

/-- The kept configuration shows the other one, field by field. -/
structure Shows (rs : RecordStore) (r : TableRecord) (t : Table) : Prop where
  sourceName : r.sourceName = t.sourceName
  targetName : r.targetName = t.targetName
  sampling : r.sampling.mapM (rs.find? .sampling) = some t.sampling
  aggregates : r.aggregates.mapM (·.mapM (rs.find? .aggregate)) = some t.aggregates
  joinColumns : r.joinColumns = t.joinColumns
  reader : r.reader.mapM (rs.find? .reader) = some t.reader
  selectColumns : r.selectColumns = t.selectColumns
  dropColumns : r.dropColumns = t.dropColumns
  columnMapping : r.columnMapping.mapM (·.mapM (rs.find? .mapping)) = some t.columnMapping
  transformations : r.transformations.mapM (·.mapM (rs.find? .transformation)) = some t.transformations
  columnThresholds : r.columnThresholds.mapM (·.mapM (rs.find? .threshold)) = some t.columnThresholds
  filters : r.filters = t.filters
  tableThresholds : r.tableThresholds = t.tableThresholds

private theorem view_eq_some_iff {r : TableRecord} {t : Table} : rs.view r = some t ↔ Shows rs r t := by
  obtain ⟨sourceName, targetName, sampling, aggregates, joinColumns, reader, selectColumns, dropColumns, columnMapping,
    transformations, columnThresholds, filters, tableThresholds⟩ := t
  simp only [view, Option.bind_eq_bind, Option.bind_eq_some_iff]
  constructor
  · rintro ⟨s, hs, a, ha, o, ho, m, hm, c, hc, d, hd, heq⟩
    cases heq
    exact ⟨rfl, rfl, hs, ha, rfl, ho, rfl, rfl, hm, hc, hd, rfl, rfl⟩
  · rintro ⟨rfl, rfl, hs, ha, rfl, ho, rfl, rfl, hm, hc, hd, rfl, rfl⟩
    exact ⟨_, hs, _, ha, _, ho, _, hm, _, hc, _, hd, rfl⟩

private theorem Shows.append {r : TableRecord} {t : Table} (h : Shows rs r t) (more : RecordStore) :
    Shows (rs ++ more) r t :=
  { h with
    sampling := option_mapM_mono (fun _ _ hfind => find?_append hfind more) h.sampling
    aggregates := items_mapM_mono (fun _ _ hfind => find?_append hfind more) h.aggregates
    reader := option_mapM_mono (fun _ _ hfind => find?_append hfind more) h.reader
    columnMapping := items_mapM_mono (fun _ _ hfind => find?_append hfind more) h.columnMapping
    transformations := items_mapM_mono (fun _ _ hfind => find?_append hfind more) h.transformations
    columnThresholds := items_mapM_mono (fun _ _ hfind => find?_append hfind more) h.columnThresholds }

/-- A configuration stays what it is when records are made. -/
private theorem table?_append {place : Nat} {t : Table} (h : rs.table? place = some t) (more : RecordStore) :
    (rs ++ more).table? place = some t := by
  obtain ⟨r, hr, ht⟩ := Option.bind_eq_some_iff.1 h
  exact Option.bind_eq_some_iff.2 ⟨r, find?_append hr more,
    view_eq_some_iff.2 ((view_eq_some_iff.1 ht).append more)⟩

end RecordStore

/-! ### Records that are made -/

namespace Copying

open RecordStore

private theorem run_bind_of_ok {β γ : Type} {act : Copying β} {next : β → Copying γ} {b : β} {rs' : RecordStore}
    (h : act.run rs = .ok (b, rs')) : (act >>= next).run rs = (next b).run rs' := by
  rw [StateT.run_bind, h]
  rfl

private theorem run_find {place : Nat} {a : α} (h : rs.find? kind place = some a) : (find kind place).run rs = .ok
    (a, rs) := by
  simp only [find, StateT.run_bind, StateT.run_get, pure_bind, h]
  rfl

/-- From the record that it finds, the action makes another one. -/
def Makes (kind : Record.Kind α) (act : Nat → Copying Nat) (a b : α) : Prop :=
  ∀ (rs : RecordStore) (place : Nat), rs.find? kind place = some a →
    (act place).run rs = .ok (rs.length, rs ++ [kind.wrap b])

variable {made : α → Outcome α} {a b : α}

private theorem makes_remake (hmade : made a = .ok b) : Makes kind (remake kind made) a b := by
  intro rs place hplace
  rw [remake, run_bind_of_ok (run_find hplace), hmade]
  rfl

private theorem makes_revise (hmade : made a = .ok b) (change : α → α → α) :
    Makes kind (revise kind made change) a (change a b) := by
  intro rs place hplace
  rw [revise, run_bind_of_ok (makes_remake hmade rs place hplace), run_bind_of_ok (run_find (find?_append hplace _)),
    run_bind_of_ok (run_find (find?_length ..))]
  have hset : (rs ++ [kind.wrap b]).set rs.length (kind.wrap (change a b)) = rs ++ [kind.wrap (change a b)] := by simp
  exact congrArg (fun rs' => Except.ok (rs.length, rs')) hset

private theorem makes_remake_pure (make : α → α) (a : α) : Makes kind (remake kind (pure <| make ·)) a (make a) :=
  makes_remake (by rfl)

private theorem makes_revise_pure (make : α → α) (change : α → α → α) (a : α) :
    Makes kind (revise kind (pure <| make ·) change) a (change a (make a)) :=
  makes_revise (by rfl) change

/-- The new records are found where the action says, and nothing else has changed. -/
private theorem run_mapM {act : Nat → Copying Nat} {f : α → α} {places : List Nat} {as : List α}
    (hact : ∀ a ∈ as, Makes kind act a (f a)) (has : places.mapM (rs.find? kind) = some as) :
    ∃ copies more, (places.mapM act).run rs = .ok (copies, rs ++ more) ∧
      copies.mapM ((rs ++ more).find? kind) = some (as.map f) := by
  induction places generalizing rs as with
  | nil =>
    cases has
    exact ⟨[], [], by rw [List.append_nil]; rfl, rfl⟩
  | cons place places ih =>
    simp only [List.mapM_cons, Option.bind_eq_bind, Option.bind_eq_some_iff] at has
    obtain ⟨a, ha, rest, hrest, heq⟩ := has
    cases heq
    obtain ⟨hfirst, hact⟩ := List.forall_mem_cons.1 hact
    obtain ⟨copies, more, hrun, hcopies⟩ := ih hact
      (list_mapM_mono (fun _ _ hfind => find?_append hfind [kind.wrap (f a)]) hrest)
    have hfound := find?_length rs kind (f a) more
    rw [List.append_assoc, List.singleton_append] at hrun hcopies
    refine ⟨rs.length :: copies, kind.wrap (f a) :: more, ?_, ?_⟩
    · rw [List.mapM_cons, run_bind_of_ok (hfirst rs place ha), run_bind_of_ok hrun]
      rfl
    · rw [List.mapM_cons, hfound, hcopies]
      rfl

private theorem run_mapM_option {act : Nat → Copying Nat} {f : α → α} {place : Option Nat} {a : Option α}
    (hact : ∀ b ∈ a, Makes kind act b (f b)) (ha : place.mapM (rs.find? kind) = some a) :
    ∃ copy more, (place.mapM act).run rs = .ok (copy, rs ++ more) ∧
      copy.mapM ((rs ++ more).find? kind) = some (a.map f) := by
  cases place with
  | none =>
    cases ha
    exact ⟨none, [], by rw [List.append_nil]; rfl, rfl⟩
  | some i =>
    obtain ⟨b, hb, rfl⟩ := Option.map_eq_some_iff.1 ha
    refine ⟨some rs.length, [kind.wrap (f b)], ?_, ?_⟩
    · exact congrArg (Except.map (Prod.map some id)) (hact b rfl rs i hb)
    · exact Option.map_eq_some_iff.2 ⟨f b, find?_length .., rfl⟩

private theorem run_each {act : Nat → Copying Nat} {f : α → α} {items : Option (List Nat)} {as : Option (List α)}
    (hact : ∀ a ∈ as.getD [], Makes kind act a (f a)) (has : items.mapM (·.mapM (rs.find? kind)) = some as) :
    ∃ copies more, (each act items).run rs = .ok (copies, rs ++ more) ∧
      copies.mapM (·.mapM ((rs ++ more).find? kind)) = some (Table.mapItems f as) := by
  rcases items with - | (- | ⟨place, rest⟩)
  · cases has
    exact ⟨none, [], by rw [List.append_nil]; rfl, rfl⟩
  · cases has
    exact ⟨none, [], by rw [List.append_nil]; rfl, rfl⟩
  · obtain ⟨bs, hbs, rfl⟩ := Option.map_eq_some_iff.1 has
    obtain ⟨copies, more, hrun, hcopies⟩ := run_mapM hact hbs
    refine ⟨some copies, more, congrArg (Except.map (Prod.map some id)) hrun, ?_⟩
    have hne : bs ≠ [] := by
      rintro rfl
      simp [List.mapM_cons, Option.bind_eq_some_iff] at hbs
    rw [Table.mapItems_some hne]
    exact Option.map_eq_some_iff.2 ⟨_, hcopies, rfl⟩

/-! ### Changes of the copy -/

/-- The change carries what a kept configuration shows to another configuration, and adds to the records only. -/
def Carries (change : TableRecord → Copying TableRecord) (t u : Table) : Prop :=
  ∀ (rs : RecordStore) (r : TableRecord), Shows rs r t →
    ∃ r' more, (change r).run rs = .ok (r', rs ++ more) ∧ Shows (rs ++ more) r' u

/-- There are the old records, then the copy, which shows the configuration, and then whatever was made for it. -/
def Copied (old : RecordStore) (t : Table) (rs : RecordStore) : Prop :=
  ∃ r fresh, rs = old ++ .table r :: fresh ∧ Shows rs r t

/-- The action leads from one configuration that the copy shows to another one. -/
def Leads (old : RecordStore) (act : Copying β) (b : β) (t u : Table) : Prop :=
  ∀ rs, Copied old t rs → ∃ rs', act.run rs = .ok (b, rs') ∧ Copied old u rs'

/-- One task on the records after another. -/
theorem Leads.bind {β γ : Type} {act : Copying β} {next : β → Copying γ} {b : β} {c : γ} {t u w : Table}
    (hact : Leads old act b t u) (hnext : Leads old (next b) c u w) : Leads old (act >>= next) c t w := by
  intro rs hrs
  obtain ⟨rs', hrun, hrs'⟩ := hact rs hrs
  rw [run_bind_of_ok hrun]
  exact hnext rs' hrs'

/-- An assignment to the copy leaves the old records alone, and what the copy shows does not depend on the copy. -/
private theorem Carries.onTable {change : TableRecord → Copying TableRecord} {t u : Table} (h : Carries change t u) :
    Leads old (onTable old.length change) () t u := by
  rintro rs ⟨r, fresh, rfl, hr⟩
  obtain ⟨r', more, hrun, hr'⟩ := h _ r hr
  rw [List.append_assoc, List.cons_append] at hrun hr'
  have hfind : (find .table old.length).run (old ++ .table r :: fresh) = .ok (r, old ++ .table r :: fresh) :=
    run_find (find?_length old .table r fresh)
  have hset : (old ++ .table r :: (fresh ++ more)).set old.length (.table r') = old ++
      .table r' :: (fresh ++ more) := by
    simp
  refine ⟨old ++ .table r' :: (fresh ++ more), ?_, r', fresh ++ more, rfl, ?_⟩
  · rw [Copying.onTable, run_bind_of_ok hfind, run_bind_of_ok hrun]
    exact congrArg (fun rs' => Except.ok ((), rs')) hset
  · rw [← view_eq_some_iff, view_table r' r]
    exact view_eq_some_iff.2 hr'

section Steps

variable {t : Table} (source target : String → String)

private theorem carries_pure {u : Table} {change : TableRecord → TableRecord}
    (h : ∀ rs r, Shows rs r t → Shows rs (change r) u) : Carries (fun r => return change r) t u :=
  fun rs r hr => ⟨change r, [], by rw [List.append_nil]; rfl, by rw [List.append_nil]; exact h rs r hr⟩

private theorem carries_normalizeSampling (hmade : ∀ o ∈ t.sampling, o.made = .ok o.lowered) :
    Carries (normalizeSampling source) t
      { t with sampling := t.sampling.map fun o => { o with columns := Table.mapItems source o.lowered.columns } } := by
  intro rs r hr
  obtain ⟨copy, more, hrun, hcopy⟩ := run_mapM_option (fun o ho => makes_revise (hmade o ho) _) hr.sampling
  exact ⟨_, more, run_bind_of_ok hrun, { hr.append more with sampling := hcopy }⟩

private theorem carries_normalizeAggregates (hmade : ∀ a ∈ t.aggregates.getD [], a.made = .ok a.lowered) :
    Carries (normalizeAggregates source) t
      { t with
        aggregates := Table.mapItems (fun a => { a.lowered with
          columns := a.lowered.columns.map source, groupBy := Table.mapItems source a.lowered.groupBy })
          t.aggregates } := by
  intro rs r hr
  obtain ⟨copies, more, hrun, hcopies⟩ := run_each (fun a ha => makes_revise (hmade a ha) _) hr.aggregates
  exact ⟨_, more, run_bind_of_ok hrun, { hr.append more with aggregates := hcopies }⟩

private theorem carries_joinColumns :
    Carries (fun r => return { r with joinColumns := Table.mapItems source r.joinColumns }) t
      { t with joinColumns := Table.mapItems source t.joinColumns } :=
  carries_pure fun _ _ hr => { hr with joinColumns := congrArg (Table.mapItems source) hr.joinColumns }

private theorem carries_selectColumns :
    Carries (fun r => return { r with selectColumns := Table.mapItems source r.selectColumns }) t
      { t with selectColumns := Table.mapItems source t.selectColumns } :=
  carries_pure fun _ _ hr => { hr with selectColumns := congrArg (Table.mapItems source) hr.selectColumns }

private theorem carries_dropColumns :
    Carries (fun r => return { r with dropColumns := Table.mapItems source r.dropColumns }) t
      { t with dropColumns := Table.mapItems source t.dropColumns } :=
  carries_pure fun _ _ hr => { hr with dropColumns := congrArg (Table.mapItems source) hr.dropColumns }

private theorem carries_normalizeMapping :
    Carries (normalizeMapping source target) t
      { t with
        columnMapping := Table.mapItems (fun m => ColumnMapping.lowered ⟨source m.source, target m.target⟩)
          t.columnMapping } := by
  intro rs r hr
  obtain ⟨copies, more, hrun, hcopies⟩ := run_each (fun m _ => makes_remake_pure _ m) hr.columnMapping
  exact ⟨_, more, run_bind_of_ok hrun, { hr.append more with columnMapping := hcopies }⟩

private theorem carries_normalizeTransformations :
    Carries (normalizeTransformations source) t
      { t with transformations := Table.mapItems (fun c => { c with column := source c.column }) t.transformations } := by
  intro rs r hr
  obtain ⟨copies, more, hrun, hcopies⟩ := run_each (fun c _ =>
      makes_revise_pure Transformation.lowered _ c) hr.transformations
  exact ⟨_, more, run_bind_of_ok hrun, { hr.append more with transformations := hcopies }⟩

private theorem carries_normalizeThresholds :
    Carries (normalizeThresholds source) t
      { t with
        columnThresholds := Table.mapItems (fun c => { c.lowered with column := source c.column })
          t.columnThresholds } := by
  intro rs r hr
  obtain ⟨copies, more, hrun, hcopies⟩ := run_each (fun c _ =>
      makes_revise_pure ColumnThreshold.lowered _ c) hr.columnThresholds
  exact ⟨_, more, run_bind_of_ok hrun, { hr.append more with columnThresholds := hcopies }⟩

private theorem carries_normalizeReader :
    Carries (normalizeReader source) t
      { t with reader := t.reader.map fun o =>
          { o.lowered with partitionColumn := o.lowered.partitionColumn.map source } } := by
  intro rs r hr
  obtain ⟨copy, more, hrun, hcopy⟩ := run_mapM_option (fun o _ => makes_revise_pure ReaderOptions.lowered _ o) hr.reader
  exact ⟨_, more, run_bind_of_ok hrun, { hr.append more with reader := hcopy }⟩

private theorem leads_normalizeFields (hsampling : ∀ o ∈ t.sampling, o.made = .ok o.lowered)
    (haggregates : ∀ a ∈ t.aggregates.getD [], a.made = .ok a.lowered) :
    Leads old (normalizeFields source target old.length) () t.lowered (t.normalizeBy source target) := by
  unfold normalizeFields
  refine (carries_normalizeSampling source ?sampling).onTable.bind ?_
  case sampling => exact hsampling
  refine (carries_normalizeAggregates source ?aggregates).onTable.bind ?_
  case aggregates => exact haggregates
  refine (carries_joinColumns source).onTable.bind ?_
  refine (carries_selectColumns source).onTable.bind ?_
  refine (carries_dropColumns source).onTable.bind ?_
  refine (carries_normalizeMapping source target).onTable.bind ?_
  refine (carries_normalizeTransformations source).onTable.bind ?_
  refine (carries_normalizeThresholds source).onTable.bind ?_
  exact (carries_normalizeReader source).onTable

/-- A copy is made that shows the normalised configuration, and the records that were there stay. -/
private theorem run_normalizeBy {place : Nat} (hplace : rs.table? place = some t)
    (hsampling : ∀ o ∈ t.sampling, o.made = .ok o.lowered)
    (haggregates : ∀ a ∈ t.aggregates.getD [], a.made = .ok a.lowered) :
    ∃ rs', (normalizeBy source target place).run rs = .ok (rs.length, rs') ∧ rs <+: rs' ∧
      rs'.table? rs.length = some (t.normalizeBy source target) := by
  obtain ⟨r, hr, ht⟩ := Option.bind_eq_some_iff.1 hplace
  have hcopied : Copied rs t.lowered (rs ++ [.table r.lowered]) := by
    have hshows := (view_eq_some_iff.1 ht).append [.table r.lowered]
    exact ⟨r.lowered, [], rfl, { hshows with
      sourceName := congrArg Text.lower hshows.sourceName
      targetName := congrArg Text.lower hshows.targetName
      joinColumns := congrArg (Table.mapItems Text.lower) hshows.joinColumns
      selectColumns := congrArg (Table.mapItems Text.lower) hshows.selectColumns
      dropColumns := congrArg (Table.mapItems Text.lower) hshows.dropColumns }⟩
  obtain ⟨rs', hrun, r', fresh, hrs', hr'⟩ := leads_normalizeFields source target hsampling haggregates _ hcopied
  have hcopy : (remake .table (pure ·.lowered) place).run rs = .ok (rs.length, rs ++ [.table r.lowered]) :=
    makes_remake_pure TableRecord.lowered r rs place hr
  refine ⟨rs', ?_, hrs' ▸ List.prefix_append .., ?_⟩
  · rw [normalizeBy, run_bind_of_ok hcopy, run_bind_of_ok hrun]
    rfl
  · refine Option.bind_eq_some_iff.2 ⟨r', ?_, view_eq_some_iff.2 hr'⟩
    rw [hrs']
    exact find?_length rs .table r' fresh

end Steps

end Copying

/-! ### Main result -/

open Copying

private theorem Table.Lowered.run_normalize {t : Table} {place : Nat} (ht : t.Lowered)
    (hplace : rs.table? place = some t) (source target : Connector) :
    ∃ rs', (Copying.normalize source target place).run rs = .ok (rs.length, rs') ∧ rs <+: rs' ∧
      rs'.table? rs.length = some (t.normalize source target) := by
  refine run_normalizeBy _ _ hplace (fun o ho => ?_) (fun a ha => ?_)
  · rw [(SamplingOptions.made_eq_ok_iff.1 (ht.sampling o ho)).1]
    exact ht.sampling o ho
  · rw [(Aggregate.made_eq_ok_iff.1 (ht.aggregates a ha)).1]
    exact ht.aggregates a ha

/-- Normalisation gives each column of a configuration its ANSI spelling and leaves all else as it is, for any two
connectors.  All records that there were, with the configuration itself, stay as they were.  A configuration that is
normalised already is normalised to an equal one, unless reading is divided by a blank column. -/
theorem Table.normalize_respells {v : Value} {t : Table} (hread : Table.read v = .ok t)
    (hpartition : t.NoBlankPartition) {place : Nat} (hplace : rs.table? place = some t) (source target : Connector) :
    ∃ copy rs', (Copying.normalize source target place).run rs = .ok (copy, rs') ∧
      rs <+: rs' ∧ rs'.table? place = some t ∧ rs'.table? copy = some (t.normalize source target) ∧
      Respelled source.ansiName target.ansiName t (t.normalize source target) ∧
      ∃ again rs'', (Copying.normalize source target copy).run rs' = .ok (again, rs'') ∧
        rs' <+: rs'' ∧ rs''.table? again = some (t.normalize source target) := by
  have ht := Table.gives_lowered v t hread
  obtain ⟨rs', hrun, ⟨more, rfl⟩, hcopy⟩ := ht.run_normalize hplace source target
  obtain ⟨rs'', hrun', hprefix, hagain⟩ :=
    (ht.normalize source target hpartition).run_normalize hcopy source target
  rw [ht.normalize_normalize source target hpartition] at hagain
  refine ⟨rs.length, _, hrun, List.prefix_append .., RecordStore.table?_append hplace more, hcopy, ?_,
    _, rs'', hrun', hprefix, hagain⟩
  rw [ht.normalize_eq]
  exact t.respelled_respelt ..

def mixedConfig : Value := .map
  [("source_name", "Sales"), ("target_name", "sales"), ("join_columns", .list ["Id", "[Region]"]),
   ("select_columns", .list []), ("drop_columns", .list ["\"No]te\""]),
   ("sampling_options", .map [("method", "Stratified"), ("specifications", .map [("type", "count"), ("value", .int 9)]),
     ("stratified_columns", .list ["Region"]), ("stratified_buckets", .int 3)]),
   ("aggregates", .list [.map [("agg_columns", .list ["Total"]), ("type", "SUM"), ("group_by_columns", .list [])]]),
   ("jdbc_reader_options", .map [("partition_column", "ID"), ("number_partitions", .int 4)]),
   ("column_mapping", .list [.list ["Id", "\"Key\""]]),
   ("transformations", .list [.map [("column_name", "Total"), ("source", "trim(Total)")]]),
   ("column_thresholds", .list [.map [("column_name", "\x60Total\x60"), ("lower_bound", "0"), ("upper_bound", "5%"),
     ("type", "INT")]]),
   ("filters", .map [("source", "Id > 1")])]

def mixedTable : Table where
  sourceName := "sales"
  targetName := "sales"
  joinColumns := some ["id", "[region]"]
  dropColumns := some ["\"no]te\""]
  sampling := some ⟨.stratified, some ⟨.count, .int 9⟩, some ["region"], .int 3⟩
  aggregates := some [⟨["total"], "sum", none⟩]
  reader := some { partitions := .int 4, partitionColumn := some "id" }
  columnMapping := some [⟨"id", "\"key\""⟩]
  transformations := some [⟨"total", "trim(Total)", .null⟩]
  columnThresholds := some [⟨"\x60total\x60", "0", "5%", "int"⟩]
  filters := some ⟨"Id > 1", .null⟩

/-- The records of the configuration; a sampling of another one comes first. -/
def mixedRecords : RecordStore :=
  [.sampling ⟨.random, none, none, .null⟩, .sampling ⟨.stratified, some ⟨.count, .int 9⟩, some ["region"], .int 3⟩,
   .aggregate ⟨["total"], "sum", none⟩, .mapping ⟨"id", "\"key\""⟩, .transformation ⟨"total", "trim(Total)", .null⟩,
   .threshold ⟨"\x60total\x60", "0", "5%", "int"⟩, .reader { partitions := .int 4, partitionColumn := some "id" },
   .table ⟨"sales", "sales", some 1, some [2], some ["id", "[region]"], some 6, none, some ["\"no]te\""], some [3],
     some [4], some [5], some ⟨"Id > 1", .null⟩, none⟩]

/-- A configuration with capitals, normalized twice. -/
theorem Table.normalize_respells_mixed : Table.read mixedConfig = .ok mixedTable ∧ mixedTable.NoBlankPartition ∧
    mixedRecords.table? 7 = some mixedTable ∧
    ∃ copy rs', (Copying.normalize .tsql .oracle 7).run mixedRecords = .ok (copy, rs') ∧
      mixedRecords <+: rs' ∧ rs'.table? 7 = some mixedTable ∧
      rs'.table? copy = some (mixedTable.normalize .tsql .oracle) ∧
      Respelled Connector.tsql.ansiName Connector.oracle.ansiName mixedTable (mixedTable.normalize .tsql .oracle) ∧
      ∃ again rs'', (Copying.normalize .tsql .oracle copy).run rs' = .ok (again, rs'') ∧
        rs' <+: rs'' ∧ rs''.table? again = some (mixedTable.normalize .tsql .oracle) := by
  have hread : Table.read mixedConfig = .ok mixedTable := rfl
  have hpartition : mixedTable.NoBlankPartition := by decide
  have hplace : mixedRecords.table? 7 = some mixedTable := rfl
  exact ⟨hread, hpartition, hplace, normalize_respells hread hpartition hplace .tsql .oracle⟩

end WarehouseMigration.Reconcile
