import WarehouseMigration.Proofs.Session.Services
import WarehouseMigration.Reconcile.DryRun

/-!
# What a run records when sources fail

The sources of a run may fail at every read: of the columns of either side, of the rows that are compared, and of the
rows that are counted.  A failure of the first two kinds is recorded as the result on its table and the run goes on.
A failure while rows are counted is not: it ends the run before its table is recorded.  So a run records every table
and comes to its report exactly when all tables can be counted (`run_reaches_report_iff_counted`).

The step is one table: `runTable_of_counted` and `runTable_of_not_counted` say what it records.  A run is a sequence
of steps (`Records`).
-/

namespace WarehouseMigration.Reconcile

open WarehouseMigration.Flow (Behaves Serviced)

structure Entry where
  table : Table
  data : DataOutput
  schema : SchemaOutput
  time : Duration
  count : RecordCount

def captureName : String := "capture.start"

def Entry.call (e : Entry) : Call :=
  ⟨captureName, DryRun.ends e.time, [("data_reconcile_output", e.data), ("schema_reconcile_output", e.schema),
    ("table_conf", e.table), ("record_count", e.count)], .null⟩

/-- Sources may fail wherever they are read, and nothing else fails. -/
structure TableComparison.FailsInReads (ready : Session → Prop) (c : TableComparison) : Prop where
  source : ∀ catalog schema table flag,
    Behaves ready captureName Failure.ofSource (c.source.columns catalog schema table flag)
  target : ∀ catalog schema table flag,
    Behaves ready captureName Failure.ofSource (c.target.columns catalog schema table flag)
  schema : ∀ t x y, Behaves ready captureName Failure.never (c.schema t x y)
  data : ∀ t x y, Behaves ready captureName Failure.ofSource (c.data t x y)
  count : ∀ t, Behaves ready captureName Failure.ofSource (c.recordCount t)

/-- Recording an entry succeeds and is noted as one call. -/
def Recording.Captures (ready : Session → Prop) (r : Recording) : Prop :=
  ∀ (e : Entry) (s : Session), ready s →
    ∃ s', (r.start e.table e.data e.schema e.time e.count).exec s = (.ok (), s') ∧ ready s' ∧
      s'.noted captureName = s.noted captureName ++ [e.call]

/-- A table can be counted after it was compared from the session `s` on. -/
def Counted (c : TableComparison) (d : Database) (s : Session) (t : Table) : Prop :=
  ∃ n, ((c.recordCount (t.normalizeFor c.source c.target)).exec
    ((c.compare d (t.normalizeFor c.source c.target)).exec s).2).1 = .ok n

/-- An entry tells what comparing its table from the session `s` on gives.  If the columns of a side cannot be read,
the reason stands in the result on the schema; if the rows cannot be read, it stands in the result on the rows. -/
structure Entry.Tells (c : TableComparison) (d : Database) (s : Session) (e : Entry) : Prop where
  outputs : ((c.outputs d e.table).exec s).1 = .ok (e.schema, e.data)
  counted : ((c.recordCount e.table).exec ((c.compare d e.table).exec s).2).1 = .ok e.count
  unreadable : ∀ reason s', (c.columns d e.table true).exec s = (.error (.dataSource reason), s') →
    e.schema = { valid := .bool false, exception := some reason } ∧ e.data = {}
  uncompared : ∀ source target s' reason, (c.columns d e.table true).exec s = (.ok (source, target), s') →
    c.asksRows = true →
    ((c.data e.table source target).exec ((c.schemaPart e.table source target).exec s').2).1 =
      .error (.dataSource reason) →
    e.data = { exception := some reason }

/-- Tables are compared one after the other, from session to session, and each leaves one entry that tells what
became of it. -/
inductive Records (c : TableComparison) (r : Recording) (d : Database) (m : Metadata) :
    Session → List Table → List Entry → Session → Prop
  | nil (s : Session) : Records c r d m s [] [] s
  | cons {s s₁ s₂ : Session} {t : Table} {ts : List Table} {e : Entry} {es : List Entry}
      (normalized : e.table = t.normalizeFor c.source c.target) (tells : e.Tells c d s)
      (step : (runTable c r d m t).exec s = (.ok (), s₁))
      (noted : s₁.noted captureName = s.noted captureName ++ [e.call])
      (rest : Records c r d m s₁ ts es s₂) : Records c r d m s (t :: ts) (e :: es) s₂

variable {ready : Session → Prop} {c : TableComparison} {r : Recording} {d : Database} {m : Metadata} {s : Session}

/-! ### The comparison of one table -/

private theorem behaves_columns (hc : c.FailsInReads ready) (t : Table) (flag : Bool) :
    Behaves ready captureName Failure.ofSource (c.columns d t flag) :=
  (hc.source _ _ _ _).bind fun _ => (hc.target _ _ _ _).bind fun _ => .pure _

private theorem behaves_schemaPart (hc : c.FailsInReads ready) (t : Table) (x y : List Column) :
    Behaves ready captureName Failure.never (c.schemaPart t x y) := by
  unfold TableComparison.schemaPart
  split
  · exact (hc.schema t x y).attempt (fun _ => .pure _) (fun _ h => h.elim)
  · exact .pure _

private theorem behaves_dataPart (hc : c.FailsInReads ready) (t : Table) (x y : List Column) :
    Behaves ready captureName Failure.never (c.dataPart t x y) := by
  unfold TableComparison.dataPart
  split
  · refine (hc.data t x y).attempt (fun _ => .pure _) ?_
    rintro e ⟨reason, rfl⟩
    exact .pure _
  · exact .pure _

private theorem behaves_outputs (hc : c.FailsInReads ready) (t : Table) :
    Behaves ready captureName Failure.never (c.outputs d t) := by
  refine (behaves_columns hc t true).attempt ?_ ?_
  · rintro ⟨source, target⟩
    exact (behaves_schemaPart hc t source target).bind fun _ => (behaves_dataPart hc t source target).bind fun _ =>
      .pure _
  · rintro e ⟨reason, rfl⟩
    exact .pure _

/-- Comparing a table adds the time to its results. -/
private theorem exec_compare {t : Table} {schema : SchemaOutput} {data : DataOutput} {s₁ : Session}
    (h : (c.outputs d t).exec s = (.ok (schema, data), s₁)) :
    (c.compare d t).exec s = (.ok (schema, data, ⟨s.clock "", some (s₁.clock "")⟩), s₁) := by
  unfold TableComparison.compare
  rw [Flow.exec_bind_of_ok (Flow.exec_now "" s), Flow.exec_bind_of_ok h]
  rfl

/-- A source whose columns cannot be read gives the reason as the result on the schema. -/
private theorem outputs_unreadable {t : Table} {reason : String} {s' : Session}
    (h : (c.columns d t true).exec s = (.error (.dataSource reason), s')) :
    ((c.outputs d t).exec s).1 = .ok ({ valid := .bool false, exception := some reason }, {}) := by
  unfold TableComparison.outputs
  rw [Flow.exec_bind_of_ok (Flow.exec_attempt _ _), h]
  rfl

private theorem outputs_uncompared (hc : c.FailsInReads ready) (hs : ready s) {t : Table} {source target : List Column}
    {s' : Session} {reason : String} (h : (c.columns d t true).exec s = (.ok (source, target), s'))
    (hrows : c.asksRows = true)
    (hdata : ((c.data t source target).exec ((c.schemaPart t source target).exec s').2).1 =
      .error (.dataSource reason)) :
    ∃ schema, ((c.outputs d t).exec s).1 = .ok (schema, { exception := some reason }) := by
  have hs' : ready s' := by
    have hcolumns := (behaves_columns (d := d) hc t true s hs).1
    rwa [h] at hcolumns
  obtain ⟨schema, s₁, hschema, -, -⟩ := (behaves_schemaPart hc t source target).exists_ok hs'
  rw [hschema] at hdata
  refine ⟨schema, ?_⟩
  unfold TableComparison.outputs
  rw [Flow.exec_bind_of_ok (Flow.exec_attempt _ _), h]
  change ((c.schemaPart t source target >>= fun x => c.dataPart t source target >>= fun y => pure (x, y)).exec s').1 = _
  have hpart : ((c.dataPart t source target).exec s₁).1 = .ok { exception := some reason } := by
    unfold TableComparison.dataPart TableComparison.runData
    rw [hrows, if_pos rfl, Flow.exec_bind_of_ok (Flow.exec_attempt _ _), hdata]
    rfl
  rcases hp : (c.dataPart t source target).exec s₁ with ⟨o, s₂⟩
  rw [hp] at hpart
  cases hpart
  rw [Flow.exec_bind_of_ok hschema, Flow.exec_bind_of_ok hp]
  rfl

/-! ### One table of a run -/

private theorem behaves_reword {words : String → Failure} {flow : Flow Unit}
    (h : Behaves ready captureName Failure.never flow) :
    Behaves ready captureName Failure.never (Volume.reword words flow) :=
  h.attempt (fun _ => .pure _) (fun _ h => h.elim)

private theorem behaves_clean (hw : Serviced ready captureName) (path : String) :
    Behaves ready captureName Failure.never (Volume.clean path) := by
  refine behaves_reword (Spark.behaves_make hw _ _ (by decide) ?_)
  refine Spark.behaves_make hw _ _ ?_ (Spark.behaves_make hw _ _ ?_ ?_)
  · decide
  · decide
  · exact .bind (Spark.behaves_act hw _ _ (by decide)) fun _ => .pure _

private theorem Entry.tells (hc : c.FailsInReads ready) (hs : ready s) {e : Entry} {s₁ : Session}
    (houtputs : (c.outputs d e.table).exec s = (.ok (e.schema, e.data), s₁))
    (hcount : ((c.recordCount e.table).exec s₁).1 = .ok e.count) : e.Tells c d s where
  outputs := by rw [houtputs]
  counted := by rwa [exec_compare houtputs]
  unreadable := by
    intro reason s' h
    have hres := outputs_unreadable h
    rw [houtputs] at hres
    simpa using hres
  uncompared := by
    intro source target s' reason h hrows hdata
    obtain ⟨schema, hres⟩ := outputs_uncompared hc hs h hrows hdata
    rw [houtputs] at hres
    exact (Prod.mk.inj (Except.ok.inj hres)).2

/-- A table that can be counted is recorded, whatever else could not be read. -/
theorem runTable_of_counted (hw : Serviced ready captureName) (hc : c.FailsInReads ready) (hr : r.Captures ready)
    (hs : ready s) {t : Table} (h : Counted c d s t) :
    ∃ (e : Entry) (s' : Session), e.table = t.normalizeFor c.source c.target ∧ e.Tells c d s ∧
      (runTable c r d m t).exec s = (.ok (), s') ∧ ready s' ∧
      s'.noted captureName = s.noted captureName ++ [e.call] := by
  -- the sessions are those after comparing, counting, recording and cleaning
  obtain ⟨n, hn⟩ := h
  obtain ⟨⟨schema, data⟩, s₁, houtputs, hs₁, hnoted₁⟩ :=
    (behaves_outputs (d := d) hc (t.normalizeFor c.source c.target)).exists_ok hs
  have hcompare := exec_compare houtputs
  obtain ⟨hs₂, hnoted₂, -⟩ := hc.count (t.normalizeFor c.source c.target) s₁ hs₁
  rw [hcompare] at hn
  rcases hcount : (c.recordCount (t.normalizeFor c.source c.target)).exec s₁ with ⟨o, s₂⟩
  rw [hcount] at hn hs₂ hnoted₂
  cases hn
  let e : Entry := ⟨t.normalizeFor c.source c.target, data, schema, ⟨s.clock "", some (s₁.clock "")⟩, n⟩
  obtain ⟨s₃, hstart, hs₃, hnoted₃⟩ := hr e s₂ hs₂
  have hclean : Behaves ready captureName Failure.never
      (unless c.reportType = "schema" do Volume.clean (e.table.volumePath m) : Flow Unit) := by
    split
    · exact .pure _
    · exact behaves_clean hw _
  obtain ⟨⟨⟩, s₄, hcleaned, hs₄, hnoted₄⟩ := hclean.exists_ok hs₃
  refine ⟨e, s₄, rfl, e.tells hc hs houtputs (by rw [hcount]), ?_, hs₄, ?_⟩
  · unfold runTable
    rw [Flow.exec_bind_of_ok hcompare, Flow.exec_bind_of_ok hcount, Flow.exec_bind_of_ok hstart]
    exact hcleaned
  · rw [hnoted₄, hnoted₃, hnoted₂, hnoted₁]

/-- A table whose rows cannot be counted is not recorded. -/
theorem runTable_of_not_counted (hc : c.FailsInReads ready) (hs : ready s) {t : Table} (h : ¬ Counted c d s t) :
    ∃ reason s', (runTable c r d m t).exec s = (.error (.dataSource reason), s') ∧
      s'.noted captureName = s.noted captureName := by
  obtain ⟨⟨schema, data⟩, s₁, houtputs, hs₁, hnoted₁⟩ :=
    (behaves_outputs (d := d) hc (t.normalizeFor c.source c.target)).exists_ok hs
  have hcompare := exec_compare houtputs
  obtain ⟨-, hnoted₂, hfails⟩ := hc.count (t.normalizeFor c.source c.target) s₁ hs₁
  rcases hcount : (c.recordCount (t.normalizeFor c.source c.target)).exec s₁ with ⟨e | n, s₂⟩
  · rw [hcount] at hfails hnoted₂
    obtain ⟨reason, rfl⟩ := hfails e rfl
    refine ⟨reason, s₂, ?_, hnoted₂.trans hnoted₁⟩
    unfold runTable
    rw [Flow.exec_bind_of_ok hcompare, Flow.exec_bind_of_error hcount]
  · exact absurd ⟨n, by rw [hcompare, hcount]⟩ h

/-- A table that was dealt with could be counted. -/
private theorem counted_of_runTable {t : Table} {s' : Session} (h : (runTable c r d m t).exec s = (.ok (), s')) :
    Counted c d s t := by
  unfold runTable at h
  obtain ⟨⟨schema, data, time⟩, s₁, hcompare, h⟩ := Flow.exists_of_exec_bind h
  obtain ⟨n, s₂, hcount, -⟩ := Flow.exists_of_exec_bind h
  exact ⟨n, by rw [hcompare, hcount]⟩

/-! ### All tables of a run -/

namespace Records

variable {s' : Session} {tables before after : List Table} {entries : List Entry} {t : Table}

/-- The run goes on with the next tables in the session that the recorded ones left. -/
private theorem exec_forM_append (h : Records c r d m s before entries s') (after : List Table) :
    ((before ++ after).forM (runTable c r d m)).exec s = (after.forM (runTable c r d m)).exec s' := by
  induction h with
  | nil s => rfl
  | cons normalized tells step noted rest ih => exact (Flow.exec_bind_of_ok step).trans ih

private theorem noted_eq (h : Records c r d m s tables entries s') :
    s'.noted captureName = s.noted captureName ++ entries.map Entry.call := by
  induction h with
  | nil s => simp
  | cons normalized tells step noted rest ih => rw [ih, noted, List.append_assoc, List.map_cons, List.singleton_append]

private theorem stays_ready (hw : Serviced ready captureName) (hc : c.FailsInReads ready) (hr : r.Captures ready)
    (hs : ready s) (h : Records c r d m s tables entries s') : ready s' := by
  induction h with
  | nil s => exact hs
  | cons normalized tells step noted rest ih =>
    obtain ⟨e, s₁, -, -, hstep, hs₁, -⟩ := runTable_of_counted (m := m) hw hc hr hs (counted_of_runTable step)
    rw [step] at hstep
    cases hstep
    exact ih hs₁

/-- Where all tables are dealt with, each one could be counted when its turn came. -/
private theorem counted {first : List Entry} {s₁ : Session} (h : Records c r d m s before first s₁)
    (hall : Records c r d m s (before ++ t :: after) entries s') : Counted c d s₁ t := by
  induction h generalizing entries with
  | nil s =>
    obtain _ | ⟨_, _, step, _, _⟩ := hall
    exact counted_of_runTable step
  | cons normalized tells step noted rest ih =>
    obtain _ | ⟨_, _, step', _, rest'⟩ := hall
    rw [step] at step'
    cases step'
    exact ih rest'

end Records

/-- If each table can be counted when its turn comes, all are recorded. -/
private theorem exists_records (hw : Serviced ready captureName) (hc : c.FailsInReads ready) (hr : r.Captures ready)
    (hs : ready s) {tables : List Table}
    (h : ∀ before t after first s₁, tables = before ++ t :: after → Records c r d m s before first s₁ →
      Counted c d s₁ t) :
    ∃ entries s', Records c r d m s tables entries s' := by
  induction tables generalizing s with
  | nil => exact ⟨[], s, .nil s⟩
  | cons t ts ih =>
    obtain ⟨e, s₁, htable, htells, hstep, hs₁, hnoted⟩ :=
      runTable_of_counted (m := m) hw hc hr hs (h [] t ts [] s rfl (.nil s))
    obtain ⟨entries, s', hrest⟩ := ih hs₁ fun before u after first s₂ heq hfirst =>
      h (t :: before) u after (e :: first) s₂ (by rw [heq]; rfl) (.cons htable htells hstep hnoted hfirst)
    exact ⟨e :: entries, s', .cons htable htells hstep hnoted hrest⟩

/-! ### Databases without rows -/

private theorem behaves_memory_columns (tables : List (List String × List Column)) (frames : List (List String × Value))
    (reason : String) (catalog : Option String) (schema table : String) (flag : Bool) :
    Behaves ready captureName Failure.ofSource
      ((DataSource.memory tables frames reason).columns catalog schema table flag) := by
  change Behaves ready captureName Failure.ofSource
    (Flow.ofOutcome (DataSource.memoryColumns tables reason catalog schema table))
  unfold DataSource.memoryColumns
  split
  · exact .pure _
  · exact .throw ⟨_, rfl⟩

private theorem recording_captures : DryRun.recording.Captures Session.Silent := by
  intro e s hs
  refine ⟨_, rfl, ⟨hs.replies, hs.reaction⟩, ?_⟩
  exact List.filter_append s.calls [e.call]

def withoutRows (counts : List (List String × Value)) : Reconciler AggregateRule where
  source := .memory [(["", "s", "kept"], [⟨"id", "int", "id", "id"⟩])] counts
  target := .memory [(["c", "t", "kept"], [⟨"id", "int", "id", "id"⟩])] counts
  database := ⟨"s", "c", "t", none⟩
  reportType := "data"
  dialect := "oracle"
  targetDialect := "databricks"
  metadata := {}
  planner :=
    ⟨fun query _ _ _ _ => pure (match query with | .count => "count" | _ => "rows"), fun _ _ _ _ => pure []⟩
  compare := { schema := fun _ _ _ _ => pure {}, rule := fun _ _ _ _ => pure {} }

def counts : List (List String × Value) :=
  [(["", "s", "count"], DryRun.frame "source"), (["c", "t", "count"], DryRun.frame "target")]

private theorem exec_recordCount_counts (t : Table) (hs : s.Silent) :
    ((withoutRows counts).recordCount t).exec s = (.ok ⟨0, 0⟩, { s with
      calls := s.calls ++ [⟨"source.first", [], [], DryRun.frame "source"⟩] ++
        [⟨"target.first", [], [], DryRun.frame "target"⟩] }) := by
  obtain ⟨hreplies, hreaction⟩ := hs
  have hnone : s.reaction = fun _ => none := funext hreaction
  cases s
  subst hreplies hnone
  rfl

private theorem withoutRows_failsInReads {frames : List (List String × Value)} (h : frames = counts ∨ frames = []) :
    (withoutRows frames).comparison.FailsInReads Session.Silent where
  source := behaves_memory_columns _ _ _
  target := behaves_memory_columns _ _ _
  schema := fun _ _ _ => .pure _
  data := by
    intro t x y
    apply Behaves.of_exec_error
    rcases h with rfl | rfl <;> exact fun s => ⟨_, rfl, _, rfl⟩
  count := by
    intro t
    rcases h with rfl | rfl
    · change Behaves _ _ _ ((withoutRows counts).recordCount t)
      intro s hs
      rw [exec_recordCount_counts t hs]
      refine ⟨⟨hs.replies, hs.reaction⟩, ?_, ?_⟩
      · simp [Session.noted, captureName]
      · intro e he
        cases he
    · exact .of_exec_error fun s => ⟨_, rfl, _, rfl⟩

/-- If the numbers of rows are known, each table can be counted. -/
private theorem counted_withoutRows (d : Database) (hs : s.Silent) (t : Table) :
    Counted (withoutRows counts).comparison d s t := by
  obtain ⟨⟨schema, data⟩, s₁, houtputs, hs₁, -⟩ :=
    (behaves_outputs (d := d) (withoutRows_failsInReads (.inl rfl)) (t.normalizeFor _ _)).exists_ok hs
  refine ⟨⟨0, 0⟩, ?_⟩
  rw [exec_compare houtputs]
  exact congrArg Prod.fst (exec_recordCount_counts _ hs₁)

def Table.alike (name : String) : Table := { sourceName := name, targetName := name }

/-- Let sources fail in any way.  A run records all of its tables, each with the reason for which it could not be read
or compared, and comes to its report, if and only if each table can be counted when its turn comes.  The first one that
cannot be counted ends the run with the failure of its source, and only those before it are recorded. -/
theorem run_reaches_report_iff_counted (hw : Serviced ready captureName) (hc : c.FailsInReads ready)
    (hr : r.Captures ready) (hs : ready s) (isLocal : Bool) (tables : List Table) :
    ((∃ entries s', Records c r d m s tables entries s' ∧
        s'.noted captureName = s.noted captureName ++ entries.map Entry.call ∧
        (run c r d m isLocal tables).exec s = (conclude r m isLocal).exec s') ↔
      ∀ before t after first s₁, tables = before ++ t :: after → Records c r d m s before first s₁ →
        Counted c d s₁ t) ∧
    ∀ before t after first s₁, tables = before ++ t :: after → Records c r d m s before first s₁ →
      ¬ Counted c d s₁ t →
      ∃ reason s', (run c r d m isLocal tables).exec s = (.error (.dataSource reason), s') ∧
        s'.noted captureName = s.noted captureName ++ first.map Entry.call := by
  refine ⟨⟨?_, ?_⟩, ?_⟩
  · rintro ⟨entries, s', hrecords, -, -⟩ before t after first s₁ rfl hfirst
    exact hfirst.counted hrecords
  · intro h
    obtain ⟨entries, s', hrecords⟩ := exists_records hw hc hr hs h
    have hforM : (tables.forM (runTable c r d m)).exec s = (.ok (), s') := by
      simpa using hrecords.exec_forM_append []
    exact ⟨entries, s', hrecords, hrecords.noted_eq, Flow.exec_bind_of_ok hforM⟩
  · rintro before t after first s₁ rfl hfirst h
    obtain ⟨reason, s', hstep, hnoted⟩ :=
      runTable_of_not_counted (r := r) (m := m) hc (hfirst.stays_ready hw hc hr hs) h
    refine ⟨reason, s', ?_, by rw [hnoted, hfirst.noted_eq]⟩
    have hforM : ((before ++ t :: after).forM (runTable c r d m)).exec s = (.error (.dataSource reason), s') := by
      rw [hfirst.exec_forM_append]
      exact Flow.exec_bind_of_error hstep
    exact Flow.exec_bind_of_error hforM

/-- A table without columns and one without rows are recorded with these failures, and the run reaches its report. -/
theorem run_reaches_report_without_rows :
    Serviced Session.Silent captureName ∧ (withoutRows counts).comparison.FailsInReads Session.Silent ∧
    DryRun.recording.Captures Session.Silent ∧ Session.Silent {} ∧
    (((run (withoutRows counts).comparison DryRun.recording (withoutRows counts).database {} false
        [.alike "gone", .alike "kept"]).exec {}).2.noted captureName).map
        (fun call => (call.named.take 2).map (·.2.getD "exception")) =
      [[.null, .text "Runtime exception occurred while fetching schema using (None, s, gone) : Mock Exception"],
        [.text "Runtime exception occurred while fetching data using (None, s, rows) : Mock Exception", .null]] ∧
    ∃ entries s', Records (withoutRows counts).comparison DryRun.recording (withoutRows counts).database {} {}
        [.alike "gone", .alike "kept"] entries s' ∧
      s'.noted captureName = Session.noted captureName {} ++ entries.map Entry.call ∧
      (run (withoutRows counts).comparison DryRun.recording (withoutRows counts).database {} false
        [.alike "gone", .alike "kept"]).exec {} = (conclude DryRun.recording {} false).exec s' := by
  have hw := Flow.silent_serviced captureName
  have hc := withoutRows_failsInReads (.inl rfl)
  have hs : Session.Silent {} := ⟨rfl, fun _ => rfl⟩
  refine ⟨hw, hc, recording_captures, hs, rfl, ?_⟩
  refine (run_reaches_report_iff_counted hw hc recording_captures hs false _).1.mpr ?_
  intro before t after first s₁ _ hfirst
  exact counted_withoutRows _ (hfirst.stays_ready hw hc recording_captures hs) t

/-- The source of a run cannot be counted: the run ends with that failure, and the table is not recorded. -/
theorem run_ends_when_count_fails :
    Serviced Session.Silent captureName ∧ (withoutRows []).comparison.FailsInReads Session.Silent ∧
    DryRun.recording.Captures Session.Silent ∧ Session.Silent {} ∧
    ∃ reason s', (run (withoutRows []).comparison DryRun.recording (withoutRows []).database {} false
      [.alike "kept"]).exec {} = (.error (.dataSource reason), s') ∧ s'.noted captureName = [] :=
  ⟨Flow.silent_serviced _, withoutRows_failsInReads (.inr rfl), recording_captures, ⟨rfl, fun _ => rfl⟩, _, _, rfl, rfl⟩

end WarehouseMigration.Reconcile
