import WarehouseMigration.Deployment.Upgrade
import WarehouseMigration.Proofs.Deployment.ColumnNames
import WarehouseMigration.Proofs.Session.Calls
import WarehouseMigration.Proofs.Text.Removal

/-!
# Asking before a result table is made anew

If a result table lacks columns, an upgrade makes it anew, and the operator is asked first.  The columns that a table
should have are known under whatever name it is kept (`exists_recreation`), so each upgrade completes: what it does that
matters is a sequence of events (`exists_exec_upgradeMainTable`, `exists_exec_upgradeMetricsTable`).  The upgrade of the
main table does nothing if the operator declines; that of the metrics goes on without a statement
(`upgrade_heeds_iff`).
-/

namespace WarehouseMigration.Deployment

open WarehouseMigration.Flow

/-- The result tables that an upgrade alters. -/
inductive ResultTable where
  | main
  | metrics
deriving DecidableEq

namespace ResultTable

def name : ResultTable → String
  | main => "main"
  | metrics => "metrics"

def fullName (t : ResultTable) (place : Reconcile.Metadata) : String :=
  match t with
  | main => s!"{place.catalog}.{place.schema}.main"
  | metrics => s!"{place.catalog}.{place.schema}.metrics"

def upgrade : ResultTable → Reconcile.Settings → Flow Unit
  | main => upgradeMainTable
  | metrics => upgradeMetricsTable

def mismatch : ResultTable → List String → List String → Bool
  | main => mainDiffers
  | metrics => differ

def opening (t : ResultTable) : String := s!"CREATE TABLE IF NOT EXISTS {t.name}"

end ResultTable

/-! ### The definitions of the tables -/

/-- A definition of a table begins in a given way, only once, and its parentheses stay if nested types are dropped, even
if one was opened before. -/
def isTableText (opening cs : List Char) : Bool :=
  let body := cs.drop opening.length
  opening.isPrefixOf cs && body.head? == some ' ' && !Text.occursIn opening body &&
    [true, false].all (fun inside => (closingAngle inside body).isNone) &&
    ['(', ')'].all (dropNestedFrom 0 body).contains

/-- The lines of a text are read one by one. -/
private theorem map_toList_cons {line : String} {cs : List Char} {lines : List String} {css : List (List Char)}
    (h : line.toList = cs) (hs : lines.map String.toList = css) : (line :: lines).map String.toList = cs :: css := by
  rw [List.map_cons, h, hs]

private theorem check_join (check : List Char → Bool) {lines : List String} {css : List (List Char)}
    (h : lines.map String.toList = css) (hcheck : check (['\n'].intercalate css) = true) :
    check (Text.join "\n" lines).toList = true := by
  rwa [Text.join, String.toList_intercalate, h]

variable (t : ResultTable)

private theorem exists_definition :
    ∃ text, tableDefinitions.lookup t.name = some text ∧ isTableText t.opening.toList text.toList = true := by
  cases t
  all_goals
    refine ⟨_, rfl, ?_⟩
    apply check_join (isTableText _)
    · -- each line is the text of its characters
      repeat (apply map_toList_cons; exact String.toList_ofList)
      exact List.map_nil
    · decide +kernel

/-- The beginning of a definition is replaced and nothing else. -/
private theorem exists_replaceChars {opening cs : List Char} (hne : opening ≠ []) (h : isTableText opening cs = true)
    (new : List Char) :
    ∃ rest, Text.replaceChars opening new cs = new ++ ' ' :: rest ∧
      (∀ inside, closingAngle inside (' ' :: rest) = none) ∧ ∀ c ∈ ['(', ')'], c ∈ dropNestedFrom 0 (' ' :: rest) := by
  simp only [isTableText, Bool.and_eq_true, List.isPrefixOf_iff_prefix, beq_iff_eq, Bool.not_eq_true', List.all_eq_true,
    Option.isNone_iff_eq_none, List.contains_iff_mem] at h
  obtain ⟨⟨⟨⟨⟨body, rfl⟩, hhead⟩, honce⟩, hclose⟩, hkept⟩ := h
  rw [List.drop_left] at hhead honce hclose hkept
  obtain ⟨rest, rfl⟩ := List.head?_eq_some_iff.1 hhead
  have hnot : ¬ opening <:+: ' ' :: rest := fun hin => by simp [Text.occursIn_iff.2 hin] at honce
  refine ⟨rest, ?_, fun inside => hclose inside (by cases inside <;> simp), hkept⟩
  rw [Text.replaceChars, if_neg (by simpa using hne), Text.replaceFrom_append_self hne,
      Text.replaceFrom_of_not_infix hnot]

private theorem splitFrom_comma_ne_nil (cs : List Char) : Text.splitFrom [','] 0 [] cs ≠ [] := by
  intro hnil
  have hhead : (Text.splitFrom [','] 0 [] cs).head? = some _ := Text.head?_splitFrom [] cs
  rw [hnil] at hhead
  cases hhead

private theorem exists_columnNames {sql : String} (h : ∀ c ∈ ['(', ')'], c ∈ dropNestedFrom 0 sql.toList) :
    ∃ names, columnNames sql = .ok names ∧ names ≠ [] := by
  have hnames := columnNames_ofList h
  rw [String.ofList_toList] at hnames
  exact ⟨_, hnames, mt List.map_eq_nil_iff.1 (splitFrom_comma_ne_nil _)⟩

private theorem contains_append_self (before part : String) : Text.contains (before ++ part) part = true := by
  rw [Text.contains, Text.occursIn_iff, String.toList_append]
  exact ⟨before.toList, [], by simp⟩

private theorem contains_append {text part : String} (h : Text.contains text part = true) (behind : String) :
    Text.contains (text ++ behind) part = true := by
  rw [Text.contains, Text.occursIn_iff] at h ⊢
  rw [String.toList_append]
  exact h.trans (List.prefix_append _ _).isInfix

/-- A table can be made anew under any name, and its columns are known. -/
theorem exists_recreation (fullName : String) :
    ∃ text current, recreation t.name fullName = .ok text ∧ Text.contains text fullName = true ∧
      currentColumns t.name fullName = .ok current ∧ current ≠ [] := by
  obtain ⟨definition, hlookup, htext⟩ := exists_definition t
  have hne : t.opening.toList ≠ [] := by cases t <;> decide
  obtain ⟨rest, hreplaced, hclose, hkept⟩ :=
    exists_replaceChars hne htext ("CREATE OR REPLACE TABLE " ++ fullName).toList
  obtain ⟨text, hrecreation, htoList⟩ : ∃ text, recreation t.name fullName = .ok text ∧
      text.toList = ("CREATE OR REPLACE TABLE " ++ fullName).toList ++ ' ' :: rest := by
    refine ⟨_, by rw [recreation, hlookup]; rfl, ?_⟩
    rw [Text.replace, String.toList_ofList]
    exact hreplaced
  obtain ⟨front, hfront⟩ := exists_dropNestedFrom_append (by decide) hclose
    (Nat.zero_le ("CREATE OR REPLACE TABLE " ++ fullName).toList.length)
  obtain ⟨current, hcurrent, hne⟩ : ∃ names, columnNames text = .ok names ∧ names ≠ [] := by
    refine exists_columnNames fun c hc => ?_
    rw [htoList, hfront]
    exact List.mem_append_right _ (hkept c hc)
  refine ⟨text, current, hrecreation, ?_, ?_, hne⟩
  · have heq : text = "CREATE OR REPLACE TABLE " ++ fullName ++ String.ofList (' ' :: rest) := by
      rw [← String.toList_inj, htoList]
      simp
    rw [heq]
    exact contains_append (contains_append_self _ fullName) _
  · simp only [currentColumns, hrecreation, bind, Except.bind, hcurrent]

private theorem getLastD_split_fullName (place : Reconcile.Metadata) :
    (Text.split (t.fullName place) ".").getLastD "" = t.name := by
  have hname : '.' ∉ t.name.toList := by cases t <;> decide
  have hfull : (t.fullName place).toList = (place.catalog.toList ++ '.' :: place.schema.toList) ++
      '.' :: t.name.toList := by
    cases t <;> simp [ResultTable.fullName, ResultTable.name, toString]
  have hlast := Text.getLast?_splitFrom_append hname [] (place.catalog.toList ++ '.' :: place.schema.toList)
  have hdot : ".".toList = ['.'] := rfl
  rw [Text.split, hfull, hdot, List.getLastD_eq_getLast?, List.getLast?_map, hlast, Option.map_some, Option.getD_some,
    String.ofList_toList]

/-! ### What an upgrade does -/

/-- What an upgrade does that matters to the operator. -/
inductive UpgradeEvent where
  | asked
  | executed (statement : Value)
  | saved (settings : Value)

def upgradeEvent? (c : Call) : Option UpgradeEvent :=
  match c.name, c.parts with
  | "confirm", _ => some .asked
  | "execute", [statement] => some (.executed statement)
  | "installation.save", [settings] => some (.saved settings)
  | _, _ => none

def describedBy (columns : List String) : Value := .list (columns.map fun c => .object [("col_name", .text c)])

/-- The services that an upgrade needs do what they are asked for. -/
structure Serves (installed : List String) (s : Session) : Prop where
  fetches : s.RepliesWith "fetch" (· = .value (describedBy installed))
  executes : s.RepliesWith "execute" fun reply => ∃ v, reply = .value v
  saves : s.RepliesWith "installation.save" fun reply => ∃ v, reply = .value v

variable {s s' : Session} {installed : List String}

/-- The session of an upgrade has come to another one that serves it as well, with some more events. -/
structure Leads (installed : List String) (s : Session) (events : List UpgradeEvent) (s' : Session) : Prop where
  serves : Serves installed s'
  seen : s'.seen upgradeEvent? = s.seen upgradeEvent? ++ events

private theorem Leads.trans {events more : List UpgradeEvent} {s'' : Session} (h : Leads installed s events s')
    (hmore : Leads installed s' more s'') : Leads installed s (events ++ more) s'' :=
  ⟨hmore.serves, by rw [hmore.seen, h.seen, List.append_assoc]⟩

namespace Serves

/-- Neither the calls so far nor the answers of the operator matter to the services. -/
private theorem withCalls (h : Serves installed s) (calls : List Call) (answers : List Reply) :
    Serves installed { s with calls := calls, answers := answers } :=
  ⟨⟨h.fetches.shared, h.fetches.replies, h.fetches.given⟩, ⟨h.executes.shared, h.executes.replies, h.executes.given⟩,
    ⟨h.saves.shared, h.saves.replies, h.saves.given⟩⟩

private theorem exists_exec_call {name : String} {allowed : Reply → Prop} (h : Serves installed s)
    (hname : s.RepliesWith name allowed) (parts : List Value) :
    ∃ reply s', allowed reply ∧ (call name parts).exec s = (reply.outcome, s') ∧ s'.answers = s.answers ∧
      Leads installed s (upgradeEvent? ⟨name, parts, [], .null⟩).toList s' := by
  obtain ⟨reply, replies, hreply, hcall, hkept⟩ := exists_exec_call_of_repliesWith hname parts []
  have hserves : Serves installed { s with replies := replies } :=
    ⟨hkept _ _ h.fetches, hkept _ _ h.executes, hkept _ _ h.saves⟩
  refine ⟨reply, _, hreply, hcall, rfl, hserves.withCalls _ _, ?_⟩
  rw [Session.seen, List.filterMap_append, Session.seen]
  cases hevent : upgradeEvent? ⟨name, parts, [], .null⟩ <;> simp [hevent]

private theorem exists_exec_execute (h : Serves installed s) (statement : Value) :
    ∃ s', (execute statement).exec s = (.ok (), s') ∧ Leads installed s [.executed statement] s' := by
  obtain ⟨_, s', ⟨v, rfl⟩, hcall, -, hleads⟩ := h.exists_exec_call h.executes [statement]
  exact ⟨s', exec_bind_of_ok hcall, hleads⟩

private theorem exists_exec_save (h : Serves installed s) (settings : Value) :
    ∃ s', (Installation.save settings).exec s = (.ok (), s') ∧ Leads installed s [.saved settings] s' := by
  obtain ⟨_, s', ⟨v, rfl⟩, hcall, -, hleads⟩ := h.exists_exec_call h.saves [settings]
  exact ⟨s', exec_bind_of_ok hcall, hleads⟩

private theorem exists_exec_installedColumns (h : Serves installed s) (fullName : String) :
    ∃ s', (installedColumns fullName).exec s = (.ok installed, s') ∧ s'.answers = s.answers ∧
      Leads installed s [] s' := by
  obtain ⟨_, s', rfl, hcall, hanswers, hleads⟩ := h.exists_exec_call h.fetches [Value.text s!"DESC {fullName}"]
  refine ⟨s', ?_, hanswers, hleads⟩
  have hrows : (Flow.ofOutcome (describedBy installed).asItems).exec s' =
    (.ok (installed.map fun c => .object [("col_name", .text c)]), s') := rfl
  rw [installedColumns]
  refine (exec_bind_of_ok hcall).trans ?_
  rw [exec_bind_of_ok hrows, List.mapM_map]
  refine (exec_mapM (f := id) ?_).trans (by rw [List.map_id])
  exact fun _ _ => rfl

private theorem exists_exec_confirm (h : Serves installed s) {answer : Value} {rest : List Reply}
    (hanswers : s.answers = .value answer :: rest) (prompt : String) :
    ∃ s', (confirm prompt).exec s = (.ok answer.isSet, s') ∧ Leads installed s [.asked] s' :=
  ⟨_, exec_bind_of_ok (exec_ask hanswers "confirm" [Value.text prompt] []), h.withCalls _ _, List.filterMap_append⟩

private theorem exists_exec_executeAll (h : Serves installed s) (statements : List (Option String)) :
    ∃ s', (forIn statements PUnit.unit fun (statement : Option String) _ => do
        execute statement
        pure (.yield PUnit.unit) : Flow PUnit).exec s = (.ok PUnit.unit, s') ∧
      Leads installed s (statements.map fun (statement : Option String) => .executed statement) s' := by
  induction statements generalizing s with
  | nil => exact ⟨s, rfl, h, (List.append_nil _).symm⟩
  | cons statement statements ih =>
    obtain ⟨s₁, hexec, hleads⟩ := h.exists_exec_execute statement
    obtain ⟨s₂, hrest, hmore⟩ := ih hleads.serves
    refine ⟨s₂, ?_, hleads.trans hmore⟩
    have hstep : (do execute statement; pure (.yield PUnit.unit) : Flow (ForInStep PUnit)).exec s =
      (.ok (.yield PUnit.unit), s₁) := exec_bind_of_ok hexec
    rw [List.forIn_cons, exec_bind_of_ok hstep]
    exact hrest

end Serves

/-! ### Asking for a statement -/

/-- The statements that come of asking: none is there if the operator is asked and declines, else all name the table. -/
def Settles (fullName : String) (asked agreed : Bool) (statements : List (Option String)) : Prop :=
  if asked && !agreed then statements = [none]
  else ∃ texts, texts ≠ [] ∧ statements = texts.map some ∧ ∀ text ∈ texts, Text.contains text fullName = true

def questions (asked : Bool) : List UpgradeEvent := if asked then [.asked] else []

def ResultTable.asks (t : ResultTable) (installed current : List String) : Bool :=
  t.mismatch installed current && !current.all installed.contains

variable {fullName : String} {current : List String}

private theorem settles_map {asked agreed : Bool} (h : (asked && !agreed) = false) {texts : List String}
    (hne : texts ≠ [])
    (htexts : ∀ text ∈ texts, Text.contains text fullName = true) : Settles fullName asked agreed (texts.map some) := by
  rw [Settles, if_neg (by simp [h])]
  exact ⟨texts, hne, rfl, htexts⟩

private theorem settles_some {asked agreed : Bool} (h : (asked && !agreed) = false) {text : String}
    (htext : Text.contains text fullName = true) : Settles fullName asked agreed [some text] :=
  settles_map h (List.cons_ne_nil text []) (by simpa using htext)

/-- The operator is asked about a table that lacks columns. -/
private theorem exists_exec_recreate (hname : (Text.split fullName ".").getLastD "" = t.name)
    (h : Serves installed s) (answer : Value)
    (hanswer : (!current.all installed.contains) = true → s.answers.head? = some (.value answer)) :
    ∃ statement s', (recreate fullName installed current).exec s = (.ok statement, s') ∧
      Leads installed s (questions (!current.all installed.contains)) s' ∧
      Settles fullName (!current.all installed.contains) answer.isSet [statement] := by
  cases hall : current.all installed.contains with
  | true =>
    rw [recreate, if_pos hall]
    exact ⟨_, s, rfl, ⟨h, (List.append_nil _).symm⟩, settles_some rfl (contains_append_self _ _)⟩
  | false =>
    obtain ⟨text, -, hrecreation, htext, -, -⟩ := exists_recreation t fullName
    obtain ⟨rest, hanswers⟩ := List.head?_eq_some_iff.1 (hanswer (by rw [hall]; rfl))
    obtain ⟨s₁, hconfirm, hleads⟩ := h.exists_exec_confirm hanswers
      (s!"The \x60{fullName}\x60 table columns are not as expected. " ++
        s!"Do you want to recreate the \x60{fullName}\x60 table?")
    rw [recreate, if_neg (by simp [hall]), exec_bind_of_ok hconfirm]
    cases answer.isSet with
    | true =>
      have hmade : (ofOutcome (recreation ((Text.split fullName ".").getLastD "") fullName)).exec s₁ =
          (.ok text, s₁) := by
        rw [hname, hrecreation, exec_ofOutcome]
      exact ⟨some text, s₁, exec_bind_of_ok hmade, hleads, settles_some rfl htext⟩
    | false => exact ⟨none, s₁, rfl, hleads, rfl⟩

/-- The columns are looked at.  If they differ, the table is made anew, which the operator may be asked about. -/
private theorem exists_exec_columns (hname : (Text.split fullName ".").getLastD "" = t.name)
    (h : Serves installed s) (hcurrent : currentColumns t.name fullName = .ok current) (answer : Value)
    (hanswer : t.asks installed current = true → s.answers.head? = some (.value answer)) :
    ∃ s₁, (installedColumns fullName).exec s = (.ok installed, s₁) ∧
      (ofOutcome (currentColumns t.name fullName)).exec s₁ = (.ok current, s₁) ∧
      (t.mismatch installed current = true → ∃ statement s', (recreate fullName installed current).exec s₁ =
        (.ok statement, s') ∧ Leads installed s (questions (t.asks installed current)) s' ∧
        Settles fullName (t.asks installed current) answer.isSet [statement]) ∧
      (t.mismatch installed current = false →
        t.asks installed current = false ∧ Leads installed s (questions (t.asks installed current)) s₁) := by
  obtain ⟨s₁, hinstalled, hanswers, hleads⟩ := h.exists_exec_installedColumns fullName
  refine ⟨s₁, hinstalled, by rw [hcurrent, exec_ofOutcome], fun hdiffers => ?_, fun hsame => ?_⟩
  · rw [ResultTable.asks, hdiffers, Bool.true_and, ← hanswers] at hanswer
    obtain ⟨statement, s₂, hexec, hmore, hsettles⟩ := exists_exec_recreate t hname hleads.serves answer hanswer
    rw [ResultTable.asks, hdiffers, Bool.true_and]
    exact ⟨statement, s₂, hexec, hleads.trans hmore, hsettles⟩
  · rw [ResultTable.asks, hsame, Bool.false_and]
    exact ⟨rfl, hleads⟩

private theorem exists_exec_mainUpgrade (hname : (Text.split fullName ".").getLastD "" = "main")
    (h : Serves installed s) (hcurrent : currentColumns "main" fullName = .ok current) (answer : Value)
    (hanswer : ResultTable.main.asks installed current = true → s.answers.head? = some (.value answer)) :
    ∃ statement s', (mainUpgrade fullName).exec s = (.ok statement, s') ∧
      Leads installed s (questions (ResultTable.main.asks installed current)) s' ∧
      Settles fullName (ResultTable.main.asks installed current) answer.isSet [statement] := by
  obtain ⟨s₁, hinstalled, hread, hrecreate, hkeep⟩ := exists_exec_columns .main hname h hcurrent answer hanswer
  change (ofOutcome (currentColumns "main" fullName)).exec s₁ = _ at hread
  rw [mainUpgrade, exec_bind_of_ok hinstalled, exec_bind_of_ok hread]
  cases hdiffers : mainDiffers installed current with
  | true => exact hrecreate hdiffers
  | false =>
    obtain ⟨hasks, hleads⟩ := hkeep hdiffers
    refine ⟨_, s₁, rfl, hleads, ?_⟩
    rw [hasks]
    exact settles_some rfl (contains_append (contains_append_self _ _) _)

private theorem contains_widenings (fullName : String) :
    ∀ text ∈ widenings fullName, Text.contains text fullName = true := by
  have hname := contains_append_self "ALTER TABLE " fullName
  rw [widenings, List.forall_mem_cons, List.forall_mem_map]
  refine ⟨contains_append hname _, fun path _ => ?_⟩
  exact contains_append (contains_append (contains_append hname _) _) _

private theorem exists_exec_metricsUpgrade (hname : (Text.split fullName ".").getLastD "" = "metrics")
    (h : Serves installed s) (hcurrent : currentColumns "metrics" fullName = .ok current) (answer : Value)
    (hanswer : ResultTable.metrics.asks installed current = true → s.answers.head? = some (.value answer)) :
    ∃ statements s', (metricsUpgrade fullName).exec s = (.ok statements, s') ∧
      Leads installed s (questions (ResultTable.metrics.asks installed current)) s' ∧
      Settles fullName (ResultTable.metrics.asks installed current) answer.isSet statements := by
  obtain ⟨s₁, hinstalled, hread, hrecreate, hkeep⟩ := exists_exec_columns .metrics hname h hcurrent answer hanswer
  change (ofOutcome (currentColumns "metrics" fullName)).exec s₁ = _ at hread
  rw [metricsUpgrade, exec_bind_of_ok hinstalled, exec_bind_of_ok hread]
  cases hdiffers : differ installed current with
  | true =>
    obtain ⟨statement, s₂, hexec, hleads, hsettles⟩ := hrecreate hdiffers
    exact ⟨[statement], s₂, exec_bind_of_ok hexec, hleads, hsettles⟩
  | false =>
    obtain ⟨hasks, hleads⟩ := hkeep hdiffers
    refine ⟨_, s₁, rfl, hleads, ?_⟩
    rw [hasks]
    exact settles_map rfl (List.cons_ne_nil _ _) (contains_widenings fullName)

/-! ### Heeding the answer -/

/-- An upgrade heeds the operator: if they were asked and declined, that is all; otherwise statements that name the
table are executed, and behind them the settings are saved once. -/
structure Heeds (fullName : String) (settings : Value) (agreed : Bool) (events : List UpgradeEvent) : Prop where
  declined : .asked ∈ events → agreed = false → ∀ e ∈ events, e = .asked
  otherwise : ¬ (.asked ∈ events ∧ agreed = false) → ∃ before texts, texts ≠ [] ∧
    events = before ++ texts.map (fun text => .executed (.text text)) ++ [.saved settings] ∧
    (∀ e ∈ before, e = .asked) ∧ ∀ text ∈ texts, Text.contains text fullName = true

def done (asked : Bool) (settings : Value) (statements : List (Option String)) : List UpgradeEvent :=
  questions asked ++ (statements.map (fun (statement : Option String) => .executed statement) ++ [.saved settings])

variable {settings : Reconcile.Settings} {asked agreed : Bool}

private theorem asked_mem_questions : .asked ∈ questions asked ↔ asked = true := by
  cases asked <;> simp [questions]

private theorem asked_mem_done {settings : Value} {statements : List (Option String)} :
    .asked ∈ done asked settings statements ↔ asked = true := by
  simp [done, asked_mem_questions]

private theorem heeds_questions {settings : Value} : Heeds fullName settings false (questions true) where
  declined := fun _ _ _ he => List.mem_singleton.1 he
  otherwise := fun h => absurd ⟨List.mem_singleton.2 rfl, rfl⟩ h

private theorem heeds_done {settings : Value} {statements : List (Option String)} (hagreed : (asked && !agreed) = false)
    (h : Settles fullName asked agreed statements) :
    Heeds fullName settings agreed (done asked settings statements) := by
  rw [Settles, if_neg (by simp [hagreed])] at h
  obtain ⟨texts, hne, rfl, htexts⟩ := h
  refine ⟨fun hasked hdeclined => ?_, fun _ => ⟨questions asked, texts, hne, ?_, ?_, htexts⟩⟩
  · rw [asked_mem_done.1 hasked, hdeclined] at hagreed
    cases hagreed
  · rw [done, List.map_map, List.append_assoc]
    rfl
  · cases asked <;> simp [questions]

private theorem not_heeds_done {settings : Value} {statements : List (Option String)} :
    ¬ Heeds fullName settings false (done true settings statements) := by
  intro h
  have hsaved := h.declined (asked_mem_done.2 rfl) rfl (.saved settings) (by simp [done])
  cases hsaved

section Upgrade

variable {place : Reconcile.Metadata} (hplace : settings.results = .ok place) (h : Serves installed s) {answer : Value}

include hplace h

/-- The main table is left alone if the operator declines. -/
theorem exists_exec_upgradeMainTable (hcurrent : currentColumns "main" (ResultTable.main.fullName place) = .ok current)
    (hanswer : ResultTable.main.asks installed current = true → s.answers.head? = some (.value answer)) :
    ∃ s' events, (upgradeMainTable settings).exec s = (.ok (), s') ∧ Leads installed s events s' ∧
      (.asked ∈ events ↔ ResultTable.main.asks installed current = true) ∧
      Heeds (ResultTable.main.fullName place) settings answer.isSet events := by
  obtain ⟨statement, s₁, hexec, hleads, hsettles⟩ :=
    exists_exec_mainUpgrade (getLastD_split_fullName .main place) h hcurrent answer hanswer
  have hresults : (ofOutcome settings.results).exec s = (.ok place, s) := by rw [hplace, exec_ofOutcome]
  rw [upgradeMainTable, exec_bind_of_ok hresults]
  rw [ResultTable.fullName] at hexec
  rw [exec_bind_of_ok hexec]
  cases hdeclined : ResultTable.main.asks installed current && !answer.isSet with
  | true =>
    rw [Settles, if_pos hdeclined] at hsettles
    obtain rfl : statement = none := by simpa using hsettles
    obtain ⟨hasks, hset⟩ : ResultTable.main.asks installed current = true ∧ answer.isSet = false := by
      simpa using hdeclined
    rw [hset]
    rw [hasks] at hleads ⊢
    exact ⟨s₁, _, rfl, hleads, asked_mem_questions, heeds_questions⟩
  | false =>
    have htexts := hsettles
    rw [Settles, if_neg (by simp [hdeclined])] at htexts
    obtain ⟨texts, -, heq, -⟩ := htexts
    obtain ⟨text, -, rfl⟩ : ∃ text ∈ texts, some text = statement := List.mem_map.1 (by simp [← heq])
    obtain ⟨s₂, hexecute, hexecuted⟩ := hleads.serves.exists_exec_execute (.text text)
    obtain ⟨s₃, hsave, hsaved⟩ := hexecuted.serves.exists_exec_save settings
    exact ⟨s₃, done _ settings [some text], (exec_bind_of_ok hexecute).trans hsave,
      hleads.trans (hexecuted.trans hsaved), asked_mem_done, heeds_done hdeclined hsettles⟩

/-- The upgrade comes to its end and settles the table as the answer says. -/
theorem exists_exec_upgradeMetricsTable
    (hcurrent : currentColumns "metrics" (ResultTable.metrics.fullName place) = .ok current)
    (hanswer : ResultTable.metrics.asks installed current = true → s.answers.head? = some (.value answer)) :
    ∃ s' statements, (upgradeMetricsTable settings).exec s = (.ok (), s') ∧
      Leads installed s (done (ResultTable.metrics.asks installed current) settings statements) s' ∧
      Settles (ResultTable.metrics.fullName place) (ResultTable.metrics.asks installed current) answer.isSet
        statements := by
  obtain ⟨statements, s₁, hexec, hleads, hsettles⟩ :=
    exists_exec_metricsUpgrade (getLastD_split_fullName .metrics place) h hcurrent answer hanswer
  have hresults : (ofOutcome settings.results).exec s = (.ok place, s) := by rw [hplace, exec_ofOutcome]
  obtain ⟨s₂, hall, hexecuted⟩ := hleads.serves.exists_exec_executeAll statements
  obtain ⟨s₃, hsave, hsaved⟩ := hexecuted.serves.exists_exec_save settings
  refine ⟨s₃, statements, ?_, hleads.trans (hexecuted.trans hsaved), hsettles⟩
  rw [upgradeMetricsTable, exec_bind_of_ok hresults]
  exact (exec_bind_of_ok hexec).trans ((exec_bind_of_ok hall).trans hsave)

end Upgrade

/-- The operator is asked: the table differs from what it should be, and it lacks a column. -/
def ResultTable.Asks (t : ResultTable) (fullName : String) (installed : List String) : Prop :=
  ∃ current, currentColumns t.name fullName = .ok current ∧ t.mismatch installed current = true ∧
    ∃ column ∈ current, column ∉ installed

private theorem ResultTable.asks_iff {t : ResultTable} (h : currentColumns t.name fullName = .ok current) :
    t.Asks fullName installed ↔ t.asks installed current = true := by
  simp [Asks, asks, h]

/-- An upgrade completes and heeds the operator, with one exception: if the table of metrics lacks columns and they
decline, the backend is sent a statement that is no text, and the settings are saved. -/
theorem upgrade_heeds_iff (t : ResultTable) {place : Reconcile.Metadata} (hplace : settings.results = .ok place)
    (h : Serves installed s) {answer : Value}
    (hanswer : t.Asks (t.fullName place) installed → s.answers.head? = some (.value answer)) :
    ∃ s' events, (t.upgrade settings).exec s = (.ok (), s') ∧
      s'.seen upgradeEvent? = s.seen upgradeEvent? ++ events ∧
      (.asked ∈ events ↔ t.Asks (t.fullName place) installed) ∧
      (Heeds (t.fullName place) settings answer.isSet events ↔
        ¬ (t = .metrics ∧ t.Asks (t.fullName place) installed ∧ answer.isSet = false)) ∧
      (t = .metrics → t.Asks (t.fullName place) installed → answer.isSet = false →
        events = [.asked, .executed .null, .saved settings]) := by
  obtain ⟨-, current, -, -, hcurrent, -⟩ := exists_recreation t (t.fullName place)
  rw [ResultTable.asks_iff hcurrent] at hanswer ⊢
  cases t with
  | main =>
    obtain ⟨s', events, hexec, hleads, hasked, hheeds⟩ := exists_exec_upgradeMainTable hplace h hcurrent hanswer
    refine ⟨s', events, hexec, hleads.seen, hasked, ⟨fun _ hnot => ?_, fun _ => hheeds⟩, fun hnot => ?_⟩
    · cases hnot.1
    · cases hnot
  | metrics =>
    obtain ⟨s', statements, hexec, hleads, hsettles⟩ := exists_exec_upgradeMetricsTable hplace h hcurrent hanswer
    refine ⟨s', _, hexec, hleads.seen, asked_mem_done, ⟨?_, fun hagreed => heeds_done ?_ hsettles⟩, ?_⟩
    · rintro hheeds ⟨-, hasks, hdeclined⟩
      rw [hasks, hdeclined] at hheeds
      exact not_heeds_done hheeds
    · simpa using hagreed
    · intro _ hasks hdeclined
      rw [Settles, if_pos (by simp [hasks, hdeclined])] at hsettles
      rw [hasks, hsettles]
      rfl

def bareTable : Session where
  answers := [.value (.bool false)]
  reaction := fun call => if call.name = "fetch" then some (.value (describedBy ["recon_table_id"])) else none

def standardSettings : Reconcile.Settings where
  dataSource := "snowflake"
  reportType := "all"
  secretScope := "remorph_snowflake"
  database := none
  metadata := some {}

private theorem serves_bareTable : Serves ["recon_table_id"] bareTable := by
  have hscripts : ∀ {name : String} {allowed : Reply → Prop},
      (∀ call, call.name = name → allowed (bareTable.given call)) → bareTable.RepliesWith name allowed :=
    fun hgiven => ⟨rfl, fun _ hreplies => absurd hreplies (by simp [bareTable]), hgiven⟩
  refine ⟨hscripts fun call hname => ?_, hscripts fun call hname => ?_, hscripts fun call hname => ?_⟩
  · simp [Session.given, bareTable, hname]
  · exact ⟨.null, by simp [Session.given, bareTable, hname]⟩
  · exact ⟨.null, by simp [Session.given, bareTable, hname]⟩

/-- The definition of a table, made anew under another name and without the nested types. -/
def outlineAs (table fullName : String) (cs : List Char) : List Char :=
  dropNestedFrom 0 (Text.replaceChars s!"CREATE TABLE IF NOT EXISTS {table}".toList
    s!"CREATE OR REPLACE TABLE {fullName}".toList cs)

def metricsColumns : List String := ["recon_table_id", "recon_metrics", "run_metrics", "inserted_ts"]

def isMetricsText (cs : List Char) : Bool :=
  let outline := outlineAs "metrics" "remorph.reconcile.metrics" cs
  ['(', ')'].all outline.contains &&
    (Text.splitFrom [','] 0 [] (inParentheses outline)).map firstWord == metricsColumns

private theorem exists_metricsText :
    ∃ text, tableDefinitions.lookup "metrics" = some text ∧ isMetricsText text.toList = true := by
  refine ⟨_, rfl, ?_⟩
  apply check_join isMetricsText
  · repeat (apply map_toList_cons; exact String.toList_ofList)
    exact List.map_nil
  · decide +kernel

private theorem currentColumns_metrics : currentColumns "metrics" "remorph.reconcile.metrics" = .ok metricsColumns := by
  obtain ⟨text, hlookup, hcheck⟩ := exists_metricsText
  simp only [isMetricsText, Bool.and_eq_true, List.all_eq_true, List.contains_iff_mem, beq_iff_eq] at hcheck
  obtain ⟨hfound, hnames⟩ := hcheck
  rw [outlineAs] at hfound hnames
  rw [currentColumns, recreation, hlookup]
  dsimp only
  rw [pure_bind, Text.replace, columnNames_ofList hfound, hnames]

private theorem asks_bareTable : ResultTable.metrics.asks ["recon_table_id"] metricsColumns = true := by decide

theorem upgrade_heeds_iff_bareTable :
    standardSettings.results = .ok {} ∧ Serves ["recon_table_id"] bareTable ∧ bareTable.answers.head? =
        some (.value (.bool false)) ∧
    ∃ s', (ResultTable.metrics.upgrade standardSettings).exec bareTable = (.ok (), s') ∧
      s'.seen upgradeEvent? = [.asked, .executed .null, .saved standardSettings] := by
  have hplace : standardSettings.results = .ok {} := rfl
  have hanswer : bareTable.answers.head? = some (.value (.bool false)) := rfl
  obtain ⟨s', events, hexec, hseen, -, -, hevents⟩ :=
    upgrade_heeds_iff .metrics hplace serves_bareTable fun _ => hanswer
  refine ⟨hplace, serves_bareTable, hanswer, s', hexec, ?_⟩
  have hasked := (ResultTable.asks_iff (t := .metrics) currentColumns_metrics).2 asks_bareTable
  rw [hseen, hevents rfl hasked rfl]
  rfl

/-- The operator declines, and all the same the backend is sent something and the settings are saved. -/
theorem not_heeds_bareTable :
    ∃ s' events, (upgradeMetricsTable standardSettings).exec bareTable = (.ok (), s') ∧
      s'.seen upgradeEvent? = events ∧ ¬ Heeds (ResultTable.metrics.fullName {}) standardSettings false events := by
  have hplace : standardSettings.results = .ok {} := rfl
  have hanswer : bareTable.answers.head? = some (.value (.bool false)) := rfl
  obtain ⟨s', statements, hexec, hleads, -⟩ :=
    exists_exec_upgradeMetricsTable hplace serves_bareTable currentColumns_metrics fun _ => hanswer
  rw [asks_bareTable] at hleads
  exact ⟨s', _, hexec, hleads.seen, not_heeds_done⟩

end WarehouseMigration.Deployment
