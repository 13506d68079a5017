import WarehouseMigration.Proofs.Session.Effects
import WarehouseMigration.Reconcile.Run

/-!
# What is recorded about aggregates

The results on the aggregates of a table are recorded in four steps: the comparison, the rules, the numbers and the
rows that did not agree.  The rules and the rows are recorded for the results that have a rule, if there are any.  The
numbers are not: they need at least one result, and a rule for each.  So recording fails for no results and for a
result without a rule, and it does so after the comparison was recorded (`storeAggregates_completes_iff`).
-/

namespace WarehouseMigration.Reconcile

open WarehouseMigration.Flow (Ends Finishes Keeps)
open Spark (applied queried united)

namespace Capture

/-- A capture that packs rows and writes tables in the ordinary way. -/
structure Standard (c : Capture) : Prop where
  pack : c.pack = mapColumn
  write : c.write = writeTable

/-! ### What is asked for -/

def tableNumber (c : Capture) (s : Session) (t : Table) : Value := s.digest (c.tableKey t)

def mainQuery (c : Capture) (s : Session) (t : Table) (time : Duration) : String :=
  c.mainStatement (c.tableNumber s t).shown t time "aggregates-reconcile"

def ruleNumber (s : Session) (id : Value) (rule : AggregateRule) : Value := s.digest (id.shown ++ "_" ++ rule.key)

def ruleQuery (s : Session) (id : Value) (rule : AggregateRule) : String := rule.query (ruleNumber s id rule).shown

def ruleFrame (s : Session) (id : Value) (rule : AggregateRule) : Value :=
  applied (applied (queried (ruleQuery s id rule)) "withColumn" ["inserted_ts", Spark.constant (s.clock "")]) "select"
    ["rule_id", "rule_type", "rule_info", "inserted_ts"]

def numbersQuery (c : Capture) (s : Session) (id : Value) (entry : AggregateRule × DataOutput) : String :=
  c.aggregateStatement id.shown (ruleNumber s id entry.1).shown entry.2 (s.clock "")

def appender (frame : Value) : Value := applied (Spark.member frame "write") "mode" ["append"]

def mainSave (c : Capture) (s : Session) (t : Table) (time : Duration) : String × Value :=
  (c.place ++ "." ++ mainTable, appender (queried (c.mainQuery s t time)))

/-- The save of the rules: all in one frame, if there are any. -/
def ruleSaves (c : Capture) (s : Session) (id : Value) : List AggregateRule → List (String × Value)
  | [] => []
  | rule :: rest =>
    [(c.place ++ "." ++ aggregateRulesTable, appender (united (ruleFrame s id rule) (rest.map (ruleFrame s id))))]

/-- The save of the numbers: all in one frame. -/
def numbersSave (c : Capture) (s : Session) (id : Value) (entry : AggregateRule × DataOutput)
    (rest : List (AggregateRule × DataOutput)) : String × Value :=
  (c.place ++ "." ++ aggregateMetricsTable,
    appender (united (queried (c.numbersQuery s id entry)) (rest.map fun e => queried (c.numbersQuery s id e))))

variable {s₀ : Session} {c : Capture}

/-! ### The steps -/

/-- Writing a table saves it and sends no query. -/
theorem ends_writeTable (frame : Value) (table : String) :
    Ends s₀ (writeTable frame table) (.ok ()) [] [(table, appender frame)] := by
  have hmode : Ends s₀ (Spark.make (Spark.member frame "write") "mode" ["append"]) (.ok (appender frame)) [] [] :=
    Spark.ends_make _ _ _ (by decide)
  have hwrite : Ends s₀ (Spark.make (Spark.member frame "write") "mode" ["append"] >>= fun writer =>
      Spark.act writer "saveAsTable" [table] >>= fun _ => pure ()) (.ok ()) [] [(table, appender frame)] :=
    hmode.after (Spark.ends_saveAsTable _ _)
  exact hwrite.attempt.before (.pure ())

private theorem ends_recordMain (hc : c.Standard) (t : Table) (time : Duration) :
    Ends s₀ (c.recordMain (c.tableNumber s₀ t) t time "aggregates-reconcile") (.ok ()) [c.mainQuery s₀ t time]
      [c.mainSave s₀ t time] := by
  rw [recordMain, hc.write]
  exact (Spark.ends_sql _).bind (ends_writeTable _ _)

private theorem ends_recordRules (hc : c.Standard) (id : Value) (outputs : List AggregateOutput) :
    Ends s₀ (c.recordRules id outputs) (.ok ()) ((outputs.filterMap AggregateOutput.rule).map (ruleQuery s₀ id))
      (c.ruleSaves s₀ id (outputs.filterMap AggregateOutput.rule)) := by
  rw [recordRules, hc.write]
  generalize outputs.filterMap AggregateOutput.rule = rules
  refine Ends.ask_save (a := rules.map (ruleFrame s₀ id)) (Ends.mapM rules ?_) ?_
  · intro rule _
    refine (Flow.ends_digest _).after (Ends.before (Spark.ends_sql _) ?_)
    refine (Flow.ends_now _).after ?_
    refine (Spark.ends_make _ _ _ (by decide)).after ?_
    exact Spark.ends_make _ _ _ (by decide)
  · cases rules with
    | nil => exact .pure ()
    | cons rule rest => exact (Spark.ends_union _ _).after (ends_writeTable _ _)

def outputOf (entry : AggregateRule × DataOutput) : AggregateOutput := ⟨some entry.1, entry.2⟩

private theorem exists_entries {outputs : List AggregateOutput} (h : ∀ output ∈ outputs, output.rule ≠ none) :
    ∃ entries : List (AggregateRule × DataOutput), outputs = entries.map outputOf := by
  induction outputs with
  | nil => exact ⟨[], rfl⟩
  | cons output outputs ih =>
    obtain ⟨houtput, hrest⟩ := List.forall_mem_cons.1 h
    obtain ⟨entries, rfl⟩ := ih hrest
    obtain ⟨rule, hrule⟩ := Option.ne_none_iff_exists.1 houtput
    refine ⟨(rule, output.output) :: entries, ?_⟩
    rw [List.map_cons, outputOf, hrule]

private theorem ends_recordAggregateMetrics (hc : c.Standard) (id : Value) (entry : AggregateRule × DataOutput)
    (rest : List (AggregateRule × DataOutput)) :
    Ends s₀ (c.recordAggregateMetrics id ((entry :: rest).map outputOf)) (.ok ())
      ((entry :: rest).map (c.numbersQuery s₀ id)) [c.numbersSave s₀ id entry rest] := by
  rw [recordAggregateMetrics, hc.write, List.mapM_map]
  refine Ends.ask_save (a := (entry :: rest).map fun e => queried (c.numbersQuery s₀ id e)) (Ends.mapM _ ?_) ?_
  · intro e _
    refine (Flow.ends_digest _).after ?_
    refine (Flow.ends_now _).after ?_
    exact Spark.ends_sql _
  · exact (Spark.ends_union _ _).after (ends_writeTable _ _)

private theorem ends_recordAggregateMetrics_nil (id : Value) :
    Ends s₀ (c.recordAggregateMetrics id []) (.error (.wrongKind "nothing to combine")) [] [] :=
  (Ends.pure []).after (Ends.bind_error (.throw _))

def noRule : Failure := .broken "Aggregate Rule must be present for storing the metrics"

/-- A result without a rule ends the recording of the numbers before anything is saved. -/
private theorem ends_recordAggregateMetrics_of_noRule (id : Value) {outputs : List AggregateOutput}
    (h : ∃ o ∈ outputs, o.rule = none) :
    ∃ queries, Ends s₀ (c.recordAggregateMetrics id outputs) (.error noRule) queries [] := by
  rw [recordAggregateMetrics]
  -- the frames are asked for one after the other, and none is saved before all are there
  refine Exists.imp (fun _ => Ends.bind_error) (Ends.mapM_error ?_ ?_)
  · intro o _
    rcases o.rule with - | rule
    · exact .inr (.throw _)
    · refine .inl ⟨queried (c.numbersQuery s₀ id (rule, o.output)), [c.numbersQuery s₀ id (rule, o.output)], ?_⟩
      refine (Flow.ends_digest _).after ?_
      exact (Flow.ends_now _).after (Spark.ends_sql _)
  · obtain ⟨o, hmem, hrule⟩ := h
    refine ⟨o, hmem, ?_⟩
    rw [hrule]
    exact .throw _

/-! ### The rows that did not agree -/

variable {table : String}

private theorem keeps_mapColumn (id frame : Value) (kind : String) (status : Value) :
    Keeps s₀ table (mapColumn id frame kind status) := by
  refine Keeps.bind (.of_exec fun s => ⟨s.columns (Spark.pathOf frame), rfl⟩) fun _ => ?_
  refine (Spark.keeps_make _ _ _ (by decide)).bind fun _ => ?_
  refine (Spark.keeps_make _ _ _ (by decide)).bind fun _ => ?_
  refine (Spark.keeps_make _ _ _ (by decide)).bind fun _ => ?_
  refine (Spark.keeps_make _ _ _ (by decide)).bind fun _ => ?_
  refine Keeps.bind (.of_exec fun s => ⟨s.clock "", rfl⟩) fun _ => ?_
  refine (Spark.keeps_make _ _ _ (by decide)).bind fun _ => ?_
  refine (Spark.keeps_make _ _ _ (by decide)).bind fun _ => ?_
  refine (Spark.keeps_make _ _ _ (by decide)).bind fun _ => ?_
  exact Spark.keeps_make _ _ _ (by decide)

private theorem keeps_packed (hc : c.Standard) (id : Value) (count : Int) (frame : Option Value) (kind : String) :
    Keeps s₀ table (c.packed id count frame kind) := by
  cases frame with
  | none => exact .pure []
  | some frame =>
    rw [packed, hc.pack]
    split
    · refine (keeps_mapColumn id frame kind false).bind fun rows => ?_
      refine (Spark.keeps_act _ _ _ (by decide)).bind fun answer => ?_
      split <;> exact .pure _
    · exact .pure []

/-- Whatever did not agree is recorded in one table, with or without rules. -/
private theorem keeps_recordAggregateDetails (hc : c.Standard) (id : Value) (outputs : List AggregateOutput) :
    Keeps s₀ (c.place ++ "." ++ aggregateDetailsTable) (c.recordAggregateDetails id outputs) := by
  rw [recordAggregateDetails, hc.write]
  refine (Keeps.mapM (fun o => ?_) outputs).bind fun frames => ?_
  · refine (keeps_packed hc _ _ _ _).bind fun differing => ?_
    refine (keeps_packed hc _ _ _ _).bind fun inSource => (keeps_packed hc _ _ _ _).bind fun inTarget => ?_
    split
    · exact .pure []
    · next hne =>
      refine (Spark.keeps_union hne).bind fun all => ?_
      split
      · exact .pure []
      · refine Keeps.bind (.of_exec fun s => ⟨_, rfl⟩) fun _ => ?_
        refine (Spark.keeps_make _ _ _ (by decide)).bind fun _ => ?_
        exact (Spark.keeps_make _ _ _ (by decide)).bind fun _ => .pure _
  · rcases hframes : frames.flatten.isEmpty with - | -
    · have hne : frames.flatten ≠ [] := by
        rw [← List.isEmpty_eq_false_iff]
        exact hframes
      exact (Spark.keeps_union hne).bind fun all => (ends_writeTable all _).keeps (List.forall_mem_singleton.2 rfl)
    · exact .pure ()

/-! ### All steps -/

/-- Results that all have rules are recorded: first the comparison, then all rules, then all numbers, each in order. -/
private theorem finishes_storeAggregates (s₀ : Session) (hc : c.Standard) (t : Table) (time : Duration)
    (entry : AggregateRule × DataOutput) (rest : List (AggregateRule × DataOutput)) :
    Finishes s₀ (c.place ++ "." ++ aggregateDetailsTable) (c.storeAggregates t time ((entry :: rest).map outputOf))
      ([c.mainQuery s₀ t time] ++ (((entry :: rest).map Prod.fst).map (ruleQuery s₀ (c.tableNumber s₀ t)) ++
        (entry :: rest).map (c.numbersQuery s₀ (c.tableNumber s₀ t))))
      ([c.mainSave s₀ t time] ++ (c.ruleSaves s₀ (c.tableNumber s₀ t) ((entry :: rest).map Prod.fst) ++
        [c.numbersSave s₀ (c.tableNumber s₀ t) entry rest])) := by
  have hrules : ((entry :: rest).map outputOf).filterMap AggregateOutput.rule = (entry :: rest).map Prod.fst := by
    rw [List.filterMap_map, ← List.filterMap_eq_map]
    rfl
  -- the last step asks nothing and saves to one table only, so it stands for two empty lists
  rw [← hrules, ← List.append_nil (List.map (c.numbersQuery _ _) _), ← List.append_nil [c.numbersSave _ _ _ _]]
  refine (Flow.ends_digest _).finishes ((ends_recordMain hc t time).finishes ?_)
  refine (ends_recordRules hc _ _).finishes ((ends_recordAggregateMetrics hc _ entry rest).finishes ?_)
  exact (keeps_recordAggregateDetails hc _ _).finishes

/-- Recording no results fails after the comparison was recorded. -/
private theorem ends_storeAggregates_nil (s₀ : Session) (hc : c.Standard) (t : Table) (time : Duration) :
    Ends s₀ (c.storeAggregates t time []) (.error (.wrongKind "nothing to combine")) [c.mainQuery s₀ t time]
      [c.mainSave s₀ t time] := by
  refine (Flow.ends_digest _).after ((ends_recordMain hc t time).before ?_)
  exact (ends_recordRules hc _ []).after (ends_recordAggregateMetrics_nil _).bind_error

/-- Recording a result without a rule fails after the comparison and the rules of the others were recorded. -/
private theorem ends_storeAggregates_of_noRule (s₀ : Session) (hc : c.Standard) (t : Table) (time : Duration)
    (outputs : List AggregateOutput) (h : ∃ o ∈ outputs, o.rule = none) :
    ∃ queries, Ends s₀ (c.storeAggregates t time outputs) (.error noRule) queries
      ([c.mainSave s₀ t time] ++ c.ruleSaves s₀ (c.tableNumber s₀ t) (outputs.filterMap AggregateOutput.rule)) := by
  obtain ⟨queries, hnumbers⟩ := ends_recordAggregateMetrics_of_noRule (c := c) (c.tableNumber s₀ t) h
  refine ⟨[c.mainQuery s₀ t time] ++
    ((outputs.filterMap AggregateOutput.rule).map (ruleQuery s₀ (c.tableNumber s₀ t)) ++ queries), ?_⟩
  rw [← List.append_nil (c.ruleSaves _ _ _)]
  refine (Flow.ends_digest _).after ((ends_recordMain hc t time).bind ?_)
  exact (ends_recordRules hc _ outputs).bind hnumbers.bind_error

/-- Recording the results on the aggregates of a table completes if and only if there are results and each has a rule.
It then asks for one row per rule and one row of numbers per result, in the order of the results and under the same
numbers of rules, and saves each kind in one frame.  Otherwise it fails after the comparison was recorded, and no
numbers are. -/
theorem storeAggregates_completes_iff {s : Session} (hc : c.Standard) (hs : s.Answers) (t : Table) (time : Duration)
    (outputs : List AggregateOutput) :
    ∃ o s', (c.storeAggregates t time outputs).exec s = (o, s') ∧
      (o = .ok () ↔ outputs ≠ [] ∧ ∀ output ∈ outputs, output.rule ≠ none) ∧
      (∀ entry rest, outputs = (entry :: rest).map outputOf →
        s'.queries = s.queries ++ ([c.mainQuery s t time] ++
          (((entry :: rest).map Prod.fst).map (ruleQuery s (c.tableNumber s t)) ++
            (entry :: rest).map (c.numbersQuery s (c.tableNumber s t)))) ∧
        ∃ details, s'.saves = s.saves ++ ([c.mainSave s t time] ++
            (c.ruleSaves s (c.tableNumber s t) ((entry :: rest).map Prod.fst) ++
              [c.numbersSave s (c.tableNumber s t) entry rest])) ++ details ∧
          ∀ save ∈ details, save.1 = c.place ++ "." ++ aggregateDetailsTable) ∧
      (outputs = [] → o = .error (.wrongKind "nothing to combine") ∧ s'.saves = s.saves ++ [c.mainSave s t time]) ∧
      ((∃ output ∈ outputs, output.rule = none) → o = .error noRule ∧
        s'.saves = s.saves ++ ([c.mainSave s t time] ++
          c.ruleSaves s (c.tableNumber s t) (outputs.filterMap AggregateOutput.rule))) := by
  have hempty := (ends_storeAggregates_nil s hc t time).exec hs
  have hunruled : (∃ output ∈ outputs, output.rule = none) → _ := fun h =>
    (ends_storeAggregates_of_noRule s hc t time outputs h).imp fun _ hends => hends.exec hs
  have hruled := fun entry rest => (finishes_storeAggregates s hc t time entry rest).exec hs
  refine ⟨((c.storeAggregates t time outputs).exec s).1, ((c.storeAggregates t time outputs).exec s).2, rfl, ⟨?_, ?_⟩,
    ?_, ?_, ?_⟩
  · intro hok
    refine ⟨?_, ?_⟩
    · rintro rfl
      rw [hempty.1] at hok
      cases hok
    · intro output hmem hnone
      obtain ⟨queries, herror, -⟩ := hunruled ⟨output, hmem, hnone⟩
      rw [herror] at hok
      cases hok
  · rintro ⟨hne, hrules⟩
    obtain ⟨entries, rfl⟩ := exists_entries hrules
    obtain ⟨entry, rest, rfl⟩ := List.exists_cons_of_ne_nil (fun h => hne (h ▸ rfl) : entries ≠ [])
    obtain ⟨_, _, hok, -⟩ := hruled entry rest
    exact hok
  · rintro entry rest rfl
    obtain ⟨_, details, -, hqueries, hsaves, hdetails⟩ := hruled entry rest
    exact ⟨hqueries, details, hsaves, hdetails⟩
  · rintro rfl
    exact ⟨hempty.1, hempty.2.2⟩
  · intro h
    obtain ⟨queries, herror, -, hsaves⟩ := hunruled h
    exact ⟨herror, hsaves⟩

def salesCapture : Capture where
  database := ⟨"sales", "main", "sales", none⟩
  runId := "1"
  reportType := "aggregate"
  dialect := "snowflake"
  user := "u"
  place := "results"

def orders : Table := { sourceName := "orders", targetName := "orders" }

def priceRule (type : String) : AggregateRule := ⟨type, "price", some ["region"], "region", "AGGREGATE"⟩

/-- The smallest price by region is recorded by three queries: for the comparison, the rule and the numbers. -/
theorem storeAggregates_completes_price :
    ∃ s', (salesCapture.storeAggregates orders ⟨"0", some "1"⟩
        [outputOf (priceRule "min", {}), outputOf (priceRule "max", { mismatchCount := 2 })]).exec {} = (.ok (), s') ∧
      s'.queries = [salesCapture.mainQuery {} orders ⟨"0", some "1"⟩,
        (priceRule "min").query "1sales.ordersmain.sales.orders_min_price_region",
        (priceRule "max").query "1sales.ordersmain.sales.orders_max_price_region",
        salesCapture.aggregateStatement "1sales.ordersmain.sales.orders"
          "1sales.ordersmain.sales.orders_min_price_region" {} "",
        salesCapture.aggregateStatement "1sales.ordersmain.sales.orders"
          "1sales.ordersmain.sales.orders_max_price_region" { mismatchCount := 2 } ""] := by
  have htable : (salesCapture.tableNumber {} orders).shown = "1sales.ordersmain.sales.orders" := by decide
  have hmin : (ruleNumber {} (salesCapture.tableNumber {} orders) (priceRule "min")).shown =
      "1sales.ordersmain.sales.orders_min_price_region" := by decide
  have hmax : (ruleNumber {} (salesCapture.tableNumber {} orders) (priceRule "max")).shown =
      "1sales.ordersmain.sales.orders_max_price_region" := by decide
  obtain ⟨o, s', hexec, hok, hruled, -⟩ := storeAggregates_completes_iff (c := salesCapture) ⟨rfl, rfl⟩
    Session.answers_empty orders ⟨"0", some "1"⟩
    [outputOf (priceRule "min", {}), outputOf (priceRule "max", { mismatchCount := 2 })]
  refine ⟨s', ?_, ?_⟩
  · rw [hexec, hok.2 ⟨List.cons_ne_nil _ _, by simp [outputOf]⟩]
  · rw [(hruled (priceRule "min", {}) [(priceRule "max", { mismatchCount := 2 })] rfl).1, ← htable, ← hmin, ← hmax]
    rfl

/-- Neither no results nor the result of a source that cannot be read is recorded to the end. -/
theorem storeAggregates_fails_unread :
    ((salesCapture.storeAggregates orders ⟨"0", some "1"⟩ []).exec {}).1 =
      .error (.wrongKind "nothing to combine") ∧
    ((salesCapture.storeAggregates orders ⟨"0", some "1"⟩ [⟨none, { exception := some "unreachable" }⟩]).exec {}).1 =
      .error noRule := by
  refine ⟨((ends_storeAggregates_nil {} ⟨rfl, rfl⟩ _ _).exec Session.answers_empty).1, ?_⟩
  obtain ⟨queries, hstore⟩ := ends_storeAggregates_of_noRule (c := salesCapture) {} ⟨rfl, rfl⟩ orders ⟨"0", some "1"⟩
    [⟨none, { exception := some "unreachable" }⟩] ⟨_, List.mem_singleton_self _, rfl⟩
  exact (hstore.exec Session.answers_empty).1

end Capture

end WarehouseMigration.Reconcile
