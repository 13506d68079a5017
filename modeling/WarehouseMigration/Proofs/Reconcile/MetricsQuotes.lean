import Mathlib.Algebra.Ring.Nat
import WarehouseMigration.Proofs.Reconcile.AggregateRecords
import WarehouseMigration.Proofs.Text.Doubling

/-!
# Quotes in the statement with the numbers of a comparison

The statement that gives the numbers of a comparison holds texts of the databases between quotes: the failure of the
comparison, and the names of the columns that differ.  The quotes of a statement are those of its parts, in order
(`quotes_append`, `quotes_intercalate`), so they tell which part a quote comes from.

A failure adds none, as its quotes are removed (`quotes_failureText`).  The names of columns are taken as they are, so
the statement has the quotes of these names besides its own (`quotes_metricsStatement`), and it has its own number of
quotes just when no name holds a quote (`recordMetrics_quotes_iff`).
-/

namespace WarehouseMigration.Reconcile

/-! ### Quotes of texts -/

def quoteMarks : List Char := ['\'', '"']

def quotes (text : String) : List Char := text.toList.filter (· ∈ quoteMarks)

theorem quotes_append (a b : String) : quotes (a ++ b) = quotes a ++ quotes b := by
  rw [quotes, String.toList_append, List.filter_append]
  rfl

private theorem quotes_eq_nil_iff {text : String} : quotes text = [] ↔ ∀ mark ∈ quoteMarks, mark ∉ text.toList := by
  simp only [quotes, List.filter_eq_nil_iff, decide_eq_true_eq]
  exact ⟨fun h mark hmark hmem => h mark hmem hmark, fun h c hmem hc => h c hc hmem⟩

private theorem count_quotes {mark : Char} (h : mark ∈ quoteMarks) (text : String) :
    (quotes text).count mark = text.toList.count mark :=
  List.count_filter (by simpa using h)

/-- A separator without quotes adds none. -/
theorem quotes_intercalate {sep : String} (h : quotes sep = []) (parts : List String) :
    quotes (sep.intercalate parts) = parts.flatMap quotes := by
  induction parts with
  | nil => rfl
  | cons part rest ih =>
    cases rest with
    | nil => simp
    | cons next rest =>
      rw [String.intercalate_cons_cons, quotes_append, quotes_append, h, ih, List.append_nil, List.flatMap_cons]
      rfl

private theorem toList_replace_mark (mark : Char) (text : String) :
    (Text.replace text (String.singleton mark) "").toList = text.toList.filter (· ≠ mark) := by
  have hchars : (Text.replaceChars [mark] [] text.toList) = text.toList.filter (· ≠ mark) := by
    rw [Text.replaceChars, List.isEmpty_cons, if_neg Bool.false_ne_true, Text.replaceFrom_single]
    induction text.toList with
    | nil => rfl
    | cons c cs ih => by_cases hc : c = mark <;> simp [hc, ih]
  rw [Text.replace, String.toList_ofList, String.toList_singleton, ← hchars]
  rfl

private theorem quotes_withoutQuotes (text : String) : quotes (withoutQuotes text) = [] := by
  rw [quotes_eq_nil_iff]
  intro mark hmark hmem
  have hsingle : "'" = String.singleton '\'' := rfl
  have hdouble : "\"" = String.singleton '"' := rfl
  rw [withoutQuotes, hsingle, hdouble, toList_replace_mark, toList_replace_mark, List.mem_filter,
    List.mem_filter] at hmem
  simp only [quoteMarks, List.mem_cons, List.not_mem_nil, or_false] at hmark
  simp only [ne_eq, decide_eq_true_eq] at hmem
  exact hmark.elim hmem.1.2 hmem.2

/-- No quote is left in the text of a failure. -/
theorem quotes_failureText (data schema : Option String) : quotes (failureText data schema) = [] := by
  rcases data with - | e
  · rcases schema with - | e
    · rfl
    · exact quotes_withoutQuotes e
  · exact quotes_withoutQuotes e

private theorem quotes_shown_bool (b : Bool) : quotes (Value.bool b).shown = [] := by
  cases b <;> decide

/-! ### Quotes of the statement -/

def DataOutput.differing (data : DataOutput) : List String := (data.mismatch.bind Mismatch.columns).getD []

/-- A result without the texts that come from the databases. -/
def DataOutput.cleared (data : DataOutput) : DataOutput :=
  { data with exception := none, mismatch := data.mismatch.map fun m => { m with columns := some [] } }

/-- A result on a schema without the text that comes from the databases. -/
def SchemaOutput.cleared (schema : SchemaOutput) : SchemaOutput := { schema with exception := none }

private theorem DataOutput.differing_cleared (data : DataOutput) : data.cleared.differing = [] := by
  rw [differing, cleared]
  cases data.mismatch <;> rfl

private theorem exists_verdict_eq_bool (t : Table) (data : DataOutput) (schema : SchemaOutput) (count : RecordCount)
    {b : Bool} (h : schema.valid = .bool b) : ∃ b', verdict t data schema count = .bool b' := by
  rw [verdict, h]
  split
  · split
    · exact ⟨b, rfl⟩
    · exact ⟨false, rfl⟩
  · exact ⟨false, rfl⟩

namespace Capture

open WarehouseMigration.Flow (Ends)
open Spark (queried)

/-- The quotes of the names of columns come on top of those that the statement has anyway: these depend neither on the
texts that come from the databases nor on the verdict. -/
private theorem count_quotes_metricsStatement (c : Capture) (id now : String) (data : DataOutput)
    (schema : SchemaOutput) (b b₀ : Bool) (mark : Char) :
    (quotes (c.metricsStatement id data schema (.bool b) now)).count mark =
      (quotes (c.metricsStatement id data.cleared schema.cleared (.bool b₀) now)).count mark +
        (data.differing.flatMap quotes).count mark := by
  have hline : quotes "\n" = [] := by decide
  have hcomma : quotes "," = [] := by decide
  have hcolumns : data.cleared.differing.flatMap quotes = [] := by rw [DataOutput.differing_cleared, List.flatMap_nil]
  rw [DataOutput.differing] at hcolumns
  rw [metricsStatement, quotes_intercalate hline, metricsStatement, quotes_intercalate hline, DataOutput.differing]
  simp only [toString, List.flatMap_cons, List.flatMap_nil, quotes_append, quotes_failureText, quotes_shown_bool,
    List.count_append, List.count_nil]
  rw [quotes_intercalate hcomma, quotes_intercalate hcomma, hcolumns]
  simp only [DataOutput.cleared, SchemaOutput.cleared, List.count_nil]
  -- what stands before the names of the columns is the same on both sides
  simp only [Nat.add_zero, Nat.add_assoc, Nat.add_left_cancel_iff]
  rw [Nat.add_comm]
  simp only [Nat.add_assoc]

/-! ### Recording -/

variable {c : Capture}

def metricsQuery (c : Capture) (s : Session) (id : Value) (data : DataOutput) (schema : SchemaOutput) (t : Table)
    (count : RecordCount) : String :=
  c.metricsStatement id.shown data schema (verdict t data schema count) (s.clock "")

private theorem ends_recordMetrics {s₀ : Session} (hc : c.Standard) (id : Value) (data : DataOutput)
    (schema : SchemaOutput) (t : Table) (count : RecordCount) :
    Ends s₀ (c.recordMetrics id data schema t count) (.ok ()) [c.metricsQuery s₀ id data schema t count]
      [(c.place ++ "." ++ metricsTable, appender (queried (c.metricsQuery s₀ id data schema t count)))] := by
  rw [recordMetrics, hc.write]
  exact (Flow.ends_now _).after ((Spark.ends_sql _).bind (ends_writeTable _ _))

private theorem count_metricsQuery (c : Capture) (s : Session) (id : Value) (data : DataOutput) (schema : SchemaOutput)
    (t : Table) (count : RecordCount) {b : Bool} (hvalid : schema.valid = .bool b) {mark : Char}
    (hmark : mark ∈ quoteMarks) :
    (c.metricsQuery s id data schema t count).toList.count mark =
      (c.metricsQuery s id data.cleared schema.cleared t count).toList.count mark +
        (data.differing.map fun name => name.toList.count mark).sum := by
  obtain ⟨status, hstatus⟩ := exists_verdict_eq_bool t data schema count hvalid
  obtain ⟨status₀, hstatus₀⟩ := exists_verdict_eq_bool t data.cleared schema.cleared count hvalid
  have hnames : (data.differing.flatMap quotes).count mark =
      (data.differing.map fun name => name.toList.count mark).sum := by
    rw [List.count_flatMap]
    exact congrArg List.sum (List.map_congr_left fun name _ => count_quotes hmark name)
  rw [← hnames, metricsQuery, metricsQuery, hstatus, hstatus₀, ← count_quotes hmark, ← count_quotes hmark,
    count_quotes_metricsStatement]

/-- Recording the numbers of a comparison asks one query.  It has the quotes of the query for the same numbers without
failures and names of columns, and those of the names.  So texts of the databases add no quotes if and only if no name
of a column holds any, whatever the failures are. -/
theorem recordMetrics_quotes_iff {s : Session} (hc : c.Standard) (hs : s.Answers) (id : Value) (data : DataOutput)
    (schema : SchemaOutput) (t : Table) (count : RecordCount) {b : Bool} (hvalid : schema.valid = .bool b) :
    ∃ query plain s₁ s₂,
      (c.recordMetrics id data schema t count).exec s = (.ok (), s₁) ∧ s₁.queries = s.queries ++ [query] ∧
      (c.recordMetrics id data.cleared schema.cleared t count).exec s = (.ok (), s₂) ∧
      s₂.queries = s.queries ++ [plain] ∧
      (∀ mark ∈ quoteMarks, query.toList.count mark =
        plain.toList.count mark + (data.differing.map fun name => name.toList.count mark).sum) ∧
      ((∀ mark ∈ quoteMarks, query.toList.count mark = plain.toList.count mark) ↔
        ∀ name ∈ data.differing, ∀ mark ∈ quoteMarks, mark ∉ name.toList) := by
  obtain ⟨hok, hqueries, -⟩ := (ends_recordMetrics hc id data schema t count).exec hs
  obtain ⟨hok₀, hqueries₀, -⟩ := (ends_recordMetrics hc id data.cleared schema.cleared t count).exec hs
  have hcount : ∀ mark ∈ quoteMarks, _ := fun mark hmark => count_metricsQuery c s id data schema t count hvalid hmark
  refine ⟨_, _, _, _, Prod.ext hok rfl, hqueries, Prod.ext hok₀ rfl, hqueries₀, hcount, ?_⟩
  -- the numbers agree just when all names together hold no mark
  have hplain : ∀ mark ∈ quoteMarks, ((c.metricsQuery s id data schema t count).toList.count mark =
      (c.metricsQuery s id data.cleared schema.cleared t count).toList.count mark ↔
      ∀ name ∈ data.differing, mark ∉ name.toList) := by
    intro mark hmark
    rw [hcount mark hmark, Nat.add_eq_left, List.sum_eq_zero_iff_forall_eq_nat]
    simp only [List.forall_mem_map, List.count_eq_zero]
  rw [forall₂_congr hplain]
  exact ⟨fun h name hname mark hmark => h mark hmark name hname, fun h mark hmark name hname => h name hname mark hmark⟩

def lambs : Table := { sourceName := "lambs", targetName := "lambs" }

def quotedFailure : DataOutput :=
  { mismatchCount := 3, mismatch := some { columns := some ["id", "name"] }, exception := some "it's \"bad\"" }

/-- A failure with quotes adds none to the query. -/
theorem recordMetrics_quotes_failure :
    ∃ query plain s₁ s₂,
      (salesCapture.recordMetrics (.int 7) quotedFailure {} lambs {}).exec {} = (.ok (), s₁) ∧ s₁.queries = [query] ∧
      (salesCapture.recordMetrics (.int 7) quotedFailure.cleared (SchemaOutput.cleared {}) lambs {}).exec {} =
        (.ok (), s₂) ∧
      s₂.queries = [plain] ∧ ∀ mark ∈ quoteMarks, query.toList.count mark = plain.toList.count mark := by
  obtain ⟨query, plain, s₁, s₂, hexec, hquery, hexec₀, hplain, -, hiff⟩ :=
    recordMetrics_quotes_iff (c := salesCapture) ⟨rfl, rfl⟩ Session.answers_empty (.int 7) quotedFailure {} lambs
      {} rfl
  have hplainNames : (quotedFailure.differing.all fun name => quoteMarks.all fun mark =>
      !name.toList.contains mark) = true := by decide
  have hnames : ∀ name ∈ quotedFailure.differing, ∀ mark ∈ quoteMarks, mark ∉ name.toList := by
    intro name hname mark hmark
    simpa using List.all_eq_true.1 (List.all_eq_true.1 hplainNames name hname) mark hmark
  exact ⟨query, plain, s₁, s₂, hexec, hquery, hexec₀, hplain, hiff.2 hnames⟩

def quotedColumn : DataOutput := { mismatchCount := 1, mismatch := some { columns := some ["mary's lamb"] } }

/-- A column whose name holds a quote adds one to the query. -/
theorem recordMetrics_quotes_column :
    ∃ query plain,
      ((salesCapture.recordMetrics (.int 7) quotedColumn {} lambs {}).exec {}).2.queries = [query] ∧
      ((salesCapture.recordMetrics (.int 7) quotedColumn.cleared (SchemaOutput.cleared {}) lambs
        {}).exec {}).2.queries = [plain] ∧
      query.toList.count '\'' = plain.toList.count '\'' + 1 := by
  have hqueries := fun data schema =>
    ((ends_recordMetrics (c := salesCapture) ⟨rfl, rfl⟩ (.int 7) data schema lambs {}).exec Session.answers_empty).2.1
  have hsum : (quotedColumn.differing.map fun name => name.toList.count '\'').sum = 1 := by decide
  refine ⟨_, _, hqueries _ _, hqueries _ _, ?_⟩
  rw [count_metricsQuery salesCapture {} (.int 7) quotedColumn {} lambs {} rfl (by decide), hsum]

end Capture

end WarehouseMigration.Reconcile
