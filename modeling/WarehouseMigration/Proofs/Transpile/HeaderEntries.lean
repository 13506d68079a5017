import WarehouseMigration.Proofs.Sequence.Runs
import WarehouseMigration.Proofs.Transpile.HeaderText

/-!
# The entries of a header

The header of a transpiled file has a section for the errors and one for the warnings, with one entry for each message.
Problems are grouped by runs: of the problems of a severity only the last run is shown, and of the problems of a message
in it again only the last run.  So an entry has all the problems of its message if and only if they are not interrupted
(`lookup_messages_iff`).  What an entry has it tells: the message, all positions and, if there are several problems,
their number (`tells_entry`).
-/

namespace WarehouseMigration.Header

variable {path message : String} {severity : Severity} {problems shown : List Problem}

/-! ### The problems of an entry -/

/-- The problems of a severity that have a message. -/
def reported (severity : Severity) (message : String) (problems : List Problem) : List Problem :=
  problems.filter fun p => p.severity = severity ∧ p.message = message

/-- The problems of a severity that have a message are not interrupted: between one of them and a later problem of the
severity there is none of another severity, and between two of them none with another message. -/
def Unbroken (severity : Severity) (message : String) (problems : List Problem) : Prop :=
  ∀ a b c, [a, b, c].Sublist problems → a.severity = severity → a.message = message → c.severity = severity →
    b.severity = severity ∧ (c.message = message → b.message = message)

theorem lookup_messages_iff (hshown : shownFor severity problems = some shown)
    (hoccurs : ∃ p ∈ problems, p.severity = severity ∧ p.message = message) :
    (Sequence.lastOf (Sequence.runs Problem.message shown)).lookup message = some (reported severity message problems) ↔
      Unbroken severity message problems := by
  obtain ⟨before, after, hrun⟩ := Sequence.lastRun_of_lookup hshown
  have hp : ∀ p : Problem, decide (p.severity = severity ∧ p.message = message) = true → p.severity = severity :=
    fun p h => (of_decide_eq_true h).1
  have hq : ∀ p : Problem, decide (p.message = message) = true → p.message = message := fun p h => of_decide_eq_true h
  -- the shown problems are all of the severity
  have hshown : shown.filter (fun p => decide (p.severity = severity ∧ p.message = message)) =
      shown.filter (fun p => decide (p.message = message)) :=
    List.filter_congr fun p hmem => by simp [hrun.ofKey p hmem]
  constructor
  · intro hlookup
    obtain ⟨before', after', hrun'⟩ := Sequence.lastRun_of_lookup hlookup
    have hself := hrun'.filter_eq_self
    have hall : shown.filter (fun p => decide (p.severity = severity ∧ p.message = message)) =
        reported severity message problems := by
      refine (hrun.sublist.filter _).antisymm ?_
      have hle := hrun'.sublist.filter (fun p => decide (p.message = message))
      rwa [hself, ← hshown] at hle
    intro a b c habc hseverity hmessage hc
    have ha : decide (a.severity = severity ∧ a.message = message) = true := decide_eq_true ⟨hseverity, hmessage⟩
    refine ⟨(hrun.filter_eq_iff hp).1 hall a b c habc ha hc, fun hcm => ?_⟩
    have hshown' := hrun.sublist_of_filter_eq hp hall habc ha hc
    exact (hrun'.filter_eq_iff hq).1 (by rw [hself, ← hall, hshown]) a b c hshown' (decide_eq_true hmessage) hcm
  · intro hunbroken
    have hall : shown.filter (fun p => decide (p.severity = severity ∧ p.message = message)) =
        reported severity message problems := by
      refine (hrun.filter_eq_iff hp).2 fun a b c habc ha hc => ?_
      obtain ⟨hseverity, hmessage⟩ := of_decide_eq_true ha
      exact (hunbroken a b c habc hseverity hmessage hc).1
    have hmem : ∃ p ∈ shown, p.message = message := by
      obtain ⟨p, hpmem, hpp⟩ := hoccurs
      have hp : p ∈ reported severity message problems := List.mem_filter.2 ⟨hpmem, decide_eq_true hpp⟩
      rw [← hall] at hp
      exact ⟨p, (List.mem_filter.1 hp).1, hpp.2⟩
    obtain ⟨last, hlast⟩ := Sequence.exists_lookup_runs hmem
    obtain ⟨before', after', hrun'⟩ := Sequence.lastRun_of_lookup hlast
    have hlastAll : last.filter (fun p => decide (p.message = message)) =
        shown.filter (fun p => decide (p.message = message)) := by
      refine (hrun'.filter_eq_iff hq).2 fun a b c habc ha hc => ?_
      have hof : ∀ p ∈ [a, b, c], p.severity = severity := fun p hp => hrun.ofKey p (habc.subset hp)
      exact (hunbroken a b c (habc.trans hrun.sublist) (hof a (by simp)) (of_decide_eq_true ha)
        (hof c (by simp))).2 hc
    rw [hlast, ← hrun'.filter_eq_self, hlastAll, ← hshown, hall]

/-! ### The text of an entry -/

variable {shift : Int}

def placeText (shift : Int) (p : Position) : String :=
  "[" ++ Value.intText (shift + p.line + 1) ++ ":" ++ Value.intText (p.character + 1) ++ "]"

def placesText (shift : Int) (problems : List Problem) : List String :=
  problems.filterMap fun p => p.extent.map fun e => placeText shift e.start

/-- A text tells of problems with a message: it has the message, the positions of the problems one after another and, if
there are several problems, their number. -/
structure Tells (shift : Int) (message : String) (problems : List Problem) (text : List Char) : Prop where
  message : (messageText message).toList <:+: text
  places : (", ".intercalate (placesText shift problems)).toList <:+: text
  count : 1 < problems.length → ("Occurred " ++ toString problems.length ++ " times").toList <:+: text

private theorem infix_flatMap {ps qs : List Part} (h : ps <:+: qs) :
    ps.flatMap (Part.text shift) <:+: qs.flatMap (Part.text shift) := by
  obtain ⟨before, after, rfl⟩ := h
  exact ⟨before.flatMap (Part.text shift), after.flatMap (Part.text shift), by simp⟩

private theorem infix_flatMap_of_mem {p : Part} {ps : List Part} (h : p ∈ ps) :
    p.text shift <:+: ps.flatMap (Part.text shift) := by
  obtain ⟨before, after, rfl⟩ := List.append_of_mem h
  exact ⟨before.flatMap (Part.text shift), after.flatMap (Part.text shift), by simp⟩

theorem map_positions (shift : Int) (problems : List Problem) :
    (positions problems).map (fun place => place.flatMap (Part.text shift)) =
      (placesText shift problems).map String.toList := by
  rw [positions, placesText, List.map_filterMap, List.map_filterMap]
  congr 1
  funext p
  cases p.extent with
  | none => rfl
  | some e => simp [position, placeText, Part.text]

theorem flatMap_intercalate (shift : Int) (places : List (List Part)) :
    (List.intercalate [.plain ", "] places).flatMap (Part.text shift) =
      ", ".toList.intercalate (places.map fun place => place.flatMap (Part.text shift)) := by
  induction places with
  | nil => rfl
  | cons place places ih =>
    cases places with
    | nil => simp
    | cons second places =>
      rw [List.intercalate_cons_cons, List.flatMap_append, List.flatMap_append, ih]
      simp [List.intercalate_cons_cons, Part.text]

theorem tells_entry (shift : Int) (message : String) (problems : List Problem) :
    Tells shift message problems ((entry message problems).flatMap (Part.text shift)) where
  message := by
    refine infix_flatMap_of_mem (p := .message message) (List.mem_append_left _ ?_)
    unfold firstLine
    split <;> simp
  places := by
    rw [String.toList_intercalate, ← map_positions, ← flatMap_intercalate]
    refine infix_flatMap ?_
    rw [entry]
    rcases positions problems with _ | ⟨place, _ | ⟨second, places⟩⟩
    · exact List.nil_infix
    · rw [List.intercalate_singleton]
      refine List.IsInfix.trans ?_ (List.prefix_append _ _).isInfix
      exact ⟨[.plain "      - "], [.plain " ", .message message, .plain "\n"], rfl⟩
    · refine List.IsInfix.trans ?_ (List.suffix_append _ _).isInfix
      rw [repeatLine, if_pos (by simp)]
      exact (List.suffix_cons _ _).isInfix.trans (List.prefix_append _ _).isInfix
  count := by
    intro hcount
    rw [entry, repeatLine, List.flatMap_append]
    refine List.IsInfix.trans ?_ (List.suffix_append _ _).isInfix
    split
    · refine List.IsInfix.trans ?_ (infix_flatMap_of_mem List.mem_cons_self)
      exact ⟨"          ".toList, " at the following positions: ".toList, by simp [Part.text]⟩
    · exact ⟨"          ".toList, "\n".toList, by simp [Part.text]⟩

private theorem infix_document {messages : List (String × List Problem)} {e : String × List Problem}
    (hseverity : severity = .error ∨ severity = .warning) (hmessages : messagesFor severity problems = some messages)
    (he : e ∈ messages) (path : String) :
    (entry e.1 e.2).flatMap (Part.text (height path problems)) <:+: (document path problems).toList := by
  rw [document, String.toList_ofList]
  refine infix_flatMap ?_
  have hentry : entry e.1 e.2 <:+: entries messages := by
    obtain ⟨before, after, rfl⟩ := List.append_of_mem he
    exact ⟨entries before, entries after, by simp [entries]⟩
  rw [parts]
  rcases hseverity with rfl | rfl
  · have hsection : entries messages <:+: opening path (messagesFor .error problems) := by
      rw [hmessages]
      exact ((List.suffix_cons _ _).trans (List.suffix_cons _ _)).isInfix
    rw [List.append_assoc]
    exact (hentry.trans hsection).trans (List.prefix_append _ _).isInfix
  · have hsection : entries messages <:+: warnings (messagesFor .warning problems) := by
      rw [hmessages]
      exact (List.suffix_cons _ _).isInfix
    exact ((hentry.trans hsection).trans (List.suffix_append _ _).isInfix).trans (List.prefix_append _ _).isInfix

/-- A header is what it should be if and only if the path has no braces and no line number is negative or too large to
be read.  For each message that occurs with a severity the section of that severity has at most one entry, and every
entry tells of the problems it has; it has all the problems of the severity with the message if and only if they are not
interrupted. -/
theorem make_complete_iff (path : String) (problems : List Problem) :
    (make path problems = .ok (document path problems) ↔
      Braceless path ∧ ∀ n ∈ referredLines path problems, 0 ≤ n ∧ n < Text.Template.indexBound) ∧
    ∀ severity, severity = .error ∨ severity = .warning →
      ∀ message, (∃ p ∈ problems, p.severity = severity ∧ p.message = message) →
        ∃ messages, messagesFor severity problems = some messages ∧ (messages.map Prod.fst).Nodup ∧
          (∀ e ∈ messages, ∃ text, text <:+: (document path problems).toList ∧
            Tells (height path problems) e.1 e.2 text) ∧
          (messages.lookup message = some (reported severity message problems) ↔
            Unbroken severity message problems) := by
  refine ⟨make_eq_document_iff path problems, ?_⟩
  intro severity hseverity message hoccurs
  have hsome : ∃ p ∈ problems, p.severity = severity := by
    obtain ⟨p, hp, hsev, -⟩ := hoccurs
    exact ⟨p, hp, hsev⟩
  obtain ⟨shown, hshown⟩ := Sequence.exists_lookup_runs hsome
  have hmessages : messagesFor severity problems = some (Sequence.lastOf (Sequence.runs Problem.message shown)) := by
    rw [messagesFor, shownFor, hshown]
    rfl
  refine ⟨_, hmessages, Sequence.nodup_lastOf _, ?_, lookup_messages_iff hshown hoccurs⟩
  intro e he
  exact ⟨_, infix_document hseverity hmessages he path, tells_entry _ _ _⟩

def problemOf (severity : Severity) (message : String) (extent : Option Extent) : Problem :=
  ⟨"CODE", .internal, severity, "in.sql", message, extent⟩

def together : List Problem :=
  [problemOf .error "a" (some ⟨⟨0, 0⟩, ⟨0, 1⟩⟩), problemOf .error "a" (some ⟨⟨2, 3⟩, ⟨2, 4⟩⟩),
      problemOf .warning "w" none]

theorem make_complete_together :
    make "in.sql" together = .ok (document "in.sql" together) ∧
    ∃ messages, messagesFor .error together = some messages ∧
      messages.lookup "a" = some (reported .error "a" together) := by
  obtain ⟨hmake, hentries⟩ := make_complete_iff "in.sql" together
  refine ⟨hmake.2 ⟨braceless_of_all (by decide), by decide⟩, ?_⟩
  obtain ⟨messages, hmessages, -, -, hcomplete⟩ :=
    hentries .error (.inl rfl) "a" ⟨_, List.mem_cons_self, rfl, rfl⟩
  refine ⟨messages, hmessages, hcomplete.2 ?_⟩
  -- of three problems the last one is the warning
  intro a b c habc _ _ hc
  obtain ⟨-, -, rfl⟩ : a = _ ∧ b = _ ∧ c = _ := by simpa [together] using habc.eq_of_length rfl
  cases hc

def interrupted : List Problem := [problemOf .error "a" none, problemOf .warning "w" none, problemOf .error "b" none]

set_option maxRecDepth 10000 in
/-- The first of two errors is lost if a warning comes between them, and a path with a field in braces makes no
header. -/
theorem make_loses_interrupted :
    make "in.sql" interrupted =
      .ok ("/*\n    Failed transpilation of in.sql\n" ++
        "\n    The following errors were found while transpiling:\n      - b\n" ++
        "\n    The following warnings were found while transpiling:\n      - w\n*/\n") ∧
    (∃ p ∈ interrupted, p.severity = .error ∧ p.message = "a") ∧
    (messagesFor .error interrupted).map (List.lookup "a") = some none ∧
    make "a\x7bb\x7d.sql" [] = .error (.noKey "b") :=
  ⟨rfl, ⟨_, List.mem_cons_self, rfl, rfl⟩, rfl, rfl⟩

end WarehouseMigration.Header
