import WarehouseMigration.Proofs.Transpile.Fitting
import WarehouseMigration.Proofs.Transpile.HeaderEntries

/-!
# The places in a header

The positions in a header refer to the file with the header in front, so they depend on the number of lines of the
header, which is counted on its template.  Filling in keeps this number: no line number has a line break, and the braces
that are doubled in the template of a message are none (`count_document`).  So a header is its text with the places
moved down by its own newlines (`document_eq_written`), and as it ends with a newline, the line that a place names is
the line of the code below it.
-/

namespace WarehouseMigration

namespace TextEdit

/-- A newline stands between the lines before it and those behind it. -/
private theorem linesOf_append_newline (pre cs : List Char) : linesOf
    (pre ++ '\n' :: cs) = linesOf pre ++ linesOf cs := by
  obtain ⟨init, last, heq⟩ := exists_linesOf_eq pre
  rw [linesOf_append heq, linesOf_newline, heq, List.append_assoc]
  simp [prepend]

/-- Behind a text that ends with a newline every line stands lower by the newlines of the text. -/
private theorem lines_append_getElem? {text pre : List Char} (htext : text = pre ++ ['\n']) (code : List Char)
    (n : Nat) : (linesOf (text ++ code))[text.count '\n' + n]? = (linesOf code)[n]? := by
  have hlength : (linesOf pre).length = text.count '\n' := by
    rw [length_linesOf, lineCount, htext, List.count_append, List.count_singleton_self]
  rw [← hlength, htext, List.append_assoc, List.singleton_append, linesOf_append_newline,
    List.getElem?_append_right (Nat.le_add_right _ _), Nat.add_sub_cancel_left]

end TextEdit

namespace Header

open Text.Template

variable {path : String} {problems : List Problem} {shift : Int}

/-! ### The finished header -/

def newlineCount (text : String) : Nat := text.toList.count '\n'

def entryText (shift : Int) (message : String) (problems : List Problem) : String :=
  (match placesText shift problems with
    | [place] => "      - " ++ place ++ " " ++ messageText message ++ "\n"
    | _ => "      - " ++ messageText message ++ "\n") ++
  if 1 < (placesText shift problems).length then
    "          Occurred " ++ toString problems.length ++ " times at the following positions: " ++
      ", ".intercalate (placesText shift problems) ++ "\n"
  else if 1 < problems.length then "          Occurred " ++ toString problems.length ++ " times\n"
  else ""

def entriesText (shift : Int) (messages : List (String × List Problem)) : String :=
  String.join (messages.map fun e => entryText shift e.1 e.2)

def written (shift : Int) (path : String) (problems : List Problem) : String :=
  (match messagesFor .error problems with
    | some messages =>
      "/*\n    Failed transpilation of " ++ path ++ "\n" ++
        "\n    The following errors were found while transpiling:\n" ++ entriesText shift messages
    | none => "/*\n    Successfully transpiled from " ++ path ++ "\n") ++
  (match messagesFor .warning problems with
    | some messages => "\n    The following warnings were found while transpiling:\n" ++ entriesText shift messages
    | none => "") ++
  (if ((shownFor .error problems).getD []).any (·.stage == .parsing) then
    "\n\n    Parsing errors prevented the converter from translating the input query.\n" ++
      "    We reproduce the input query unchanged below.\n\n"
  else "") ++ "*/\n"

private theorem flatMap_entry (shift : Int) (message : String) (problems : List Problem) :
    (entry message problems).flatMap (Part.text shift) = (entryText shift message problems).toList := by
  have hplaces := map_positions shift problems
  rw [entry, entryText, List.flatMap_append, String.toList_append]
  generalize positions problems = places at hplaces ⊢
  generalize placesText shift problems = texts at hplaces ⊢
  have hlist : (List.intercalate [.plain ", "] places).flatMap (Part.text shift) = (", ".intercalate texts).toList := by
    rw [flatMap_intercalate, hplaces, String.toList_intercalate]
  have hlength : places.length = texts.length := by simpa using congrArg List.length hplaces
  congr 1
  · -- the place of the only problem that has one stands before the message
    rcases places with _ | ⟨place, _ | ⟨second, places⟩⟩
    · rw [List.eq_nil_of_length_eq_zero hlength.symm]
      simp [firstLine, Part.text]
    · obtain ⟨text, rfl⟩ := List.length_eq_one_iff.1 hlength.symm
      have hplace : place.flatMap (Part.text shift) = text.toList := by simpa using hplaces
      simp [firstLine, Part.text, hplace]
    · obtain ⟨first, second', others, rfl⟩ : ∃ a b c, texts = a :: b :: c := by
        rcases texts with _ | ⟨a, _ | ⟨b, c⟩⟩
        · simp at hlength
        · simp at hlength
        · exact ⟨a, b, c, rfl⟩
      simp [firstLine, Part.text]
  · rw [repeatLine, hlength]
    split
    · simp [Part.text, hlist]
    · split
      · simp [Part.text]
      · rfl

private theorem flatMap_entries (shift : Int) (messages : List (String × List Problem)) :
    (entries messages).flatMap (Part.text shift) = (entriesText shift messages).toList := by
  rw [entriesText, String.toList_join, entries, List.flatMap_assoc, List.flatMap_map]
  simp only [flatMap_entry]

theorem document_eq_written (path : String) (problems : List Problem) :
    document path problems = written (height path problems) path problems := by
  generalize hshift : (height path problems : Int) = shift
  rw [document, hshift, ← String.toList_inj, String.toList_ofList, parts, written, List.flatMap_append,
    List.flatMap_append, String.toList_append, String.toList_append, String.toList_append, List.append_assoc (_ ++ _)]
  congr 1
  · congr 1
    · cases messagesFor .error problems with
      | none => simp only [opening, List.flatMap_cons, List.flatMap_nil, Part.text, List.append_nil]
      | some messages =>
        simp only [opening, List.flatMap_cons, Part.text, flatMap_entries, String.toList_append, List.append_assoc]
    · cases messagesFor .warning problems with
      | none => rfl
      | some messages => simp only [warnings, List.flatMap_cons, Part.text, flatMap_entries, String.toList_append]
  · unfold closing
    split
    · simp only [List.flatMap_cons, List.flatMap_nil, Part.text, String.toList_append, List.append_nil]
    · simp only [List.flatMap_cons, List.flatMap_nil, Part.text, List.append_nil, String.toList_empty, List.nil_append]

/-! ### The newlines of a header -/

private theorem count_escaped {c : Char} (h : isBrace c = false) (cs : List Char) :
    (escaped cs).count c = cs.count c := by
  induction cs with
  | nil => rfl
  | cons d cs ih =>
    rw [escaped_cons, List.count_append, ih]
    by_cases hd : isBrace d = true
    · have hne : d ≠ c := by
        rintro rfl
        rw [h] at hd
        cases hd
      simp [hd, hne]
    · simp [hd, List.count_cons, Nat.add_comm]

private theorem count_part (shift : Int) (p : Part) : (p.text shift).count '\n' = p.template.count '\n' := by
  cases p with
  | plain text => rfl
  | message text => rw [Part.text, Part.template, toList_messageTemplate, count_escaped (by decide)]
  | line n =>
    have hnumber : ∀ k : Int, (Value.intText k).toList.count '\n' = 0 := by
      intro k
      refine List.count_eq_zero.2 fun h => ?_
      rcases of_mem_intText h with h | h <;> revert h <;> decide
    have htable : tableName.toList.count '\n' = 0 := by decide
    simp [Part.text, Part.template, hnumber, htable]

private theorem count_parts (shift : Int) (ps : List Part) :
    (ps.flatMap (Part.text shift)).count '\n' = (ps.flatMap Part.template).count '\n' := by
  induction ps with
  | nil => rw [List.flatMap_nil, List.flatMap_nil]
  | cons p ps ih => rw [List.flatMap_cons, List.flatMap_cons, List.count_append, List.count_append, count_part, ih]

/-- The newlines of a header are those that were counted on its template. -/
theorem count_document (path : String) (problems : List Problem) :
    newlineCount (document path problems) = height path problems := by
  rw [newlineCount, document, String.toList_ofList, count_parts]
  rfl

/-! ### The lines that a header names -/

/-- The problems that a header shows: the errors in their order, then the warnings. -/
def shownProblems (problems : List Problem) : List Problem :=
  ((messagesFor .error problems).getD [] ++ (messagesFor .warning problems).getD []).flatMap Prod.snd

private theorem line_mem_intercalate {n : Int} (places : List (List Part)) :
    .line n ∈ List.intercalate [.plain ", "] places ↔ ∃ place ∈ places, .line n ∈ place := by
  induction places with
  | nil => simp
  | cons place places ih =>
    cases places with
    | nil => simp
    | cons second places =>
      rw [List.intercalate_cons_cons, List.mem_append, List.mem_append, ih]
      simp

private theorem line_mem_entry {n : Int} (message : String) (problems : List Problem) :
    .line n ∈ entry message problems ↔ ∃ p ∈ problems, ∃ e ∈ p.extent, e.start.line = n := by
  have hplaces : (∃ place ∈ positions problems, .line n ∈ place) ↔
      ∃ p ∈ problems, ∃ e ∈ p.extent, e.start.line = n := by
    constructor
    · rintro ⟨place, hplace, hn⟩
      obtain ⟨p, hp, hsome⟩ := List.mem_filterMap.1 hplace
      obtain ⟨e, he, rfl⟩ := Option.map_eq_some_iff.1 hsome
      exact ⟨p, hp, e, he, by simpa [position, eq_comm] using hn⟩
    · rintro ⟨p, hp, e, he, rfl⟩
      exact ⟨position e.start, List.mem_filterMap.2 ⟨p, hp, Option.map_eq_some_iff.2 ⟨e, he, rfl⟩⟩, by simp [position]⟩
  rw [← hplaces, entry]
  rcases positions problems with _ | ⟨place, _ | ⟨second, places⟩⟩
  · simp [firstLine, repeatLine]
  · simp [firstLine, repeatLine]
  · simp [firstLine, repeatLine, line_mem_intercalate]

private theorem line_mem_entries {n : Int} (messages : List (String × List Problem)) :
    .line n ∈ entries messages ↔ ∃ p ∈ messages.flatMap Prod.snd, ∃ e ∈ p.extent, e.start.line = n := by
  simp only [entries, List.mem_flatMap, line_mem_entry]
  constructor
  · rintro ⟨m, hm, p, hp, he⟩
    exact ⟨p, ⟨m, hm, hp⟩, he⟩
  · rintro ⟨p, ⟨m, hm, hp⟩, he⟩
    exact ⟨m, hm, p, hp, he⟩

private theorem mem_referredLines {n : Int} :
    n ∈ referredLines path problems ↔ ∃ p ∈ shownProblems problems, ∃ e ∈ p.extent, e.start.line = n := by
  have hline : n ∈ referredLines path problems ↔ .line n ∈ parts path problems := by
    rw [referredLines, List.mem_eraseDups, List.mem_filterMap]
    constructor
    · rintro ⟨p, hp, hn⟩
      cases p with
      | line k =>
        obtain rfl := Option.some.inj hn
        exact hp
      | plain text => cases hn
      | message text => cases hn
    · exact fun h => ⟨_, h, rfl⟩
  have hopening : .line n ∈ opening path (messagesFor .error problems) ↔
      .line n ∈ entries ((messagesFor .error problems).getD []) := by
    cases messagesFor .error problems <;> simp [opening, entries]
  have hwarnings : .line n ∈ warnings (messagesFor .warning problems) ↔
      .line n ∈ entries ((messagesFor .warning problems).getD []) := by
    cases messagesFor .warning problems <;> simp [warnings, entries]
  have hclosing : ∀ unparsed, .line n ∉ closing unparsed := by
    intro unparsed
    cases unparsed <;> simp [closing]
  rw [hline, parts, List.mem_append, List.mem_append, hopening, hwarnings, or_iff_left (hclosing _), ← List.mem_append,
    shownProblems, ← line_mem_entries, entries, entries, entries, List.flatMap_append]

/-! ### The places of a header -/

/-- What is returned for a path without braces is the header as it should be. -/
private theorem make_eq_ok_iff_document (hpath : Braceless path) {text : String} :
    make path problems = .ok text ↔
      (∀ n ∈ referredLines path problems, 0 ≤ n ∧ n < indexBound) ∧ text = document path problems := by
  obtain ⟨cs, rfl⟩ : ∃ cs, text = String.ofList cs := ⟨text.toList, String.ofList_toList.symm⟩
  rw [make_eq_ok_iff, fills_template_iff hpath, forall_fits_iff, document, String.ofList_inj]

private theorem exists_eq_written (shift : Int) (path : String) (problems : List Problem) :
    ∃ pre, (written shift path problems).toList = pre ++ ['\n'] := by
  rw [written, String.toList_append]
  generalize (_ : String).toList = before
  exact ⟨before ++ "*/".toList, by simp⟩

/-- The header of a path without braces is made if and only if no line of a shown problem is negative or too large to be
read.  Then all places in it are moved down by the newlines of the header itself, and each line of a code that is put
behind the header stands lower by that number. -/
theorem make_places_exact (hpath : Braceless path) (problems : List Problem) :
    ((∃ text, make path problems = .ok text) ↔
      ∀ p ∈ shownProblems problems, ∀ e ∈ p.extent, 0 ≤ e.start.line ∧ e.start.line < indexBound) ∧
    ∀ text, make path problems = .ok text →
      text = written (newlineCount text) path problems ∧
      ∀ (code : String) (n : Nat),
        (TextEdit.lines (text ++ code))[newlineCount text + n]? = (TextEdit.lines code)[n]? := by
  constructor
  · simp only [make_eq_ok_iff_document hpath, exists_and_left, exists_eq, and_true, mem_referredLines]
    constructor
    · intro h p hp e he
      exact h _ ⟨p, hp, e, he, rfl⟩
    · rintro h n ⟨p, hp, e, he, rfl⟩
      exact h p hp e he
  · intro text hmake
    obtain ⟨-, rfl⟩ := (make_eq_ok_iff_document hpath).1 hmake
    have hwritten : document path problems = written (newlineCount (document path problems)) path problems := by
      rw [count_document]
      exact document_eq_written path problems
    refine ⟨hwritten, fun code n => ?_⟩
    obtain ⟨pre, hpre⟩ := exists_eq_written (newlineCount (document path problems)) path problems
    rw [← hwritten] at hpre
    have hlines := TextEdit.lines_append_getElem? hpre code.toList n
    rwa [← String.toList_append] at hlines

def bracedProblems : List Problem :=
  [problemOf .error "a \x7bb\x7d/nc" (some ⟨⟨0, 0⟩, ⟨0, 1⟩⟩), problemOf .error "a \x7bb\x7d/nc" (some ⟨⟨4, 2⟩, ⟨4, 3⟩⟩),
    problemOf .warning "x\ny" (some ⟨⟨4, 7⟩, ⟨4, 8⟩⟩)]

theorem make_places_exact_braced :
    ∃ text, make "in.sql" bracedProblems = .ok text ∧ newlineCount text = 12 ∧
      text = written 12 "in.sql" bracedProblems ∧
      (TextEdit.lines (text ++ "a\nb\nc\nd\ne"))[12 + 4]? = some ['e'] := by
  have hpath : Braceless "in.sql" := braceless_of_all (by decide)
  obtain ⟨hmade, hplaces⟩ := make_places_exact hpath bracedProblems
  obtain ⟨text, hmake⟩ := hmade.2 (by decide)
  have hcount : newlineCount text = 12 := by
    rw [((make_eq_ok_iff_document hpath).1 hmake).2, count_document]
    decide +kernel
  obtain ⟨hwritten, hlines⟩ := hplaces text hmake
  rw [hcount] at hwritten hlines
  exact ⟨text, hmake, hcount, hwritten, hlines "a\nb\nc\nd\ne" 4⟩

end Header

end WarehouseMigration
