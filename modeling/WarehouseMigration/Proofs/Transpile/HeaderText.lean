import WarehouseMigration.Proofs.Sequence.Keyed
import WarehouseMigration.Proofs.Text.Filling
import WarehouseMigration.Proofs.Text.Removal
import WarehouseMigration.Transpile.Header

/-!
# The text of a header

A header is a list of parts, and each part has a template and a text.  The template of a message doubles the braces of
its text (`toList_messageTemplate`), and the template of a line number is a field of the table of line numbers.  So the
template of a header is filled in with the texts of its parts if the line numbers can be read, provided that all plain
parts are free of braces (`fills_parts_iff`).  The only plain part that may have braces is the path, and a header whose
path has a brace is never what it should be: `make_eq_document_iff`.
-/

namespace WarehouseMigration.Text

variable {mark : Char} {old new cs : List Char}

private theorem doubled_append (xs ys : List Char) : doubled mark (xs ++ ys) = doubled mark xs ++ doubled mark ys := by
  simp [doubled]

private theorem isPrefix_of_isPrefix_doubled (hmark : mark ∉ old) (h : old <+: doubled mark cs) : old <+: cs := by
  induction cs generalizing old with
  | nil => simpa using h
  | cons c cs ih =>
    cases old with
    | nil => exact List.nil_prefix
    | cons o old =>
      have ho : o ≠ mark := fun e => hmark (by simp [e])
      by_cases hc : c = mark
      · subst hc
        rw [doubled_cons_self, List.cons_prefix_cons] at h
        exact absurd h.1 ho
      · rw [doubled_cons_of_ne hc, List.cons_prefix_cons] at h
        exact List.cons_prefix_cons.2 ⟨h.1, ih (fun hm => hmark (by simp [hm])) h.2⟩

private theorem replaceFrom_cons_of_not_isPrefix {c : Char} (h : ¬ old <+: c :: cs) :
    replaceFrom old new 0 (c :: cs) = c :: replaceFrom old new 0 cs := by
  rw [replaceFrom, if_neg (by rwa [List.isPrefixOf_iff_prefix])]

private theorem replaceFrom_doubled (hne : old ≠ []) (hold : mark ∉ old) (hnew : mark ∉ new) (cs : List Char) :
    replaceFrom old new 0 (doubled mark cs) = doubled mark (replaceFrom old new 0 cs) := by
  induction hlength : cs.length using Nat.strong_induction_on generalizing cs with
  | _ n ih =>
    subst hlength
    by_cases hstart : old <+: cs
    · obtain ⟨rest, rfl⟩ := hstart
      have hlt : rest.length < (old ++ rest).length := by simpa using List.length_pos_iff.2 hne
      rw [doubled_append, doubled_of_not_mem hold, replaceFrom_append_self hne, replaceFrom_append_self hne,
        doubled_append, doubled_of_not_mem hnew, ih _ hlt rest rfl]
    · cases cs with
      | nil => rfl
      | cons c cs =>
        have hrest := ih cs.length (by simp) cs rfl
        by_cases hc : c = mark
        · -- a text without the mark does not begin with it
          subst hc
          have hmark : ∀ more, ¬ old <+: c :: more := by
            rintro more ⟨after, heq⟩
            obtain ⟨o, old, rfl⟩ := List.exists_cons_of_ne_nil hne
            exact hold (by simp [(List.cons.inj heq).1])
          rw [doubled_cons_self, replaceFrom_cons_of_not_isPrefix (hmark _), replaceFrom_cons_of_not_isPrefix (hmark _),
            replaceFrom_cons_of_not_isPrefix (hmark _), doubled_cons_self, hrest]
        · have hdoubled : ¬ old <+: c :: doubled mark cs := by
            rw [← doubled_cons_of_ne hc]
            exact fun h => hstart (isPrefix_of_isPrefix_doubled hold h)
          rw [doubled_cons_of_ne hc, replaceFrom_cons_of_not_isPrefix hdoubled, replaceFrom_cons_of_not_isPrefix hstart,
            doubled_cons_of_ne hc, hrest]

end WarehouseMigration.Text

namespace WarehouseMigration.Header

open Text.Template

/-! ### Parts -/

/-- The text of a message: the mark `/n` breaks the line. -/
def messageText (message : String) : String := Text.replace message "/n" "\n        "

/-- The text of a part, where the lines are counted from one and moved down by a header. -/
def Part.text (shift : Int) : Part → List Char
  | plain text => text.toList
  | message text => (messageText text).toList
  | line n => (Value.intText (shift + n + 1)).toList

theorem toList_messageTemplate (message : String) :
    (messageTemplate message).toList = escaped (messageText message).toList := by
  have hslash : ∀ cs, Text.replaceChars "/n".toList "\n        ".toList cs =
      Text.replaceFrom "/n".toList "\n        ".toList 0 cs := fun _ => rfl
  have hopen : ∀ cs, Text.replaceChars "\x7b".toList "\x7b\x7b".toList cs = Text.doubled '{' cs :=
    fun _ => Text.replaceChars_double
  have hclose : ∀ cs, Text.replaceChars "\x7d".toList "\x7d\x7d".toList cs = Text.doubled '}' cs :=
    fun _ => Text.replaceChars_double
  simp only [messageTemplate, messageText, Text.replace, String.toList_ofList, hopen, hclose, hslash, escaped]
  rw [Text.replaceFrom_doubled (by decide) (by decide) (by decide),
    Text.replaceFrom_doubled (by decide) (by decide) (by decide)]

def Braceless (s : String) : Prop := ∀ c ∈ s.toList, isBrace c = false

theorem braceless_of_all {s : String} (h : s.toList.all (fun c => !isBrace c) = true) : Braceless s :=
  fun c hc => by simpa using List.all_eq_true.1 h c hc

private theorem braceless_append {s s' : String} : Braceless (s ++ s') ↔ Braceless s ∧ Braceless s' := by
  simp [Braceless, or_imp, forall_and]

private theorem not_isBrace_of_number {c : Char} (h : c = '-' ∨ c.isDigit = true) : isBrace c = false := by
  by_contra hbrace
  exact ne_of_number (by simpa using hbrace) h rfl

private theorem braceless_intText (n : Int) : Braceless (Value.intText n) :=
  fun _ hc => not_isBrace_of_number (of_mem_intText hc)

private theorem braceless_toString (n : Nat) : Braceless (toString n) := by
  intro c hc
  rw [Nat.toString_eq_ofList_toDigits, String.toList_ofList] at hc
  exact not_isBrace_of_number (.inr (Nat.isDigit_of_mem_toDigits (by decide) (by decide) hc))

def Part.IsPlain : Part → Prop
  | plain text => Braceless text
  | _ => True

@[simp] theorem isPlain_plain {s : String} : (Part.plain s).IsPlain ↔ Braceless s := Iff.rfl

@[simp] theorem isPlain_message (message : String) : (Part.message message).IsPlain := trivial

@[simp] theorem isPlain_line (n : Int) : (Part.line n).IsPlain := trivial

def Part.Fits (p : Part) : Prop := ∀ n ∈ p.line?, 0 ≤ n ∧ n < indexBound

private theorem isName_tableName : IsName tableName.toList where
  inhabited := by decide
  letters := List.all_eq_true.1 (by decide)

variable {t : Table} {shift : Int} {p : Part} {ps : List Part} {rest out : List Char}

private theorem fills_part_iff (hname : t.name = tableName) (hplain : p.IsPlain)
    (hline : ∀ n ∈ p.line?, t.entries.lookup n = some (shift + n + 1)) :
    Fills t (p.template ++ rest) out ↔ p.Fits ∧ ∃ out', out = p.text shift ++ out' ∧ Fills t rest out' := by
  cases p with
  | plain text =>
    have hfits : (Part.plain text).Fits := by rintro n ⟨⟩
    have htemplate : (Part.plain text).template = escaped text.toList := (escaped_of_forall hplain).symm
    rw [htemplate, fills_escaped_iff]
    exact (and_iff_right hfits).symm
  | message text =>
    have hfits : (Part.message text).Fits := by rintro n ⟨⟩
    rw [Part.template, toList_messageTemplate, fills_escaped_iff]
    exact (and_iff_right hfits).symm
  | line n =>
    have hfits : (Part.line n).Fits ↔ 0 ≤ n ∧ n < indexBound := by simp [Part.Fits, Part.line?]
    have htemplate : (Part.line n).template ++ rest =
        '{' :: (t.name.toList ++ '[' :: (Value.intText n).toList ++ "]\x7d".toList ++ rest) := by
      simp [Part.template, hname]
    rw [htemplate, fills_entry_iff (hname ▸ isName_tableName), hfits, hline n rfl]
    simp [Part.text]

/-- A list of parts is filled in with their texts if their line numbers can be read, and else not at all. -/
theorem fills_parts_iff (hname : t.name = tableName) (hplain : ∀ p ∈ ps, p.IsPlain)
    (hline : ∀ n ∈ ps.filterMap Part.line?, t.entries.lookup n = some (shift + n + 1)) :
    Fills t (ps.flatMap Part.template) out ↔ (∀ p ∈ ps, p.Fits) ∧ out = ps.flatMap (Part.text shift) := by
  induction ps generalizing out with
  | nil =>
    simp only [List.flatMap_nil, List.not_mem_nil, false_imp_iff, implies_true, true_and]
    constructor
    · rintro ⟨⟩
      rfl
    · rintro rfl
      exact .nil
  | cons p ps ih =>
    obtain ⟨hfirst, hothers⟩ := List.forall_mem_cons.1 hplain
    have hfirstLine : ∀ n ∈ p.line?, t.entries.lookup n = some (shift + n + 1) :=
      fun n hn => hline n (List.mem_filterMap.2 ⟨p, List.mem_cons_self, hn⟩)
    have hotherLines : ∀ n ∈ ps.filterMap Part.line?, t.entries.lookup n = some (shift + n + 1) := by
      intro n hn
      obtain ⟨q, hq, hqn⟩ := List.mem_filterMap.1 hn
      exact hline n (List.mem_filterMap.2 ⟨q, List.mem_cons_of_mem _ hq, hqn⟩)
    rw [List.flatMap_cons, fills_part_iff hname hfirst hfirstLine, List.forall_mem_cons, List.flatMap_cons, and_assoc]
    simp only [ih hothers hotherLines]
    constructor
    · rintro ⟨hp, out', rfl, hps, rfl⟩
      exact ⟨hp, hps, rfl⟩
    · rintro ⟨hp, hps, rfl⟩
      exact ⟨hp, _, rfl, hps, rfl⟩

/-! ### Headers -/

private theorem isPlain_position (pos : Position) : ∀ p ∈ position pos, p.IsPlain := by
  have hopen : Braceless "[" := braceless_of_all (by decide)
  have hcolon : Braceless ":" := braceless_of_all (by decide)
  have hclose : Braceless "]" := braceless_of_all (by decide)
  simp [position, braceless_append, braceless_intText, hopen, hcolon, hclose]

private theorem isPlain_positions (problems : List Problem) : ∀ place ∈ positions problems, ∀ p ∈ place, p.IsPlain := by
  intro place hplace
  obtain ⟨problem, -, hsome⟩ := List.mem_filterMap.1 hplace
  obtain ⟨extent, -, rfl⟩ := Option.map_eq_some_iff.1 hsome
  exact isPlain_position extent.start

section Lines

variable {places : List (List Part)} (h : ∀ place ∈ places, ∀ p ∈ place, p.IsPlain)
include h

private theorem isPlain_intercalate : ∀ p ∈ List.intercalate [.plain ", "] places, p.IsPlain := by
  have hcomma : Braceless ", " := braceless_of_all (by decide)
  induction places with
  | nil => simp
  | cons place places ih =>
    obtain ⟨hfirst, hothers⟩ := List.forall_mem_cons.1 h
    cases places with
    | nil => simpa using hfirst
    | cons second places =>
      rw [List.intercalate_cons_cons, List.append_assoc, List.forall_mem_append, List.forall_mem_append]
      exact ⟨hfirst, by simpa using hcomma, ih hothers⟩

private theorem isPlain_firstLine (message : String) : ∀ p ∈ firstLine message places, p.IsPlain := by
  have hitem : Braceless "      - " := braceless_of_all (by decide)
  have hblank : Braceless " " := braceless_of_all (by decide)
  have hend : Braceless "\n" := braceless_of_all (by decide)
  unfold firstLine
  split
  case h_1 place =>
    have hplace : ∀ p ∈ place, p.IsPlain := h place List.mem_cons_self
    simpa [hitem, hblank, hend, or_imp, forall_and] using hplace
  case h_2 => simp [hitem, hend]

private theorem isPlain_repeatLine (count : Nat) : ∀ p ∈ repeatLine count places, p.IsPlain := by
  have hword : Braceless "          Occurred " := braceless_of_all (by decide)
  have htimes : Braceless " times\n" := braceless_of_all (by decide)
  have hplaces : Braceless " times at the following positions: " := braceless_of_all (by decide)
  have hend : Braceless "\n" := braceless_of_all (by decide)
  unfold repeatLine
  split
  · have hlist := isPlain_intercalate h
    have hline : Braceless ("          Occurred " ++ toString count ++ " times at the following positions: ") := by
      simp only [braceless_append]
      exact ⟨⟨hword, braceless_toString count⟩, hplaces⟩
    rw [List.cons_append, List.forall_mem_cons, List.forall_mem_append]
    exact ⟨hline, hlist, by simpa using hend⟩
  · split
    · have hline : Braceless ("          Occurred " ++ toString count ++ " times\n") := by
        simp only [braceless_append]
        exact ⟨⟨hword, braceless_toString count⟩, htimes⟩
      simpa using hline
    · simp

end Lines

private theorem isPlain_entries (messages : List (String × List Problem)) : ∀ p ∈ entries messages, p.IsPlain := by
  intro p hp
  obtain ⟨e, -, hp⟩ := List.mem_flatMap.1 hp
  rcases List.mem_append.1 hp with hp | hp
  · exact isPlain_firstLine (isPlain_positions e.2) e.1 p hp
  · exact isPlain_repeatLine (isPlain_positions e.2) e.2.length p hp

private theorem isPlain_warnings (messages : Option (List (String × List Problem))) :
    ∀ p ∈ warnings messages, p.IsPlain := by
  have hheading : Braceless "\n    The following warnings were found while transpiling:\n" :=
    braceless_of_all (by decide)
  cases messages with
  | none => simp [warnings]
  | some messages => exact List.forall_mem_cons.2 ⟨hheading, isPlain_entries messages⟩

private theorem isPlain_closing (unparsed : Bool) : ∀ p ∈ closing unparsed, p.IsPlain := by
  have hend : Braceless "*/\n" := braceless_of_all (by decide)
  have hnote : Braceless ("\n\n    Parsing errors prevented the converter from translating the input query.\n" ++
      "    We reproduce the input query unchanged below.\n\n") :=
    braceless_append.2 ⟨braceless_of_all (by decide), braceless_of_all (by decide)⟩
  unfold closing
  split
  · exact List.forall_mem_cons.2 ⟨hnote, by simpa using hend⟩
  · simpa using hend

private theorem exists_parts (path : String) (problems : List Problem) : ∃ (words : String) (others : List Part),
    parts path problems = .plain (words ++ path ++ "\n") :: others ∧ Braceless words ∧ ∀ p ∈ others, p.IsPlain := by
  have hrest : ∀ p ∈ warnings (messagesFor .warning problems) ++
      closing (((shownFor .error problems).getD []).any (·.stage == .parsing)), p.IsPlain :=
    List.forall_mem_append.2 ⟨isPlain_warnings _, isPlain_closing _⟩
  rw [parts, List.append_assoc]
  cases messagesFor .error problems with
  | none => exact ⟨"/*\n    Successfully transpiled from ", _, rfl, braceless_of_all (by decide), by simpa using hrest⟩
  | some messages =>
    have hheading : Braceless "\n    The following errors were found while transpiling:\n" :=
      braceless_of_all (by decide)
    refine ⟨"/*\n    Failed transpilation of ", _, rfl, braceless_of_all (by decide), ?_⟩
    exact List.forall_mem_append.2 ⟨List.forall_mem_cons.2 ⟨hheading, isPlain_entries messages⟩, hrest⟩

/-- The header as it should be: the texts of its parts. -/
def document (path : String) (problems : List Problem) : String :=
  String.ofList ((parts path problems).flatMap (Part.text (height path problems)))

def lineTable (path : String) (problems : List Problem) : Table :=
  ⟨tableName, (referredLines path problems).map fun line => (line, (height path problems : Int) + line + 1)⟩

private theorem lookup_lineTable {path : String} {problems : List Problem} {n : Int}
    (h : n ∈ (parts path problems).filterMap Part.line?) :
    (lineTable path problems).entries.lookup n = some ((height path problems : Int) + n + 1) := by
  have hkeys : ((lineTable path problems).entries.map Prod.fst).Nodup := by
    rw [lineTable, List.map_map]
    simpa [Function.comp_def, referredLines] using Sequence.nodup_eraseDups _
  refine (Sequence.mem_iff_lookup hkeys).1 (List.mem_map.2 ⟨n, ?_, rfl⟩)
  simpa [referredLines] using h

theorem make_eq_ok_iff {path : String} {problems : List Problem} {text : List Char} :
    make path problems = .ok (String.ofList text) ↔ Fills (lineTable path problems) (template path problems) text := by
  rw [← fill_eq_ok_iff, make, Outcome.bind_eq_ok_iff]
  change (∃ filled, fill (lineTable path problems) (template path problems) = .ok filled ∧
    Except.ok (String.ofList filled) = _) ↔ _
  simp [String.ofList_inj]

theorem forall_fits_iff {path : String} {problems : List Problem} :
    (∀ p ∈ parts path problems, p.Fits) ↔ ∀ n ∈ referredLines path problems, 0 ≤ n ∧ n < indexBound := by
  simp only [referredLines, List.mem_eraseDups, List.mem_filterMap]
  constructor
  · rintro h n ⟨p, hp, hn⟩
    exact h p hp n hn
  · intro h p hp n hn
    exact h n ⟨p, hp, hn⟩

theorem fills_template_iff {path : String} (hpath : Braceless path) {problems : List Problem} {text : List Char} :
    Fills (lineTable path problems) (template path problems) text ↔
      (∀ p ∈ parts path problems, p.Fits) ∧
        text = (parts path problems).flatMap (Part.text (height path problems)) := by
  obtain ⟨words, others, hparts, hwords, hothers⟩ := exists_parts path problems
  refine fills_parts_iff rfl ?_ fun n hn => lookup_lineTable hn
  rw [hparts, List.forall_mem_cons, isPlain_plain, braceless_append, braceless_append]
  exact ⟨⟨⟨hwords, hpath⟩, braceless_of_all (by decide)⟩, hothers⟩

/-- The header is what it should be if and only if the path has no braces and all line numbers can be read. -/
theorem make_eq_document_iff (path : String) (problems : List Problem) :
    make path problems = .ok (document path problems) ↔
      Braceless path ∧ ∀ n ∈ referredLines path problems, 0 ≤ n ∧ n < indexBound := by
  obtain ⟨words, others, hparts, hwords, -⟩ := exists_parts path problems
  rw [document, make_eq_ok_iff, ← forall_fits_iff]
  constructor
  · intro h
    have hpath : Braceless path := by
      rw [template, hparts, List.flatMap_cons, List.flatMap_cons] at h
      simp only [Part.template, Part.text, String.toList_append, List.append_assoc] at h
      rw [← escaped_of_forall hwords, fills_escaped_iff, escaped_of_forall hwords] at h
      obtain ⟨out, hout, h⟩ := h
      rw [← List.append_cancel_left hout] at h
      exact h.not_isBrace (c := '\n') isName_tableName (by decide)
    exact ⟨hpath, ((fills_template_iff hpath).1 h).1⟩
  · rintro ⟨hpath, hfits⟩
    exact (fills_template_iff hpath).2 ⟨hfits, rfl⟩

end WarehouseMigration.Header
