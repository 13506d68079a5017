import WarehouseMigration.Proofs.Session.Calls
import WarehouseMigration.Proofs.Text.Doubling
import WarehouseMigration.Proofs.Text.Removal
import WarehouseMigration.Transpile.Validation

/-!
# Variables in queries to be explained

Before a query is explained, each reference to a variable is to be put in back quotes: `quoted` does this for exactly
the references, and leaves all else as it is.  What is sent instead is made by three replacements one after the other
(`marked`, then halved back quotes), which look at the opening and the closing sign of a reference separately.  The
two agree exactly for texts in which every opening sign begins a reference, and a closing brace stands directly before
an opening sign exactly if it closes no reference (`Paired`, `sent_eq_quoted_iff`).
-/

namespace WarehouseMigration.Transpile.Validation

open Text

variable {c : Char} {cs rest name behind : List Char}

abbrev backQuote : Char := '\x60'

/-! ### References -/

def NoBrace (cs : List Char) : Prop := '{' ∉ cs ∧ '}' ∉ cs

/-- The sign that opens a reference stands here. -/
abbrev Opens (cs : List Char) : Prop := ['$', '{'] <+: cs

private theorem opens_iff : Opens cs ↔ ∃ rest, cs = '$' :: '{' :: rest := by
  simp only [Opens, List.prefix_iff_exists_append_eq, List.cons_append, List.nil_append, eq_comm]

private theorem opens_cons_iff : Opens (c :: rest) ↔ c = '$' ∧ rest.head? = some '{' := by
  cases rest <;> simp [Opens, eq_comm]

def isBrace (c : Char) : Bool := c = '{' || c = '}'

def beginsReference (cs : List Char) : Bool :=
  ['$', '{'].isPrefixOf cs && (cs.drop 2).find? isBrace == some '}'

/-- A text with each reference in back quotes, and without the sign for it; `inside` tells whether one is in a
reference. -/
def quotedFrom (inside : Bool) : List Char → List Char
  | [] => []
  | c :: rest =>
    if inside then if c = '}' then c :: backQuote :: quotedFrom false rest else c :: quotedFrom true rest
    else if beginsReference (c :: rest) then backQuote :: quotedFrom true rest
    else c :: quotedFrom false rest

def quoted (cs : List Char) : List Char := quotedFrom false cs

private theorem noBrace_iff : NoBrace cs ↔ ∀ c ∈ cs, isBrace c = false := by
  simp only [NoBrace, isBrace, Bool.or_eq_false_iff, decide_eq_false_iff_not]
  grind

private theorem beginsReference_iff :
    beginsReference cs = true ↔ ∃ name behind, NoBrace name ∧ cs = '$' :: '{' :: (name ++ '}' :: behind) := by
  rw [beginsReference, Bool.and_eq_true, List.isPrefixOf_iff_prefix, beq_iff_eq, List.find?_eq_some_iff_append]
  constructor
  · rintro ⟨⟨rest, rfl⟩, -, name, behind, hrest, hname⟩
    refine ⟨name, behind, noBrace_iff.2 (by simpa using hname), ?_⟩
    rw [← hrest]
    rfl
  · rintro ⟨name, behind, hname, rfl⟩
    refine ⟨⟨_, rfl⟩, by decide, name, behind, rfl, ?_⟩
    simpa using noBrace_iff.1 hname

private theorem quotedFrom_inside (h : NoBrace name) (behind : List Char) :
    quotedFrom true (name ++ '}' :: behind) = name ++ '}' :: backQuote :: quoted behind := by
  induction name with
  | nil => rfl
  | cons c name ih =>
    have hc : c ≠ '}' := fun heq => h.2 (by simp [heq])
    have hname : NoBrace name := ⟨fun hm => h.1 (by simp [hm]), fun hm => h.2 (by simp [hm])⟩
    rw [List.cons_append, quotedFrom, if_pos rfl, if_neg hc, ih hname]
    rfl

private theorem quoted_reference (h : NoBrace name) (behind : List Char) :
    quoted ('$' :: '{' :: (name ++ '}' :: behind)) = backQuote :: '{' :: (name ++
        '}' :: backQuote :: quoted behind) := by
  rw [quoted, quotedFrom, if_neg Bool.false_ne_true, if_pos (beginsReference_iff.2 ⟨name, behind, h, rfl⟩), quotedFrom,
    if_pos rfl, if_neg (by decide), quotedFrom_inside h]

/-- All else stays as it is. -/
private theorem quoted_cons (h : beginsReference (c :: rest) = false) : quoted (c :: rest) = c :: quoted rest := by
  rw [quoted, quotedFrom, if_neg Bool.false_ne_true, h, if_neg Bool.false_ne_true]
  rfl

private theorem quoted_cons_of_not_opens (h : ¬ Opens (c :: rest)) : quoted (c :: rest) = c :: quoted rest := by
  refine quoted_cons (Bool.eq_false_iff.2 fun href => h ?_)
  obtain ⟨name, behind, -, heq⟩ := beginsReference_iff.1 href
  exact ⟨_, heq.symm⟩

private theorem head?_quoted (h : ¬ Opens cs) : (quoted cs).head? = cs.head? := by
  cases cs with
  | nil => rfl
  | cons c rest =>
    rw [quoted_cons_of_not_opens h]
    rfl

private theorem head?_quoted_of_opens (h : Opens cs) : (quoted cs).head? ≠ some '{' := by
  obtain ⟨rest, rfl⟩ := opens_iff.1 h
  rw [quoted, quotedFrom, if_neg Bool.false_ne_true]
  split <;> simp [backQuote]

/-! ### Three replacements -/

/-- A text with a back quote at each opening sign and behind each closing brace. -/
def marked (cs : List Char) : List Char :=
  (replaceFrom ['$', '{'] [backQuote, '{'] 0 cs).flatMap fun c => if c = '}' then ['}', backQuote] else [c]

/-- The text that is sent: two back quotes that meet have become one. -/
def sent (cs : List Char) : List Char := halved backQuote (marked cs)

private theorem explained_eq (sql : String) : explained sql = "EXPLAIN " ++ String.ofList (sent sql.toList) := by
  have hopen : replaceChars ['$', '{'] [backQuote, '{'] sql.toList =
      replaceFrom ['$', '{'] [backQuote, '{'] 0 sql.toList :=
    rfl
  have hclose : ∀ cs, replaceChars ['}'] ['}', backQuote] cs = replaceFrom ['}'] ['}', backQuote] 0 cs := fun _ => rfl
  simp only [explained, Text.replace, String.toList_ofList]
  change "EXPLAIN " ++ String.ofList (replaceChars [backQuote, backQuote] [backQuote]
    (replaceChars ['}'] ['}', backQuote] (replaceChars ['$', '{'] [backQuote, '{'] sql.toList))) = _
  rw [replaceChars_halve, hopen, hclose, replaceFrom_single, sent, marked]

private theorem marked_open (rest : List Char) : marked ('$' :: '{' :: rest) = backQuote :: '{' :: marked rest := rfl

private theorem marked_close (rest : List Char) : marked ('}' :: rest) = '}' :: backQuote :: marked rest := rfl

private theorem marked_cons (h : ¬ Opens (c :: rest)) (hc : c ≠ '}') : marked (c :: rest) = c :: marked rest := by
  have hstart : ¬ ['$', '{'].isPrefixOf (c :: rest) = true := fun hp => h (List.isPrefixOf_iff_prefix.1 hp)
  rw [marked, replaceFrom, if_neg hstart, List.flatMap_cons, if_neg hc]
  rfl

/-- Only an opening sign makes a back quote the first character. -/
private theorem head?_marked (h : ¬ Opens cs) : (marked cs).head? = cs.head? := by
  cases cs with
  | nil => rfl
  | cons c rest =>
    by_cases hc : c = '}'
    · subst hc
      rw [marked_close]
      rfl
    · rw [marked_cons h hc]
      rfl

private theorem sent_open (rest : List Char) : sent ('$' :: '{' :: rest) = backQuote :: '{' :: sent rest := by
  have hhead : ∀ d, ('{' :: marked rest).head? = some d → d ≠ backQuote := by
    rintro d ⟨⟩
    decide
  rw [sent, marked_open, halved_cons_of_head_ne _ hhead, halved_cons_of_ne (by decide), sent]

/-- The back quotes of a closing brace and of an opening sign behind it become one. -/
private theorem sent_close_of_opens (h : Opens rest) : sent ('}' :: rest) = '}' :: sent rest := by
  obtain ⟨behind, rfl⟩ := opens_iff.1 h
  rw [sent_open, sent, marked_close, marked_open, halved_cons_of_ne (by decide), halved_pair,
    halved_cons_of_ne (by decide), sent]

private theorem sent_close (h : ¬ Opens rest) (hquote : backQuote ∉ rest) :
    sent ('}' :: rest) = '}' :: backQuote :: sent rest := by
  have hhead : ∀ d, (marked rest).head? = some d → d ≠ backQuote := by
    rintro d hd rfl
    rw [head?_marked h] at hd
    exact hquote (List.mem_of_mem_head? hd)
  rw [sent, marked_close, halved_cons_of_ne (by decide), halved_cons_of_head_ne _ hhead, sent]

private theorem sent_cons (h : ¬ Opens (c :: rest)) (hc : c ≠ '}') (hquote :
    c ≠ backQuote) : sent (c :: rest) = c :: sent rest := by
  rw [sent, marked_cons h hc, halved_cons_of_ne hquote, sent]

/-- In the name of a reference nothing is changed. -/
private theorem sent_name (h : NoBrace name) (hquote : backQuote ∉ name) (behind : List Char) :
    sent (name ++ '}' :: behind) = name ++ sent ('}' :: behind) := by
  induction name with
  | nil => rfl
  | cons c name ih =>
    have hname : NoBrace name := ⟨fun hm => h.1 (by simp [hm]), fun hm => h.2 (by simp [hm])⟩
    have hopens : ¬ Opens (c :: (name ++ '}' :: behind)) := by
      rw [opens_cons_iff]
      cases name with
      | nil => simp
      | cons d name => simpa using fun _ heq => h.1 (by simp [heq])
    rw [List.cons_append, sent_cons hopens (fun heq => h.2 (by simp [heq])) (fun heq => hquote (by simp [heq])),
      ih hname (fun hm => hquote (by simp [hm]))]
    rfl

/-! ### Texts for which the replacements do what they are meant for -/

/-- A reference is open at the end of a text, so that a brace closes it. -/
def Closes (front : List Char) : Prop := ∃ before name, NoBrace name ∧ front = before ++ '$' :: '{' :: name

/-- Every opening sign begins a reference, and a closing brace stands directly before an opening sign exactly if it
closes no reference. -/
structure Paired (cs : List Char) : Prop where
  opening : ∀ front back, cs = front ++ '$' :: '{' :: back → ∃ name behind, NoBrace name ∧ back = name ++ '}' :: behind
  closing : ∀ front back, cs = front ++ '}' :: back → (Opens back ↔ ¬ Closes front)

/-- Behind a closing brace only what follows it matters. -/
private theorem closes_behind_iff {front : List Char} (w : List Char) : Closes (w ++ '}' :: front) ↔ Closes front := by
  constructor
  · rintro ⟨before, name, hname, heq⟩
    rcases List.append_eq_append_iff.1 heq with ⟨a, rfl, hfront⟩ | ⟨a, rfl, hname'⟩
    · rcases List.cons_eq_append_iff.1 hfront with ⟨-, h⟩ | ⟨a, rfl, rfl⟩
      · simp at h
      · exact ⟨a, name, hname, rfl⟩
    · have hmem : '}' ∈ '$' :: '{' :: name := by rw [hname']; simp
      exact absurd (by simpa using hmem) hname.2
  · rintro ⟨before, name, hname, rfl⟩
    exact ⟨w ++ '}' :: before, name, hname, by simp⟩

private theorem closes_cons_iff {front : List Char} (h : ¬ Opens (c :: front)) : Closes
    (c :: front) ↔ Closes front := by
  constructor
  · rintro ⟨before, name, hname, heq⟩
    rcases List.cons_eq_append_iff.1 heq with ⟨-, hopens⟩ | ⟨before, rfl, rfl⟩
    · exact absurd ⟨name, hopens⟩ h
    · exact ⟨before, name, hname, rfl⟩
  · rintro ⟨before, name, hname, rfl⟩
    exact ⟨c :: before, name, hname, rfl⟩

private theorem not_closes_nil : ¬ Closes [] := by
  rintro ⟨before, name, -, heq⟩
  simp at heq

private theorem paired_nil : Paired [] where
  opening := by simp
  closing := by simp

private theorem Paired.of_append {w : List Char} (h : Paired (w ++ '}' :: rest)) : Paired rest where
  opening := fun front back heq => h.opening (w ++ '}' :: front) back (by simp [heq])
  closing := fun front back heq => by
    rw [h.closing (w ++ '}' :: front) back (by simp [heq]), closes_behind_iff]

private theorem paired_close_iff : Paired ('}' :: rest) ↔ Opens rest ∧ Paired rest := by
  constructor
  · intro h
    exact ⟨(h.closing [] rest rfl).2 not_closes_nil, h.of_append (w := [])⟩
  · rintro ⟨hopens, h⟩
    refine ⟨fun front back heq => ?_, fun front back heq => ?_⟩
    · rcases List.cons_eq_append_iff.1 heq with ⟨-, hne⟩ | ⟨front, rfl, hrest⟩
      · simp at hne
      · exact h.opening front back hrest
    · rcases List.cons_eq_append_iff.1 heq with ⟨rfl, hback⟩ | ⟨front, rfl, hrest⟩
      · cases hback
        exact iff_of_true hopens not_closes_nil
      · rw [h.closing front back hrest]
        exact not_congr (closes_behind_iff []).symm

private theorem paired_cons_iff (h : ¬ Opens (c :: rest)) (hc : c ≠ '}') : Paired (c :: rest) ↔ Paired rest := by
  have hfront : ∀ front back, rest = front ++ '}' :: back → (Closes (c :: front) ↔ Closes front) := by
    rintro front back rfl
    exact closes_cons_iff fun hopens => h (hopens.trans ⟨'}' :: back, rfl⟩)
  constructor
  · intro hp
    refine ⟨fun front back heq => hp.opening (c :: front) back (by simp [heq]), fun front back heq => ?_⟩
    rw [hp.closing (c :: front) back (by simp [heq]), hfront front back heq]
  · intro hp
    refine ⟨fun front back heq => ?_, fun front back heq => ?_⟩
    · rcases List.cons_eq_append_iff.1 heq with ⟨-, hopens⟩ | ⟨front, rfl, hrest⟩
      · exact absurd ⟨back, hopens⟩ h
      · exact hp.opening front back hrest
    · rcases List.cons_eq_append_iff.1 heq with ⟨-, hclose⟩ | ⟨front, rfl, hrest⟩
      · cases hclose
        exact absurd rfl hc
      · rw [hp.closing front back hrest, hfront front back hrest]

/-- A character that a text does not have is found behind it only. -/
private theorem eq_or_exists_of_append_eq {w front back : List Char} (hc : c ∉ w)
    (h : w ++ '}' :: behind = front ++ c :: back) :
    (front = w ∧ c = '}' ∧ back = behind) ∨ ∃ more, front = w ++ '}' :: more ∧ behind = more ++ c :: back := by
  rcases List.append_eq_append_iff.1 h with ⟨more, rfl, hmore⟩ | ⟨more, rfl, hmore⟩
  · rcases List.cons_eq_append_iff.1 hmore with ⟨rfl, heq⟩ | ⟨more, rfl, hbehind⟩
    · cases heq
      exact .inl ⟨List.append_nil _, rfl, rfl⟩
    · exact .inr ⟨more, rfl, hbehind⟩
  · rcases List.cons_eq_append_iff.1 hmore with ⟨rfl, heq⟩ | ⟨more, rfl, -⟩
    · cases heq
      exact .inl ⟨(List.append_nil _).symm, rfl, rfl⟩
    · simp at hc

private theorem paired_reference_iff (hname : NoBrace name) :
    Paired ('$' :: '{' :: (name ++ '}' :: behind)) ↔ ¬ Opens behind ∧ Paired behind := by
  have hcloses : Closes ('$' :: '{' :: name) := ⟨[], name, hname, rfl⟩
  constructor
  · intro h
    refine ⟨fun hopens => (h.closing ('$' :: '{' :: name) behind rfl).1 hopens hcloses, ?_⟩
    exact h.of_append (w := '$' :: '{' :: name)
  · rintro ⟨hopens, h⟩
    refine ⟨fun front back heq => ?_, fun front back heq => ?_⟩
    · rcases front with - | ⟨a, - | ⟨b, front⟩⟩
      · cases heq
        exact ⟨name, behind, hname, rfl⟩
      · simp at heq
      · simp only [List.cons_append, List.cons.injEq] at heq
        have hrest : name ++ '}' :: behind = (front ++ ['$']) ++ '{' :: back := by rw [heq.2.2]; simp
        rcases eq_or_exists_of_append_eq hname.1 hrest with ⟨-, hbrace, -⟩ | ⟨more, hfront, hbehind⟩
        · cases hbrace
        · rcases List.eq_nil_or_concat more with rfl | ⟨more, d, rfl⟩
          · simpa using (List.append_inj' hfront rfl).2
          · have hlast : front ++ ['$'] = (name ++ '}' :: more) ++ [d] := by simpa using hfront
            cases (List.append_inj' hlast rfl).2
            exact h.opening more back (by simpa using hbehind)
    · have hrest : ('$' :: '{' :: name) ++ '}' :: behind = front ++ '}' :: back := heq
      rcases eq_or_exists_of_append_eq (by simpa using hname.2) hrest with ⟨rfl, -, rfl⟩ | ⟨more, rfl, hbehind⟩
      · exact iff_of_false hopens (not_not_intro hcloses)
      · rw [h.closing more back hbehind, closes_behind_iff]

private theorem sent_ne_quoted_of_unclosed (hopens : Opens cs) (h : ¬ beginsReference cs = true) :
    sent cs ≠ quoted cs ∧ ¬ Paired cs := by
  obtain ⟨rest, rfl⟩ := opens_iff.1 hopens
  refine ⟨?_, fun hpaired => h ?_⟩
  · rw [sent_open, quoted_cons (Bool.eq_false_iff.2 h)]
    simp [backQuote]
  · obtain ⟨name, behind, hname, rfl⟩ := hpaired.opening [] rest rfl
    exact beginsReference_iff.2 ⟨name, behind, hname, rfl⟩

private theorem sent_reference_iff (hname : NoBrace name) (h : backQuote ∉ name ++ behind) :
    sent ('$' :: '{' :: (name ++ '}' :: behind)) = quoted ('$' :: '{' :: (name ++ '}' :: behind)) ↔
      ¬ Opens behind ∧ sent behind = quoted behind := by
  rw [List.mem_append, not_or] at h
  rw [quoted_reference hname, sent_open, sent_name hname h.1]
  by_cases hopens : Opens behind
  · refine iff_of_false (fun heq => head?_quoted_of_opens hopens ?_) (fun hand => hand.1 hopens)
    obtain ⟨rest, rfl⟩ := opens_iff.1 hopens
    rw [sent_close_of_opens hopens, sent_open] at heq
    simp only [List.cons.injEq, true_and, List.append_cancel_left_eq] at heq
    rw [← heq]
    rfl
  · rw [sent_close hopens h.2]
    simp [hopens]

private theorem sent_close_iff (h : backQuote ∉ rest) :
    sent ('}' :: rest) = quoted ('}' :: rest) ↔ Opens rest ∧ sent rest = quoted rest := by
  rw [quoted_cons_of_not_opens (by simp)]
  by_cases hopens : Opens rest
  · rw [sent_close_of_opens hopens]
    simp [hopens]
  · refine iff_of_false (fun heq => ?_) (fun hand => hopens hand.1)
    rw [sent_close hopens h, List.cons.injEq] at heq
    have hhead := head?_quoted hopens
    rw [← heq.2] at hhead
    exact h (List.mem_of_mem_head? hhead.symm)

/-- What is sent is the text with each reference in back quotes exactly if the text is paired. -/
theorem sent_eq_quoted_iff (h : backQuote ∉ cs) : sent cs = quoted cs ↔ Paired cs := by
  induction hlength : cs.length using Nat.strongRecOn generalizing cs with
  | ind n ih =>
  by_cases href : beginsReference cs = true
  · obtain ⟨name, behind, hname, rfl⟩ := beginsReference_iff.1 href
    have hquote : backQuote ∉ name ++ behind := fun hm => h (by simp at hm ⊢; tauto)
    have hbehind := ih behind.length (by simp at hlength; omega) (fun hm => hquote (List.mem_append_right _ hm)) rfl
    rw [sent_reference_iff hname hquote, paired_reference_iff hname, hbehind]
  by_cases hopens : Opens cs
  · obtain ⟨hsent, hpaired⟩ := sent_ne_quoted_of_unclosed hopens href
    exact iff_of_false hsent hpaired
  cases cs with
  | nil => exact iff_of_true rfl paired_nil
  | cons c rest =>
    have hrest : backQuote ∉ rest := fun hm => h (List.mem_cons_of_mem _ hm)
    have hih := ih rest.length (by simp at hlength; omega) hrest rfl
    by_cases hc : c = '}'
    · subst hc
      rw [sent_close_iff hrest, paired_close_iff, hih]
    · have hquote : c ≠ backQuote := fun heq => h (heq ▸ List.mem_cons_self)
      rw [sent_cons hopens hc hquote, quoted_cons_of_not_opens hopens, paired_cons_iff hopens hc, ← hih,
        List.cons.injEq, and_iff_right rfl]

def HasReference (cs : List Char) : Prop :=
  ∃ front name behind, NoBrace name ∧ cs = front ++ '$' :: '{' :: (name ++ '}' :: behind)

/-- A text without references is left as it is. -/
private theorem quoted_of_not_hasReference (h : ¬ HasReference cs) : quoted cs = cs := by
  induction cs with
  | nil => rfl
  | cons c rest ih =>
    have hstart : beginsReference (c :: rest) = false := by
      refine Bool.eq_false_iff.2 fun href => ?_
      obtain ⟨name, behind, hname, heq⟩ := beginsReference_iff.1 href
      exact h ⟨[], name, behind, hname, heq⟩
    have hrest : ¬ HasReference rest := by
      rintro ⟨front, name, behind, hname, rfl⟩
      exact h ⟨c :: front, name, behind, hname, rfl⟩
    rw [quoted_cons hstart, ih hrest]

private theorem paired_iff_of_not_hasReference (h : ¬ HasReference cs) :
    Paired cs ↔ '}' ∉ cs ∧ ¬ ['$', '{'] <:+: cs := by
  constructor
  · intro hpaired
    have hopens : ¬ ['$', '{'] <:+: cs := by
      rintro ⟨front, back, heq⟩
      obtain ⟨name, behind, hname, rfl⟩ := hpaired.opening front back (by simpa using heq.symm)
      exact h ⟨front, name, behind, hname, by simpa using heq.symm⟩
    refine ⟨fun hmem => ?_, hopens⟩
    obtain ⟨front, back, rfl⟩ := List.append_of_mem hmem
    have hcloses : ¬ Closes front := by
      rintro ⟨before, name, -, rfl⟩
      exact hopens ⟨before, name ++ '}' :: back, by simp⟩
    have hback : Opens back := (hpaired.closing front back rfl).2 hcloses
    exact hopens (hback.isInfix.trans ⟨front ++ ['}'], [], by simp⟩)
  · rintro ⟨hclose, hopens⟩
    refine ⟨fun front back heq => absurd ⟨front, back, by simp [heq]⟩ hopens, ?_⟩
    rintro front back rfl
    simp at hclose

/-! ### What is sent -/

def explainCall (config : Config) (statement : String) : Call :=
  ⟨"fetch", [.text statement], [("catalog", config.catalog), ("schema", config.schema)], .null⟩

private theorem calls_explain (sql : String) (catalog schema : Value) (s : Session) :
    ((explain sql catalog schema).exec s).2.calls =
      s.calls ++ [⟨"fetch", [.text (explained sql)], [("catalog", catalog), ("schema", schema)], .null⟩] := by
  obtain ⟨o, answers, replies, hcall⟩ := Flow.exists_exec_call "fetch" [toValue (explained sql)]
    [("catalog", catalog), ("schema", schema)] s
  rw [explain, Flow.exec_bind_of_ok (Flow.exec_attempt _ s), hcall]
  -- nothing is called once there is an answer
  dsimp only
  split
  case h_1 _ rows =>
    split
    · rfl
    · cases exceptionIn rows.parts <;> rfl
  case h_2 => rfl
  case h_3 => rfl

private theorem calls_validate (config : Config) (sql : String) (s : Session) :
    ((validate config sql).exec s).2.calls = s.calls ++ [explainCall config (explained sql)] := by
  have hcalls := calls_explain sql config.catalog config.schema s
  rcases hexec : (explain sql config.catalog config.schema).exec s with ⟨e | answer, t⟩ <;> rw [hexec] at hcalls
  · rw [validate, Flow.exec_bind_of_error hexec]
    exact hcalls
  · rw [validate, Flow.exec_bind_of_ok hexec]
    split <;> exact hcalls

/-- What is sent for a query without back quotes is the query with each reference in back quotes exactly if the query is
paired.  In particular, a query without references is sent as it is exactly if it has neither an opening sign nor a
closing brace. -/
theorem validate_sends_quoted_iff (config : Config) {sql : String} (h : backQuote ∉ sql.toList) (s : Session) :
    (((validate config sql).exec s).2.calls =
        s.calls ++ [explainCall config ("EXPLAIN " ++ String.ofList (quoted sql.toList))] ↔ Paired sql.toList) ∧
    (¬ HasReference sql.toList →
      (((validate config sql).exec s).2.calls = s.calls ++ [explainCall config ("EXPLAIN " ++ sql)] ↔
        '}' ∉ sql.toList ∧ ¬ ['$', '{'] <:+: sql.toList)) := by
  have hsent : ((validate config sql).exec s).2.calls =
      s.calls ++ [explainCall config ("EXPLAIN " ++ String.ofList (quoted sql.toList))] ↔ Paired sql.toList := by
    rw [calls_validate, explained_eq, ← sent_eq_quoted_iff h]
    simp [explainCall, String.ofList_inj]
  refine ⟨hsent, fun hno => ?_⟩
  rw [quoted_of_not_hasReference hno, String.ofList_toList] at hsent
  rw [hsent, paired_iff_of_not_hasReference hno]

theorem validate_sends_quoted_iff_join :
    backQuote ∉ "SELECT $\x7ba\x7d FROM $\x7bb\x7d".toList ∧
    ((validate {} "SELECT $\x7ba\x7d FROM $\x7bb\x7d").exec {}).2.calls =
      [explainCall {} "EXPLAIN SELECT \x60\x7ba\x7d\x60 FROM \x60\x7bb\x7d\x60"] := by
  have hquote : backQuote ∉ "SELECT $\x7ba\x7d FROM $\x7bb\x7d".toList := by decide
  have hpaired : Paired "SELECT $\x7ba\x7d FROM $\x7bb\x7d".toList := (sent_eq_quoted_iff hquote).1 (by decide)
  exact ⟨hquote, (validate_sends_quoted_iff {} hquote {}).1.2 hpaired⟩

/-- A back quote gets into a query that has braces but no references. -/
theorem validate_changes_braces :
    quoted "SELECT '\x7b\x7d'".toList = "SELECT '\x7b\x7d'".toList ∧
    ((validate {} "SELECT '\x7b\x7d'").exec {}).2.calls = [explainCall {} "EXPLAIN SELECT '\x7b\x7d\x60'"] := by
  refine ⟨by decide, ?_⟩
  rw [calls_validate]
  rfl

end WarehouseMigration.Transpile.Validation
