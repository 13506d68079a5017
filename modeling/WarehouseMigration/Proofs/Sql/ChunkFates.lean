import Mathlib.Data.List.Forall2
import WarehouseMigration.Proofs.Session.Exec
import WarehouseMigration.Proofs.Text.Lowering
import WarehouseMigration.Sql.Engine

/-!
# What becomes of each chunk

The tokens of a script are cut into chunks behind every semicolon (`cutInto_chunks`).  When a script is transpiled
statement by statement, the chunks are parsed one after another, and what was parsed is then written one after another.
Both are the same loop (`each`), which goes through its items once and turns a refusal into a defect (`exec_each`).
So a chunk has one of three fates: it cannot be parsed, it is parsed but cannot be written (a comment counts as not
written), or it is written.  The result is read off the fates: for each chunk that was written the statement that the
grammar generated, and for every other one a defect that tells of it (`Tells`).
-/

namespace WarehouseMigration.Sql

/-! ### Chunks -/

/-- Tokens are cut into chunks: the chunks are the tokens again, none is empty, an ending token stands at the end of a
chunk only, and every chunk but the last one has it there. -/
structure CutInto (tokens : List Token) (cs : List Chunk) : Prop where
  complete : cs.flatten = tokens
  inhabited : ∀ c ∈ cs, c ≠ []
  inner : ∀ c ∈ cs, ∀ t ∈ c.dropLast, t.ends = false
  closed : ∀ c ∈ cs.dropLast, ∃ t, c.getLast? = some t ∧ t.ends = true

variable {t : Token} {tokens : List Token} {c d : Chunk} {cs others : List Chunk}

/-- An ending token in front is a chunk of its own. -/
private theorem CutInto.close (h : CutInto tokens cs) (ht : t.ends = true) : CutInto (t :: tokens) ([t] :: cs) where
  complete := by simp [h.complete]
  inhabited := List.forall_mem_cons.2 ⟨by simp, h.inhabited⟩
  inner := List.forall_mem_cons.2 ⟨by simp, h.inner⟩
  closed := by
    intro c hc
    cases cs with
    | nil => simp at hc
    | cons d others =>
      rw [List.dropLast_cons_cons] at hc
      rcases List.mem_cons.1 hc with rfl | hc
      · exact ⟨t, rfl, ht⟩
      · exact h.closed c hc

/-- Another token in front joins the first chunk. -/
private theorem CutInto.join (h : CutInto tokens (d :: others)) (ht : t.ends = false) :
    CutInto (t :: tokens) ((t :: d) :: others) where
  complete := by simp [← h.complete]
  inhabited := List.forall_mem_cons.2 ⟨by simp, (List.forall_mem_cons.1 h.inhabited).2⟩
  inner := by
    obtain ⟨hfirst, hothers⟩ := List.forall_mem_cons.1 h.inner
    refine List.forall_mem_cons.2 ⟨?_, hothers⟩
    rw [List.dropLast_cons_of_ne_nil (h.inhabited d List.mem_cons_self)]
    exact List.forall_mem_cons.2 ⟨ht, hfirst⟩
  closed := by
    intro c hc
    cases others with
    | nil => simp at hc
    | cons d' others =>
      rw [List.dropLast_cons_cons] at hc
      rcases List.mem_cons.1 hc with rfl | hc
      · obtain ⟨u, hu, hends⟩ := h.closed d (by simp)
        refine ⟨u, ?_, hends⟩
        rw [List.getLast?_cons, hu]
        rfl
      · exact h.closed c (by simp [hc])

/-- Each chunk goes up to its semicolon. -/
theorem cutInto_chunks (tokens : List Token) : CutInto tokens (chunks tokens) := by
  induction tokens with
  | nil => exact ⟨rfl, by simp [chunks], by simp [chunks], by simp [chunks]⟩
  | cons t tokens ih =>
    rw [chunks]
    by_cases ht : t.ends = true
    · rw [if_pos ht]
      exact ih.close ht
    · have hfalse : t.ends = false := by simpa using ht
      rw [if_neg ht]
      cases hrest : chunks tokens with
      | nil =>
        rw [hrest] at ih
        have hnil : tokens = [] := by simpa using ih.complete.symm
        exact ⟨by simp [hnil], by simp, by simp, by simp⟩
      | cons d others => exact (hrest ▸ ih).join hfalse

/-! ### Refusals -/

def refusals : List String := ["TokenError", "ParseError", "UnsupportedError"]

def defect? (word path text : String) (failure : Failure) : Option Defect :=
  (refusal word path text failure).map fun problem => ⟨text, problem⟩

private theorem infix_errorNotice (kind message sql : String) :
    sql.toList <:+: (Transpile.errorNotice kind message sql).toList := by
  -- the notice begins and ends with a rule, so there is no white space around it
  have hstart : "------------------------ ".toList = '-' :: "----------------------- ".toList := rfl
  have hend : " End:-------------------------".toList = " End:------------------------".toList ++ ['-'] := rfl
  have hinfix : ∀ before after : List Char,
      sql.toList <:+: Text.trim ('-' :: (before ++ sql.toList ++ after) ++ ['-']) := by
    intro before after
    rw [Text.trim_cons_append (by decide) (by decide)]
    exact ⟨'-' :: before, after ++ ['-'], by simp⟩
  rw [Transpile.errorNotice, Text.strip, String.toList_ofList]
  simp only [String.toList_append, toString, hstart, hend]
  have h := hinfix ("----------------------- ".toList ++ kind.toList ++
      " Start:------------------------\n/*\n".toList ++
    message.toList ++ "\n*/\n\n".toList ++ "/*\nOriginal Query:\n\n".toList)
    ("\n*/\n------------------------- ".toList ++ kind.toList ++ " End:------------------------".toList)
  simpa only [List.append_assoc, List.cons_append] using h

/-- A defect tells of a chunk: it has the text of the tokens, with a blank between two of them, and so has the message
of its problem. -/
structure Tells (path : String) (c : Chunk) (d : Defect) : Prop where
  sql : d.sql = Text.strip (" ".intercalate (c.map Token.text))
  path : d.problem.path = path
  stage : d.problem.stage = .parsing
  message : d.sql.toList <:+: d.problem.message.toList

private theorem exists_defect? {failure : Failure} (h : failure.isRemote refusals = true) (word path text : String) :
    ∃ problem : Problem, defect? word path text failure = some ⟨text, problem⟩ ∧ problem.path = path ∧
      problem.stage = .parsing ∧ text.toList <:+: problem.message.toList := by
  cases failure with
  | remote kind reason =>
    have hkind : kind ∈ refusals := by simpa [Failure.isRemote] using h
    simp only [refusals, List.mem_cons, List.not_mem_nil, or_false] at hkind
    rcases hkind with rfl | rfl | rfl <;> exact ⟨_, rfl, rfl, rfl, infix_errorNotice _ _ _⟩
  | _ => cases h

private theorem exists_tells {failure : Failure} (h : failure.isRemote refusals = true) (word path : String)
    (c : Chunk) : ∃ d, defect? word path c.text failure = some d ∧ Tells path c d := by
  obtain ⟨problem, hproblem, hpath, hstage, hmessage⟩ := exists_defect? h word path c.text
  exact ⟨_, hproblem, rfl, hpath, hstage, hmessage⟩

/-! ### Doing something for each item -/

/-- Something is done for each item in turn, from one session to the next, and ends with these outcomes. -/
inductive Passes {α β : Type} (step : Session → α → Outcome β → Session → Prop) :
    Session → List (α × Outcome β) → Session → Prop where
  | nil (s : Session) : Passes step s [] s
  | cons {a : α} {o : Outcome β} {done : List (α × Outcome β)} {s t u : Session} (h : step s a o t)
      (hrest : Passes step t done u) : Passes step s ((a, o) :: done) u

private theorem Passes.mono {α β : Type} {step step' : Session → α → Outcome β → Session → Prop} {s u : Session}
    {done : List (α × Outcome β)} (h : Passes step s done u)
    (hstep : ∀ x ∈ done, ∀ s t, step s x.1 x.2 t → step' s x.1 x.2 t) : Passes step' s done u := by
  induction h with
  | nil s => exact .nil s
  | cons hfirst _ ih =>
    obtain ⟨hx, hdone⟩ := List.forall_mem_cons.1 hstep
    exact .cons (hx _ _ hfirst) (ih hdone)

/-- What holds of each step holds of each item that was passed. -/
private theorem Passes.forall_mem {α β : Type} {step : Session → α → Outcome β → Session → Prop} {s u : Session}
    {done : List (α × Outcome β)} (h : Passes step s done u) {P : α × Outcome β → Prop}
    (hstep : ∀ s a o t, step s a o t → P (a, o)) : ∀ x ∈ done, P x := by
  induction h with
  | nil => simp
  | cons hfirst _ ih => exact List.forall_mem_cons.2 ⟨hstep _ _ _ _ hfirst, ih⟩

def result? {α β : Type} : α × Outcome β → Option β
  | (_, .ok b) => some b
  | (_, .error _) => none

def refused? {α β : Type} (word path : String) (text : α → String) : α × Outcome β → Option Defect
  | (_, .ok _) => none
  | (a, .error e) => defect? word path (text a) e

/-- A task for an item succeeds or is refused. -/
def Refusable {α β : Type} (act : α → Flow β) (a : α) : Prop :=
  ∀ s e t, (act a).exec s = (.error e, t) → e.isRemote refusals = true

section Each

variable {α β : Type} {word path : String} {text : α → String} {act : α → Flow β} {s u : Session}

/-- The loop does its task once for each item, in order.  It gives the results of those that succeeded and a defect for
each of those that were refused. -/
theorem exec_each (word path : String) (text : α → String) {items : List α} (hact : ∀ a ∈ items, Refusable act a)
    (s : Session) :
    ∃ (done : List (α × Outcome β)) (u : Session), done.map Prod.fst = items ∧
      Passes (fun s a o t => (act a).exec s = (o, t)) s done u ∧
      (each word path text act items).exec s =
        (.ok (done.filterMap result?, done.filterMap (refused? word path text)), u) := by
  induction items generalizing s with
  | nil => exact ⟨[], s, rfl, .nil s, rfl⟩
  | cons a items ih =>
    obtain ⟨hfirst, hrest⟩ := List.forall_mem_cons.1 hact
    rcases hexec : (act a).exec s with ⟨o, t⟩
    obtain ⟨done, u, hitems, hpasses, hdone⟩ := ih hrest t
    have hattempt : (act a).attempt.exec s = (.ok o, t) := by rw [Flow.exec_attempt, hexec]
    refine ⟨(a, o) :: done, u, by simp [hitems], .cons hexec hpasses, ?_⟩
    rw [each, Flow.exec_bind_of_ok hattempt]
    cases o with
    | ok b =>
      dsimp only
      rw [Flow.exec_bind_of_ok hdone]
      rfl
    | error e =>
      obtain ⟨problem, hdefect, -⟩ := exists_defect? (hfirst s e t hexec) word path (text a)
      have hrefused : refused? (β := β) word path text (a, .error e) = some ⟨text a, problem⟩ := hdefect
      obtain ⟨_, hproblem, heq⟩ := Option.map_eq_some_iff.1 hdefect
      cases heq
      dsimp only
      rw [hproblem]
      dsimp only
      rw [Flow.exec_bind_of_ok hdone, List.filterMap_cons_some hrefused, List.filterMap_cons_none rfl]
      rfl

end Each

/-! ### Grammars that answer -/

namespace Grammar

variable {ε : Type} {g : Grammar ε} {dialect : String}

/-- A grammar that answers: in every session the parser gives at least one statement for a chunk or refuses it, the
generator gives a text for a statement or refuses it, and the parser can be made ready again. -/
structure Answers (g : Grammar ε) : Prop where
  parse : ∀ dialect c s, c ≠ [] → (∃ e more t, (g.parse dialect c).exec s = (.ok (e :: more), t)) ∨
    ∃ f t, (g.parse dialect c).exec s = (.error f, t) ∧ f.isRemote refusals = true
  generate : ∀ dialect e s, (∃ sql t, (g.generate dialect e).exec s = (.ok sql, t)) ∨
    ∃ f t, (g.generate dialect e).exec s = (.error f, t) ∧ f.isRemote refusals = true
  reset : ∀ s, ∃ t, g.reset.exec s = (.ok (), t)

/-- The parser is given a chunk and then made ready again; it gave statements, of which the first one counts, or it
refused the chunk. -/
def Parses (g : Grammar ε) (dialect : String) (s : Session) (c : Chunk) (o : Outcome (String × ε)) (t : Session) :
    Prop :=
  ∃ u, g.reset.exec u = (.ok (), t) ∧
    match o with
    | .ok (text, e) => text = c.text ∧ ∃ more, (g.parse dialect c).exec s = (.ok (e :: more), u)
    | .error f => (g.parse dialect c).exec s = (.error f, u) ∧ f.isRemote refusals = true

/-- The generator is given a statement; it gave a text that is no comment, or it refused the statement.  A comment is
refused, too. -/
def Generates (g : Grammar ε) (dialect : String) (s : Session) (p : String × ε) (o : Outcome String) (t : Session) :
    Prop :=
  match o with
  | .ok sql => (g.generate dialect p.2).exec s = (.ok sql, t) ∧ ¬ "--".toList <+: sql.toList
  | .error f =>
    f.isRemote refusals = true ∧ ((g.generate dialect p.2).exec s = (.error f, t) ∨
      ∃ sql, (g.generate dialect p.2).exec s = (.ok sql, t) ∧ "--".toList <+: sql.toList ∧
        f = .remote "UnsupportedError" "Unsupported SQL")

private theorem Answers.parses (h : g.Answers) (hc : c ≠ []) {o : Outcome (String × ε)} {s t : Session}
    (hexec : (g.parseChunk dialect c).exec s = (o, t)) : g.Parses dialect s c o t := by
  rcases h.parse dialect c s hc with ⟨e, more, u, hparse⟩ | ⟨f, u, hparse, hf⟩
  · obtain ⟨v, hreset⟩ := h.reset u
    have hchunk : (g.parseChunk dialect c).exec s = (.ok (c.text, e), v) := by
      refine Flow.exec_ensure ?_ hreset
      rw [Flow.exec_bind_of_ok hparse]
      rfl
    cases hexec.symm.trans hchunk
    exact ⟨u, hreset, rfl, more, hparse⟩
  · obtain ⟨v, hreset⟩ := h.reset u
    cases hexec.symm.trans (Flow.exec_ensure (Flow.exec_bind_of_error hparse) hreset)
    exact ⟨u, hreset, hparse, hf⟩

private theorem Answers.generates (h : g.Answers) {p : String × ε} {o : Outcome String} {s t : Session}
    (hexec : (g.write dialect p.2).exec s = (o, t)) : g.Generates dialect s p o t := by
  rw [write] at hexec
  rcases h.generate dialect p.2 s with ⟨sql, u, hok⟩ | ⟨f, u, herror, hf⟩
  · rw [Flow.exec_bind_of_ok hok] at hexec
    split at hexec
    case isTrue hcomment =>
      cases hexec
      exact ⟨rfl, .inr ⟨sql, hok, List.isPrefixOf_iff_prefix.1 hcomment, rfl⟩⟩
    case isFalse hcomment =>
      cases hexec
      exact ⟨hok, fun hprefix => hcomment (List.isPrefixOf_iff_prefix.2 hprefix)⟩
  · rw [Flow.exec_bind_of_error herror] at hexec
    cases hexec
    exact ⟨hf, .inl herror⟩

end Grammar

/-! ### Fates -/

/-- What becomes of a chunk. -/
inductive Fate (ε : Type) where
  /-- the chunk was not parsed -/
  | unread (failure : Failure)
  /-- it was parsed, but its statement was not written -/
  | unwritten (e : ε) (failure : Failure)
  /-- its statement was written -/
  | written (e : ε) (sql : String)

namespace Fate

variable {ε : Type}

def parsed (x : Chunk × Fate ε) : Chunk × Outcome (String × ε) :=
  match x with
  | (c, unread f) => (c, .error f)
  | (c, unwritten e _) | (c, written e _) => (c, .ok (c.text, e))

def written? (x : Chunk × Fate ε) : Option ((String × ε) × Outcome String) :=
  match x with
  | (_, unread _) => none
  | (c, unwritten e f) => some ((c.text, e), .error f)
  | (c, written e sql) => some ((c.text, e), .ok sql)

def statement? (x : Chunk × Fate ε) : Option String :=
  match x with
  | (_, written _ sql) => some sql
  | _ => none

def unreadDefect? (path : String) (x : Chunk × Fate ε) : Option Defect :=
  match x with
  | (c, unread f) => defect? "error" path c.text f
  | _ => none

def unwrittenDefect? (path : String) (x : Chunk × Fate ε) : Option Defect :=
  match x with
  | (c, unwritten _ f) => defect? "Error" path c.text f
  | _ => none

def statements (fates : List (Chunk × Fate ε)) : List String := fates.filterMap statement?

def unread? (x : Chunk × Fate ε) : Option Chunk :=
  match x with
  | (c, unread _) => some c
  | _ => none

def unwritten? (x : Chunk × Fate ε) : Option Chunk :=
  match x with
  | (c, unwritten _ _) => some c
  | _ => none

/-- All other chunks: first those that were not parsed, then those that were not written. -/
def failures (fates : List (Chunk × Fate ε)) : List Chunk := fates.filterMap unread? ++ fates.filterMap unwritten?

def defects (path : String) (fates : List (Chunk × Fate ε)) : List Defect :=
  fates.filterMap (unreadDefect? path) ++ fates.filterMap (unwrittenDefect? path)

variable {fates : List (Chunk × Fate ε)} {path : String}

private theorem exists_fates {read : List (Chunk × Outcome (String × ε))} {wrote : List ((String × ε) × Outcome String)}
    (htext : ∀ x ∈ read, ∀ p, x.2 = .ok p → p.1 = x.1.text) (hwrote : wrote.map Prod.fst = read.filterMap result?) :
    ∃ fates : List (Chunk × Fate ε), fates.map parsed = read ∧ fates.filterMap written? = wrote := by
  induction read generalizing wrote with
  | nil =>
    have hnil : wrote = [] := by simpa using hwrote
    exact ⟨[], rfl, hnil.symm⟩
  | cons x read ih =>
    obtain ⟨hfirst, hrest⟩ := List.forall_mem_cons.1 htext
    obtain ⟨c, f | ⟨text, e⟩⟩ := x
    · obtain ⟨fates, hread, hwritten⟩ := ih hrest hwrote
      exact ⟨(c, unread f) :: fates, congrArg (List.cons _) hread, hwritten⟩
    · have hsame : text = c.text := hfirst _ rfl
      subst hsame
      -- what was parsed is the next thing that was written
      obtain ⟨⟨p, o⟩, others, rfl, rfl, hothers⟩ := List.map_eq_cons_iff.1 hwrote
      obtain ⟨fates, hread, hwritten⟩ := ih hrest hothers
      rcases o with f | sql
      · exact ⟨(c, unwritten e f) :: fates, congrArg (List.cons _) hread, congrArg (List.cons _) hwritten⟩
      · exact ⟨(c, written e sql) :: fates, congrArg (List.cons _) hread, congrArg (List.cons _) hwritten⟩

private theorem map_fst_parsed (fates : List (Chunk × Fate ε)) :
    (fates.map parsed).map Prod.fst = fates.map Prod.fst := by
  rw [List.map_map]
  refine List.map_congr_left ?_
  rintro ⟨c, fate⟩ -
  cases fate <;> rfl

private theorem filterMap_refused?_parsed (path : String) (fates : List (Chunk × Fate ε)) :
    (fates.map parsed).filterMap (refused? "error" path Chunk.text) = fates.filterMap (unreadDefect? path) := by
  rw [List.filterMap_map]
  congr 1
  funext ⟨c, f⟩
  cases f <;> rfl

private theorem filterMap_refused?_written? (path : String) (fates : List (Chunk × Fate ε)) :
    (fates.filterMap written?).filterMap (refused? "Error" path Prod.fst) =
      fates.filterMap (unwrittenDefect? path) := by
  rw [List.filterMap_filterMap]
  congr 1
  funext ⟨c, f⟩
  cases f <;> rfl

private theorem filterMap_result?_written? (fates : List (Chunk × Fate ε)) :
    (fates.filterMap written?).filterMap result? = statements fates := by
  rw [List.filterMap_filterMap, statements]
  congr 1
  funext ⟨c, f⟩
  cases f <;> rfl

/-- If a chunk fails, it does so by a refusal. -/
def Refused : Fate ε → Prop
  | unread f | unwritten _ f => f.isRemote refusals = true
  | written _ _ => True

private theorem refused_of_outcomes (hread : ∀ x ∈ fates.map parsed, ∀ f, x.2 = .error f → f.isRemote refusals = true)
    (hwrote : ∀ x ∈ fates.filterMap written?, ∀ f, x.2 = .error f → f.isRemote refusals = true) :
    ∀ x ∈ fates, x.2.Refused := by
  rintro ⟨c, fate⟩ hx
  cases fate with
  | unread f => exact hread _ (List.mem_map_of_mem hx) f rfl
  | unwritten e f => exact hwrote _ (List.mem_filterMap.2 ⟨_, hx, rfl⟩) f rfl
  | written e sql => trivial

/-- Each chunk has one of the three fates. -/
private theorem length_statements_add (fates : List (Chunk × Fate ε)) :
    (statements fates).length + (failures fates).length = fates.length := by
  induction fates with
  | nil => rfl
  | cons x fates ih =>
    simp only [statements, failures, List.length_append] at ih ⊢
    obtain ⟨c, fate⟩ := x
    cases fate <;> simp [List.filterMap_cons, statement?, unread?, unwritten?] <;> omega

private theorem forall₂_filterMap {α β γ : Type} {f : α → Option β} {g : α → Option γ} {R : β → γ → Prop}
    {items : List α} (h : ∀ a ∈ items, (f a = none ∧ g a = none) ∨ ∃ b c, f a = some b ∧ g a = some c ∧ R b c) :
    List.Forall₂ R (items.filterMap f) (items.filterMap g) := by
  induction items with
  | nil => exact .nil
  | cons a items ih =>
    obtain ⟨ha, hitems⟩ := List.forall_mem_cons.1 h
    rcases ha with ⟨hf, hg⟩ | ⟨b, c, hf, hg, hR⟩
    · rw [List.filterMap_cons_none hf, List.filterMap_cons_none hg]
      exact ih hitems
    · rw [List.filterMap_cons_some hf, List.filterMap_cons_some hg]
      exact .cons hR (ih hitems)

/-- Each chunk that failed has a defect that tells of it. -/
private theorem forall₂_tells (h : ∀ x ∈ fates, x.2.Refused) (path : String) :
    List.Forall₂ (Tells path) (failures fates) (defects path fates) := by
  refine List.rel_append (forall₂_filterMap ?_) (forall₂_filterMap ?_)
  · rintro ⟨c, fate⟩ hx
    cases fate with
    | unread f =>
      obtain ⟨d, hd, htells⟩ := exists_tells (h _ hx) "error" path c
      exact .inr ⟨c, d, rfl, hd, htells⟩
    | unwritten e f => exact .inl ⟨rfl, rfl⟩
    | written e sql => exact .inl ⟨rfl, rfl⟩
  · rintro ⟨c, fate⟩ hx
    cases fate with
    | unread f => exact .inl ⟨rfl, rfl⟩
    | unwritten e f =>
      obtain ⟨d, hd, htells⟩ := exists_tells (h _ hx) "Error" path c
      exact .inr ⟨c, d, rfl, hd, htells⟩
    | written e sql => exact .inl ⟨rfl, rfl⟩

end Fate

/-! ### Transpiling statement by statement -/

namespace Grammar

variable {ε : Type} {g : Grammar ε} {source target text path : String} {tokens : List Token} {s s₁ : Session}

private theorem exec_parseText (htokens : (g.tokens source text).exec s = (.ok tokens, s₁)) :
    (g.parseText source text path).exec s = (g.parseChunks source path (chunks tokens)).exec s₁ := by
  have hattempt : (g.tokens source text).attempt.exec s = (.ok (.ok tokens), s₁) := by
    rw [Flow.exec_attempt, htokens]
  rw [parseText, Flow.exec_bind_of_ok hattempt]

/-- The tokens of a script are cut into chunks behind every semicolon, and every chunk is accounted for once.  All
chunks are parsed, one after another and each once; then the statements that were parsed are written, one after
another and each once.  The result has what the grammar generated for the statements that were written, in the order
of the chunks, and for each other chunk one defect that tells of it; so there are as many statements and defects as
chunks. -/
theorem transpileEach_accounts (hg : g.Answers) (htokens : (g.tokens source text).exec s = (.ok tokens, s₁)) :
    CutInto tokens (chunks tokens) ∧
    ∃ (fates : List (Chunk × Fate ε)) (s₂ s₃ : Session),
      fates.map Prod.fst = chunks tokens ∧
      Passes (g.Parses source) s₁ (fates.map Fate.parsed) s₂ ∧
      Passes (g.Generates target) s₂ (fates.filterMap Fate.written?) s₃ ∧
      (g.transpileEach source target text path).exec s =
        (.ok (Fate.statements fates, Fate.defects path fates), s₃) ∧
      List.Forall₂ (Tells path) (Fate.failures fates) (Fate.defects path fates) ∧
      (Fate.statements fates).length + (Fate.defects path fates).length = (chunks tokens).length := by
  have hcut := cutInto_chunks tokens
  refine ⟨hcut, ?_⟩
  have hparseable : ∀ c ∈ chunks tokens, Refusable (g.parseChunk source) c := by
    intro c hc s f t hexec
    obtain ⟨u, -, -, hf⟩ := hg.parses (hcut.inhabited c hc) hexec
    exact hf
  obtain ⟨read, s₂, hread, hparsed, hparse⟩ := exec_each "error" path Chunk.text hparseable s₁
  have hwritable : ∀ p ∈ read.filterMap result?, Refusable (fun p => g.write target p.2) p :=
    fun p _ s f t hexec => (hg.generates hexec).1
  obtain ⟨wrote, s₃, hwrote, hwritten, hwrite⟩ := exec_each "Error" path Prod.fst hwritable s₂
  replace hparsed : Passes (g.Parses source) s₁ read s₂ :=
    hparsed.mono fun x hx s t => hg.parses (hcut.inhabited _ (hread ▸ List.mem_map_of_mem hx))
  replace hwritten : Passes (g.Generates target) s₂ wrote s₃ := hwritten.mono fun x hx s t => hg.generates
  have htext : ∀ x ∈ read, ∀ p, x.2 = .ok p → p.1 = x.1.text := hparsed.forall_mem <| by
    rintro s c o t ⟨u, -, hread⟩ p rfl
    exact hread.1
  obtain ⟨fates, rfl, rfl⟩ := Fate.exists_fates htext hwrote
  have hchunks : fates.map Prod.fst = chunks tokens := (Fate.map_fst_parsed fates).symm.trans hread
  have hrefused : ∀ x ∈ fates, x.2.Refused := by
    refine Fate.refused_of_outcomes (hparsed.forall_mem ?_) (hwritten.forall_mem ?_)
    · rintro s c o t ⟨u, -, hread⟩ f rfl
      exact hread.2
    · rintro s p o t hgenerates f rfl
      exact hgenerates.1
  have htells := Fate.forall₂_tells hrefused path
  refine ⟨fates, s₂, s₃, hchunks, hparsed, hwritten, ?_, htells, ?_⟩
  · rw [transpileEach, Flow.exec_bind_of_ok ((exec_parseText htokens).trans hparse)]
    dsimp only
    rw [writeAll, Flow.exec_bind_of_ok hwrite, Fate.filterMap_refused?_parsed, Fate.filterMap_refused?_written?,
      Fate.filterMap_result?_written?]
    rfl
  · rw [← htells.length_eq, Fate.length_statements_add, ← hchunks, List.length_map]

def fourWords : List Token :=
  [⟨"keep", "VAR"⟩, ⟨";", "SEMICOLON"⟩, ⟨"garble", "VAR"⟩, ⟨";", "SEMICOLON"⟩, ⟨"note", "VAR"⟩, ⟨";", "SEMICOLON"⟩,
   ⟨"refuse", "VAR"⟩]

def wordGrammar : Grammar String where
  tokens _ _ := pure fourWords
  parse _ c :=
    match c with
    | [] => pure []
    | t :: _ => if t.text = "garble" then throw (.remote "ParseError" "garbled") else pure [t.text]
  reset := pure ()
  generate _ word :=
    if word = "refuse" then throw (.remote "UnsupportedError" "refused")
    else if word = "note" then pure "-- note"
    else pure word
  transpile _ _ _ := pure []
  statements _ _ := pure []

private theorem answers_wordGrammar : wordGrammar.Answers where
  parse := by
    intro dialect c s hc
    cases c with
    | nil => exact absurd rfl hc
    | cons t c =>
      dsimp only [wordGrammar]
      split
      · exact .inr ⟨_, _, rfl, rfl⟩
      · exact .inl ⟨_, _, _, rfl⟩
  generate := by
    intro dialect word s
    dsimp only [wordGrammar]
    split
    · exact .inr ⟨_, _, rfl, rfl⟩
    · split <;> exact .inl ⟨_, _, rfl⟩
  reset s := ⟨s, rfl⟩

/-- Of four words, one is transpiled and three are reported. -/
theorem transpileEach_accounts_wordGrammar :
    wordGrammar.Answers ∧ (wordGrammar.tokens "" "").exec {} = (.ok fourWords, {}) ∧
    ∃ (statements : List String) (defects : List Defect) (s : Session),
      (wordGrammar.transpileEach "" "" "" "in.sql").exec {} = (.ok (statements, defects), s) ∧
      statements = ["keep"] ∧
      defects.map (fun d => (d.sql, d.problem.code)) =
        [("garble ;", "PARSE_ERROR"), ("note ;", "UNSUPPORTED_SQL"), ("refuse", "UNSUPPORTED_SQL")] ∧
      statements.length + defects.length = 4 := by
  refine ⟨answers_wordGrammar, rfl, ?_⟩
  obtain ⟨-, fates, -, s, -, -, -, hexec, -, hlength⟩ :=
    transpileEach_accounts answers_wordGrammar rfl
  have hrun : ((wordGrammar.transpileEach "" "" "" "in.sql").exec {}).1.toOption.map
      (fun told => (told.1, told.2.map fun d => (d.sql, d.problem.code))) =
      some (["keep"], [("garble ;", "PARSE_ERROR"), ("note ;", "UNSUPPORTED_SQL"), ("refuse", "UNSUPPORTED_SQL")]) := by
    decide +kernel
  rw [hexec] at hrun
  obtain ⟨hstatements, hdefects⟩ := Prod.mk.inj (Option.some.inj hrun)
  exact ⟨_, _, s, hexec, hstatements, hdefects, hlength⟩

end Grammar

end WarehouseMigration.Sql
