import WarehouseMigration.Proofs.FileTree.Places
import WarehouseMigration.Proofs.Session.Exec
import WarehouseMigration.Spark

/-!
# What tasks ask of Spark

As long as every service answers (`Answers`), what a task does is known up to the answers: the calls that it makes and
its outcome satisfy a condition wherever the task starts (`Does`).  Conditions are put together along the parts of a
task (`Does.bind`).  Three kinds of them are enough here.  A task whose course does not depend on answers has one
outcome, one list of queries and one list of tables that it saves to (`Ends`).  Of a task whose course does, it is
known that it succeeds, asks no query and saves to one table at most (`Keeps`); it can follow one of the first kind
(`Finishes`).
-/

namespace WarehouseMigration

/-! ### Calls to Spark -/

def Call.query? (c : Call) : Option String :=
  match c.parts with
  | [.text query] => if Flow.lastName c.name = "sql" then some query else none
  | _ => none

def Call.save? (c : Call) : Option (String × Value) :=
  match c.parts with
  | [.text table] => if Flow.lastName c.name = "saveAsTable" then some (table, c.receiver) else none
  | _ => none

def Session.queries (s : Session) : List String := s.calls.filterMap Call.query?

def Session.saves (s : Session) : List (String × Value) := s.calls.filterMap Call.save?

private theorem Flow.lastName_append {method : String} (h : '.' ∉ method.toList) (path : String) :
    lastName (path ++ "." ++ method) = method := by
  have hdot : ".".toList = ['.'] := rfl
  have htake : (path ++ "." ++ method).toList.reverse.takeWhile (· != '.') = method.toList.reverse := by
    rw [String.toList_append, String.toList_append, hdot, List.reverse_append, List.reverse_append,
      List.takeWhile_append_of_pos]
    · simp
    · intro c hc
      simp only [bne_iff_ne]
      rintro rfl
      exact h (List.mem_reverse.1 hc)
  rw [lastName, htake, List.reverse_reverse, String.ofList_toList]

/-! ### Sessions with answers -/

/-- All answers of services that are going to come are values. -/
structure Session.Answers (s : Session) : Prop where
  replies : ∀ key replies, s.replies.lookup key = some replies → ∀ reply ∈ replies, ∃ v, reply = .value v
  reaction : ∀ call reply, s.reaction call = some reply → ∃ v, reply = .value v

theorem Session.answers_empty : ({} : Session).Answers where
  replies := by
    intro key replies h
    cases h
  reaction := by
    intro call reply h
    cases h

/-- A session that has gone on from another one: services still answer, and the clock and the numbers of texts are the
same. -/
structure Session.GoesOn (s₀ s : Session) : Prop extends s.Answers where
  clock : s.clock = s₀.clock
  digest : s.digest = s₀.digest

namespace Flow

variable {α β : Type} {s₀ : Session} {post : Outcome α → List Call → Prop}

/-- Wherever the task starts after `s₀`, it makes calls and has an outcome that satisfy the condition. -/
def Does (s₀ : Session) (flow : Flow α) (post : Outcome α → List Call → Prop) : Prop :=
  ∀ s, s₀.GoesOn s →
    ∃ o calls s', flow.exec s = (o, s') ∧ s'.calls = s.calls ++ calls ∧ s₀.GoesOn s' ∧ post o calls

namespace Does

theorem mono {post' : Outcome α → List Call → Prop} {flow : Flow α} (h : Does s₀ flow post)
    (himp : ∀ o calls, post o calls → post' o calls) : Does s₀ flow post' := by
  intro s hs
  obtain ⟨o, calls, s', hexec, hcalls, hs', hpost⟩ := h s hs
  exact ⟨o, calls, s', hexec, hcalls, hs', himp o calls hpost⟩

theorem of_exec {flow : Flow α} {o : Outcome α} (h : ∀ s, s₀.GoesOn s → flow.exec s = (o, s))
    (hpost : post o []) : Does s₀ flow post :=
  fun s hs => ⟨o, [], s, h s hs, (List.append_nil _).symm, hs, hpost⟩

/-- After a first part that succeeds comes the second one; a failure is that of the whole. -/
theorem bind {flow : Flow α} {next : α → Flow β} {post' : Outcome β → List Call → Prop} (h : Does s₀ flow post)
    (hok : ∀ a calls, post (.ok a) calls → Does s₀ (next a) fun o more => post' o (calls ++ more))
    (herror : ∀ e calls, post (.error e) calls → post' (.error e) calls) : Does s₀ (flow >>= next) post' := by
  intro s hs
  obtain ⟨e | a, calls, s₁, hexec, hcalls, hs₁, hpost⟩ := h s hs
  · exact ⟨.error e, calls, s₁, exec_bind_of_error hexec, hcalls, hs₁, herror e calls hpost⟩
  · obtain ⟨o, more, s₂, hexec', hmore, hs₂, hpost'⟩ := hok a calls hpost s₁ hs₁
    refine ⟨o, calls ++ more, s₂, ?_, ?_, hs₂, hpost'⟩
    · rw [exec_bind_of_ok hexec, hexec']
    · rw [hmore, hcalls, List.append_assoc]

private theorem attempt {flow : Flow α} (h : Does s₀ flow post) :
    Does s₀ flow.attempt fun o calls => ∃ o', o = .ok o' ∧ post o' calls := by
  intro s hs
  obtain ⟨o, calls, s', hexec, hcalls, hs', hpost⟩ := h s hs
  refine ⟨.ok o, calls, s', ?_, hcalls, hs', o, rfl, hpost⟩
  rw [exec_attempt, hexec]

end Does

/-- A call of which the answer is awaited is answered by a value. -/
private theorem does_replyTo (s₀ : Session) (key : String) (call : Call) :
    Does s₀ (replyTo key call) fun o calls => (∃ v, o = .ok v) ∧ calls = [] := by
  intro s hs
  rw [replyTo, exec_bind_of_ok (exec_get s)]
  split
  · next reply rest hlookup =>
    obtain ⟨v, rfl⟩ := hs.replies key _ hlookup reply List.mem_cons_self
    refine ⟨.ok v, [], { s with replies := Sequence.put key rest s.replies }, rfl, (List.append_nil _).symm,
      ⟨⟨?_, hs.reaction⟩, hs.clock, hs.digest⟩, ⟨v, rfl⟩, rfl⟩
    -- the replies that are left under the key are among those that stood there
    intro key' replies hreplies r hr
    rw [Sequence.lookup_put] at hreplies
    split at hreplies
    · cases hreplies
      exact hs.replies key _ hlookup r (List.mem_cons_of_mem _ hr)
    · exact hs.replies key' replies hreplies r hr
  · split
    · next reply hreaction =>
      obtain ⟨v, rfl⟩ := hs.reaction call reply hreaction
      exact ⟨.ok v, [], s, rfl, (List.append_nil _).symm, hs, ⟨v, rfl⟩, rfl⟩
    · exact ⟨.ok .null, [], s, rfl, (List.append_nil _).symm, hs, ⟨.null, rfl⟩, rfl⟩

private theorem does_record (s₀ : Session) (call : Call) :
    Does s₀ (record call) fun o calls => o = .ok () ∧ calls = [call] := by
  intro s hs
  exact ⟨.ok (), [call], _, exec_record call s, rfl, ⟨⟨hs.replies, hs.reaction⟩, hs.clock, hs.digest⟩, rfl, rfl⟩

end Flow

namespace Spark

open WarehouseMigration.Flow (Does)

private theorem does_act (s₀ : Session) (frame : Value) (method : String) (parts : List Value)
    (named : List (String × Value)) :
    Does s₀ (act frame method parts named) fun o calls =>
      (∃ v, o = .ok v) ∧ calls = [⟨pathOf frame ++ "." ++ method, parts, named, frame⟩] := by
  refine (Flow.does_record s₀ _).bind ?_ ?_
  · rintro - - ⟨-, rfl⟩
    refine (Flow.does_replyTo s₀ _ _).mono ?_
    rintro o calls ⟨hv, rfl⟩
    exact ⟨hv, List.append_nil _⟩
  · rintro e calls ⟨h, -⟩
    cases h

private theorem does_make (s₀ : Session) (frame : Value) (method : String) (parts : List Value)
    (named : List (String × Value)) :
    Does s₀ (make frame method parts named) fun o calls =>
      o = .ok (applied frame method parts named) ∧
      calls = [⟨pathOf frame ++ "." ++ method, parts, named, frame⟩] := by
  refine (does_act s₀ frame method parts named).bind ?_ ?_
  · rintro - calls ⟨-, rfl⟩
    exact Does.of_exec (fun s _ => rfl) ⟨rfl, List.append_nil _⟩
  · rintro e calls ⟨⟨v, h⟩, -⟩
    cases h

end Spark

/-! ### Tasks whose course does not depend on answers -/

namespace Flow

variable {α β : Type} {s₀ : Session} {flow : Flow α} {next : α → Flow β} {queries more : List String}
  {saves further : List (String × Value)}

/-- The task has this outcome after these queries and these saves. -/
def Ends (s₀ : Session) (flow : Flow α) (o : Outcome α) (queries : List String) (saves : List (String × Value)) :
    Prop :=
  Does s₀ flow fun o' calls => o' = o ∧ calls.filterMap Call.query? = queries ∧ calls.filterMap Call.save? = saves

namespace Ends

private theorem of_exec {o : Outcome α} (h : ∀ s, s₀.GoesOn s → flow.exec s = (o, s)) : Ends s₀ flow o [] [] :=
  Does.of_exec h ⟨rfl, rfl, rfl⟩

theorem pure (a : α) : Ends s₀ (Pure.pure a : Flow α) (.ok a) [] [] := of_exec fun _ _ => rfl

theorem throw (e : Failure) : Ends s₀ (MonadExcept.throw e : Flow α) (.error e) [] [] := of_exec fun _ _ => rfl

theorem bind {a : α} {o : Outcome β} (h : Ends s₀ flow (.ok a) queries saves)
    (hnext : Ends s₀ (next a) o more further) :
    Ends s₀ (flow >>= next) o (queries ++ more) (saves ++ further) := by
  refine Does.bind h ?_ ?_
  · rintro a' calls ⟨ha, rfl, rfl⟩
    cases ha
    refine Does.mono hnext ?_
    rintro o' calls' ⟨rfl, rfl, rfl⟩
    exact ⟨rfl, List.filterMap_append, List.filterMap_append⟩
  · rintro e calls ⟨he, -⟩
    cases he

theorem bind_error {e : Failure} (h : Ends s₀ flow (.error e) queries saves) :
    Ends s₀ (flow >>= next) (.error e) queries saves := by
  refine Does.bind h ?_ ?_
  · rintro a calls ⟨ha, -⟩
    cases ha
  · rintro e' calls ⟨he, hcalls⟩
    cases he
    exact ⟨rfl, hcalls⟩

theorem after {a : α} {o : Outcome β} (h : Ends s₀ flow (.ok a) [] []) (hnext : Ends s₀ (next a) o more further) :
    Ends s₀ (flow >>= next) o more further :=
  h.bind hnext

/-- A first part that only asks and a second one that only saves. -/
theorem ask_save {a : α} {o : Outcome β} (h : Ends s₀ flow (.ok a) queries []) (hnext : Ends s₀ (next a) o [] saves) :
    Ends s₀ (flow >>= next) o queries saves := by
  have hall := h.bind hnext
  rwa [List.append_nil] at hall

theorem attempt {o : Outcome α} (h : Ends s₀ flow o queries saves) : Ends s₀ flow.attempt (.ok o) queries saves := by
  refine Does.mono (Does.attempt h) ?_
  rintro - calls ⟨o', rfl, rfl, hcalls⟩
  exact ⟨rfl, hcalls⟩

/-- A last part without queries and saves only gives its outcome. -/
theorem before {a : α} {o : Outcome β} (h : Ends s₀ flow (.ok a) queries saves) (hnext : Ends s₀ (next a) o [] []) :
    Ends s₀ (flow >>= next) o queries saves := by
  have hall := h.bind hnext
  rwa [List.append_nil, List.append_nil] at hall

theorem mapM {γ : Type} {task : γ → Flow β} {result : γ → β} {query : γ → String} (items : List γ)
    (h : ∀ x ∈ items, Ends s₀ (task x) (.ok (result x)) [query x] []) :
    Ends s₀ (items.mapM task) (.ok (items.map result)) (items.map query) [] := by
  induction items with
  | nil => exact pure []
  | cons x items ih =>
    rw [List.mapM_cons]
    have hrest := ih fun y hy => h y (List.mem_cons_of_mem _ hy)
    exact (h x List.mem_cons_self).bind (hrest.before (pure _))

/-- The first item that fails ends the whole. -/
theorem mapM_error {γ : Type} {task : γ → Flow β} {e : Failure} {items : List γ}
    (h : ∀ x ∈ items, (∃ b queries, Ends s₀ (task x) (.ok b) queries []) ∨ Ends s₀ (task x) (.error e) [] [])
    (hfails : ∃ x ∈ items, Ends s₀ (task x) (.error e) [] []) :
    ∃ queries, Ends s₀ (items.mapM task) (.error e) queries [] := by
  induction items with
  | nil => simp at hfails
  | cons x items ih =>
    rw [List.mapM_cons]
    obtain ⟨y, hmem, hy⟩ := hfails
    rcases List.mem_cons.1 hmem with rfl | hmem
    · exact ⟨[], hy.bind_error⟩
    · rcases h x List.mem_cons_self with ⟨b, queries, hx⟩ | hx
      · obtain ⟨more, hmore⟩ := ih (fun y hy => h y (List.mem_cons_of_mem _ hy)) ⟨y, hmem, hy⟩
        exact ⟨queries ++ more, hx.bind hmore.bind_error⟩
      · exact ⟨[], hx.bind_error⟩

theorem exec {o : Outcome α} {s : Session} (h : Ends s flow o queries saves) (hs : s.Answers) :
    (flow.exec s).1 = o ∧ (flow.exec s).2.queries = s.queries ++ queries ∧ (flow.exec s).2.saves = s.saves ++
      saves := by
  obtain ⟨o', calls, s', hexec, hcalls, -, rfl, rfl, rfl⟩ := h s ⟨hs, rfl, rfl⟩
  rw [hexec, Session.queries, Session.saves, hcalls, List.filterMap_append, List.filterMap_append]
  exact ⟨rfl, rfl, rfl⟩

end Ends

theorem ends_now (layout : String) : Ends s₀ (now layout) (.ok (s₀.clock layout)) [] [] :=
  .of_exec fun s hs => by rw [exec_now, hs.clock]

theorem ends_digest (text : String) : Ends s₀ (digest text) (.ok (s₀.digest text)) [] [] :=
  .of_exec fun s hs => by
    change ((.ok (s.digest text), s) : Outcome Value × Session) = _
    rw [hs.digest]

end Flow

/-! ### Tasks whose course depends on answers -/

namespace Flow

variable {α β : Type} {s₀ : Session} {table : String} {flow : Flow α} {next : α → Flow β} {queries more : List String}
  {saves further : List (String × Value)}

/-- The task succeeds without a query, and saves to no other table. -/
def Keeps (s₀ : Session) (table : String) (flow : Flow α) : Prop :=
  Does s₀ flow fun o calls =>
    (∃ a, o = .ok a) ∧ calls.filterMap Call.query? = [] ∧ ∀ save ∈ calls.filterMap Call.save?, save.1 = table

theorem Ends.keeps {a : α} (h : Ends s₀ flow (.ok a) [] saves) (hsaves : ∀ save ∈ saves, save.1 = table) :
    Keeps s₀ table flow := by
  refine Does.mono h ?_
  rintro o calls ⟨rfl, hqueries, rfl⟩
  exact ⟨⟨a, rfl⟩, hqueries, hsaves⟩

namespace Keeps

theorem of_exec (h : ∀ s, ∃ a, flow.exec s = (.ok a, s)) : Keeps s₀ table flow := by
  intro s hs
  obtain ⟨a, ha⟩ := h s
  exact ⟨.ok a, [], s, ha, (List.append_nil _).symm, hs, ⟨a, rfl⟩, rfl, List.forall_mem_nil _⟩

theorem pure (a : α) : Keeps s₀ table (Pure.pure a : Flow α) := of_exec fun _ => ⟨a, rfl⟩

theorem bind (h : Keeps s₀ table flow) (hnext : ∀ a, Keeps s₀ table (next a)) : Keeps s₀ table (flow >>= next) := by
  refine Does.bind h ?_ ?_
  · rintro a calls ⟨-, hqueries, hsaves⟩
    refine Does.mono (hnext a) ?_
    rintro o more ⟨ho, hqueries', hsaves'⟩
    rw [List.filterMap_append, List.filterMap_append, hqueries, hqueries', List.forall_mem_append]
    exact ⟨ho, rfl, hsaves, hsaves'⟩
  · rintro e calls ⟨⟨a, h⟩, -⟩
    cases h

theorem mapM {γ : Type} {task : γ → Flow β} (h : ∀ x, Keeps s₀ table (task x)) (items : List γ) :
    Keeps s₀ table (items.mapM task) := by
  induction items with
  | nil => exact pure []
  | cons x items ih =>
    rw [List.mapM_cons]
    exact (h x).bind fun _ => ih.bind fun _ => pure _

end Keeps

/-- The task succeeds with these queries and these saves, followed by saves to one table only. -/
def Finishes (s₀ : Session) (table : String) (flow : Flow α) (queries : List String) (saves : List (String × Value)) :
    Prop :=
  Does s₀ flow fun o calls =>
    (∃ a, o = .ok a) ∧ calls.filterMap Call.query? = queries ∧
    ∃ further, calls.filterMap Call.save? = saves ++ further ∧ ∀ save ∈ further, save.1 = table

theorem Keeps.finishes (h : Keeps s₀ table flow) : Finishes s₀ table flow [] [] :=
  Does.mono h fun _ _ ⟨ho, hqueries, hsaves⟩ => ⟨ho, hqueries, _, rfl, hsaves⟩

theorem Ends.finishes {a : α} (h : Ends s₀ flow (.ok a) queries saves)
    (hnext : Finishes s₀ table (next a) more further) :
    Finishes s₀ table (flow >>= next) (queries ++ more) (saves ++ further) := by
  refine Does.bind h ?_ ?_
  · rintro a' calls ⟨ha, rfl, rfl⟩
    cases ha
    refine Does.mono hnext ?_
    rintro o calls' ⟨ho, rfl, others, hothers, hsaves⟩
    refine ⟨ho, List.filterMap_append, others, ?_, hsaves⟩
    rw [List.filterMap_append, hothers, List.append_assoc]
  · rintro e calls ⟨he, -⟩
    cases he

/-- Beyond the saves told of, only the one table is saved. -/
theorem Finishes.exec {s : Session} (h : Finishes s table flow queries saves) (hs : s.Answers) :
    ∃ a further, (flow.exec s).1 = .ok a ∧ (flow.exec s).2.queries = s.queries ++ queries ∧
      (flow.exec s).2.saves = s.saves ++ saves ++ further ∧ ∀ save ∈ further, save.1 = table := by
  obtain ⟨o, calls, s', hexec, hcalls, -, ⟨a, rfl⟩, rfl, others, hothers, hsaves⟩ := h s ⟨hs, rfl, rfl⟩
  refine ⟨a, others, ?_, ?_, ?_, hsaves⟩
  · rw [hexec]
  · rw [hexec, Session.queries, hcalls, List.filterMap_append]
    rfl
  · rw [hexec, Session.saves, hcalls, List.filterMap_append, hothers, ← List.append_assoc]
    rfl

end Flow

/-! ### Frames -/

namespace Spark

open WarehouseMigration.Flow (Does Ends Keeps)

variable {s₀ : Session} {table : String}

/-- A method that neither asks a query nor saves a table. -/
abbrev Plain (method : String) : Prop := '.' ∉ method.toList ∧ method ≠ "sql" ∧ method ≠ "saveAsTable"

private theorem query?_of_plain {method path : String} (h : Plain method) (parts : List Value)
    (named : List (String × Value))
    (frame : Value) : Call.query? ⟨path ++ "." ++ method, parts, named, frame⟩ = none := by
  rw [Call.query?]
  split
  · exact if_neg (by rw [Flow.lastName_append h.1]; exact h.2.1)
  · rfl

private theorem save?_of_plain {method path : String} (h : Plain method) (parts : List Value)
    (named : List (String × Value))
    (frame : Value) : Call.save? ⟨path ++ "." ++ method, parts, named, frame⟩ = none := by
  rw [Call.save?]
  split
  · exact if_neg (by rw [Flow.lastName_append h.1]; exact h.2.2)
  · rfl

/-- Making a frame sends nothing. -/
theorem ends_make (frame : Value) {method : String} (parts : List Value) (named : List (String × Value))
    (h : Plain method) :
    Ends s₀ (make frame method parts named) (.ok (applied frame method parts named)) [] [] := by
  refine Does.mono (does_make s₀ frame method parts named) ?_
  rintro o calls ⟨rfl, rfl⟩
  refine ⟨rfl, ?_, ?_⟩
  · rw [List.filterMap_cons_none (query?_of_plain h parts named frame), List.filterMap_nil]
  · rw [List.filterMap_cons_none (save?_of_plain h parts named frame), List.filterMap_nil]

theorem keeps_act (frame : Value) {method : String} (parts : List Value) (named : List (String × Value))
    (h : Plain method) : Keeps s₀ table (act frame method parts named) := by
  refine Does.mono (does_act s₀ frame method parts named) ?_
  rintro o calls ⟨hv, rfl⟩
  refine ⟨hv, ?_, ?_⟩
  · rw [List.filterMap_cons_none (query?_of_plain h parts named frame), List.filterMap_nil]
  · rw [List.filterMap_cons_none (save?_of_plain h parts named frame), List.filterMap_nil]
    exact List.forall_mem_nil _

theorem keeps_make (frame : Value) {method : String} (parts : List Value) (named : List (String × Value))
    (h : Plain method) : Keeps s₀ table (make frame method parts named) :=
  (ends_make frame parts named h).keeps (List.forall_mem_nil _)

def queried (query : String) : Value := applied session "sql" [query]

/-- A query is sent as it stands. -/
theorem ends_sql (query : String) : Ends s₀ (sql query) (.ok (queried query)) [query] [] := by
  refine Does.mono (does_make s₀ session "sql" [query] []) ?_
  rintro o calls ⟨rfl, rfl⟩
  have hname : Flow.lastName (pathOf session ++ "." ++ "sql") = "sql" := Flow.lastName_append (by decide) _
  refine ⟨rfl, ?_, ?_⟩
  · simp only [List.filterMap_cons, List.filterMap_nil, Call.query?, toValue, hname, if_true]
  · simp only [List.filterMap_cons, List.filterMap_nil, Call.save?, toValue, hname, String.reduceEq, if_false]

/-- Saving a table is noted as such, whatever the answer. -/
theorem ends_saveAsTable (writer : Value) (table : String) :
    Ends s₀ (act writer "saveAsTable" [table] >>= fun _ => pure ()) (.ok ()) [] [(table, writer)] := by
  have hname : Flow.lastName (pathOf writer ++ "." ++ "saveAsTable") = "saveAsTable" :=
    Flow.lastName_append (by decide) _
  refine (does_act s₀ _ _ _ _).bind ?_ ?_
  · rintro v calls ⟨-, rfl⟩
    refine Does.of_exec (fun s _ => rfl) ⟨rfl, ?_, ?_⟩
    · simp only [List.append_nil, List.filterMap_cons, List.filterMap_nil, Call.query?, toValue, hname,
        String.reduceEq, if_false]
    · simp only [List.append_nil, List.filterMap_cons, List.filterMap_nil, Call.save?, toValue, hname, if_true]
  · rintro e calls ⟨⟨v, h⟩, -⟩
    cases h

/-- A frame with the frames of a list below it. -/
def united (frame : Value) (rest : List Value) : Value :=
  rest.foldl (fun all next => applied all "unionByName" [next]) frame

theorem ends_union (frame : Value) (rest : List Value) :
    Ends s₀ (union (frame :: rest)) (.ok (united frame rest)) [] [] := by
  change Ends s₀ (rest.foldlM (fun all next => make all "unionByName" [next]) frame) _ [] []
  induction rest generalizing frame with
  | nil => exact .pure frame
  | cons next rest ih =>
    rw [List.foldlM_cons]
    exact (ends_make frame [next] [] (by decide)).after (ih _)

theorem keeps_union {frames : List Value} (h : frames ≠ []) : Keeps s₀ table (union frames) := by
  obtain ⟨frame, rest, rfl⟩ := List.exists_cons_of_ne_nil h
  exact (ends_union frame rest).keeps (List.forall_mem_nil _)

end Spark

end WarehouseMigration
