import WarehouseMigration.Proofs.Session.Reads

/-!
# What is seen of the calls

A call is added to the record and takes at most the next answer of a script; nothing else of the session changes
(`exists_exec_call`, `exists_exec_replyTo`).  Often only some of the calls matter, and of these only a part: a view
picks them out of the record (`Session.seen`).  A task is quiet for a view if it adds nothing to what is seen, however
it ends (`Quiet`), and this is read off the parts of the task.
-/

namespace WarehouseMigration

variable {α β ε : Type} {view : Call → Option ε}

/-- What a view shows of the calls so far, in order. -/
def Session.seen (view : Call → Option ε) (s : Session) : List ε := s.calls.filterMap view

/-- A view shows the same in two sessions. -/
def Session.SameSeen (view : Call → Option ε) (s t : Session) : Prop := t.seen view = s.seen view

instance : Std.Refl (Session.SameSeen view) := ⟨fun _ => rfl⟩

instance : IsTrans Session (Session.SameSeen view) := ⟨fun _ _ _ h h' => h'.trans h⟩

def Reply.outcome : Reply → Outcome Value
  | .value v => .ok v
  | .failure f => .error f

/-- What a service gives back to a call for which no answer is scripted. -/
def Session.given (s : Session) (call : Call) : Reply := (s.reaction call).getD (.value .null)

/-- No answers to the calls of a name are scripted, so that they depend on the calls only. -/
structure Session.Unscripted (s : Session) (name : String) : Prop where
  shared : s.shared name = false
  replies : s.replies.lookup name = none

/-- All answers to the calls of a name are of a kind. -/
structure Session.RepliesWith (s : Session) (name : String) (allowed : Reply → Prop) : Prop where
  shared : s.shared name = false
  replies : ∀ replies, s.replies.lookup name = some replies → ∀ reply ∈ replies, allowed reply
  given : ∀ call, call.name = name → allowed (s.given call)

namespace Flow

/-! ### Calls -/

private theorem exec_receive (reply : Reply) (s : Session) : (receive reply).exec s = (reply.outcome, s) := by
  cases reply <;> rfl

variable {s : Session} {reply : Reply} {rest : List Reply}

private theorem exec_replyTo_of_cons {key : String} (h : s.replies.lookup key = some (reply :: rest)) (call : Call) :
    (replyTo key call).exec s = (reply.outcome, { s with replies := Sequence.put key rest s.replies }) := by
  have hset : (set { s with replies := Sequence.put key rest s.replies } : Flow Unit).exec s =
    (.ok (), { s with replies := Sequence.put key rest s.replies }) := rfl
  rw [replyTo, exec_bind_of_ok (exec_get s), h]
  dsimp only
  rw [exec_bind_of_ok hset, exec_receive]

private theorem exec_replyTo_of_no_cons {key : String}
    (h : ∀ reply rest, s.replies.lookup key ≠ some (reply :: rest)) (call : Call) :
    (replyTo key call).exec s = ((s.given call).outcome, s) := by
  rw [replyTo, exec_bind_of_ok (exec_get s), Session.given]
  split
  case h_1 reply rest hlookup => exact absurd hlookup (h reply rest)
  case h_2 =>
    cases s.reaction call with
    | none => rfl
    | some reply => exact exec_receive reply s

theorem exec_replyTo_of_unscripted {key : String} (h : s.replies.lookup key = none) (call : Call) :
    (replyTo key call).exec s = ((s.given call).outcome, s) :=
  exec_replyTo_of_no_cons (by simp [h]) call

/-- Awaiting an answer changes nothing but the answers that are still to come. -/
theorem exists_exec_replyTo (key : String) (call : Call) (s : Session) :
    ∃ o replies, (replyTo key call).exec s = (o, { s with replies := replies }) := by
  by_cases h : ∃ reply rest, s.replies.lookup key = some (reply :: rest)
  · obtain ⟨reply, rest, hlookup⟩ := h
    exact ⟨_, _, exec_replyTo_of_cons hlookup call⟩
  · exact ⟨_, s.replies, exec_replyTo_of_no_cons (fun reply rest hlookup => h ⟨reply, rest, hlookup⟩) call⟩

/-- The next answer of the operator is taken from those that are still to come. -/
private theorem exec_nextAnswer (h : s.answers = reply :: rest)
    (kind : String) : (nextAnswer kind).exec s = (reply.outcome, { s with answers := rest }) := by
  have hmodify : (modify fun s => { s with answers := rest } : Flow Unit).exec s =
    (.ok (), { s with answers := rest }) := rfl
  rw [nextAnswer, exec_bind_of_ok (exec_get s), h]
  dsimp only
  rw [exec_bind_of_ok hmodify, exec_receive]

private theorem exists_exec_nextAnswer (kind : String) (s : Session) :
    ∃ o answers, (nextAnswer kind).exec s = (o, { s with answers := answers }) := by
  cases hanswers : s.answers with
  | cons reply rest => exact ⟨reply.outcome, rest, exec_nextAnswer hanswers kind⟩
  | nil =>
    refine ⟨.error (.exhausted (lastName kind)), s.answers, ?_⟩
    rw [nextAnswer, exec_bind_of_ok (exec_get s)]
    split
    · next h => rw [hanswers] at h; cases h
    · rfl

/-- A question is answered by the next answer of the operator. -/
theorem exec_ask (h : s.answers = reply :: rest) (kind : String) (parts : List Value) (named : List (String × Value)) :
    (ask kind parts named).exec s =
      (reply.outcome, { s with calls := s.calls ++ [⟨kind, parts, named, .null⟩], answers := rest }) := by
  rw [ask, note, exec_bind_of_ok (exec_record _ s)]
  exact exec_nextAnswer (s := { s with calls := s.calls ++ [⟨kind, parts, named, .null⟩] }) h kind

/-- A call is recorded, and takes an answer from one of the scripts. -/
theorem exists_exec_call (name : String) (parts : List Value) (named : List (String × Value)) (s : Session) :
    ∃ o answers replies, (call name parts named).exec s =
      (o, { s with calls := s.calls ++ [⟨name, parts, named, .null⟩], answers := answers, replies := replies }) := by
  rw [call, note, exec_bind_of_ok (exec_record _ s), exec_bind_of_ok (exec_get _)]
  split
  · obtain ⟨o, answers, h⟩ := exists_exec_nextAnswer name { s with calls := s.calls ++ [⟨name, parts, named, .null⟩] }
    exact ⟨o, answers, s.replies, h⟩
  · obtain ⟨o, replies, h⟩ := exists_exec_replyTo name ⟨name, parts, named, .null⟩
      { s with calls := s.calls ++ [⟨name, parts, named, .null⟩] }
    exact ⟨o, s.answers, replies, h⟩

/-- The answers that are left after one was taken are of the kinds that they were. -/
private theorem repliesWith_put {name other : String} {allowed : Reply → Prop}
    (h : s.RepliesWith other allowed) (hlookup : s.replies.lookup name = some (reply :: rest)) :
    Session.RepliesWith { s with replies := Sequence.put name rest s.replies } other allowed where
  shared := h.shared
  given := h.given
  replies := by
    intro replies hreplies r hr
    rw [Sequence.lookup_put] at hreplies
    split at hreplies
    case isTrue heq =>
      cases hreplies
      cases eq_of_beq heq
      exact h.replies _ hlookup r (List.mem_cons_of_mem _ hr)
    case isFalse => exact h.replies replies hreplies r hr

/-- A call is answered as the script allows. -/
theorem exists_exec_call_of_repliesWith {name : String} {allowed : Reply → Prop}
    (h : s.RepliesWith name allowed) (parts : List Value) (named : List (String × Value)) :
    ∃ reply replies, allowed reply ∧
      (call name parts named).exec s =
        (reply.outcome, { s with calls := s.calls ++ [⟨name, parts, named, .null⟩], replies := replies }) ∧
      ∀ other kind, s.RepliesWith other kind → Session.RepliesWith { s with replies := replies } other kind := by
  rw [call, note, exec_bind_of_ok (exec_record _ s), exec_bind_of_ok (exec_get _), h.shared,
    if_neg Bool.false_ne_true]
  by_cases hcons : ∃ reply rest, s.replies.lookup name = some (reply :: rest)
  · obtain ⟨reply, rest, hlookup⟩ := hcons
    exact ⟨reply, _, h.replies _ hlookup reply List.mem_cons_self,
      exec_replyTo_of_cons (s := { s with calls := s.calls ++ [⟨name, parts, named, .null⟩] }) hlookup _,
      fun _ _ hother => repliesWith_put hother hlookup⟩
  · refine ⟨_, s.replies, h.given ⟨name, parts, named, .null⟩ rfl, ?_, fun _ _ hother => hother⟩
    exact exec_replyTo_of_no_cons (s := { s with calls := s.calls ++ [⟨name, parts, named, .null⟩] })
      (fun reply rest hlookup => hcons ⟨reply, rest, hlookup⟩) _

theorem keepsFiles_call (name : String) (parts : List Value) (named : List (String × Value)) :
    KeepsFiles (call name parts named) := by
  intro s
  obtain ⟨o, answers, replies, h⟩ := exists_exec_call name parts named s
  rw [h]
  exact ⟨rfl, rfl⟩

/-- A call without a script is recorded, and the answer depends on nothing but the call. -/
theorem exec_call_of_unscripted {name : String} (h : s.Unscripted name) (parts : List Value)
    (named : List (String × Value)) :
    (call name parts named).exec s = ((s.given ⟨name, parts, named, .null⟩).outcome,
      { s with calls := s.calls ++ [⟨name, parts, named, .null⟩] }) := by
  rw [call, note, exec_bind_of_ok (exec_record _ s), exec_bind_of_ok (exec_get _), h.shared,
    if_neg Bool.false_ne_true]
  exact exec_replyTo_of_unscripted (s := { s with calls := s.calls ++ [⟨name, parts, named, .null⟩] }) h.replies _

/-! ### Quiet tasks -/

/-- The task adds nothing to what is seen. -/
def Quiet (view : Call → Option ε) (flow : Flow α) : Prop := Along (Session.SameSeen view) flow

/-- Changing files is no call. -/
theorem quiet_change (p : Path) (act : FileTree → List String → Except FileFault FileTree) :
    Quiet view (change p act) := by
  refine (reads_place p).along.bind fun place => .get_bind fun s => ?_
  split
  · exact fun _ => rfl
  · exact .throw _

theorem quiet_replyTo (key : String) (call : Call) : Quiet view (replyTo key call) := by
  intro s
  obtain ⟨o, replies, h⟩ := exists_exec_replyTo key call s
  rw [h]
  rfl

theorem quiet_note {name : String} {parts : List Value} {named : List (String × Value)}
    (h : view ⟨name, parts, named, .null⟩ = none) : Quiet view (note name parts named) := by
  intro s
  rw [note, exec_record, Session.SameSeen, Session.seen, List.filterMap_append, List.filterMap_cons_none h,
    List.filterMap_nil, List.append_nil]
  rfl

theorem quiet_call {name : String} {parts : List Value} {named : List (String × Value)}
    (h : view ⟨name, parts, named, .null⟩ = none) : Quiet view (call name parts named) := by
  intro s
  obtain ⟨o, answers, replies, hexec⟩ := exists_exec_call name parts named s
  rw [hexec, Session.SameSeen, Session.seen, List.filterMap_append, List.filterMap_cons_none h, List.filterMap_nil,
    List.append_nil]
  rfl

end Flow

end WarehouseMigration
