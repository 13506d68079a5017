import WarehouseMigration.Proofs.Session.Exec
import WarehouseMigration.Spark

/-!
# Tasks in a session whose services work

Whether the services of a session work is a property of sessions, `ready`, of which only this is used: it lasts, and
as long as it holds every call has an answer (`Serviced`).  A task behaves, with regard to the calls of one name, if
from a ready session it leads to another one, makes no call of that name, and fails in a given way only.  Behaviour is
kept by sequences of tasks (`Behaves.bind`) and by attempts (`Behaves.attempt`), so it is read off the parts of a task;
the calls to Spark are the basic case (`behaves_act`).
-/

namespace WarehouseMigration

def Session.noted (name : String) (s : Session) : List Call := s.calls.filter (·.name == name)

/-- No answer is going to come, so that each call is answered by nothing. -/
structure Session.Silent (s : Session) : Prop where
  replies : s.replies = []
  reaction : ∀ call, s.reaction call = none

def Failure.never : Failure → Prop := fun _ => False

def Failure.ofSource : Failure → Prop := fun e => ∃ reason, e = .dataSource reason

namespace Flow

variable {α β : Type} {ready : Session → Prop} {name : String} {fails : Failure → Prop} {s : Session}

/-- From a ready session, the task leads to a ready one, makes no call of the name and fails only so. -/
def Behaves (ready : Session → Prop) (name : String) (fails : Failure → Prop) (flow : Flow α) : Prop :=
  ∀ s : Session, ready s → ready (flow.exec s).2 ∧ (flow.exec s).2.noted name = s.noted name ∧
    ∀ e, (flow.exec s).1 = .error e → fails e

/-- In a ready session calls of other names can be made, and each has an answer. -/
structure Serviced (ready : Session → Prop) (name : String) : Prop where
  record : ∀ call, call.name ≠ name → Behaves ready name Failure.never (record call)
  reply : ∀ key call, Behaves ready name Failure.never (replyTo key call)

namespace Behaves

variable {flow : Flow α}

/-- A task that never fails comes to its end. -/
theorem exists_ok (h : Behaves ready name Failure.never flow) (hs : ready s) :
    ∃ a t, flow.exec s = (.ok a, t) ∧ ready t ∧ t.noted name = s.noted name := by
  obtain ⟨h1, h2, h3⟩ := h s hs
  rcases hx : flow.exec s with ⟨e | a, t⟩
  · rw [hx] at h3
    exact (h3 e rfl).elim
  · rw [hx] at h1 h2
    exact ⟨a, t, rfl, h1, h2⟩

theorem pure (a : α) : Behaves ready name fails (Pure.pure a : Flow α) := by
  intro s hs
  refine ⟨hs, rfl, ?_⟩
  intro e he
  cases he

theorem throw {e : Failure} (h : fails e) : Behaves ready name fails (MonadExcept.throw e : Flow α) := by
  intro s hs
  refine ⟨hs, rfl, ?_⟩
  intro e' he
  cases he
  exact h

theorem bind {next : α → Flow β} (hf : Behaves ready name fails flow)
    (hn : ∀ a, Behaves ready name fails (next a)) : Behaves ready name fails (flow >>= next) := by
  intro s hs
  obtain ⟨h1, h2, h3⟩ := hf s hs
  rcases hx : flow.exec s with ⟨e | a, t⟩ <;> rw [hx] at h1 h2 h3
  · rw [exec_bind_of_error hx]
    refine ⟨h1, h2, ?_⟩
    intro e' he
    cases he
    exact h3 e rfl
  · rw [exec_bind_of_ok hx]
    obtain ⟨g1, g2, g3⟩ := hn a t h1
    exact ⟨g1, g2.trans h2, g3⟩

/-- An attempt makes the failure a value; whatever follows may rely on the way in which the task fails. -/
theorem attempt {fails' : Failure → Prop} {next : Outcome α → Flow β}
    (hf : Behaves ready name fails flow) (hok : ∀ a, Behaves ready name fails' (next (.ok a)))
    (herr : ∀ e, fails e → Behaves ready name fails' (next (.error e))) :
    Behaves ready name fails' (flow.attempt >>= next) := by
  intro s hs
  obtain ⟨h1, h2, h3⟩ := hf s hs
  rw [exec_bind_of_ok (exec_attempt flow s)]
  rcases hx : flow.exec s with ⟨e | a, t⟩ <;> rw [hx] at h1 h2 h3
  · obtain ⟨g1, g2, g3⟩ := herr e (h3 e rfl) t h1
    exact ⟨g1, g2.trans h2, g3⟩
  · obtain ⟨g1, g2, g3⟩ := hok a t h1
    exact ⟨g1, g2.trans h2, g3⟩

/-- A task that does nothing but fail behaves if it may fail so. -/
theorem of_exec_error (h : ∀ s, ∃ e, flow.exec s = (.error e, s) ∧ fails e) : Behaves ready name fails flow := by
  intro s hs
  obtain ⟨e, hx, he⟩ := h s
  rw [hx]
  refine ⟨hs, rfl, ?_⟩
  intro e' he'
  cases he'
  exact he

end Behaves

/-- Services that answer by nothing work. -/
theorem silent_serviced (name : String) : Serviced Session.Silent name where
  record := by
    intro call h s hs
    refine ⟨⟨hs.replies, hs.reaction⟩, ?_, ?_⟩
    · simp [Session.noted, h]
    · intro e he
      cases he
  reply := by
    intro key call s hs
    rw [replyTo, exec_bind_of_ok (exec_get s), hs.replies, hs.reaction]
    exact Behaves.pure _ s hs

end Flow

namespace Spark

open WarehouseMigration.Flow (Behaves Serviced)

variable {α : Type} {ready : Session → Prop} {name : String}

/-- An action other than the one that is noted never fails. -/
theorem behaves_act (hw : Serviced ready name) {frame : Value} {method : String} (parts : List Value)
    (named : List (String × Value)) (h : pathOf frame ++ "." ++ method ≠ name) :
    Behaves ready name Failure.never (act frame method parts named) :=
  Behaves.bind (hw.record _ h) (fun _ => hw.reply _ _)

/-- A frame that is made is known from the call that makes it. -/
theorem behaves_make (hw : Serviced ready name) {frame : Value} {method : String} (parts : List Value)
    (named : List (String × Value)) {next : Value → Flow α} (h : pathOf frame ++ "." ++ method ≠ name)
    (hn : Behaves ready name Failure.never (next (applied frame method parts named))) :
    Behaves ready name Failure.never (make frame method parts named >>= next) := by
  have hmake : make frame method parts named >>= next =
      act frame method parts named >>= fun _ => next (applied frame method parts named) := by
    simp [make]
  rw [hmake]
  exact Behaves.bind (behaves_act hw parts named h) (fun _ => hn)

end Spark

end WarehouseMigration
