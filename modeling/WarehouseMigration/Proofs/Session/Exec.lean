import Mathlib.Order.Defs.Unbundled
import WarehouseMigration.Session

/-!
# Executing tasks

What the combinators of tasks do to a session: one equation for each.  A task of two parts goes on with the second
part where the first one ended (`exec_bind_of_ok`) or stops there (`exec_bind_of_error`), and an attempt never fails
(`exec_attempt`).  A task may have a state of its own beside the session; it goes on in the same way
(`Stateful.exists_of_run_bind`).  If a relation between sessions is reflexive and transitive, then a task made of parts
that lead from each session to a related one does so too (`Flow.Along`, `Stateful.Along`).
-/

namespace WarehouseMigration.Flow

variable {α β : Type} {s t : Session}

@[simp] theorem exec_pure (a : α) (s : Session) : (pure a : Flow α).exec s = (.ok a, s) := rfl

@[simp] theorem exec_throw (e : Failure) (s : Session) : (throw e : Flow α).exec s = (.error e, s) := rfl

@[simp] theorem exec_get (s : Session) : (get : Flow Session).exec s = (.ok s, s) := rfl

/-- A task that succeeds is followed by the next one. -/
theorem exec_bind_of_ok {flow : Flow α} {next : α → Flow β} {a : α} (h : flow.exec s = (.ok a, t)) :
    (flow >>= next).exec s = (next a).exec t := by
  change StateT.bind flow.run (ExceptT.bindCont next) s = _
  have hrun : flow.run s = (.ok a, t) := h
  rw [StateT.bind, hrun]
  rfl

/-- A task that fails ends the whole. -/
theorem exec_bind_of_error {flow : Flow α} {next : α → Flow β} {e : Failure} (h : flow.exec s = (.error e, t)) :
    (flow >>= next).exec s = (.error e, t) := by
  change StateT.bind flow.run (ExceptT.bindCont next) s = _
  have hrun : flow.run s = (.error e, t) := h
  rw [StateT.bind, hrun]
  rfl

/-- What succeeds in two parts has succeeded in both. -/
theorem exists_of_exec_bind {flow : Flow α} {next : α → Flow β} {b : β} (h : (flow >>= next).exec s = (.ok b, t)) :
    ∃ a s', flow.exec s = (.ok a, s') ∧ (next a).exec s' = (.ok b, t) := by
  rcases hx : flow.exec s with ⟨e | a, s'⟩
  · rw [exec_bind_of_error hx] at h
    cases h
  · rw [exec_bind_of_ok hx] at h
    exact ⟨a, s', rfl, h⟩

/-- A task of two parts that fails has failed in the first or in the second. -/
theorem exec_bind_eq_error_iff {flow : Flow α} {next : α → Flow β} {e : Failure} :
    (flow >>= next).exec s = (.error e, t) ↔
      flow.exec s = (.error e, t) ∨ ∃ a s', flow.exec s = (.ok a, s') ∧ (next a).exec s' = (.error e, t) := by
  rcases hx : flow.exec s with ⟨e' | a, s'⟩
  · rw [exec_bind_of_error hx]
    simp
  · rw [exec_bind_of_ok hx]
    refine ⟨fun h => .inr ⟨a, s', rfl, h⟩, ?_⟩
    rintro (h | ⟨b, u, h, hnext⟩)
    · cases h
    · cases h
      exact hnext

/-- The outcome of an attempt is the outcome of the task, as a value. -/
@[simp] theorem exec_attempt (flow : Flow α) (s : Session) :
    flow.attempt.exec s = (.ok (flow.exec s).1, (flow.exec s).2) := rfl

@[simp] theorem exec_ofOutcome (o : Outcome α) (s : Session) : (ofOutcome o).exec s = (o, s) := by
  cases o <;> rfl

/-- What is done last in any case leaves the outcome as it is, if it succeeds. -/
theorem exec_ensure {flow : Flow α} {last : Flow Unit} {o : Outcome α} {u : Session} (h : flow.exec s = (o, t))
    (hlast : last.exec t = (.ok (), u)) : (flow.ensure last).exec s = (o, u) := by
  have hattempt : flow.attempt.exec s = (.ok o, t) := by rw [exec_attempt, h]
  rw [ensure, exec_bind_of_ok hattempt, exec_bind_of_ok hlast, exec_ofOutcome]

section Recover

variable {flow : Flow α} {wayOut : Failure → Option (Flow α)}

theorem exec_recover_of_ok {a : α} (h : flow.exec s = (.ok a, t)) : (recover flow wayOut).exec s = (.ok a, t) := by
  rw [recover, exec_bind_of_ok (exec_attempt flow s), h]
  rfl

/-- A failure with a way out is recovered from. -/
theorem exec_recover_of_some {other : Flow α} {e : Failure} (h : flow.exec s = (.error e, t))
    (hother : wayOut e = some other) : (recover flow wayOut).exec s = other.exec t := by
  rw [recover, exec_bind_of_ok (exec_attempt flow s), h]
  dsimp only
  rw [hother]

theorem exec_recover_of_none {e : Failure} (h : flow.exec s = (.error e, t)) (hnone : wayOut e = none) :
    (recover flow wayOut).exec s = (.error e, t) := by
  rw [recover, exec_bind_of_ok (exec_attempt flow s), h]
  dsimp only
  rw [hnone]
  rfl

end Recover

section Once

variable {key : String} {make : Flow Value} {v : Value}

end Once

@[simp] theorem exec_now (layout : String) (s : Session) : (now layout).exec s = (.ok (s.clock layout), s) := rfl

@[simp] theorem exec_record (call : Call) (s : Session) :
    (record call).exec s = (.ok (), { s with calls := s.calls ++ [call] }) := rfl

/-- A task that leaves the session as it is can be done for each item. -/
theorem exec_mapM {task : α → Flow β} {f : α → β} {items : List α}
    (h : ∀ a ∈ items, (task a).exec s = (.ok (f a), s)) : (items.mapM task).exec s = (.ok (items.map f), s) := by
  induction items with
  | nil => rfl
  | cons a items ih =>
    rw [List.mapM_cons, exec_bind_of_ok (h a List.mem_cons_self),
      exec_bind_of_ok (ih fun b hb => h b (List.mem_cons_of_mem a hb)), exec_pure, List.map_cons]

end WarehouseMigration.Flow

/-! ### Tasks with a state of their own -/

namespace WarehouseMigration.Stateful

variable {σ α β : Type} {c c' : σ} {s s' : Session}

theorem run_bind_of_ok {task : ExceptT Failure (StateT σ (StateM Session)) α}
    {next : α → ExceptT Failure (StateT σ (StateM Session)) β} {a : α} (h : task.run c s = ((.ok a, c'), s')) :
    (task >>= next).run c s = (next a).run c' s' := by
  change StateT.bind (task c) (fun done => ExceptT.bindCont next done.1 done.2) s = _
  have hrun : task c s = ((.ok a, c'), s') := h
  rw [StateT.bind, hrun]
  rfl

theorem run_bind_of_error {task : ExceptT Failure (StateT σ (StateM Session)) α}
    {next : α → ExceptT Failure (StateT σ (StateM Session)) β} {e : Failure} (h : task.run c s = ((.error e, c'), s')) :
    (task >>= next).run c s = ((.error e, c'), s') := by
  change StateT.bind (task c) (fun done => ExceptT.bindCont next done.1 done.2) s = _
  have hrun : task c s = ((.error e, c'), s') := h
  rw [StateT.bind, hrun]
  rfl

/-- A task of two parts that succeeds has gone through both. -/
theorem exists_of_run_bind {task : ExceptT Failure (StateT σ (StateM Session)) α}
    {next : α → ExceptT Failure (StateT σ (StateM Session)) β} {b : β}
    (h : (task >>= next).run c s = ((.ok b, c'), s')) :
    ∃ a c₁ s₁, task.run c s = ((.ok a, c₁), s₁) ∧ (next a).run c₁ s₁ = ((.ok b, c'), s') := by
  rcases htask : task.run c s with ⟨⟨e | a, c₁⟩, s₁⟩
  · rw [run_bind_of_error htask] at h
    cases h
  · rw [run_bind_of_ok htask] at h
    exact ⟨a, c₁, s₁, rfl, h⟩

end WarehouseMigration.Stateful

/-! ### Relations between sessions -/

namespace WarehouseMigration

section

variable {R : Session → Session → Prop} {α β σ : Type}

/-- Whatever the step gives, the session after it is related to the one before it. -/
def Session.Leads (R : Session → Session → Prop) (step : StateM Session α) : Prop := ∀ s, R s (step s).2

private theorem Session.Leads.bind [IsTrans Session R] {step : StateM Session α} (h : Leads R step)
    (next : α → StateM Session β) (hnext : ∀ a, Leads R (next a)) : Leads R (step >>= next) :=
  fun s => trans_of R (h s) (hnext (step s).1 (step s).2)

/-- The task leads from each session to a related one. -/
def Flow.Along (R : Session → Session → Prop) (flow : Flow α) : Prop := Session.Leads R flow.exec

/-- The task leads from each session to a related one, whatever its own state is. -/
def Stateful.Along (R : Session → Session → Prop) (task : ExceptT Failure (StateT σ (StateM Session)) α) : Prop :=
  ∀ c, Session.Leads R (task.run c)

namespace Flow.Along

variable {flow other : Flow α} {next : α → Flow β}

theorem of_exec (h : Along R flow) {o : Outcome α} {s s' : Session} (hexec : flow.exec s = (o, s')) : R s s' := by
  have hs := h s
  rwa [hexec] at hs

theorem attempt (h : Along R flow) : Along R flow.attempt := h

theorem ite {c : Prop} [Decidable c] (h : Along R flow) (hother : Along R other) :
    Along R (if c then flow else other) := by
  split
  · exact h
  · exact hother

theorem get_bind {next : Session → Flow α} (h : ∀ s, Along R (next s)) : Along R (get >>= next) := by
  intro s
  rw [exec_bind_of_ok (exec_get s)]
  exact h s s

variable [Std.Refl R]

protected theorem pure (a : α) : Along R (pure a : Flow α) := fun s => refl_of R s

protected theorem throw (e : Failure) : Along R (throw e : Flow α) := fun s => refl_of R s

variable [IsTrans Session R]

theorem bind (h : Along R flow) (hnext : ∀ a, Along R (next a)) : Along R (flow >>= next) := by
  refine Session.Leads.bind h (ExceptT.bindCont next) fun o => ?_
  cases o with
  | error e => exact fun s => refl_of R s
  | ok a => exact hnext a

theorem forIn {task : α → β → Flow (ForInStep β)} (h : ∀ a b, Along R (task a b)) (items : List α) (b : β) :
    Along R (forIn items b task) := by
  induction items generalizing b with
  | nil => exact .pure b
  | cons a items ih =>
    rw [List.forIn_cons]
    refine (h a b).bind fun step => ?_
    cases step with
    | done b => exact .pure b
    | yield b => exact ih b

end Flow.Along

namespace Stateful.Along

variable {task other : ExceptT Failure (StateT σ (StateM Session)) α}
  {next : α → ExceptT Failure (StateT σ (StateM Session)) β}

theorem ite {c : Prop} [Decidable c] (h : Along R task) (hother : Along R other) :
    Along R (if c then task else other) := by
  split
  · exact h
  · exact hother

variable [Std.Refl R]

protected theorem pure (a : α) : Along R (pure a : ExceptT Failure (StateT σ (StateM Session)) α) :=
  fun _ s => refl_of R s

variable [IsTrans Session R]

theorem bind (h : Along R task) (hnext : ∀ a, Along R (next a)) : Along R (task >>= next) := by
  intro c
  refine Session.Leads.bind (h c) (fun done => ExceptT.bindCont next done.1 done.2) fun done => ?_
  rcases done with ⟨e | a, c'⟩
  · exact fun s => refl_of R s
  · exact hnext a c'

theorem forM {task : α → ExceptT Failure (StateT σ (StateM Session)) Unit} (h : ∀ a, Along R (task a))
    (items : List α) : Along R (items.forM task) := by
  induction items with
  | nil => exact .pure ()
  | cons a items ih => exact (h a).bind fun _ => ih

end Stateful.Along

end

end WarehouseMigration
