import WarehouseMigration.Value.Fields

/-!
# What readers give

A reader that gives a record gives one with a certain property (`Outcome.Gives`); it may also fail.  The property is
carried through the steps of a reader, and from a reader of records to a reader of lists of them.
-/

namespace WarehouseMigration.Outcome

variable {α β : Type} {P : α → Prop} {Q : β → Prop}

variable {o : Outcome α} {f : α → Outcome β}

theorem bind_eq_ok_iff {b : β} : (o >>= f) = .ok b ↔ ∃ a, o = .ok a ∧ f a = .ok b := by
  cases o with
  | error e => exact iff_of_false (by rintro ⟨⟩) (by rintro ⟨a, ⟨⟩, -⟩)
  | ok a => exact ⟨fun h => ⟨a, rfl, h⟩, by rintro ⟨_, ⟨⟩, h⟩; exact h⟩

/-- Whatever an outcome gives has a property. -/
def Gives (P : α → Prop) (o : Outcome α) : Prop := ∀ a, o = .ok a → P a

theorem gives_pure {a : α} (h : P a) : Gives P (pure a) := by
  rintro _ ⟨⟩
  exact h

theorem gives_throw (e : Failure) : Gives P (throw e) := by
  rintro a ⟨⟩

theorem Gives.bind (ho : Gives P o) (hf : ∀ a, P a → Gives Q (f a)) : Gives Q (o >>= f) := by
  cases o with
  | error e => exact gives_throw e
  | ok a => exact hf a (ho a rfl)

/-- A step of which nothing is needed. -/
theorem gives_bind (hf : ∀ a, Gives Q (f a)) : Gives Q (o >>= f) :=
  Gives.bind (P := fun _ => True) (fun _ _ => trivial) fun a _ => hf a

theorem gives_ite {c : Prop} [Decidable c] {o' : Outcome α} (h : Gives P o) (h' : Gives P o') :
    Gives P (if c then o else o') := by
  split
  · exact h
  · exact h'

/-- A check that may refuse before the reader goes on. -/
theorem gives_check {c : Prop} [Decidable c] {e : Failure} {next : Unit → Outcome α} (h : ∀ u, Gives P (next u)) :
    Gives P (if c then throw e >>= next else next ()) :=
  gives_ite (gives_bind h) (h ())

private theorem gives_mapM {read : α → Outcome β} (h : ∀ a, Gives Q (read a)) (items : List α) :
    Gives (fun results => ∀ b ∈ results, Q b) (items.mapM read) := by
  induction items with
  | nil => exact gives_pure (by simp)
  | cons a items ih =>
    rw [List.mapM_cons]
    refine (h a).bind fun b hb => ih.bind fun results hresults => gives_pure ?_
    exact List.forall_mem_cons.2 ⟨hb, hresults⟩

theorem mapM_eq_ok {g : α → β} {items : List α} (h : ∀ a ∈ items, f a = .ok (g a)) :
    items.mapM f = .ok (items.map g) := by
  induction items with
  | nil => rfl
  | cons a items ih =>
    obtain ⟨ha, hitems⟩ := List.forall_mem_cons.1 h
    rw [List.mapM_cons, ha, ih hitems]
    rfl

/-- A list that could not be read has an item that could not be read. -/
theorem exists_of_mapM_eq_error {items : List α} {e : Failure}
    (h : items.mapM f = .error e) : ∃ a ∈ items, f a = .error e := by
  induction items with
  | nil => cases h
  | cons a items ih =>
    rw [List.mapM_cons] at h
    cases ha : f a with
    | error e' =>
      rw [ha] at h
      cases h
      exact ⟨a, List.mem_cons_self, ha⟩
    | ok b =>
      rw [ha] at h
      cases hrest : items.mapM f with
      | error e' =>
        rw [hrest] at h
        cases h
        obtain ⟨a', hmem, ha'⟩ := ih hrest
        exact ⟨a', List.mem_cons_of_mem a hmem, ha'⟩
      | ok bs =>
        rw [hrest] at h
        cases h

theorem gives_asRecord? {read : Value → Outcome α} (h : ∀ v, Gives P (read v)) (v : Value) :
    Gives (fun record => ∀ a ∈ record, P a) (v.asRecord? read) := by
  rw [Value.asRecord?]
  split
  · exact gives_pure (by simp)
  · exact (h v).bind fun a ha => gives_pure (by simpa using ha)

theorem gives_asRecords? {read : Value → Outcome α} (h : ∀ v, Gives P (read v)) (v : Value) :
    Gives (fun records => ∀ a ∈ records.getD [], P a) (v.asRecords? read) := by
  rw [Value.asRecords?]
  split
  · exact gives_pure (by simp)
  · exact gives_bind fun items => (gives_mapM h items).bind fun results hresults => gives_pure hresults

end WarehouseMigration.Outcome

namespace WarehouseMigration.Value

theorem beq_text_iff {v : Value} {text : String} : (v == .text text) = true ↔ v = .text text := by
  constructor
  · intro h
    cases v with
    | text own => rw [eq_of_beq (show (own == text) = true from h)]
    | _ => cases h
  · rintro rfl
    exact beq_self_eq_true text

end WarehouseMigration.Value
