import WarehouseMigration.Operator
import WarehouseMigration.Proofs.Session.Files

/-!
# Tasks that only read files

A task reads if it leaves the session as it is and its outcome depends on nothing but the file tree and the name of the
working directory (`Reads`).  Reading is kept by sequences of tasks, by attempts and by loops, so that it is read off
the parts of a task.  What a reading task gave once, it gives again as long as the files stay (`Reads.exec_again`), and
they stay when a task keeps them (`KeepsFiles`), as a question to the operator does (`keepsFiles_ask`).
-/

namespace WarehouseMigration

/-- Two sessions with the same files in the same working directory. -/
structure Session.SameFiles (s t : Session) : Prop where
  files : t.files = s.files
  home : t.home = s.home

namespace Session.SameFiles

variable {s t u : Session}

theorem refl (s : Session) : SameFiles s s := ⟨rfl, rfl⟩

theorem trans (h : SameFiles s t) (h' : SameFiles t u) : SameFiles s u :=
  ⟨h'.files.trans h.files, h'.home.trans h.home⟩

theorem symm (h : SameFiles s t) : SameFiles t s := ⟨h.files.symm, h.home.symm⟩

instance : Std.Refl SameFiles := ⟨refl⟩

instance : IsTrans Session SameFiles := ⟨fun _ _ _ => trans⟩

end Session.SameFiles

namespace Flow

open Session (SameFiles)

variable {α β : Type} {s : Session}

/-- The task leaves each session as it is, with the same outcome in sessions with the same files. -/
def Reads (flow : Flow α) : Prop := ∀ s t, SameFiles s t → flow.exec t = ((flow.exec s).1, t)

variable {flow : Flow α} {s' : Session}

namespace Reads

theorem session_eq (h : Reads flow) {o : Outcome α} (hexec : flow.exec s = (o, s')) : s' = s := by
  have heq := h s s (.refl s)
  rw [hexec] at heq
  exact (Prod.mk.inj heq).2

/-- Where the files are the same, the same is read. -/
theorem exec_again (h : Reads flow) {o : Outcome α} {t : Session} (hexec : flow.exec s = (o, s'))
    (hsame : SameFiles s t) : flow.exec t = (o, t) := by
  rw [h s t hsame, hexec]

/-- A task of two parts whose first one reads goes on with the second one in the same session. -/
theorem exists_of_bind {next : α → Flow β} (h : Reads flow) {b : β} (hexec : (flow >>= next).exec s = (.ok b, s')) :
    ∃ a, flow.exec s = (.ok a, s) ∧ (next a).exec s = (.ok b, s') := by
  obtain ⟨a, s₁, hfirst, hnext⟩ := exists_of_exec_bind hexec
  cases h.session_eq hfirst
  exact ⟨a, hfirst, hnext⟩

theorem bind {next : α → Flow β} (h : Reads flow) (hnext : ∀ a, Reads (next a)) : Reads (flow >>= next) := by
  intro s t hsame
  rcases hexec : flow.exec s with ⟨e | a, s'⟩
  · rw [exec_bind_of_error (h.exec_again hexec hsame), exec_bind_of_error hexec]
  · cases h.session_eq hexec
    rw [exec_bind_of_ok (h.exec_again hexec hsame), exec_bind_of_ok hexec]
    exact hnext a s t hsame

theorem attempt (h : Reads flow) : Reads flow.attempt := by
  intro s t hsame
  rw [exec_attempt, exec_attempt, h s t hsame]

/-- A task that reads keeps whatever a task that does nothing keeps. -/
theorem along {R : Session → Session → Prop} [Std.Refl R] (h : Reads flow) : Along R flow := by
  intro s
  rw [h s s (.refl s)]
  exact refl_of R s

end Reads

theorem reads_ofOutcome (o : Outcome α) : Reads (ofOutcome o) := by
  intro s t _
  rw [exec_ofOutcome, exec_ofOutcome]

theorem reads_pure (a : α) : Reads (pure a : Flow α) := reads_ofOutcome (.ok a)

theorem reads_throw (e : Failure) : Reads (throw e : Flow α) := reads_ofOutcome (.error e)

theorem reads_ite {c : Prop} [Decidable c] {other : Flow α} (h : Reads flow) (hother : Reads other) :
    Reads (if c then flow else other) := by
  split
  · exact h
  · exact hother

theorem reads_mapM {task : α → Flow β} (h : ∀ a, Reads (task a)) (items : List α) : Reads (items.mapM task) := by
  induction items with
  | nil => exact reads_pure []
  | cons a items ih =>
    rw [List.mapM_cons]
    exact (h a).bind fun b => ih.bind fun bs => reads_pure (b :: bs)

theorem reads_filterM {test : α → Flow Bool} (h : ∀ a, Reads (test a)) (items : List α) :
    Reads (items.filterM test) := by
  have haux : ∀ (items acc : List α), Reads (items.filterAuxM test acc) := by
    intro items
    induction items with
    | nil => exact fun acc => reads_pure acc
    | cons a items ih =>
      intro acc
      rw [List.filterAuxM]
      exact (h a).bind fun keep => ih _
  exact (haux items []).bind fun found => reads_pure found.reverse

/-! ### Files -/

/-- A task that looks at the files and at nothing else of the session. -/
private theorem reads_get {next : Session → Flow α} (h : ∀ s, Reads (next s))
    (hfiles : ∀ s t, SameFiles s t → next t = next s) : Reads (get >>= next) := by
  intro s t hsame
  rw [exec_bind_of_ok (exec_get t), exec_bind_of_ok (exec_get s), hfiles s t hsame]
  exact h s s t hsame

variable (p : Path)

/-- A look at the files is all that is needed. -/
theorem reads_inspect (look : FileTree → List String → α) (outside : α) : Reads (inspect p look outside) := by
  rw [inspect]
  refine reads_ite (reads_pure _) (reads_ite (Reads.bind (reads_throw _) fun _ => ?_) ?_)
  all_goals
    refine reads_get (fun s => reads_pure _) fun s t hsame => ?_
    rw [hsame.files, hsame.home]

theorem reads_pathExists : Reads (pathExists p) := reads_inspect p _ _

theorem reads_isDirectory : Reads (isDirectory p) := reads_inspect p _ _

theorem reads_isFile : Reads (isFile p) := reads_inspect p _ _

theorem reads_place : Reads (place p) := by
  rw [place]
  refine reads_ite (Reads.bind (reads_throw _) fun _ => reads_ite (Reads.bind (reads_throw _) fun _ => ?_) ?_)
    (reads_ite (Reads.bind (reads_throw _) fun _ => ?_) ?_)
  all_goals
    refine reads_get (fun s => ?_) fun s t hsame => by rw [hsame.home]
    split
    · exact reads_pure _
    · exact reads_throw _

/-- A change that is not made leaves everything as it is, whatever the reason. -/
theorem session_eq_of_exec_change {p : Path} {act : FileTree → List String → Except FileFault FileTree} {e : Failure}
    {s : Session} (h : (change p act).exec s = (.error e, s')) : s' = s := by
  rcases hplace : (place p).exec s with ⟨e' | place, s₁⟩
  · obtain rfl := (reads_place p).session_eq hplace
    rw [change, exec_bind_of_error hplace] at h
    exact (Prod.mk.inj h).2.symm
  · obtain ⟨hleads, rfl⟩ := leadsTo_of_exec_place hplace
    cases hact : act s₁.files place with
    | error fault =>
      rw [exec_change_of_error hleads hact] at h
      exact (Prod.mk.inj h).2.symm
    | ok t =>
      rw [exec_change_of_ok hleads hact] at h
      cases h

private theorem reads_readContent : Reads (readContent p) := by
  rw [readContent]
  refine reads_get (fun s => (reads_place p).bind fun place => ?_) fun s t hsame => by rw [hsame.files]
  split
  · exact reads_pure _
  · exact reads_throw _

theorem reads_readText : Reads (readText p) := by
  refine (reads_readContent p).bind fun content => ?_
  cases content with
  | text text => exact reads_pure text
  | archive members => exact reads_throw _

theorem reads_listDirectory : Reads (listDirectory p) := by
  refine (reads_place p).bind fun place => ?_
  refine reads_get (fun s => ?_) fun s t hsame => by rw [hsame.files]
  dsimp only
  split
  · exact reads_pure _
  · exact reads_throw _
  · exact reads_throw _

/-! ### Tasks that keep the files -/

/-- The task leaves the files as they are. -/
def KeepsFiles (flow : Flow α) : Prop := Along SameFiles flow

theorem keepsFiles_ask (kind : String) (parts : List Value) (named : List (String × Value)) :
    KeepsFiles (ask kind parts named) := by
  refine Along.bind (fun s => ⟨rfl, rfl⟩) fun _ s => ?_
  rw [nextAnswer, exec_bind_of_ok (exec_get s)]
  rcases s.answers with - | ⟨reply, rest⟩
  · exact ⟨rfl, rfl⟩
  · cases reply <;> exact ⟨rfl, rfl⟩

theorem keepsFiles_questionText (prompt : String) (proposal : Option Value) :
    KeepsFiles (questionText prompt proposal) :=
  (keepsFiles_ask _ _ _).bind fun answer => (reads_ofOutcome answer.asText).along

end Flow

end WarehouseMigration
