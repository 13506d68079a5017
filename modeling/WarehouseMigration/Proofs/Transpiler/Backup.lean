import WarehouseMigration.Proofs.Session.Files
import WarehouseMigration.Transpiler.Backup

/-!
# Backups

A backup moves the tree below one place to a place beside it, and back or away.  With what stands below the two places
before and after (`FileTree.view`), each of its steps is one equation: `start` moves the folder aside (`exec_start`),
`rollback` brings it back (`exec_rollback`), `commit` drops it (`exec_commit`).  All other places stay as they are.
-/

namespace WarehouseMigration

/-- What stands below a place of a file tree, and at it. -/
def FileTree.view (t : FileTree) (place : List String) (rest : List String) : Option Entry := t.find? (place ++ rest)

theorem FileTree.view_nil (t : FileTree) (place : List String) : t.view place [] = t.find? place := by
  rw [FileTree.view, List.append_nil]

namespace Transpiler.Backup

open WarehouseMigration.Flow FileTree

/-- A path leads to a place, and the path under which it is put aside to another one in the same folder. -/
structure Sides (target : Path) (home : String) (root own aside : List String) : Prop where
  leads : target.LeadsTo home own
  leadsAside : (savedPath target).LeadsTo home aside
  parent : own.dropLast = root
  parentAside : aside.dropLast = root
  apart : ¬ own <+: aside
  apartAside : ¬ aside <+: own

/-- What a step has done: it leaves given trees at the two places, and everything else as it was. -/
structure Leaves (own aside : List String) (s s' : Session) (atOwn atAside : List String → Option Entry) : Prop where
  home : s'.home = s.home
  viewOwn : s'.files.view own = atOwn
  viewAside : s'.files.view aside = atAside
  others : ∀ place, ¬ own <+: place → ¬ aside <+: place → s'.files.find? place = s.files.find? place

/-- At a place stands a folder, or nothing at all. -/
def FolderOrNone (view : List String → Option Entry) : Prop := view [] = some .directory ∨ view = fun _ => none

/-! ### Two places apart -/

section Apart

variable {p q : List String} {s : Session}

private theorem Leaves.refl {view : List String → Option Entry} (h : s.files.view q = view) :
    Leaves p q s s (s.files.view p) view :=
  ⟨rfl, rfl, h, fun _ _ _ => rfl⟩

private theorem Leaves.trans {s' s'' : Session} {atP atQ atP' atQ' : List String → Option Entry}
    (h : Leaves p q s s' atP atQ) (h' : Leaves p q s' s'' atP' atQ') : Leaves p q s s'' atP' atQ' where
  home := h'.home.trans h.home
  viewOwn := h'.viewOwn
  viewAside := h'.viewAside
  others := fun place hp hq => (h'.others place hp hq).trans (h.others place hp hq)

private theorem Leaves.swap {s' : Session} {atP atQ : List String → Option Entry} (h : Leaves p q s s' atP atQ) :
    Leaves q p s s' atQ atP :=
  ⟨h.home, h.viewAside, h.viewOwn, fun place hq hp => h.others place hp hq⟩

variable (hpq : ¬ p <+: q) (hqp : ¬ q <+: p)

include hpq hqp

/-- Nothing below a place stands below one that is apart from it. -/
theorem not_prefix_below (rest : List String) : ¬ p <+: q ++ rest := by
  intro h
  rcases List.prefix_or_prefix_of_prefix h (List.prefix_append ..) with h | h
  · exact hpq h
  · exact hqp h

private theorem leaves_remove : Leaves p q s { s with files := s.files.remove q } (s.files.view p) fun _ => none := by
  have hne : q ≠ [] := fun h => hqp (h ▸ List.nil_prefix)
  refine ⟨rfl, funext fun rest => ?_, funext fun rest => ?_, fun place _ hq => ?_⟩
  · rw [FileTree.view, FileTree.find?_remove hne, if_neg (not_prefix_below hqp hpq rest)]
    rfl
  · rw [FileTree.view, FileTree.find?_remove hne, if_pos (List.prefix_append ..)]
  · rw [FileTree.find?_remove hne, if_neg hq]

/-- What is moved from one place to the other one is there as it was. -/
private theorem leaves_move : Leaves p q s { s with files := s.files.move p q } (fun _ => none) (s.files.view p) where
  home := rfl
  viewOwn := funext fun rest => FileTree.find?_move_source hpq hqp rest
  viewAside := funext fun rest => FileTree.find?_move_target hpq hqp rest
  others := fun _ hp hq => FileTree.find?_move_elsewhere hp hq

end Apart

/-! ### The steps of a backup -/

section Steps

variable {target : Path} {root own aside : List String} {s : Session}

private theorem exec_removeFolder {folder : Path} {place : List String} (h : folder.LeadsTo s.home place)
    (hdir : s.files.isDirectory place = true) :
    (removeFolder folder).exec s = (.ok (), { s with files := s.files.remove place }) := by
  have hfile : (Flow.isFile folder).exec s = (.ok false, s) := by
    rw [Flow.isFile, exec_inspect h, FileTree.isFile_eq_false hdir]
  have hholds : s.files.holds place = true := by
    rw [FileTree.holds_iff, FileTree.isDirectory_iff.1 hdir]
    simp
  rw [removeFolder, exec_bind_of_ok hfile]
  simp only [Bool.false_eq_true, if_false]
  exact exec_removeTree h hholds

private theorem FolderOrNone.isDirectory {place : List String} (h : FolderOrNone (s.files.view place))
    (hholds : s.files.holds place = true) : s.files.isDirectory place = true := by
  rw [FileTree.holds_iff] at hholds
  rcases h with h | h
  · rwa [view_nil, ← FileTree.isDirectory_iff] at h
  · exact absurd ((view_nil ..).symm.trans (congrFun h [])) hholds

private theorem FolderOrNone.eq_none {place : List String} (h : FolderOrNone (s.files.view place))
    (hholds : s.files.holds place = false) : s.files.view place = fun _ => none := by
  refine h.resolve_left fun hdir => ?_
  rw [view_nil] at hdir
  simp [FileTree.holds, hdir] at hholds

variable (hsides : Sides target s.home root own aside)

include hsides

theorem Sides.own_ne_nil : own ≠ [] := fun h => hsides.apart (h ▸ List.nil_prefix)

private theorem Sides.aside_ne_nil : aside ≠ [] := fun h => hsides.apartAside (h ▸ List.nil_prefix)

/-- The folder of the two places is none of them. -/
theorem Sides.not_prefix_above {above : List String} (habove : above <+: root) :
    ¬ own <+: above ∧ ¬ aside <+: above := by
  have hlength := habove.length_le
  constructor
  · intro hpre
    have hpos := List.length_pos_iff.2 hsides.own_ne_nil
    have hle := hpre.length_le
    rw [← hsides.parent, List.length_dropLast] at hlength
    omega
  · intro hpre
    have hpos := List.length_pos_iff.2 hsides.aside_ne_nil
    have hle := hpre.length_le
    rw [← hsides.parentAside, List.length_dropLast] at hlength
    omega

theorem Leaves.find?_root {s' : Session} {atOwn atAside : List String → Option Entry}
    (h : Leaves own aside s s' atOwn atAside) {above : List String} (habove : above <+: root) :
    s'.files.find? above = s.files.find? above :=
  h.others above (hsides.not_prefix_above habove).1 (hsides.not_prefix_above habove).2

private theorem Leaves.isDirectory_root {s' : Session} {atOwn atAside : List String → Option Entry}
    (h : Leaves own aside s s' atOwn atAside) : s'.files.isDirectory root = s.files.isDirectory root := by
  rw [FileTree.isDirectory, h.find?_root hsides (List.prefix_refl root)]
  rfl

private theorem exec_putAside (hown : FolderOrNone (s.files.view own)) (haside : s.files.view aside = fun _ => none)
    (hroot : s.files.isDirectory root = true ∨ s.files.view own = fun _ => none) :
    ∃ s', (pathExists target >>= fun found => if found = true then
          (do rename target (savedPath target); pure ({ target, saved := some (savedPath target) } : Backup))
        else pure { target }).exec s =
        (.ok { target, saved := if s.files.holds own then some (savedPath target) else none }, s') ∧
      Leaves own aside s s' (fun _ => none) (s.files.view own) := by
  rw [exec_bind_of_ok (exec_pathExists hsides.leads)]
  cases hholds : s.files.holds own with
  | false =>
    have hnone := hown.eq_none hholds
    exact ⟨s, rfl, rfl, hnone, haside.trans hnone.symm, fun _ _ _ => rfl⟩
  | true =>
    have hdir : s.files.isDirectory aside.dropLast = true := by
      rw [hsides.parentAside]
      refine hroot.resolve_right fun hnone => ?_
      have hgone := (view_nil ..).symm.trans (congrFun hnone [])
      simp [FileTree.holds, hgone] at hholds
    have hfree := (view_nil ..).symm.trans (congrFun haside [])
    have hrename := exec_rename hsides.leads hsides.leadsAside (FileTree.rename_eq_ok hholds hfree hdir)
    refine ⟨_, ?_, leaves_move hsides.apart hsides.apartAside⟩
    simp only [if_true]
    rw [exec_bind_of_ok hrename, exec_pure]

/-- The folder is put aside, in place of what was there. -/
theorem exec_start (hown : FolderOrNone (s.files.view own)) (haside : FolderOrNone (s.files.view aside))
    (hroot : s.files.isDirectory root = true ∨ s.files.view own = fun _ => none) :
    ∃ s', (start { target }).exec s =
        (.ok { target, saved := if s.files.holds own then some (savedPath target) else none }, s') ∧
      Leaves own aside s s' (fun _ => none) (s.files.view own) := by
  rw [start]
  simp only
  rw [exec_bind_of_ok (exec_pathExists hsides.leadsAside)]
  cases hholds : s.files.holds aside with
  | false => exact exec_putAside hsides hown (haside.eq_none hholds) hroot
  | true =>
    -- a backup that was left behind goes first; what follows is as if there had been none
    have hremoved := leaves_remove (s := s) hsides.apart hsides.apartAside
    simp only [if_true]
    rw [exec_bind_of_ok (exec_removeFolder hsides.leadsAside (haside.isDirectory hholds))]
    obtain ⟨s', hexec, hleaves⟩ := exec_putAside (s := { s with files := s.files.remove aside }) hsides
      (by rwa [hremoved.viewOwn]) hremoved.viewAside (by rwa [hremoved.isDirectory_root hsides, hremoved.viewOwn])
    have hown : (s.files.remove aside).holds own = s.files.holds own := by
      rw [holds, holds, ← view_nil, ← view_nil, hremoved.viewOwn]
    rw [hremoved.viewOwn] at hleaves
    rw [hown] at hexec
    exact ⟨s', hexec, hremoved.trans hleaves⟩

/-- The folder that was put aside takes the place of what was made meanwhile. -/
theorem exec_rollback (hown : s.files.isDirectory own = true) (haside : FolderOrNone (s.files.view aside))
    (hroot : s.files.isDirectory root = true) :
    ∃ s', (rollback { target, saved := if s.files.holds aside then some (savedPath target) else none }).exec s =
        (.ok { target, finished := true }, s') ∧
      Leaves own aside s s' (s.files.view aside) fun _ => none := by
  have hremoved := (leaves_remove (s := s) hsides.apartAside hsides.apart).swap
  rw [rollback]
  simp only [Bool.false_eq_true, if_false]
  rw [exec_bind_of_ok (exec_removeFolder hsides.leads hown)]
  cases hholds : s.files.holds aside with
  | false =>
    have hnone := haside.eq_none hholds
    rw [hnone] at hremoved ⊢
    exact ⟨_, rfl, hremoved⟩
  | true =>
    have hthere : (s.files.remove own).holds aside = true := by
      rw [← hholds, holds, holds, ← view_nil, ← view_nil, hremoved.viewAside]
    have hfree := (view_nil ..).symm.trans (congrFun hremoved.viewOwn [])
    have hdir : (s.files.remove own).isDirectory own.dropLast = true := by
      rw [hsides.parent]
      exact (hremoved.isDirectory_root hsides).trans hroot
    have hrename := exec_rename (s := { s with files := s.files.remove own }) hsides.leadsAside hsides.leads
      (rename_eq_ok hthere hfree hdir)
    have hmoved :=
      (leaves_move (s := { s with files := s.files.remove own }) hsides.apartAside hsides.apart).swap
    rw [hremoved.viewAside] at hmoved
    refine ⟨_, ?_, hremoved.trans hmoved⟩
    simp only [if_true]
    rw [exec_bind_of_ok hrename, exec_pure]

/-- The folder that was put aside is dropped. -/
theorem exec_commit (haside : FolderOrNone (s.files.view aside)) :
    ∃ s', (commit { target, saved := if s.files.holds aside then some (savedPath target) else none }).exec s =
        (.ok { target, finished := true }, s') ∧
      Leaves own aside s s' (s.files.view own) fun _ => none := by
  rw [commit]
  simp only [Bool.false_eq_true, if_false]
  cases hholds : s.files.holds aside with
  | false => exact ⟨s, rfl, .refl (haside.eq_none hholds)⟩
  | true =>
    refine ⟨_, ?_, leaves_remove hsides.apart hsides.apartAside⟩
    simp only [if_true]
    rw [exec_bind_of_ok (exec_removeFolder hsides.leadsAside (haside.isDirectory hholds)), exec_pure]

/-- Whether a task that replaces a folder has ended so that the new folder is kept. -/
def keeps {α : Type} : Outcome (α × Bool) → Bool
  | .ok (_, keep) => keep
  | .error _ => false

/-- A task runs while the folder is put aside.  If the task has made a folder in its place, then this one is kept or
the old one comes back, and nothing is left aside. -/
theorem exec_guard {α : Type} (hown : FolderOrNone (s.files.view own)) (haside : FolderOrNone (s.files.view aside))
    (hroot : s.files.isDirectory root = true ∨ s.files.view own = fun _ => none) :
    ∃ s₁, Leaves own aside s s₁ (fun _ => none) (s.files.view own) ∧
      ∀ (task : Flow (α × Bool)) (outcome : Outcome (α × Bool)) (s₂ : Session), task.exec s₁ = (outcome, s₂) →
        s₂.home = s.home → s₂.files.view aside = s.files.view own → s₂.files.isDirectory own = true →
        s₂.files.isDirectory root = true →
        ∃ s', (guard target task).exec s = (outcome.map Prod.fst, s') ∧
          Leaves own aside s₂ s' (if keeps outcome then s₂.files.view own else s.files.view own) fun _ => none := by
  obtain ⟨s₁, hstart, hleaves⟩ := exec_start hsides hown haside hroot
  refine ⟨s₁, hleaves, fun task outcome s₂ htask hhome hview hdir hdirRoot => ?_⟩
  replace hsides : Sides target s₂.home root own aside := by rwa [hhome]
  have hholds : s₂.files.holds aside = s.files.holds own := by
    rw [holds, holds, ← view_nil, ← view_nil, hview]
  rw [← hview] at hown
  obtain ⟨s', hrollback, hback⟩ := exec_rollback hsides hdir hown hdirRoot
  obtain ⟨s'', hcommit, hkept⟩ := exec_commit hsides hown
  rw [hholds] at hrollback hcommit
  rw [hview] at hback
  rw [guard, exec_bind_of_ok hstart]
  rcases outcome with failure | ⟨a, _ | _⟩
  case ok.true =>
    refine ⟨s'', ?_, hkept⟩
    rw [exec_bind_of_ok (a := (.ok a : Outcome α)) (t := s'')]
    · rfl
    · rw [exec_attempt, exec_bind_of_ok htask]
      simp only [if_true]
      rw [exec_bind_of_ok hcommit, exec_pure]
  case ok.false =>
    refine ⟨s', ?_, hback⟩
    rw [exec_bind_of_ok (a := (.ok a : Outcome α)) (t := s')]
    · rfl
    · rw [exec_attempt, exec_bind_of_ok htask]
      simp only [Bool.false_eq_true, if_false]
      rw [exec_bind_of_ok hrollback, exec_pure]
  case error =>
    refine ⟨s', ?_, hback⟩
    rw [exec_bind_of_ok (a := (.error failure : Outcome α)) (t := s₂)]
    · simp only
      rw [exec_bind_of_ok hrollback, exec_throw]
      rfl
    · rw [exec_attempt, exec_bind_of_error htask]

end Steps

end Transpiler.Backup

end WarehouseMigration
