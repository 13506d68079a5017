import WarehouseMigration.Proofs.FileTree.WellFormed
import WarehouseMigration.Proofs.Transpiler.Backup
import WarehouseMigration.Proofs.Value.JsonText
import WarehouseMigration.Transpiler.Installer

/-!
# Attempts to install a product

An attempt may succeed, give up or fail in any way, after it has written whatever it likes into the library of the
product.  After any number of attempts the folder of the product is that of the last one that succeeded, or the one
from the start if there was none; nothing is left of its backup, and no other place has changed
(`afterAttempts_lastSuccess`).

What one attempt does is `Prepared.exec_installVersion`.  It holds in every session in which the two folders are
folders or absent (`Prepared`), and it leaves such a session (`Prepared.again`), so that it can be repeated.
-/

namespace WarehouseMigration.Transpiler

open WarehouseMigration.Flow Backup

/-- An attempt to install a version of a product. -/
structure Attempt where
  version : String
  task : Path → Flow Bool
  content : List String → Option Entry
  ending : Outcome Bool

def versionNote (version date : String) : String :=
  Json.render (.map [("version", "v" ++ version), ("date", date)]) ++ "\n"

def emptyLibrary (place : List String) : Option Entry :=
  if place = [] ∨ place = ["lib"] then some .directory else none

namespace Attempt

/-- The task finds an empty library, writes its content into it, leaves everything else alone and ends as it is said. -/
def Realized (a : Attempt) (library : Path) : Prop :=
  ∀ (s : Session) (place : List String), library.LeadsTo s.home place → s.files.isDirectory place = true →
    (∀ rest, rest ≠ [] → s.files.find? (place ++ rest) = none) →
    ∃ s', (a.task library).exec s = (a.ending, s') ∧ s'.home = s.home ∧
      (∀ rest, rest ≠ [] → s'.files.find? (place ++ rest) = a.content rest) ∧
      ∀ other, (∀ rest, rest ≠ [] → other ≠ place ++ rest) → s'.files.find? other = s.files.find? other

def succeeds (a : Attempt) : Bool :=
  match a.ending with
  | .ok done => done
  | .error _ => false

/-- How an attempt is reported: a task that gives up and one that is refused are the same. -/
def outcome (a : Attempt) (folder : Path) : Outcome (Option Path × Bool) :=
  match a.ending with
  | .ok true => .ok (some folder, true)
  | .ok false => .ok (none, false)
  | .error failure => if isRefusal failure then .ok (none, false) else .error failure

/-- The folder of a product when the task has ended: a library with its content. -/
def library (a : Attempt) (place : List String) : Option Entry :=
  if place.head? = some "lib" ∧ place.tail ≠ [] then a.content place.tail else emptyLibrary place

/-- The folder of a product after an attempt that succeeds: the library and the note of its version. -/
def tree (a : Attempt) (date : String) (place : List String) : Option Entry :=
  if place = ["state", "version.json"] then some (.file (.text (versionNote a.version date)))
  else if place = ["state"] then some .directory
  else a.library place

end Attempt

def afterAttempts (i : Installed) (product : String) (attempts : List Attempt) (s : Session) : Session :=
  attempts.foldl (fun s a => ((installVersion i product a.version a.task).exec s).2) s

def lastSuccess (attempts : List Attempt) : Option Attempt := (attempts.filter Attempt.succeeds).getLast?

/-- What has become of the session `s` at some point of an installation: the way to the folder of the product is there,
this folder and the one beside it are as told, and all other places are as they were. -/
structure Settles (root own aside : List String) (s s' : Session) (atOwn atAside : List String → Option Entry) :
    Prop where
  home : s'.home = s.home
  way : ∀ above, above <+: root → s'.files.isDirectory above = true
  viewOwn : s'.files.view own = atOwn
  viewAside : s'.files.view aside = atAside
  others : ∀ place, ¬ place <+: root → ¬ own <+: place → ¬ aside <+: place → s'.files.find? place = s.files.find? place

/-- A session in which a product can be installed: no file stands on the way to its folder, and this folder and the one
beside it are folders or absent. -/
structure Prepared (target : Path) (root own aside : List String) (s : Session) : Prop where
  sides : Sides target s.home root own aside
  way : ∀ above, above <+: root → s.files.isFile above = false
  ownFolder : FolderOrNone (s.files.view own)
  asideFolder : FolderOrNone (s.files.view aside)
  inFolder : s.files.isDirectory root = true ∨ s.files.view own = fun _ => none

variable {a : Attempt} {i : Installed}

section Step

variable {target : Path} {root own aside : List String} {s : Session}

variable {s' : Session} {atOwn atAside : List String → Option Entry}

private theorem Settles.trans {s'' : Session} {atOwn' atAside' : List String → Option Entry}
    (h : Settles root own aside s s' atOwn atAside) (h' : Settles root own aside s' s'' atOwn' atAside') :
    Settles root own aside s s'' atOwn' atAside' where
  home := h'.home.trans h.home
  way := h'.way
  viewOwn := h'.viewOwn
  viewAside := h'.viewAside
  others := fun place hroot hown haside => (h'.others place hroot hown haside).trans (h.others place hroot hown haside)

variable (hprepared : Prepared target root own aside s)

include hprepared

/-- On the way to the library there are the folder of the product and what leads to it. -/
private theorem Prepared.above_library {above : List String} (h : above <+: own ++ ["lib"]) :
    above <+: root ∨ above = own ∨ above = own ++ ["lib"] := by
  have hown := List.dropLast_concat_getLast hprepared.sides.own_ne_nil
  rw [hprepared.sides.parent] at hown
  rcases List.prefix_concat_iff.1 h with h | h
  · exact .inr (.inr h)
  · rw [← hown] at h ⊢
    rcases List.prefix_concat_iff.1 h with h | h
    · exact .inr (.inl h)
    · exact .inl h

/-- The library is made, while the old folder is aside. -/
private theorem Prepared.exec_makeLibrary {s₁ : Session} (hleaves : Leaves own aside s s₁ (fun _ => none) atAside) :
    ∃ s₂, (makeDirectories (target.child "lib")).exec s₁ = (.ok (), s₂) ∧
      Settles root own aside s s₂ emptyLibrary atAside := by
  have hleads := (hleaves.home ▸ hprepared.sides.leads).child (show Path.IsName "lib" by decide)
  have hclear : ∀ rest, s₁.files.find? (own ++ rest) = none := congrFun hleaves.viewOwn
  have hway : ∀ above, above <+: own ++ ["lib"] → s₁.files.isFile above = false := by
    intro above habove
    rcases hprepared.above_library habove with h | rfl | rfl
    · rw [FileTree.isFile, hleaves.find?_root hprepared.sides h]
      exact hprepared.way above h
    · exact FileTree.isFile_of_absent (by simpa using hclear [])
    · exact FileTree.isFile_of_absent (hclear _)
  obtain ⟨t, hmake, hfind, -⟩ := FileTree.makeDirectories_eq_ok hway
  have hroot : root <+: own ++ ["lib"] := by
    rw [← hprepared.sides.parent]
    exact .trans (List.dropLast_prefix own) (List.prefix_append ..)
  refine ⟨_, exec_makeDirectories hleads hmake, hleaves.home, ?_, funext fun rest => ?_, funext fun rest => ?_, ?_⟩
  · intro above habove
    rw [FileTree.isDirectory_iff, hfind, if_pos (habove.trans hroot)]
  · have hiff : own ++ rest <+: own ++ ["lib"] ↔ rest = [] ∨ rest = ["lib"] := by
      rw [List.prefix_append_right_inj]
      simp [List.prefix_cons_iff]
    simp only [FileTree.view, hfind, hclear, emptyLibrary, hiff]
  · rw [FileTree.view, hfind, if_neg]
    · exact congrFun hleaves.viewAside rest
    · intro h
      exact not_prefix_below hprepared.sides.apartAside hprepared.sides.apart ["lib"] ((List.prefix_append ..).trans h)
  · intro place hplace hown haside
    rw [hfind, if_neg, hleaves.others place hown haside]
    intro h
    rcases hprepared.above_library h with h | rfl | rfl
    · exact hplace h
    · exact hown (List.prefix_refl _)
    · exact hown (List.prefix_append ..)

private theorem Prepared.exec_task (ha : a.Realized (target.child "lib")) {s₂ : Session}
    (hsettles : Settles root own aside s s₂ emptyLibrary atAside) :
    ∃ s₃, (a.task (target.child "lib")).exec s₂ = (a.ending, s₃) ∧ Settles root own aside s s₃ a.library atAside := by
  have hleads := (hsettles.home ▸ hprepared.sides.leads).child (show Path.IsName "lib" by decide)
  have hview : ∀ rest, s₂.files.find? (own ++ rest) = emptyLibrary rest := congrFun hsettles.viewOwn
  have hdir : s₂.files.isDirectory (own ++ ["lib"]) = true := by
    rw [FileTree.isDirectory_iff, hview]
    simp [emptyLibrary]
  have hempty : ∀ rest, rest ≠ [] → s₂.files.find? (own ++ ["lib"] ++ rest) = none := by
    intro rest hrest
    rw [List.append_assoc, hview]
    simp [emptyLibrary, hrest]
  obtain ⟨s₃, htask, hhome, hcontent, hrest⟩ := ha s₂ (own ++ ["lib"]) hleads hdir hempty
  have houtside : ∀ place, ¬ own <+: place → s₃.files.find? place = s₂.files.find? place := by
    refine fun place hplace => hrest place ?_
    rintro rest - rfl
    exact hplace (.trans (List.prefix_append own ["lib"]) (List.prefix_append ..))
  refine ⟨s₃, htask, hhome.trans hsettles.home, ?_, funext fun rest => ?_, funext fun rest => ?_, ?_⟩
  · intro above habove
    rw [FileTree.isDirectory, houtside above (hprepared.sides.not_prefix_above habove).1]
    exact hsettles.way above habove
  · rw [FileTree.view, Attempt.library]
    split
    case isTrue h =>
      obtain ⟨others, rfl⟩ := List.head?_eq_some_iff.1 h.1
      rw [List.append_cons, hcontent others h.2]
      rfl
    case isFalse h =>
      rw [hrest, hview]
      rintro others hothers heq
      rw [List.append_assoc, List.append_cancel_left_eq] at heq
      exact h ⟨by simp [heq], by simpa [heq] using hothers⟩
  · rw [FileTree.view, houtside _ (not_prefix_below hprepared.sides.apart hprepared.sides.apartAside rest)]
    exact congrFun hsettles.viewAside rest
  · exact fun place hroot hown haside => (houtside place hown).trans (hsettles.others place hroot hown haside)

/-- An entry that is put into the folder of the product changes nothing else. -/
private theorem Prepared.settles_put (h : Settles root own aside s s' atOwn atAside) (place : List String)
    (entry : Entry) : Settles root own aside s { s' with files := s'.files.put (own ++ place) entry }
      (fun rest => if rest = place then some entry else atOwn rest) atAside := by
  have hne : own ++ place ≠ [] := by simp [hprepared.sides.own_ne_nil]
  have hkept : ∀ other, ¬ own <+: other → (s'.files.put (own ++ place) entry).find? other = s'.files.find? other := by
    intro other hother
    rw [FileTree.find?_put hne, if_neg]
    rintro rfl
    exact hother (List.prefix_append ..)
  refine ⟨h.home, fun above habove => ?_, funext fun rest => ?_, funext fun rest => ?_, ?_⟩
  · rw [FileTree.isDirectory, hkept above (hprepared.sides.not_prefix_above habove).1]
    exact h.way above habove
  · rw [FileTree.view, FileTree.find?_put hne, ← h.viewOwn]
    simp [FileTree.view]
  · rw [FileTree.view, hkept _ (not_prefix_below hprepared.sides.apart hprepared.sides.apartAside rest), ← h.viewAside]
    rfl
  · exact fun other hroot hother haside => (hkept other hother).trans (h.others other hroot hother haside)

private theorem Prepared.exec_noteVersion {s₃ : Session} (hsettles : Settles root own aside s s₃ a.library atAside) :
    ∃ date s₄, (noteVersion target a.version).exec s₃ = (.ok (), s₄) ∧
      Settles root own aside s s₄ (a.tree date) atAside := by
  have hleads := (hsettles.home ▸ hprepared.sides.leads).child (show Path.IsName "state" by decide)
  have hview : ∀ rest, s₃.files.find? (own ++ rest) = a.library rest := congrFun hsettles.viewOwn
  have hparent : s₃.files.isDirectory (own ++ ["state"]).dropLast = true := by
    rw [List.dropLast_concat, FileTree.isDirectory_iff]
    simpa [Attempt.library, emptyLibrary] using hview []
  have hmake : s₃.files.makeDirectory (own ++ ["state"]) false = .ok (s₃.files.put (own ++ ["state"]) .directory) := by
    rw [FileTree.makeDirectory_of_absent false, if_pos hparent]
    simpa [Attempt.library, emptyLibrary] using hview ["state"]
  have hstate := hprepared.settles_put hsettles ["state"] .directory
  have hview' : ∀ rest, (s₃.files.put (own ++ ["state"]) .directory).find? (own ++ rest) =
      if rest = ["state"] then some .directory else a.library rest := congrFun hstate.viewOwn
  have hplace : own ++ ["state", "version.json"] = own ++ ["state"] ++ ["version.json"] := by simp
  have hfree : (s₃.files.put (own ++ ["state"]) .directory).isDirectory (own ++ ["state", "version.json"]) = false :=
    FileTree.isDirectory_of_absent (by rw [hview']; simp [Attempt.library, emptyLibrary])
  have hfolder : (s₃.files.put (own ++ ["state"]) .directory).isDirectory (own ++ ["state", "version.json"]).dropLast =
      true := by
    rw [hplace, List.dropLast_concat, FileTree.isDirectory_iff, hview']
    simp
  refine ⟨s₃.clock "", _, ?_, hprepared.settles_put hstate ["state", "version.json"]
    (.file (.text (versionNote a.version (s₃.clock ""))))⟩
  rw [noteVersion]
  simp only
  rw [exec_bind_of_ok (exec_makeDirectory hleads hmake), exec_bind_of_ok (exec_now ..)]
  refine exec_writeText ?_ (FileTree.write_eq_ok hfree hfolder)
  rw [hplace]
  exact hleads.child (by decide)

private theorem Prepared.settles_leaves {s'' : Session} {atOwn' atAside' : List String → Option Entry}
    (h : Settles root own aside s s' atOwn atAside) (h' : Leaves own aside s' s'' atOwn' atAside') :
    Settles root own aside s s'' atOwn' atAside' where
  home := h'.home.trans h.home
  way := by
    intro above habove
    rw [FileTree.isDirectory, h'.find?_root (h.home ▸ hprepared.sides) habove]
    exact h.way above habove
  viewOwn := h'.viewOwn
  viewAside := h'.viewAside
  others := fun place hroot hown haside => (h'.others place hown haside).trans (h.others place hroot hown haside)

/-- A new folder of the product is made; if the attempt succeeds, it holds what it should. -/
private theorem Prepared.exec_fillFolder (ha : a.Realized (target.child "lib")) {s₁ : Session}
    (hleaves : Leaves own aside s s₁ (fun _ => none) (s.files.view own)) :
    ∃ view s₂, (fillFolder target a.version a.task).exec s₁ = (a.outcome target, s₂) ∧
      Settles root own aside s s₂ view (s.files.view own) ∧ view [] = some .directory ∧
      (a.succeeds = true → ∃ date, view = a.tree date) := by
  obtain ⟨s₂, hmake, hsettles⟩ := hprepared.exec_makeLibrary hleaves
  obtain ⟨s₃, htask, hsettles⟩ := hprepared.exec_task ha hsettles
  have hattempt : (Flow.attempt (a.task (target.child "lib"))).exec s₂ = (.ok a.ending, s₃) := by
    rw [exec_attempt, htask]
  rw [fillFolder, exec_bind_of_ok hmake, exec_bind_of_ok hattempt, Attempt.outcome, Attempt.succeeds]
  cases hending : a.ending with
  | ok done =>
    cases done with
    | true =>
      obtain ⟨date, s₄, hnote, hsettles'⟩ := hprepared.exec_noteVersion hsettles
      refine ⟨a.tree date, s₄, ?_, hsettles', rfl, fun _ => ⟨date, rfl⟩⟩
      simp only [pure_bind, Bool.not_true, Bool.false_eq_true, if_false]
      rw [exec_bind_of_ok hnote, exec_pure]
    | false => exact ⟨a.library, s₃, rfl, hsettles, rfl, by simp⟩
  | error failure =>
    refine ⟨a.library, s₃, ?_, hsettles, rfl, by simp⟩
    simp only
    split <;> rfl

omit hprepared in
private theorem Attempt.keeps_outcome (a : Attempt) (folder : Path) : keeps (a.outcome folder) = a.succeeds := by
  unfold Attempt.outcome Attempt.succeeds
  cases a.ending with
  | ok done => cases done <;> rfl
  | error failure =>
    simp only
    split <;> rfl

theorem Prepared.exec_installVersion {product : String} (htarget : target = i.productFolder product)
    (ha : a.Realized (target.child "lib")) :
    ∃ view s', (installVersion i product a.version a.task).exec s = ((a.outcome target).map Prod.fst, s') ∧
      Settles root own aside s s' view (fun _ => none) ∧ FolderOrNone view ∧
      (a.succeeds = true → ∃ date, view = a.tree date) ∧ (a.succeeds = false → view = s.files.view own) := by
  obtain ⟨s₁, hleaves, hguard⟩ := exec_guard (α := Option Path) hprepared.sides hprepared.ownFolder
    hprepared.asideFolder hprepared.inFolder
  obtain ⟨view, s₂, hfill, hsettles, hdir, htree⟩ := hprepared.exec_fillFolder ha hleaves
  have hown : s₂.files.isDirectory own = true := by
    rw [FileTree.isDirectory_iff, ← FileTree.view_nil, hsettles.viewOwn, hdir]
  obtain ⟨s', hexec, hleaves'⟩ := hguard _ _ s₂ hfill hsettles.home hsettles.viewAside hown
    (hsettles.way root (List.prefix_refl root))
  rw [a.keeps_outcome, hsettles.viewOwn] at hleaves'
  have hdone := hprepared.settles_leaves hsettles hleaves'
  rw [installVersion, ← htarget]
  cases hsucceeds : a.succeeds with
  | true =>
    rw [hsucceeds, if_pos rfl] at hdone
    exact ⟨view, s', hexec, hdone, .inl hdir, fun _ => htree hsucceeds, by simp⟩
  | false =>
    rw [hsucceeds, if_neg (by simp)] at hdone
    exact ⟨_, s', hexec, hdone, hprepared.ownFolder, by simp, fun _ => rfl⟩

/-- A session in which a product was installed is one in which it can be installed again. -/
theorem Prepared.again {view : List String → Option Entry} (hview : FolderOrNone view)
    (h : Settles root own aside s s' view fun _ => none) : Prepared target root own aside s' where
  sides := h.home ▸ hprepared.sides
  way := fun above habove => FileTree.isFile_eq_false (h.way above habove)
  ownFolder := h.viewOwn ▸ hview
  asideFolder := .inr h.viewAside
  inFolder := .inl (h.way root (List.prefix_refl root))

end Step

/-! ### Runs of attempts -/

private theorem lastSuccess_cons (a : Attempt) (attempts : List Attempt) :
    lastSuccess (a :: attempts) = (lastSuccess attempts).or (if a.succeeds then some a else none) := by
  rw [lastSuccess, lastSuccess, List.filter_cons]
  split
  · rw [List.getLast?_cons]
    cases (attempts.filter Attempt.succeeds).getLast? <;> rfl
  · simp

section Run

variable {target : Path} {root own aside : List String} {s : Session}

private theorem Prepared.afterAttempts_settles (hprepared : Prepared target root own aside s) {product : String}
    (htarget : target = i.productFolder product) {attempts : List Attempt} (hne : attempts ≠ [])
    (hattempts : ∀ a ∈ attempts, a.Realized (target.child "lib")) :
    ∃ view, Settles root own aside s (afterAttempts i product attempts s) view (fun _ => none) ∧
      (lastSuccess attempts = none → view = s.files.view own) ∧
      ∀ a, lastSuccess attempts = some a → ∃ date, view = a.tree date := by
  induction attempts generalizing s with
  | nil => exact absurd rfl hne
  | cons a attempts ih =>
    obtain ⟨view, s₁, hexec, hsettles, hfolder, hsucceeds, hfails⟩ :=
      hprepared.exec_installVersion htarget (hattempts a List.mem_cons_self)
    have hafter : afterAttempts i product (a :: attempts) s = afterAttempts i product attempts s₁ := by
      rw [afterAttempts, List.foldl_cons, hexec]
      rfl
    have hnone : (if a.succeeds then some a else none) = none → view = s.files.view own := by
      intro h
      exact hfails (by simpa using h)
    have hsome : ∀ b, (if a.succeeds then some a else none) = some b → ∃ date, view = b.tree date := by
      intro b h
      obtain ⟨hdone, rfl⟩ : a.succeeds = true ∧ a = b := by simpa using h
      exact hsucceeds hdone
    rw [hafter, lastSuccess_cons]
    by_cases hnil : attempts = []
    · subst hnil
      exact ⟨view, hsettles, hnone, hsome⟩
    obtain ⟨view', hsettles', hnone', hsome'⟩ := ih (hprepared.again hfolder hsettles) hnil
      fun b hb => hattempts b (List.mem_cons_of_mem a hb)
    refine ⟨view', hsettles.trans hsettles', ?_⟩
    -- if a later attempt succeeds, it decides; if none does, they all leave what the first one left
    cases hlast : lastSuccess attempts with
    | some b => exact ⟨by simp, fun c hc => hsome' c (hlast.trans hc)⟩
    | none =>
      rw [hnone' hlast, hsettles.viewOwn]
      exact ⟨hnone, hsome⟩

end Run

/-! ### The noted version -/

private theorem parse_versionNote (version date : String) :
    Json.parse (versionNote version date) = some (.map [("version", .text ("v" ++ version)),
      ("date", .text date)]) := by
  have hnote : versionNote version date =
      Json.render (.map (Json.texts [("version", "v" ++ version), ("date", date)])) ++ "\n" := rfl
  rw [hnote, Json.parse_render_texts (List.cons_ne_nil _ _)]
  simp [Json.putTexts, Sequence.put]

private theorem notedVersion_versionNote (version date : String) :
    Installed.notedVersion (versionNote version date) = .ok (some version) := by
  have hchars : ("v" ++ version).toList = 'v' :: version.toList := by
    rw [String.toList_append]
    rfl
  have hset : ("v" ++ version != "") = true := by
    rw [bne_iff_ne, ne_eq, ← String.toList_inj, hchars]
    simp
  rw [Installed.notedVersion, parse_versionNote]
  simp only [Value.getD, Value.get?, List.lookup_cons, beq_self_eq_true, Option.getD_some, Value.isSet, hset,
      Value.asText,
    Value.entries?, Option.isNone_some, Bool.false_eq_true, if_false, Bool.not_true, pure_bind, hchars,
    String.ofList_toList]
  rfl

theorem exec_version_of_note {product version date : String} {own : List String} {s : Session}
    (hleads : (i.productFolder product).LeadsTo s.home own)
    (hnote : s.files.find? (own ++ ["state", "version.json"]) = some (.file (.text (versionNote version date)))) :
    (i.version product).exec s = (.ok (some version), s) := by
  have hpath : (i.productFolder product).child "state/version.json" =
      (i.productFolder product).below ["state", "version.json"] := by
    rw [Path.child, show Path.ofString "state/version.json" = ⟨"", ["state", "version.json"]⟩ by decide]
    rfl
  have hread : (readText ((i.productFolder product).child "state/version.json")).exec s =
      (.ok (versionNote version date), s) := by
    rw [hpath]
    exact exec_readText (hleads.below (by decide)) hnote
  rw [Installed.version, exec_bind_of_ok (a := (.ok (versionNote version date) : Outcome String)) (t := s)]
  · simp only [notedVersion_versionNote]
    rfl
  · rw [exec_attempt, hread]

private theorem exec_version {product : String} {own : List String} {s : Session} {date : String}
    (hleads : (i.productFolder product).LeadsTo s.home own) (hview : s.files.view own = a.tree date) :
    (i.version product).exec s = (.ok (some a.version), s) :=
  exec_version_of_note hleads (congrFun hview ["state", "version.json"])

/-! ### Main result -/

private theorem folderOrNone_of_wellFormed {t : FileTree} (ht : t.WellFormed) {place : List String}
    (h : t.isFile place = false) : FolderOrNone (t.view place) := by
  cases hfind : t.find? place with
  | some entry =>
    cases entry with
    | directory => exact .inl ((t.view_nil place).trans hfind)
    | file content => simp [FileTree.isFile, hfind] at h
  | none =>
    refine .inr (funext fun rest => ?_)
    cases hrest : t.view place rest with
    | none => rfl
    | some entry =>
      have hholds : t.holds (place ++ rest) = true := by
        rw [FileTree.holds_iff, ← FileTree.view, hrest]
        simp
      exact absurd hfind (FileTree.holds_iff.1 (ht.holds_above hholds (List.prefix_append ..)))

private theorem sides_productFolder {product home : String} {root : List String}
    (hroot : i.folder.LeadsTo home root) (hname : Path.IsName product) (hsaved : Path.IsName (product ++ "-saved")) :
    Sides (i.productFolder product) home root (root ++ [product]) (root ++ [product ++ "-saved"]) := by
  have hne : product ≠ product ++ "-saved" := by
    intro h
    have := congrArg String.length h
    simp at this
  have hpath : savedPath (i.productFolder product) = i.folder.below [product ++ "-saved"] := by
    rw [savedPath, Installed.productFolder, Path.child_of_isName hname]
    simp [Path.withName, Path.below, Path.name]
  refine ⟨hroot.child hname, ?_, List.dropLast_concat, List.dropLast_concat, ?_, ?_⟩
  · rw [hpath]
    exact hroot.below (by simpa using hsaved)
  · rw [List.prefix_append_right_inj]
    simpa using hne
  · rw [List.prefix_append_right_inj]
    simp

/-- After any number of attempts to install a product nothing is put aside, the way to the product is there, no other
place has changed, and the folder of the product is that of the last attempt that succeeded, or the one from the start
if none did.  The version given for the product is that of this attempt, whatever text it is. -/
theorem afterAttempts_lastSuccess (i : Installed) (product : String) (root : List String) (s : Session)
    (attempts : List Attempt) (hroot : i.folder.LeadsTo s.home root) (hname : Path.IsName product)
    (hsaved : Path.IsName (product ++ "-saved")) (htree : s.files.WellFormed)
    (hway : ∀ above, above <+: root → s.files.isFile above = false)
    (hown : s.files.isFile (root ++ [product]) = false)
    (haside : s.files.isFile (root ++ [product ++ "-saved"]) = false) (hne : attempts ≠ [])
    (hattempts : ∀ a ∈ attempts, a.Realized ((i.productFolder product).child "lib")) :
    ∃ view, Settles root (root ++ [product]) (root ++ [product ++ "-saved"]) s (afterAttempts i product attempts s) view
        (fun _ => none) ∧
      (lastSuccess attempts = none → view = s.files.view (root ++ [product])) ∧
      ∀ a, lastSuccess attempts = some a → (∃ date, view = a.tree date) ∧
        (i.version product).exec (afterAttempts i product attempts s) =
          (.ok (some a.version), afterAttempts i product attempts s) := by
  have hsides := sides_productFolder hroot hname hsaved
  have hownFolder := folderOrNone_of_wellFormed htree hown
  have hinFolder : s.files.isDirectory root = true ∨ s.files.view (root ++ [product]) = fun _ => none := by
    refine hownFolder.imp_left fun hdir => ?_
    refine htree.isDirectory_above (p := root ++ [product]) ?_ (List.prefix_append ..) (by simp)
    rw [FileTree.holds_iff, ← FileTree.view_nil, hdir]
    simp
  have hprepared : Prepared (i.productFolder product) root _ _ s :=
    ⟨hsides, hway, hownFolder, folderOrNone_of_wellFormed htree haside, hinFolder⟩
  obtain ⟨view, hsettles, hnone, hsome⟩ := hprepared.afterAttempts_settles rfl hne hattempts
  refine ⟨view, hsettles, hnone, fun a ha => ⟨hsome a ha, ?_⟩⟩
  obtain ⟨date, hview⟩ := hsome a ha
  exact exec_version (hsettles.home ▸ hsides.leads) (hsettles.viewOwn.trans hview)

def oneFileAttempt (version text : String) (ending : Outcome Bool) : Attempt where
  version := version
  task := fun library => do
    Flow.writeText (library.child "config.yml") text
    Flow.ofOutcome ending
  content := fun rest => if rest = ["config.yml"] then some (.file (.text text)) else none
  ending := ending

private theorem realized_oneFileAttempt (version text : String) (ending : Outcome Bool) (library : Path) :
    (oneFileAttempt version text ending).Realized library := by
  intro s place hleads hdir hempty
  have hfree : s.files.isDirectory (place ++ ["config.yml"]) = false :=
    FileTree.isDirectory_of_absent (hempty _ (by simp))
  have hwrite : s.files.write (place ++ ["config.yml"]) (.text text) = .ok _ :=
    FileTree.write_eq_ok hfree (by rwa [List.dropLast_concat])
  refine ⟨{ s with files := s.files.put (place ++ ["config.yml"]) (.file (.text text)) }, ?_, rfl,
    fun rest hrest => ?_, fun other hother => ?_⟩
  · exact (exec_bind_of_ok (exec_writeText (hleads.child (by decide)) hwrite)).trans (exec_ofOutcome ..)
  · rw [FileTree.find?_put (by simp), hempty rest hrest]
    simp [oneFileAttempt]
  · rw [FileTree.find?_put (by simp), if_neg (hother _ (by simp))]

def leftoverTree : FileTree := ⟨[(["labs"], .directory), (["labs", "remorph-transpilers"], .directory),
  (["labs", "remorph-transpilers", "bridge"], .directory),
  (["labs", "remorph-transpilers", "bridge", "old.txt"], .file (.text "old")),
  (["labs", "remorph-transpilers", "bridge-saved"], .directory),
  (["labs", "remorph-transpilers", "bridge-saved", "older.txt"], .file (.text "older")),
  (["labs", "remorph-transpilers", "other"], .directory)]⟩

def mixedAttempts : List Attempt :=
  [oneFileAttempt "0" "a" (.error (.noKey "k")), oneFileAttempt "1.0" "b" (.ok true),
    oneFileAttempt "1.1" "c" (.ok false), oneFileAttempt "\"é\\" "d" (.ok true),
    oneFileAttempt "3" "e" (.error (.runtime "stopped"))]

theorem afterAttempts_mixed : ∃ view s',
    afterAttempts ⟨⟨"", ["labs"]⟩⟩ "bridge" mixedAttempts { files := leftoverTree } = s' ∧
    Settles ["labs", "remorph-transpilers"] ["labs", "remorph-transpilers", "bridge"]
      ["labs", "remorph-transpilers", "bridge-saved"] { files := leftoverTree } s' view (fun _ => none) ∧
    (∃ date, view = (oneFileAttempt "\"é\\" "d" (.ok true)).tree date) ∧
    (Installed.version ⟨⟨"", ["labs"]⟩⟩ "bridge").exec s' = (.ok (some "\"é\\"), s') := by
  have hway : ∀ above, above <+: ["labs", "remorph-transpilers"] → leftoverTree.isFile above = false := by
    intro above habove
    rw [← Sequence.mem_initials] at habove
    revert above
    decide
  have hattempts : ∀ a ∈ mixedAttempts,
      a.Realized ((Installed.productFolder ⟨⟨"", ["labs"]⟩⟩ "bridge").child "lib") := by
    intro a ha
    simp only [mixedAttempts, List.mem_cons, List.not_mem_nil, or_false] at ha
    rcases ha with rfl | rfl | rfl | rfl | rfl
    all_goals exact realized_oneFileAttempt _ _ _ _
  obtain ⟨view, hsettles, -, hsome⟩ := afterAttempts_lastSuccess ⟨⟨"", ["labs"]⟩⟩ "bridge"
    ["labs", "remorph-transpilers"] { files := leftoverTree } mixedAttempts (by decide) (by decide) (by decide)
    (by decide) hway (by decide) (by decide) (by simp [mixedAttempts]) hattempts
  obtain ⟨hview, hversion⟩ := hsome _ rfl
  exact ⟨view, _, rfl, hsettles, hview, hversion⟩

end WarehouseMigration.Transpiler
