import WarehouseMigration.Proofs.Session.Reads
import WarehouseMigration.Proofs.Value.Reading
import WarehouseMigration.Transpiler.Installed

/-!
# The dialects of the installed transpilers

Four queries look at the descriptions of the installed transpilers.  The list of all dialects takes every description
(`Installed.exec_dialects`); the transpilers for a dialect come from a table by name, which keeps the last of several
descriptions with one name (`Installed.exec_withDialect`); the file of a transpiler is that of the first one
(`Installed.exec_manifestPath`).  The answers fit together exactly if the descriptions are consistent
(`Installed.dialect_queries_agree_iff`), for example if those with one name list the same dialects
(`Manifest.consistent_of_agreeing`).
-/

namespace WarehouseMigration

namespace Value

private theorem sameItems_text_iff {items : List Value} {texts : List String} :
    sameItems items (texts.map .text) = true ↔ items = texts.map .text := by
  induction items generalizing texts with
  | nil => cases texts <;> simp [sameItems]
  | cons item items ih =>
    cases texts with
    | nil => simp [sameItems]
    | cons text texts =>
      rw [List.map_cons, sameItems, Bool.and_eq_true, ih, List.cons.injEq, ← beq_text_iff]
      rfl

private theorem beq_texts_iff {v : Value} {texts : List String} : (v == .texts texts) = true ↔ v = .texts texts := by
  constructor
  · intro h
    cases v with
    | list items => rw [sameItems_text_iff.1 h, Value.texts]
    | _ => cases h
  · rintro rfl
    exact sameItems_text_iff.2 rfl

end Value

namespace Flow

variable {α β : Type} {s : Session}

private theorem exec_filterM_id {test : α → Flow Bool} {keep : α → Bool} {items : List α}
    (h : ∀ a ∈ items, (test a).exec s = (.ok (keep a), s)) :
    (items.filterM test).exec s = (.ok (items.filter keep), s) := by
  simpa using exec_filterM (f := id) h

private theorem forall₂_of_exec_mapM {task : α → Flow β} (h : ∀ a, Reads (task a)) {items : List α} {results : List β}
    {s' : Session} (hexec : (items.mapM task).exec s = (.ok results, s')) :
    List.Forall₂ (fun a b => (task a).exec s = (.ok b, s)) items results := by
  induction items generalizing results with
  | nil =>
    cases hexec
    exact .nil
  | cons a items ih =>
    rw [List.mapM_cons] at hexec
    obtain ⟨b, hfirst, hrest⟩ := (h a).exists_of_bind hexec
    obtain ⟨bs, htail, hpure⟩ := (reads_mapM h items).exists_of_bind hrest
    cases hpure
    exact .cons hfirst (ih htail)

end Flow

namespace Transpiler

open WarehouseMigration.Flow

/-! ### Descriptions -/

variable {m : Manifest}

namespace Manifest

theorem reads_load (path : Path) : Reads (load path) :=
  ((reads_readText path).bind fun text => reads_pure (Text.newlines text)).bind fun text =>
    (reads_ofOutcome (Yaml.ofText text)).bind fun data => reads_ofOutcome (read path data)

private theorem gives_read (path : Path) (data : Value) :
    Outcome.Gives (fun m : Manifest => m.path = path) (read path data) := by
  refine Outcome.gives_check fun _ => Outcome.gives_check fun _ => Outcome.gives_check fun _ =>
    Outcome.gives_check fun _ => Outcome.gives_bind fun noDialects => ?_
  refine Outcome.gives_check fun _ => Outcome.gives_bind fun noCommand => ?_
  refine Outcome.gives_check fun _ => ?_
  dsimp only
  split
  · exact Outcome.gives_throw _
  · exact Outcome.gives_bind fun settings => Outcome.gives_pure rfl

/-- A description knows the file it was loaded from. -/
private theorem path_of_load {path : Path} {s s' : Session} (h : (load path).exec s = (.ok m, s')) : m.path = path := by
  obtain ⟨text, s₁, -, hread⟩ := exists_of_exec_bind h
  obtain ⟨data, s₂, -, hread⟩ := exists_of_exec_bind hread
  rw [exec_ofOutcome] at hread
  exact gives_read path data m (Prod.mk.inj hread).1

/-- A description whose name is a text and whose dialects are texts. -/
structure Proper (m : Manifest) : Prop where
  name : ∃ name, m.name = .text name
  dialects : ∃ dialects, m.dialects = .texts dialects

def Lists (m : Manifest) (dialect : String) : Prop := m.hasDialect dialect = .ok true

instance (m : Manifest) (dialect : String) : Decidable (m.Lists dialect) :=
  inferInstanceAs (Decidable (_ = _))

def named (ms : List Manifest) (name : String) : List Manifest := ms.filter fun m => m.name == .text name

private theorem lists_iff {dialects : List String} (h : m.dialects = .texts dialects) {dialect : String} :
    m.Lists dialect ↔ dialect ∈ dialects := by
  rw [Lists, hasDialect, h, Value.texts, Value.holds, List.any_map]
  change Except.ok (dialects.any fun other => other == dialect) = .ok true ↔ _
  simp

/-- A proper description tells of every dialect whether it lists it. -/
private theorem Proper.hasDialect_eq (h : m.Proper) (dialect : String) :
    m.hasDialect dialect = .ok (decide (m.Lists dialect)) := by
  obtain ⟨dialects, hdialects⟩ := h.dialects
  have hanswer : ∃ answer, m.hasDialect dialect = .ok answer := by
    rw [hasDialect, hdialects]
    exact ⟨_, rfl⟩
  obtain ⟨answer, hanswer⟩ := hanswer
  cases answer <;> simp [Lists, hanswer]

/-- The dialects of a proper description, in their order. -/
private theorem Proper.mem_shown_iff (h : m.Proper) (dialect : String) :
    dialect ∈ (m.dialects.asItems.toOption.getD []).map Value.shown ↔ m.Lists dialect := by
  obtain ⟨dialects, hdialects⟩ := h.dialects
  rw [lists_iff hdialects, hdialects]
  have hshown : (dialects.map Value.text).map Value.shown = dialects := by
    rw [List.map_map]
    exact (List.map_congr_left fun _ _ => rfl).trans (List.map_id dialects)
  change dialect ∈ (dialects.map Value.text).map Value.shown ↔ _
  rw [hshown]

/-- A proper description is found under its name and under no other one. -/
private theorem Proper.beq_shown (h : m.Proper) (name : String) : (name == m.name.shown) = (m.name == .text name) := by
  obtain ⟨own, hown⟩ := h.name
  rw [hown]
  exact Bool.beq_comm

private theorem Proper.name_of_mem_named {ms : List Manifest} (h : m.Proper) {name : String}
    (hm : m ∈ named ms name) : m.name = .text name := by
  obtain ⟨own, hown⟩ := h.name
  have hsame : (m.name == .text name) = true := (List.mem_filter.1 hm).2
  rw [hown] at hsame
  rw [hown, eq_of_beq (show (own == name) = true from hsame)]

/-- It does not matter which one of several descriptions with a name is looked at: each dialect that is listed at all is
listed by the last description of some name, and the first description of that name lists it too. -/
structure Consistent (ms : List Manifest) : Prop where
  reached : ∀ m ∈ ms, ∀ dialect, m.Lists dialect →
    ∃ name last, (named ms name).getLast? = some last ∧ last.Lists dialect
  agreed : ∀ name first last, (named ms name).head? = some first → (named ms name).getLast? = some last →
    ∀ dialect, last.Lists dialect → first.Lists dialect

theorem consistent_of_agreeing {ms : List Manifest} (hproper : ∀ m ∈ ms, m.Proper)
    (h : ∀ m ∈ ms, ∀ other ∈ ms, m.name = other.name → ∀ dialect, m.Lists dialect → other.Lists dialect) :
    Consistent ms where
  reached m hm dialect hlists := by
    obtain ⟨name, hname⟩ := (hproper m hm).name
    have hmem : m ∈ named ms name := by
      refine List.mem_filter.2 ⟨hm, ?_⟩
      rw [hname]
      exact beq_self_eq_true name
    obtain ⟨last, hlast⟩ : ∃ last, (named ms name).getLast? = some last :=
      ⟨_, List.getLast?_eq_some_getLast (List.ne_nil_of_mem hmem)⟩
    have hin := List.mem_of_getLast? hlast
    have hms := (List.mem_filter.1 hin).1
    refine ⟨name, last, hlast, h m hm last hms ?_ dialect hlists⟩
    rw [hname, (hproper last hms).name_of_mem_named hin]
  agreed name first last hfirst hlast dialect hlists := by
    have hin := List.mem_of_getLast? hlast
    have hin' := List.mem_of_mem_head? hfirst
    have hms := (List.mem_filter.1 hin).1
    have hms' := (List.mem_filter.1 hin').1
    refine h last hms first hms' ?_ dialect hlists
    rw [(hproper last hms).name_of_mem_named hin, (hproper first hms').name_of_mem_named hin']

/-- Whether some descriptions have the names and dialects of a table. -/
def tally : List Manifest → List (String × List String) → Bool
  | [], [] => true
  | m :: ms, (name, dialects) :: table => m.name == .text name && m.dialects == .texts dialects && tally ms table
  | _, _ => false

private theorem tally_cons {ms : List Manifest} {name : String} {dialects : List String}
    {table : List (String × List String)} (h : tally ms ((name, dialects) :: table) = true) :
    ∃ m rest, ms = m :: rest ∧ m.name = .text name ∧ m.dialects = .texts dialects ∧ tally rest table = true := by
  cases ms with
  | nil => cases h
  | cons m rest =>
    rw [tally, Bool.and_eq_true, Bool.and_eq_true, Value.beq_text_iff, Value.beq_texts_iff] at h
    exact ⟨m, rest, rfl, h.1.1, h.1.2, h.2⟩

/-- Two descriptions with one name, as a table has them. -/
private theorem exists_of_tally_pair {ms : List Manifest} {name : String} {dialects others : List String}
    (h : tally ms [(name, dialects), (name, others)] = true) :
    ∃ first last, ms = [first, last] ∧ (∀ m ∈ ms, m.Proper ∧ m.name = .text name) ∧
      (∀ dialect, first.Lists dialect ↔ dialect ∈ dialects) ∧ ∀ dialect, last.Lists dialect ↔ dialect ∈ others := by
  obtain ⟨first, rest, rfl, hname, hfirst, h⟩ := tally_cons h
  obtain ⟨last, rest, rfl, hname', hlast, h⟩ := tally_cons h
  have hrest : rest = [] := by
    cases rest with
    | nil => rfl
    | cons _ _ => cases h
  subst hrest
  refine ⟨first, last, rfl, fun m hm => ?_, fun _ => lists_iff hfirst, fun _ => lists_iff hlast⟩
  simp only [List.mem_cons, List.not_mem_nil, or_false] at hm
  rcases hm with rfl | rfl
  · exact ⟨⟨⟨name, hname⟩, ⟨dialects, hfirst⟩⟩, hname⟩
  · exact ⟨⟨⟨name, hname'⟩, ⟨others, hlast⟩⟩, hname'⟩

end Manifest

open Manifest (named tally)

namespace Installed

variable {i : Installed} {s : Session}

theorem reads_manifestIn (product : Path) : Reads (manifestIn product) := by
  refine (reads_isDirectory _).bind fun _ => (reads_isDirectory _).bind fun _ => (reads_isFile _).bind fun _ => ?_
  refine reads_ite (reads_pure none) ((Manifest.reads_load _).attempt.bind fun o => ?_)
  cases o with
  | ok m => exact reads_pure _
  | error failure => exact reads_ite (reads_pure none) (reads_throw failure)

theorem reads_products (i : Installed) : Reads i.products :=
  (reads_pathExists _).bind fun _ => reads_ite (reads_listDirectory _) (reads_pure [])

private theorem reads_manifests (i : Installed) : Reads i.manifests :=
  (reads_products i).bind fun products => (reads_mapM reads_manifestIn products).bind fun _ => reads_pure _

theorem reads_dialects (i : Installed) : Reads i.dialects :=
  (reads_manifests i).bind fun ms => (reads_mapM (fun m => reads_ofOutcome m.dialects.asItems) ms).bind fun _ =>
    reads_pure _

theorem reads_withDialect (i : Installed) (dialect : String) : Reads (i.withDialect dialect) :=
  ((reads_manifests i).bind fun _ => reads_pure _).bind fun entries =>
    (reads_filterM (fun entry => reads_ofOutcome (entry.2.hasDialect dialect)) entries).bind fun _ => reads_pure _

theorem reads_search (name : String) (products : List Path) : Reads (search name products) := by
  induction products with
  | nil => exact reads_pure none
  | cons product products ih =>
    refine (reads_manifestIn product).bind fun m => ?_
    cases m with
    | none => exact ih
    | some m => exact reads_ite (reads_pure (some m)) ih

theorem reads_manifestPath (i : Installed) (name : String) : Reads (i.manifestPath name) := by
  refine (reads_products i).bind fun products => (reads_search name products).bind fun m => ?_
  cases m with
  | none => exact reads_throw _
  | some m => exact reads_pure m.path

/-- The description in a product folder is loaded from a file there. -/
private theorem load_of_manifestIn {product : Path} (h : (manifestIn product).exec s = (.ok (some m), s)) :
    (Manifest.load (product.child "lib/config.yml")).exec s = (.ok m, s) := by
  rw [manifestIn] at h
  obtain ⟨_, -, h⟩ := (reads_isDirectory _).exists_of_bind h
  obtain ⟨_, -, h⟩ := (reads_isDirectory _).exists_of_bind h
  obtain ⟨_, -, h⟩ := (reads_isFile _).exists_of_bind h
  split at h
  · cases h
  · obtain ⟨o, hload, h⟩ := (Manifest.reads_load _).attempt.exists_of_bind h
    rw [exec_attempt] at hload
    cases o with
    | ok other =>
      cases h
      have hexec := Manifest.reads_load (product.child "lib/config.yml") s s (.refl s)
      rwa [Except.ok.inj (Prod.mk.inj hload).1] at hexec
    | error failure =>
      dsimp only at h
      split at h
      all_goals cases h

theorem path_of_manifestIn {product : Path} (h : (manifestIn product).exec s = (.ok (some m), s)) :
    m.path = product.child "lib/config.yml" :=
  Manifest.path_of_load (load_of_manifestIn h)

section Views

variable {ms : List Manifest} (hms : i.manifests.exec s = (.ok ms, s))

include hms

/-- The descriptions are those found in the product folders. -/
private theorem exists_of_manifests : ∃ products found, i.products.exec s = (.ok products, s) ∧
    List.Forall₂ (fun product m => (manifestIn product).exec s = (.ok m, s)) products found ∧
    ms = found.filterMap id := by
  obtain ⟨products, hproducts, h⟩ := (reads_products i).exists_of_bind hms
  obtain ⟨found, hfound, h⟩ := (reads_mapM reads_manifestIn products).exists_of_bind h
  cases h
  exact ⟨products, found, hproducts, forall₂_of_exec_mapM reads_manifestIn hfound, rfl⟩

/-- Every description can be loaded again from its file. -/
private theorem load_of_mem (hm : m ∈ ms) : (Manifest.load m.path).exec s = (.ok m, s) := by
  obtain ⟨products, found, -, hfound, rfl⟩ := exists_of_manifests hms
  have hsome : some m ∈ found := by simpa using hm
  clear hms hm
  induction hfound with
  | nil => cases hsome
  | cons hfirst _ ih =>
    rcases List.mem_cons.1 hsome with rfl | hsome
    · rw [path_of_manifestIn hfirst]
      exact load_of_manifestIn hfirst
    · exact ih hsome

/-- The file of a transpiler is that of the first description with its name. -/
theorem exec_manifestPath {name : String} {first : Manifest} (hfirst : (named ms name).head? = some first) :
    (i.manifestPath name).exec s = (.ok first.path, s) := by
  obtain ⟨products, found, hproducts, hfound, rfl⟩ := exists_of_manifests hms
  have hsearch : (search name products).exec s = (.ok (named (found.filterMap id) name).head?, s) := by
    clear hms hproducts hfirst
    induction hfound with
    | nil => rfl
    | @cons product m products found hm _ ih =>
      rw [search, exec_bind_of_ok hm]
      cases m with
      | none => exact ih
      | some m =>
        rw [List.filterMap_cons_some (f := id) rfl, named, List.filter_cons]
        by_cases hname : (m.name == .text name) = true
        · rw [if_pos hname]
          exact congrArg (Flow.exec · s) (if_pos hname)
        · rw [if_neg hname, ← named, ← ih]
          exact congrArg (Flow.exec · s) (if_neg hname)
  rw [manifestPath, exec_bind_of_ok hproducts, exec_bind_of_ok hsearch, hfirst]
  rfl

variable (hproper : ∀ m ∈ ms, m.Proper)

include hproper

/-- The dialects are those that some description lists. -/
theorem exec_dialects :
    ∃ all, i.dialects.exec s = (.ok all, s) ∧ ∀ dialect, dialect ∈ all ↔ ∃ m ∈ ms, m.Lists dialect := by
  have hitems : ∀ m ∈ ms, (ofOutcome m.dialects.asItems).exec s = (.ok (m.dialects.asItems.toOption.getD []), s) := by
    intro m hm
    obtain ⟨dialects, hdialects⟩ := (hproper m hm).dialects
    rw [hdialects]
    rfl
  rw [dialects, exec_bind_of_ok hms, exec_bind_of_ok (exec_mapM hitems)]
  refine ⟨_, rfl, fun dialect => ?_⟩
  rw [List.mem_mergeSort, List.mem_eraseDups, List.map_flatten, List.map_map, List.mem_flatten]
  constructor
  · rintro ⟨_, hlist, hdialect⟩
    obtain ⟨m, hm, rfl⟩ := List.mem_map.1 hlist
    exact ⟨m, hm, ((hproper m hm).mem_shown_iff dialect).1 hdialect⟩
  · rintro ⟨m, hm, hlists⟩
    exact ⟨_, List.mem_map.2 ⟨m, hm, rfl⟩, ((hproper m hm).mem_shown_iff dialect).2 hlists⟩

theorem exec_withDialect (dialect : String) : ∃ names, (i.withDialect dialect).exec s = (.ok names, s) ∧
    ∀ name, name ∈ names ↔ ∃ last, (named ms name).getLast? = some last ∧ last.Lists dialect := by
  have hbyName : i.byName.exec s = (.ok (Sequence.lastOf (ms.map fun m => (m.name.shown, m))), s) := by
    rw [byName, exec_bind_of_ok hms]
    rfl
  have hentry : ∀ {name m}, (name, m) ∈ Sequence.lastOf (ms.map fun m => (m.name.shown, m)) ↔
      (named ms name).getLast? = some m := by
    intro name m
    rw [Sequence.mem_lastOf_map, named, List.filter_congr fun m hm => (hproper m hm).beq_shown name]
  have hlisted : ∀ entry ∈ Sequence.lastOf (ms.map fun m => (m.name.shown, m)),
      (ofOutcome (entry.2.hasDialect dialect)).exec s = (.ok (decide (entry.2.Lists dialect)), s) := by
    rintro ⟨name, m⟩ hmem
    have hm : m ∈ ms := (List.mem_filter.1 (List.mem_of_getLast? (hentry.1 hmem))).1
    rw [exec_ofOutcome, (hproper m hm).hasDialect_eq]
  have hfilter := exec_filterM_id hlisted
  rw [withDialect, exec_bind_of_ok hbyName, exec_bind_of_ok hfilter]
  refine ⟨_, rfl, fun name => ?_⟩
  simp only [List.mem_mergeSort, List.mem_map, List.mem_filter, decide_eq_true_eq, Prod.exists, exists_and_right,
    exists_eq_right, hentry]

/-- A dialect is offered if and only if some transpiler is offered for it, and the file of each transpiler that is
offered for a dialect lists it, if and only if the descriptions are consistent. -/
theorem dialect_queries_agree_iff : ∃ (all : List String) (fitting : String → List String),
    i.dialects.exec s = (.ok all, s) ∧ (∀ dialect, (i.withDialect dialect).exec s = (.ok (fitting dialect), s)) ∧
    ((∀ dialect, (dialect ∈ all ↔ fitting dialect ≠ []) ∧ ∀ name ∈ fitting dialect, ∃ file m,
        (i.manifestPath name).exec s = (.ok file, s) ∧ (Manifest.load file).exec s = (.ok m, s) ∧ m.Lists dialect) ↔
      Manifest.Consistent ms) := by
  obtain ⟨all, hall, hmem⟩ := exec_dialects hms hproper
  choose fitting hfitting hname using exec_withDialect hms hproper
  refine ⟨all, fitting, hall, hfitting, fun h => ⟨fun m hm dialect hlists => ?_, ?_⟩, fun h dialect => ⟨?_, ?_⟩⟩
  · have hne := (h dialect).1.1 ((hmem dialect).2 ⟨m, hm, hlists⟩)
    obtain ⟨name, hfits⟩ := List.exists_mem_of_ne_nil _ hne
    exact ⟨name, (hname dialect name).1 hfits⟩
  · intro name first last hfirst hlast dialect hlists
    obtain ⟨file, m, hfile, hload, hm⟩ := (h dialect).2 name ((hname dialect name).2 ⟨last, hlast, hlists⟩)
    rw [exec_manifestPath hms hfirst] at hfile
    cases hfile
    rw [load_of_mem hms (List.mem_filter.1 (List.mem_of_mem_head? hfirst)).1] at hload
    cases hload
    exact hm
  · constructor
    · intro hd
      obtain ⟨m, hm, hlists⟩ := (hmem dialect).1 hd
      obtain ⟨name, hlast⟩ := h.reached m hm dialect hlists
      exact List.ne_nil_of_mem ((hname dialect name).2 hlast)
    · intro hne
      obtain ⟨name, hfits⟩ := List.exists_mem_of_ne_nil _ hne
      obtain ⟨last, hlast, hlists⟩ := (hname dialect name).1 hfits
      exact (hmem dialect).2 ⟨last, (List.mem_filter.1 (List.mem_of_getLast? hlast)).1, hlists⟩
  · intro name hfits
    obtain ⟨last, hlast, hlists⟩ := (hname dialect name).1 hfits
    obtain ⟨first, hfirst⟩ : ∃ first, (named ms name).head? = some first :=
      ⟨_, List.head?_eq_some_head (List.ne_nil_of_mem (List.mem_of_getLast? hlast))⟩
    have hload := load_of_mem hms (List.mem_filter.1 (List.mem_of_mem_head? hfirst)).1
    exact ⟨first.path, first, exec_manifestPath hms hfirst, hload, h.agreed name first last hfirst hlast dialect hlists⟩

end Views

/-- The descriptions are known as soon as a check of them is passed. -/
private theorem exists_manifests {check : List Manifest → Bool} (h : (i.manifests.exec s).1.toOption.any check = true) :
    ∃ ms, i.manifests.exec s = (.ok ms, s) ∧ check ms = true := by
  rcases hexec : i.manifests.exec s with ⟨e | ms, s'⟩
  · rw [hexec] at h
    cases h
  · rw [hexec] at h
    cases (reads_manifests i).session_eq hexec
    exact ⟨ms, rfl, h⟩

def described (dialects : String) : Entry :=
  .file (.text ("remorph:\n  version: 1\n  name: A\n  dialects: [" ++ dialects ++ "]\n  command_line: [run]\n"))

def stock (product saved : Entry) : FileTree := ⟨[(["remorph-transpilers"], .directory),
  (["remorph-transpilers", "a"], .directory), (["remorph-transpilers", "a", "lib"], .directory),
  (["remorph-transpilers", "a", "lib", "config.yml"], product),
  (["remorph-transpilers", "a-saved"], .directory), (["remorph-transpilers", "a-saved", "lib"], .directory),
  (["remorph-transpilers", "a-saved", "lib", "config.yml"], saved)]⟩

def keptStock : Session := { files := stock (described "x, y") (described "y, x") }

def changedStock : Session := { files := stock (described "x, y") (described "y, z") }

def here : Installed := ⟨"", []⟩

theorem dialect_queries_agree_kept : ∃ (all : List String) (fitting : String → List String),
    here.dialects.exec keptStock = (.ok all, keptStock) ∧
    (∀ dialect, (here.withDialect dialect).exec keptStock = (.ok (fitting dialect), keptStock)) ∧
    ∀ dialect, (dialect ∈ all ↔ fitting dialect ≠ []) ∧ ∀ name ∈ fitting dialect, ∃ file m,
      (here.manifestPath name).exec keptStock = (.ok file, keptStock) ∧
      (Manifest.load file).exec keptStock = (.ok m, keptStock) ∧ m.Lists dialect := by
  obtain ⟨ms, hms, hcheck⟩ := exists_manifests (i := here) (s := keptStock)
    (show Option.any (fun ms => tally ms [("A", ["x", "y"]), ("A", ["y", "x"])]) _ = true by decide +kernel)
  obtain ⟨first, last, rfl, hboth, hfirst, hlast⟩ := Manifest.exists_of_tally_pair hcheck
  have hproper := fun m hm => (hboth m hm).1
  have hconsistent : Manifest.Consistent [first, last] := by
    refine Manifest.consistent_of_agreeing hproper fun m hm other hother _ dialect => ?_
    simp only [List.mem_cons, List.not_mem_nil, or_false] at hm hother
    rcases hm with rfl | rfl <;> rcases hother with rfl | rfl <;> simp [hfirst, hlast, or_comm]
  obtain ⟨all, fitting, hall, hfitting, hiff⟩ := dialect_queries_agree_iff hms hproper
  exact ⟨all, fitting, hall, hfitting, hiff.2 hconsistent⟩

theorem dialect_queries_differ_changed : ∃ all fitting file m,
    here.dialects.exec changedStock = (.ok all, changedStock) ∧ "x" ∈ all ∧
    (here.withDialect "x").exec changedStock = (.ok [], changedStock) ∧
    (here.withDialect "z").exec changedStock = (.ok fitting, changedStock) ∧ "A" ∈ fitting ∧
    (here.manifestPath "A").exec changedStock = (.ok file, changedStock) ∧
    (Manifest.load file).exec changedStock = (.ok m, changedStock) ∧ ¬ m.Lists "z" := by
  obtain ⟨ms, hms, hcheck⟩ := exists_manifests (i := here) (s := changedStock)
    (show Option.any (fun ms => tally ms [("A", ["x", "y"]), ("A", ["y", "z"])]) _ = true by decide +kernel)
  obtain ⟨first, last, rfl, hboth, hfirst, hlast⟩ := Manifest.exists_of_tally_pair hcheck
  have hproper := fun m hm => (hboth m hm).1
  have hnamed : named [first, last] "A" = [first, last] :=
    List.filter_eq_self.2 fun m hm => Value.beq_text_iff.2 (hboth m hm).2
  obtain ⟨all, hall, hmem⟩ := exec_dialects hms hproper
  obtain ⟨none, hnone, hname⟩ := exec_withDialect hms hproper "x"
  obtain ⟨fitting, hfitting, hoffered⟩ := exec_withDialect hms hproper "z"
  have hempty : none = [] := by
    refine List.eq_nil_iff_forall_not_mem.2 fun name hin => ?_
    obtain ⟨m, hm, hlists⟩ := (hname name).1 hin
    have hin := List.mem_of_getLast? hm
    have hms' := (List.mem_filter.1 hin).1
    have hA : name = "A" := by
      have heq := (hproper m hms').name_of_mem_named hin
      rw [(hboth m hms').2] at heq
      exact (Value.text.inj heq).symm
    rw [hA, hnamed] at hm
    cases hm
    simp [hlast] at hlists
  refine ⟨all, fitting, first.path, first, hall, (hmem "x").2 ⟨first, by simp, by simp [hfirst]⟩, hempty ▸ hnone,
    hfitting, (hoffered "A").2 ⟨last, by rw [hnamed]; rfl, by simp [hlast]⟩, ?_, ?_, by simp [hfirst]⟩
  · exact exec_manifestPath hms (by rw [hnamed]; rfl)
  · exact load_of_mem hms (by simp)

end Installed

end Transpiler

end WarehouseMigration
