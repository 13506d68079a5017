import WarehouseMigration.Command
import WarehouseMigration.Proofs.FileTree.WellFormed
import WarehouseMigration.Proofs.Path.Written
import WarehouseMigration.Proofs.Transpiler.Dialects

/-!
# Where a configuration comes from

The settings of a transpilation are asked for by the command line or else by the stored configuration (`requested`), and
the operator is asked for what is missing.  Each step of the check is described by what it leaves when it succeeds: the
steps for the command line (`eq_of_useTranspiler` and the like) and the steps of the check (`Check.of_check`).  All that
is asked for is respected, but a transpiler only as long as a source dialect is asked for too
(`settings_respect_requested`).

The steps of a check see the configuration beside the session, so that executing them has its own equations.
-/

namespace WarehouseMigration

namespace Transpiler.Installed

open WarehouseMigration.Flow

variable {i : Installed} {s : Session}

/-- The product folders can be written, and so can all that is reached from them. -/
private theorem written_of_products (hfiles : s.files.WellFormed) (hroot : i.root.Written) {products : List Path}
    (h : i.products.exec s = (.ok products, s)) {product : Path} (hproduct : product ∈ products) : product.Written := by
  obtain ⟨found, -, h⟩ := (reads_pathExists _).exists_of_bind h
  cases found with
  | false =>
    cases h
    cases hproduct
  | true =>
    obtain ⟨place, -, h⟩ := (reads_place _).exists_of_bind h
    rw [exec_bind_of_ok (exec_get s)] at h
    dsimp only at h
    split at h
    · cases h
      obtain ⟨name, hname, rfl⟩ := List.mem_map.1 hproduct
      have hfolder : i.folder.Written := hroot.child "remorph-transpilers"
      exact hfolder.below (by simpa using hfiles.isName hname)
    · cases h
    · cases h

/-- What is found among some product folders is the description in one of them. -/
private theorem exists_of_search {name : String} {products : List Path} {m : Manifest}
    (h : (search name products).exec s = (.ok (some m), s)) :
    ∃ product ∈ products, (manifestIn product).exec s = (.ok (some m), s) := by
  induction products with
  | nil => cases h
  | cons product products ih =>
    obtain ⟨found, hfound, hrest⟩ := (reads_manifestIn product).exists_of_bind h
    cases found with
    | none =>
      obtain ⟨other, hother, hm⟩ := ih hrest
      exact ⟨other, List.mem_cons_of_mem _ hother, hm⟩
    | some found =>
      dsimp only at hrest
      split at hrest
      · cases hrest
        exact ⟨product, List.mem_cons_self, hfound⟩
      · obtain ⟨other, hother, hm⟩ := ih hrest
        exact ⟨other, List.mem_cons_of_mem _ hother, hm⟩

/-- The file of an installed transpiler comes back from its written form. -/
private theorem ofString_of_manifestPath (hfiles : s.files.WellFormed) (hroot : i.root.Written) {name : String}
    {file : Path} (h : (i.manifestPath name).exec s = (.ok file, s)) : Path.ofString file.toString = file := by
  obtain ⟨products, hproducts, h⟩ := (reads_products i).exists_of_bind h
  obtain ⟨m, hm, h⟩ := (reads_search name products).exists_of_bind h
  cases m with
  | none => cases h
  | some m =>
    cases h
    obtain ⟨product, hproduct, hfound⟩ := exists_of_search hm
    rw [path_of_manifestIn hfound]
    exact ((written_of_products hfiles hroot hproducts hproduct).child "lib/config.yml").ofString_toString

end Transpiler.Installed

namespace Transpile

open WarehouseMigration.Transpiler WarehouseMigration.Flow
open Session (SameFiles)

namespace Check

variable {α β : Type} {c c' : Checker} {s s' : Session}

/-! ### Executing a check -/

private theorem exists_of_exec_bind {step : Check α} {next : α → Check β} {b : β}
    (h : (step >>= next).exec c s = ((.ok b, c'), s')) :
    ∃ a c₁ s₁, step.exec c s = ((.ok a, c₁), s₁) ∧ (next a).exec c₁ s₁ = ((.ok b, c'), s') :=
  Stateful.exists_of_run_bind h

private theorem exec_ofFlow (flow : Flow α) (c : Checker) (s : Session) :
    (ofFlow flow).exec c s = (((flow.exec s).1, c), (flow.exec s).2) := rfl

private theorem exec_get_bind (next : Checker → Check α) (c : Checker) (s : Session) :
    (get >>= next).exec c s = (next c).exec c s := rfl

private theorem exec_update_bind (change : Config → Config) (next : Unit → Check α) (c : Checker) (s : Session) :
    (update change >>= next).exec c s = (next ()).exec { c with config := change c.config } s := rfl

private theorem eq_of_pure {a b : α} (h : (pure a : Check α).exec c s = ((.ok b, c'), s')) :
    a = b ∧ c = c' ∧ s = s' := by
  cases h
  exact ⟨rfl, rfl, rfl⟩

private theorem eq_of_update {change : Config → Config} {u : Unit} (h : (update change).exec c s = ((.ok u, c'), s')) :
    c' = { c with config := change c.config } ∧ s = s' := by
  cases h
  exact ⟨rfl, rfl⟩

private theorem exec_of_ofFlow {flow : Flow α} {a : α} (h : (ofFlow flow).exec c s = ((.ok a, c'), s')) :
    flow.exec s = (.ok a, s') ∧ c = c' := by
  simp only [exec_ofFlow, Prod.mk.injEq] at h
  obtain ⟨⟨hout, rfl⟩, rfl⟩ := h
  exact ⟨Prod.ext hout rfl, rfl⟩

/-- A reading task in a check leaves all as it is. -/
private theorem exec_of_ofFlow_reads {flow : Flow α} (hreads : Reads flow) {a : α}
    (h : (ofFlow flow).exec c s = ((.ok a, c'), s')) : flow.exec s = (.ok a, s) ∧ c = c' ∧ s = s' := by
  obtain ⟨hexec, rfl⟩ := exec_of_ofFlow h
  cases hreads.session_eq hexec
  exact ⟨hexec, rfl, rfl⟩

private theorem eq_of_requirePath {path : Path} {message : String} {u : Unit}
    (h : (requirePath path message).exec c s = ((.ok u, c'), s')) : c = c' ∧ s = s' := by
  obtain ⟨found, c₁, s₁, hfound, h⟩ := exists_of_exec_bind h
  obtain ⟨-, rfl, rfl⟩ := exec_of_ofFlow_reads (reads_pathExists path) hfound
  cases found
  · cases h
  · cases h
    exact ⟨rfl, rfl⟩

/-! ### The command line -/

/-- Taking a path from the command line. -/
private theorem eq_of_given {given : Option String} {place : String → Path} {message : String → String}
    {change : String → Config → Config} {u : Unit}
    (h : (do if let some path := given then
      requirePath (place path) (message path)
      update (change path) : Check Unit).exec c s = ((.ok u, c'), s')) :
    c' = { c with config := given.elim c.config fun path => change path c.config } ∧ s = s' := by
  cases given with
  | none =>
    cases h
    exact ⟨rfl, rfl⟩
  | some path =>
    obtain ⟨_, c₁, s₁, hpath, h⟩ := exists_of_exec_bind h
    obtain ⟨rfl, rfl⟩ := eq_of_requirePath hpath
    exact eq_of_update h

/-- Taking a name from the command line. -/
private theorem eq_of_named {given : Option String} {change : String → Config → Config} {u : Unit}
    (h : (do if let some name := given.filter (· != "") then update (change name) : Check Unit).exec c s =
      ((.ok u, c'), s')) :
    c' = { c with config := (given.filter (· != "")).elim c.config fun name => change name c.config } ∧ s = s' := by
  cases hgiven : given.filter (· != "") with
  | none =>
    rw [hgiven] at h
    cases h
    exact ⟨rfl, rfl⟩
  | some name =>
    rw [hgiven] at h
    cases h
    exact ⟨rfl, rfl⟩

private theorem eq_of_useSkipValidation {given : Option String} {u : Unit}
    (h : (useSkipValidation given).exec c s = ((.ok u, c'), s')) :
    c' = { c with
      config.skipValidation := given.elim c.config.skipValidation fun word => .bool (Text.lower word == "true") } ∧
    s = s' := by
  cases given with
  | none =>
    cases h
    exact ⟨rfl, rfl⟩
  | some word =>
    rw [useSkipValidation] at h
    dsimp only at h
    split at h
    · cases h
    · cases h
      exact ⟨rfl, rfl⟩

private theorem eq_of_useSourceDialect {given : Option String} {u : Unit}
    (h : (useSourceDialect given).exec c s = ((.ok u, c'), s')) :
    c' = { c with dialectOverride := given <|> c.dialectOverride } ∧ s = s' := by
  cases given with
  | none =>
    cases h
    exact ⟨rfl, rfl⟩
  | some dialect =>
    cases h
    exact ⟨rfl, rfl⟩

/-! ### The check -/

private theorem of_asked {prompt : String} {place : String → Path} {message : String → String}
    {change : String → Config → Config} {u : Unit}
    (h : (ofFlow (questionText prompt) >>= fun answer => requirePath (place answer) (message answer) >>= fun _ =>
      update (change answer)).exec c s = ((.ok u, c'), s')) :
    SameFiles s s' ∧ ∃ answer, c' = { c with config := change answer c.config } := by
  obtain ⟨answer, c₁, s₁, hanswer, h⟩ := exists_of_exec_bind h
  obtain ⟨hask, rfl⟩ := exec_of_ofFlow hanswer
  obtain ⟨_, c₂, s₂, hpath, h⟩ := exists_of_exec_bind h
  obtain ⟨rfl, rfl⟩ := eq_of_requirePath hpath
  obtain ⟨rfl, rfl⟩ := eq_of_update h
  exact ⟨(keepsFiles_questionText prompt none).of_exec hask, answer, rfl⟩

private theorem of_checkInputSource {u : Unit} (h : checkInputSource.exec c s = ((.ok u, c'), s')) :
    SameFiles s s' ∧ ∃ path, c' = { c with config.inputSource := c.config.inputSource <|> some path } := by
  obtain ⟨⟨transpiler, dialect, input, _⟩, installed, override⟩ := c
  rw [checkInputSource, exec_get_bind] at h
  cases input with
  | some path =>
    obtain ⟨rfl, rfl⟩ := eq_of_requirePath h
    exact ⟨.refl _, path, rfl⟩
  | none =>
    obtain ⟨hsame, answer, rfl⟩ := of_asked h
    exact ⟨hsame, Text.strip answer, rfl⟩

private theorem of_checkOutputFolder {u : Unit} (h : checkOutputFolder.exec c s = ((.ok u, c'), s')) :
    SameFiles s s' ∧ ∃ path, c' = { c with config.outputFolder := c.config.outputFolder <|> some path } := by
  obtain ⟨⟨transpiler, dialect, input, output, _⟩, installed, override⟩ := c
  rw [checkOutputFolder, exec_get_bind] at h
  cases output with
  | some path =>
    obtain ⟨rfl, rfl⟩ := eq_of_requirePath h
    exact ⟨.refl _, path, rfl⟩
  | none =>
    obtain ⟨hsame, answer, rfl⟩ := of_asked h
    exact ⟨hsame, Text.strip answer, rfl⟩

private theorem of_checkErrorFile {u : Unit} (h : checkErrorFile.exec c s = ((.ok u, c'), s')) : c = c' ∧ s = s' := by
  rw [checkErrorFile, exec_get_bind] at h
  cases hfile : c.config.errorFile with
  | some path =>
    simp only [hfile] at h
    exact eq_of_requirePath h
  | none =>
    simp only [hfile] at h
    cases h
    exact ⟨rfl, rfl⟩

/-! ### The transpiler and the dialect -/

/-- A transpiler from the repository: its description is loaded from the file under which it is installed. -/
def Chosen (i : Installed) (s : Session) (m : Manifest) (path : String) : Prop :=
  ∃ name file, (i.manifestPath name).exec s = (.ok file, s) ∧ (Manifest.load file).exec s = (.ok m, s) ∧
    path = file.toString

private theorem Chosen.of_sameFiles {i : Installed} {m : Manifest} {path : String} (h : Chosen i s' m path)
    (hsame : SameFiles s s') : Chosen i s m path := by
  obtain ⟨name, file, hfile, hload, hpath⟩ := h
  exact ⟨name, file, (Installed.reads_manifestPath i name).exec_again hfile hsame.symm,
    (Manifest.reads_load file).exec_again hload hsame.symm, hpath⟩

/-- A check that begins with a choice of the operator goes on with some answer. -/
private theorem of_choice {prompt : Value} {options : List Value} {next : Value → Check α} {a : α}
    (h : (ofFlow (choice prompt options) >>= next).exec c s = ((.ok a, c'), s')) :
    ∃ answer s₁, SameFiles s s₁ ∧ (next answer).exec c s₁ = ((.ok a, c'), s') := by
  obtain ⟨answer, c₁, s₁, hanswer, hnext⟩ := exists_of_exec_bind h
  obtain ⟨hask, rfl⟩ := exec_of_ofFlow hanswer
  exact ⟨answer, s₁, (keepsFiles_ask _ _ _).of_exec hask, hnext⟩

private theorem of_taken {i : Installed} {name : String} {m : Manifest}
    (h : (ofFlow (i.manifestPath name) >>= fun path => update ({ · with transpiler := some path.toString }) >>= fun _ =>
      ofFlow (Manifest.load path) >>= fun m => pure (some m)).exec c s = ((.ok (some m), c'), s')) :
    s = s' ∧ ∃ path, Chosen i s m path ∧ c' = { c with config.transpiler := some path } := by
  obtain ⟨file, c₁, s₁, hfind, hupdate⟩ := exists_of_exec_bind h
  obtain ⟨hfile, rfl, rfl⟩ := exec_of_ofFlow_reads (Installed.reads_manifestPath _ name) hfind
  rw [exec_update_bind] at hupdate
  obtain ⟨found, c₂, s₂, hread, hpure⟩ := exists_of_exec_bind hupdate
  obtain ⟨hload, rfl, rfl⟩ := exec_of_ofFlow_reads (Manifest.reads_load file) hread
  obtain ⟨hfound, rfl, rfl⟩ := eq_of_pure hpure
  cases hfound
  exact ⟨rfl, file.toString, ⟨name, file, hfile, hload, rfl⟩, rfl⟩

private theorem of_findTranspiler {dialect : String} {m : Manifest}
    (h : (findTranspiler dialect).exec c s = ((.ok (some m), c'), s')) :
    SameFiles s s' ∧ ∃ path, Chosen c.installed s m path ∧ c' = { c with config.transpiler := some path } := by
  rw [findTranspiler, exec_get_bind] at h
  obtain ⟨names, c₁, s₁, hnames, hpick⟩ := exists_of_exec_bind h
  obtain ⟨-, rfl, rfl⟩ := exec_of_ofFlow_reads (Installed.reads_withDialect _ dialect) hnames
  rcases names with - | ⟨name, - | ⟨other, names⟩⟩
  · cases hpick
  · obtain ⟨rfl, htaken⟩ := of_taken hpick
    exact ⟨.refl _, htaken⟩
  · obtain ⟨answer, s₂, hsame, hpicked⟩ := of_choice hpick
    obtain ⟨rfl, path, hchosen, rfl⟩ := of_taken hpicked
    exact ⟨hsame, path, hchosen.of_sameFiles hsame, rfl⟩

private theorem of_settleDialect_some {dialect : String} (complaint : String) {m found : Manifest}
    (h : (settleDialect dialect (some m) complaint).exec c s = ((.ok found, c'), s')) :
    found = m ∧ c' = { c with config.sourceDialect := some dialect } ∧ s = s' := by
  obtain ⟨listed, c₁, s₁, hlisted, hrest⟩ := exists_of_exec_bind h
  obtain ⟨-, rfl, rfl⟩ := exec_of_ofFlow_reads (reads_ofOutcome _) hlisted
  cases listed with
  | true =>
    obtain ⟨rfl, rfl, rfl⟩ := eq_of_pure hrest
    exact ⟨rfl, rfl, rfl⟩
  | false =>
    obtain ⟨_, c₂, s₂, -, hthrow⟩ := exists_of_exec_bind hrest
    cases hthrow

/-- A transpiler is looked for, and the dialect is settled when there is one. -/
private theorem of_found {dialect : String} {next : Option Manifest → Check Manifest} {m : Manifest}
    (hnone : ∀ {c c' s s' m}, (next none).exec c s ≠ ((.ok m, c'), s'))
    (hsome : ∀ found, next (some found) = update ({ · with sourceDialect := some dialect }) >>= fun _ => pure found)
    (h : (findTranspiler dialect >>= next).exec c s = ((.ok m, c'), s')) :
    SameFiles s s' ∧ ∃ path, Chosen c.installed s m path ∧
      c' = { c with config.transpiler := some path, config.sourceDialect := some dialect } := by
  obtain ⟨found, c₁, s₁, hfind, hnext⟩ := exists_of_exec_bind h
  cases found with
  | none => exact absurd hnext hnone
  | some found =>
    obtain ⟨hsame, path, hchosen, rfl⟩ := of_findTranspiler hfind
    rw [hsome, exec_update_bind] at hnext
    obtain ⟨rfl, rfl, rfl⟩ := eq_of_pure hnext
    exact ⟨hsame, path, hchosen, rfl⟩

private theorem of_settleDialect_none {dialect complaint : String} {m : Manifest}
    (h : (settleDialect dialect none complaint).exec c s = ((.ok m, c'), s')) :
    SameFiles s s' ∧ ∃ path, Chosen c.installed s m path ∧
      c' = { c with config.transpiler := some path, config.sourceDialect := some dialect } := by
  refine of_found (fun hthrow => ?_) (fun _ => rfl) h
  rw [exec_get_bind] at hthrow
  obtain ⟨_, _, _, -, hthrow⟩ := exists_of_exec_bind hthrow
  cases hthrow

private theorem of_askDialect {m : Manifest} (h : askDialect.exec c s = ((.ok m, c'), s')) :
    SameFiles s s' ∧ ∃ path dialect, Chosen c.installed s m path ∧
      c' = { c with config.transpiler := some path, config.sourceDialect := some dialect } := by
  rw [askDialect, exec_get_bind] at h
  obtain ⟨dialects, c₁, s₁, hdialects, hpick⟩ := exists_of_exec_bind h
  obtain ⟨-, rfl, rfl⟩ := exec_of_ofFlow_reads (Installed.reads_dialects _) hdialects
  rcases dialects with - | ⟨dialect, - | ⟨other, dialects⟩⟩
  · cases hpick
  · obtain ⟨hsame, path, hchosen, rfl⟩ := of_found (fun hthrow => by cases hthrow) (fun _ => rfl) hpick
    exact ⟨hsame, path, dialect, hchosen, rfl⟩
  · obtain ⟨answer, s₂, hasked, hpicked⟩ := of_choice hpick
    obtain ⟨hsame, path, hchosen, rfl⟩ := of_found (fun hthrow => by cases hthrow) (fun _ => rfl) hpicked
    exact ⟨hasked.trans hsame, path, answer.shown, hchosen.of_sameFiles hasked, rfl⟩

/-- What is settled: the transpiler that is asked for, if a dialect is asked for as well, and else one from the
repository. -/
structure Settled (i : Installed) (transpiler dialect : Option String) (s : Session) (m : Manifest)
    (path own : String) : Prop where
  agrees : ∀ wanted, dialect = some wanted → own = wanted
  kept : dialect ≠ none → ∀ wanted, transpiler = some wanted →
    path = wanted ∧ (Manifest.load (.ofString path)).exec s = (.ok m, s)
  chosen : dialect = none ∨ transpiler = none → Chosen i s m path

namespace Settled

variable {i : Installed} {m : Manifest} {path own given wanted : String} {transpiler dialect : Option String}

private theorem of_sameFiles (h : Settled i transpiler dialect s' m path own) (hsame : SameFiles s s') :
    Settled i transpiler dialect s m path own where
  agrees := h.agrees
  kept hdialect wanted htranspiler :=
    have hkept := h.kept hdialect wanted htranspiler
    ⟨hkept.1, (Manifest.reads_load _).exec_again hkept.2 hsame.symm⟩
  chosen hnone := (h.chosen hnone).of_sameFiles hsame

private theorem of_kept (h : (Manifest.load (.ofString given)).exec s = (.ok m, s)) :
    Settled i (some given) (some wanted) s m given wanted := by
  refine ⟨fun _ heq => Option.some.inj heq, fun _ _ heq => ?_, by simp⟩
  exact ⟨Option.some.inj heq, h⟩

private theorem of_chosen (h : Chosen i s m path) : Settled i none (some wanted) s m path wanted :=
  ⟨fun _ heq => Option.some.inj heq, by simp, fun _ => h⟩

private theorem of_asked (h : Chosen i s m path) : Settled i transpiler none s m path own :=
  ⟨by simp, by simp, fun _ => h⟩

private theorem load (h : Settled i transpiler dialect s m path own) (hfiles : s.files.WellFormed)
    (hroot : i.root.Written) : (Manifest.load (.ofString path)).exec s = (.ok m, s) := by
  have hchosen : Chosen i s m path → (Manifest.load (.ofString path)).exec s = (.ok m, s) := by
    rintro ⟨name, file, hfile, hload, rfl⟩
    rwa [Installed.ofString_of_manifestPath hfiles hroot hfile]
  cases transpiler with
  | none => exact hchosen (h.chosen (.inr rfl))
  | some wanted =>
    cases dialect with
    | none => exact hchosen (h.chosen (.inl rfl))
    | some own => exact (h.kept (by simp) wanted rfl).2

end Settled

private theorem of_checkTranspiler {m : Manifest} (h : checkTranspiler.exec c s = ((.ok m, c'), s')) :
    SameFiles s s' ∧ ∃ path dialect,
      Settled c.installed c.config.transpiler (c.dialectOverride <|> c.config.sourceDialect) s m path dialect ∧
      c' = { c with config.transpiler := some path, config.sourceDialect := some dialect } := by
  obtain ⟨⟨transpiler, stored, _⟩, installed, override⟩ := c
  rw [checkTranspiler, exec_get_bind] at h
  cases transpiler with
  | some given =>
    obtain ⟨_, c₁, s₁, hpath, hrest⟩ := exists_of_exec_bind h
    obtain ⟨rfl, rfl⟩ := eq_of_requirePath hpath
    obtain ⟨own, c₂, s₂, hown, hsettle⟩ := exists_of_exec_bind hrest
    obtain ⟨hload, rfl, rfl⟩ := exec_of_ofFlow_reads (Manifest.reads_load _) hown
    rcases override with - | dialect
    · rcases stored with - | dialect
      · obtain ⟨hsame, path, dialect, hchosen, rfl⟩ := of_askDialect hsettle
        exact ⟨hsame, path, dialect, .of_asked hchosen, rfl⟩
      · obtain ⟨rfl, rfl, rfl⟩ := of_settleDialect_some "Invalid configured source dialect" hsettle
        exact ⟨.refl _, given, dialect, .of_kept hload, rfl⟩
    · obtain ⟨rfl, rfl, rfl⟩ := of_settleDialect_some "Invalid value for '--source-dialect'" hsettle
      exact ⟨.refl _, given, dialect, .of_kept hload, rfl⟩
  | none =>
    rcases override with - | dialect
    · rcases stored with - | dialect
      · obtain ⟨hsame, path, dialect, hchosen, rfl⟩ := of_askDialect h
        exact ⟨hsame, path, dialect, .of_asked hchosen, rfl⟩
      · obtain ⟨hsame, path, hchosen, rfl⟩ := of_settleDialect_none h
        exact ⟨hsame, path, dialect, .of_chosen hchosen, rfl⟩
    · obtain ⟨hsame, path, hchosen, rfl⟩ := of_settleDialect_none h
      exact ⟨hsame, path, dialect, .of_chosen hchosen, rfl⟩

/-! ### The settings of the transpiler -/

/-- The step leaves the configuration and the files as they are when it succeeds. -/
def Keeps (step : Check α) : Prop :=
  ∀ {c c' s s' a}, step.exec c s = ((.ok a, c'), s') → c = c' ∧ SameFiles s s'

private theorem keeps_mapM {step : α → Check β} (h : ∀ a, Keeps (step a)) (items : List α) : Keeps
    (items.mapM step) := by
  intro c c' s s' results hexec
  induction items generalizing c c' s s' results with
  | nil =>
    obtain ⟨-, rfl, rfl⟩ := eq_of_pure hexec
    exact ⟨rfl, .refl _⟩
  | cons a items ih =>
    rw [List.mapM_cons] at hexec
    obtain ⟨b, c₁, s₁, hfirst, hrest⟩ := exists_of_exec_bind hexec
    obtain ⟨rfl, hsame⟩ := h a hfirst
    obtain ⟨bs, c₂, s₂, htail, hpure⟩ := exists_of_exec_bind hrest
    obtain ⟨rfl, hsame'⟩ := ih htail
    obtain ⟨-, rfl, rfl⟩ := eq_of_pure hpure
    exact ⟨rfl, hsame.trans hsame'⟩

private theorem keepsFiles_obtain (setting : Setting) : KeepsFiles setting.obtain := by
  rw [Setting.obtain]
  cases setting.asking with
  | force => exact (reads_pure _).along
  | question => exact (keepsFiles_ask _ _ _).bind fun _ => (reads_pure _).along
  | choice => exact (reads_ofOutcome _).along.bind fun _ => keepsFiles_ask _ _ _
  | confirm => exact keepsFiles_ask _ _ _

private theorem keeps_setting (given : List (String × Value)) (setting : Setting) :
    Keeps (do
      match given.lookup setting.flag.shown with
      | some v => return (setting.flag.shown, v)
      | none => return (setting.flag.shown, ← ofFlow setting.obtain)) := by
  intro c c' s s' result h
  cases hgiven : given.lookup setting.flag.shown with
  | some v =>
    rw [hgiven] at h
    obtain ⟨-, rfl, rfl⟩ := eq_of_pure h
    exact ⟨rfl, .refl _⟩
  | none =>
    rw [hgiven] at h
    obtain ⟨v, c₁, s₁, hobtain, hpure⟩ := exists_of_exec_bind h
    obtain ⟨hv, rfl⟩ := exec_of_ofFlow hobtain
    obtain ⟨-, rfl, rfl⟩ := eq_of_pure hpure
    exact ⟨rfl, (keepsFiles_obtain setting).of_exec hv⟩

private theorem of_checkSettings {m : Manifest} {u : Unit} (h : (checkSettings m).exec c s = ((.ok u, c'), s')) :
    SameFiles s s' ∧ ∃ options, c' = { c with config.options := options } := by
  obtain ⟨⟨transpiler, dialect, input, output, errors, client, skip, catalog, schema, options⟩, installed,
    override⟩ := c
  rw [checkSettings, exec_get_bind] at h
  cases options with
  | map given =>
    obtain ⟨settings, c₁, s₁, hsettings, hupdate⟩ := exists_of_exec_bind h
    obtain ⟨rfl, hsame⟩ := keeps_mapM (fun setting => keeps_setting given setting) _ hsettings
    obtain ⟨rfl, rfl⟩ := eq_of_update hupdate
    exact ⟨hsame, _, rfl⟩
  | _ =>
    obtain ⟨-, rfl, rfl⟩ := eq_of_pure h
    exact ⟨.refl _, _, rfl⟩

theorem of_check {config : Config} {m : Manifest} (h : check.exec c s = ((.ok (config, m), c'), s')) :
    ∃ input output path dialect options,
      Settled c.installed c.config.transpiler (c.dialectOverride <|> c.config.sourceDialect) s m path dialect ∧
      config = { c.config with
        inputSource := c.config.inputSource <|> some input
        outputFolder := c.config.outputFolder <|> some output
        transpiler := some path
        sourceDialect := some dialect
        options := options } := by
  obtain ⟨_, c₁, s₁, hinput, h₁⟩ := exists_of_exec_bind h
  obtain ⟨hsame₁, input, rfl⟩ := of_checkInputSource hinput
  obtain ⟨_, c₂, s₂, houtput, h₂⟩ := exists_of_exec_bind h₁
  obtain ⟨hsame₂, output, rfl⟩ := of_checkOutputFolder houtput
  obtain ⟨_, c₃, s₃, herrors, h₃⟩ := exists_of_exec_bind h₂
  obtain ⟨rfl, rfl⟩ := of_checkErrorFile herrors
  obtain ⟨found, c₄, s₄, htranspiler, h₄⟩ := exists_of_exec_bind h₃
  obtain ⟨hsame₄, path, dialect, hsettled, rfl⟩ := of_checkTranspiler htranspiler
  obtain ⟨_, c₅, s₅, hsettings, h₅⟩ := exists_of_exec_bind h₄
  obtain ⟨hsame₅, options, rfl⟩ := of_checkSettings hsettings
  rw [exec_get_bind] at h₅
  obtain ⟨hpair, rfl, rfl⟩ := eq_of_pure h₅
  cases hpair
  exact ⟨input, output, path, dialect, options, hsettled.of_sameFiles (hsame₁.trans hsame₂), rfl⟩

end Check

/-! ### The whole command line -/

open Command (argument)

/-- What is asked for: the command line over the stored configuration. -/
def requested (f : Fields) (stored : Config) : Config where
  transpiler := argument f "transpiler_config_path" <|> stored.transpiler
  sourceDialect := argument f "source_dialect" <|> stored.sourceDialect
  inputSource := argument f "input_source" <|> stored.inputSource
  outputFolder := argument f "output_folder" <|> stored.outputFolder
  errorFile := argument f "error_file_path" <|> stored.errorFile
  client := stored.client
  skipValidation := (argument f "skip_validation").elim stored.skipValidation fun word =>
    .bool (Text.lower word == "true")
  catalog := ((argument f "catalog_name").filter (· != "")).elim stored.catalog .text
  schema := ((argument f "schema_name").filter (· != "")).elim stored.schema .text
  options := stored.options

namespace Check

variable {c c' : Checker} {s s' : Session}

variable {given : Option String} {u : Unit}

theorem eq_of_useTranspiler (h : (useTranspiler given).exec c s = ((.ok u, c'), s')) :
    c' = { c with config.transpiler := given <|> c.config.transpiler } ∧ s = s' := by
  obtain ⟨rfl, rfl⟩ := eq_of_given h
  cases given <;> exact ⟨rfl, rfl⟩

private theorem eq_of_useInputSource (h : (useInputSource given).exec c s = ((.ok u, c'), s')) :
    c' = { c with config.inputSource := given <|> c.config.inputSource } ∧ s = s' := by
  obtain ⟨rfl, rfl⟩ := eq_of_given h
  cases given <;> exact ⟨rfl, rfl⟩

private theorem eq_of_useOutputFolder (h : (useOutputFolder given).exec c s = ((.ok u, c'), s')) :
    c' = { c with config.outputFolder := given <|> c.config.outputFolder } ∧ s = s' := by
  obtain ⟨rfl, rfl⟩ := eq_of_given h
  cases given <;> exact ⟨rfl, rfl⟩

private theorem eq_of_useErrorFile (h : (useErrorFile given).exec c s = ((.ok u, c'), s')) :
    c' = { c with config.errorFile := given <|> c.config.errorFile } ∧ s = s' := by
  obtain ⟨rfl, rfl⟩ := eq_of_given h
  cases given <;> exact ⟨rfl, rfl⟩

private theorem eq_of_useCatalog (h : (useCatalog given).exec c s = ((.ok u, c'), s')) :
    c' = { c with config.catalog := (given.filter (· != "")).elim c.config.catalog .text } ∧ s = s' := by
  obtain ⟨rfl, rfl⟩ := eq_of_named h
  cases given.filter (· != "") <;> exact ⟨rfl, rfl⟩

private theorem eq_of_useSchema (h : (useSchema given).exec c s = ((.ok u, c'), s')) :
    c' = { c with config.schema := (given.filter (· != "")).elim c.config.schema .text } ∧ s = s' := by
  obtain ⟨rfl, rfl⟩ := eq_of_named h
  cases given.filter (· != "") <;> exact ⟨rfl, rfl⟩

/-- The check begins with what is asked for, apart from the dialect, which it finds beside it. -/
private theorem check_of_transpileSettings {f : Fields} {stored : Config} {i : Installed} {result : Config × Manifest}
    (h : (Command.transpileSettings f).exec ⟨stored, i, none⟩ s = ((.ok result, c'), s')) :
    check.exec ⟨{ requested f stored with sourceDialect := stored.sourceDialect }, i, argument f "source_dialect"⟩ s =
      ((.ok result, c'), s') := by
  obtain ⟨_, c₁, s₁, hstep, h⟩ := exists_of_exec_bind h
  obtain ⟨rfl, rfl⟩ := eq_of_useTranspiler hstep
  obtain ⟨_, c₂, s₂, hstep, h⟩ := exists_of_exec_bind h
  obtain ⟨rfl, rfl⟩ := eq_of_useSourceDialect hstep
  obtain ⟨_, c₃, s₃, hstep, h⟩ := exists_of_exec_bind h
  obtain ⟨rfl, rfl⟩ := eq_of_useInputSource hstep
  obtain ⟨_, c₄, s₄, hstep, h⟩ := exists_of_exec_bind h
  obtain ⟨rfl, rfl⟩ := eq_of_useOutputFolder hstep
  obtain ⟨_, c₅, s₅, hstep, h⟩ := exists_of_exec_bind h
  obtain ⟨rfl, rfl⟩ := eq_of_useErrorFile hstep
  obtain ⟨_, c₆, s₆, hstep, h⟩ := exists_of_exec_bind h
  obtain ⟨rfl, rfl⟩ := eq_of_useSkipValidation hstep
  obtain ⟨_, c₇, s₇, hstep, h⟩ := exists_of_exec_bind h
  obtain ⟨rfl, rfl⟩ := eq_of_useCatalog hstep
  obtain ⟨_, c₈, s₈, hstep, h⟩ := exists_of_exec_bind h
  obtain ⟨rfl, rfl⟩ := eq_of_useSchema hstep
  rw [requested]
  have harg : (argument f "source_dialect" <|> (none : Option String)) = argument f "source_dialect" := by
    cases argument f "source_dialect" <;> rfl
  rw [harg] at h
  exact h

end Check

/-- A configuration that has whatever is asked for; the transpiler and its settings are left open. -/
structure Respects (wanted config : Config) : Prop where
  sourceDialect : ∀ dialect, wanted.sourceDialect = some dialect → config.sourceDialect = some dialect
  inputSource : ∀ path, wanted.inputSource = some path → config.inputSource = some path
  outputFolder : ∀ path, wanted.outputFolder = some path → config.outputFolder = some path
  errorFile : config.errorFile = wanted.errorFile
  client : config.client = wanted.client
  skipValidation : config.skipValidation = wanted.skipValidation
  catalog : config.catalog = wanted.catalog
  schema : config.schema = wanted.schema

/-- The command line wins over the stored configuration in every field.  The one exception is the transpiler: it is kept
if a source dialect is asked for, and else it gives way to one from the repository.  In any case the description comes
from the file that the configuration names. -/
theorem settings_respect_requested {f : Fields} {stored config : Config} {i : Installed} {m : Manifest} {c' : Checker}
    {s s' : Session} (hfiles : s.files.WellFormed) (hroot : i.root.Written)
    (h : (Command.transpileSettings f).exec ⟨stored, i, none⟩ s = ((.ok (config, m), c'), s')) :
    Respects (requested f stored) config ∧
    ((requested f stored).sourceDialect ≠ none →
      ∀ path, (requested f stored).transpiler = some path → config.transpiler = some path) ∧
    ((requested f stored).sourceDialect = none →
      ∃ name file, (i.manifestPath name).exec s = (.ok file, s) ∧ config.transpiler = some file.toString) ∧
    ∃ path, config.transpiler = some path ∧ (Manifest.load (.ofString path)).exec s = (.ok m, s) := by
  obtain ⟨input, output, path, dialect, options, hsettled, rfl⟩ := Check.of_check (Check.check_of_transpileSettings h)
  refine ⟨⟨fun wanted hwanted => ?_, fun wanted hwanted => ?_, fun wanted hwanted => ?_, rfl, rfl, rfl, rfl, rfl⟩,
    fun hdialect wanted hwanted => ?_, fun hnone => ?_, path, rfl, ?_⟩
  · exact congrArg some (hsettled.agrees wanted hwanted)
  · simp [hwanted]
  · simp [hwanted]
  · exact congrArg some (hsettled.kept hdialect wanted hwanted).1
  · obtain ⟨name, file, hfile, -, rfl⟩ := hsettled.chosen (.inl hnone)
    exact ⟨name, file, hfile, rfl⟩
  · exact hsettled.load hfiles hroot

/-- A step has succeeded as soon as a check of its result is passed. -/
private theorem Check.exists_of_any {α : Type} {step : Check α} {c : Checker} {s : Session} {test : α → Bool}
    (h : (step.exec c s).1.1.toOption.any test = true) :
    ∃ a c' s', step.exec c s = ((.ok a, c'), s') ∧ test a = true := by
  rcases hexec : step.exec c s with ⟨⟨e | a, c'⟩, s'⟩
  · rw [hexec] at h
    cases h
  · rw [hexec] at h
    exact ⟨a, c', s', rfl, h⟩

def workshop : Session := { files := ⟨[(["in"], .directory), (["own.yml"], Installed.described "x, y"),
  (["remorph-transpilers"], .directory), (["remorph-transpilers", "a"], .directory),
  (["remorph-transpilers", "a", "lib"], .directory),
  (["remorph-transpilers", "a", "lib", "config.yml"], Installed.described "x")]⟩ }

def fullConfig : Config :=
  { transpiler := some "old.yml", sourceDialect := some "x", inputSource := some "in", outputFolder := some "out" }

def openConfig : Config := { inputSource := some "in", outputFolder := some "out" }

def fullArguments : Fields := ⟨[("transpiler_config_path", .text "own.yml"), ("source_dialect", .text "y"),
  ("skip_validation", .text "TRUE"), ("catalog_name", .text "")]⟩

def openArguments : Fields := ⟨[("transpiler_config_path", .text "own.yml")]⟩

theorem settings_respect_full : ∃ config m c' s',
    (Command.transpileSettings fullArguments).exec ⟨fullConfig, Installed.here, none⟩ workshop =
      ((.ok (config, m), c'), s') ∧
    Respects (requested fullArguments fullConfig) config ∧ config.transpiler = some "own.yml" ∧
    (Manifest.load (.ofString "own.yml")).exec workshop = (.ok m, workshop) := by
  have hok : (((Command.transpileSettings fullArguments).exec ⟨fullConfig, Installed.here, none⟩
      workshop).1.1.toOption.any fun _ => true) = true := by decide +kernel
  obtain ⟨⟨config, m⟩, c', s', h, -⟩ := Check.exists_of_any hok
  obtain ⟨hrespects, hkept, -, path, hpath, hload⟩ := settings_respect_requested (by decide) (by decide) h
  have howned := hkept (by decide) "own.yml" rfl
  rw [howned] at hpath
  cases hpath
  exact ⟨config, m, c', s', h, hrespects, howned, hload⟩

theorem settings_ignore_transpiler_open : ∃ config m c' s',
    (Command.transpileSettings openArguments).exec ⟨openConfig, Installed.here, none⟩ workshop =
      ((.ok (config, m), c'), s') ∧
    (requested openArguments openConfig).transpiler = some "own.yml" ∧
    config.transpiler = some "remorph-transpilers/a/lib/config.yml" := by
  have hok : (((Command.transpileSettings openArguments).exec ⟨openConfig, Installed.here, none⟩
      workshop).1.1.toOption.any fun result =>
        result.1.transpiler == some "remorph-transpilers/a/lib/config.yml") = true := by decide +kernel
  obtain ⟨⟨config, m⟩, c', s', h, hpath⟩ := Check.exists_of_any hok
  exact ⟨config, m, c', s', h, rfl, eq_of_beq hpath⟩

end Transpile

end WarehouseMigration
