import WarehouseMigration.Proofs.FileTree.WellFormed
import WarehouseMigration.Proofs.Transpile.Writing
import WarehouseMigration.Transpile.Run

/-!
# The folders of the results

A run over a folder repeats the folders of the input below the output folder.  It makes the folder of a result when it
comes upon the first file in it, and only this one folder.  So the run ends well if and only if every folder with
files, from the second level on, stands in a folder with files (`Bridged`): if the files of a folder are transpiled
and there is none in the folder above it, that one is missing when it is needed.

Files and folders are named by their places below the input.  A run comes upon files in a fixed order (`filesFrom`),
and what it has done is known from the files written so far: they, and the folders that hold them, are all that is
below the output folder (`Mirrors`).  One file adds itself (`Mirrors.coversAt_processFile`), and the loops of the run
add the files they come upon one after the other (`CoversAt.bind`).
-/

namespace WarehouseMigration.Transpile

open WarehouseMigration.Flow

/-! ### Writing one text -/

/-- A result that is one text goes into its file as it is, or the source does, if nothing is validated. -/
private theorem Target.exec_complete_write {t : Target} {codecs : Text.Codecs} {code : String}
    (hplain : isMultipart code = false) (hvalidator : t.validator = none) (source : String) (problems : List Problem)
      (s : Session) :
    ∃ text, ∀ s', (Flow.writeText t.output text).exec s = (.ok (), s') →
      ((t.write codecs code source).complete problems).exec s = (.ok problems, s') := by
  refine ⟨if problems.any (·.stage == .parsing) then source else code, fun s' hwrite => Reporting.exec_complete ?_⟩
  have hvalid : ∀ sql, t.validated sql = pure sql := by
    intro sql
    rw [validated, hvalidator]
  rw [Target.write, if_neg (by simp [hplain]), Target.writeText]
  simp only [hvalid, ite_self, pure_bind, Reporting.exec_get_bind]
  split at hwrite
  case isTrue h => rw [if_pos h, Reporting.exec_ofFlow_eq hwrite]
  case isFalse h => rw [if_neg h, Reporting.exec_ofFlow_eq hwrite]

namespace Job

/-! ### The files of a run -/

section Files

variable (job : Job) (input : Path) (source : List String) (t : FileTree)

def takesAt (file : List String) : Bool := t.isFile (source ++ file) && job.takes (input.below file)

/-- The files that a run comes upon from a folder down, in its order. -/
def filesFrom : Nat → List String → List (List String)
  | 0, _ => []
  | depth + 1, folder =>
    ((t.names (source ++ folder)).map fun name => folder ++ [name]).filter (job.takesAt input source t) ++
      ((t.names (source ++ folder)).filter fun name => t.isDirectory (source ++ (folder ++ [name]))).flatMap
        fun name => filesFrom depth (folder ++ [name])

/-- Every folder with files, from the second level on, stands in a folder with files. -/
def Bridged : Prop :=
  ∀ file, job.takesAt input source t file = true → 2 ≤ file.dropLast.length →
    ∃ other, job.takesAt input source t other = true ∧ other.dropLast = file.dropLast.dropLast

variable {job input source t}

theorem isFile_of_takesAt {file : List String} (h : job.takesAt input source t file = true) :
    t.isFile (source ++ file) = true :=
  (Bool.and_eq_true_iff.1 h).1

private theorem holds_of_takesAt {file : List String} (h : job.takesAt input source t file = true) :
    t.holds (source ++ file) = true := by
  obtain ⟨content, hcontent⟩ := FileTree.isFile_iff.1 (isFile_of_takesAt h)
  rw [FileTree.holds_iff, hcontent]
  simp

private theorem isDirectory_of_takesAt (ht : t.WellFormed) {folder rest : List String} (hrest : rest ≠ [])
    (h : job.takesAt input source t (folder ++ rest) = true) : t.isDirectory (source ++ folder) = true :=
  ht.isDirectory_above (holds_of_takesAt h) ⟨rest, by simp⟩ (by simp [hrest])

end Files

/-- Whether the folder of a file is there or can be made after some files have been written. -/
def Admits (written : List (List String)) (file : List String) : Prop :=
  file.dropLast.length ≤ 1 ∨
    ∃ other ∈ written, other.dropLast = file.dropLast ∨ other.dropLast = file.dropLast.dropLast

/-- Whether files can be written one after the other. -/
def AdmitsAll : List (List String) → List (List String) → Prop
  | _, [] => True
  | written, file :: files => Admits written file ∧ AdmitsAll (written ++ [file]) files

private theorem admitsAll_append {written files others : List (List String)} :
    AdmitsAll written (files ++ others) ↔ AdmitsAll written files ∧ AdmitsAll (written ++ files) others := by
  induction files generalizing written with
  | nil => simp [AdmitsAll]
  | cons file files ih => simp [AdmitsAll, ih, and_assoc]

/-! ### What a run leaves behind -/

/-- What is known of a run over a folder: the input is a folder of a well-formed tree, the output folder is outside of
it and empty or absent, and every file can be read and transpiled, without validation, into one text. -/
structure Fits (job : Job) (input : Path) (source target : List String) (s : Session) : Prop where
  dialect : job.config.sourceDialect.getD "" ≠ ""
  unvalidated : job.validator = none
  leads : input.LeadsTo s.home source
  leadsOut : (job.outputFolder input).LeadsTo s.home target
  tree : s.files.WellFormed
  folder : s.files.isDirectory source = true
  outside : ¬ source <+: target
  clear : ∀ rest, rest ≠ [] → s.files.find? (target ++ rest) = none
  way : ∀ above, above <+: target → s.files.isFile above = false
  reads : ∀ file xml (s' : Session), s'.home = s.home → s.files.isFile (source ++ file) = true →
    s'.files.find? (source ++ file) = s.files.find? (source ++ file) →
    ∃ text s'', (job.read (input.below file) xml).exec s' = (.ok text, s'') ∧
      s''.files = s'.files ∧ s''.home = s'.home
  transpiles : ∀ text file (s' : Session),
    ∃ result s'', (job.engine.transpile (job.config.sourceDialect.getD "") Config.targetDialect text file).exec s' =
      (.ok result, s'') ∧ isMultipart result.code = false ∧ s''.files = s'.files ∧ s''.home = s'.home

/-- What a run has done when some files are written: the input is as it was, and below the output folder there are
these files and the folders that hold them. -/
structure Mirrors (job : Job) (input : Path) (source target : List String) (s : Session)
    (written : List (List String)) (s' : Session) : Prop where
  home : s'.home = s.home
  kept : ∀ place, source <+: place → s'.files.find? place = s.files.find? place
  names : ∀ place, source <+: place → s'.files.names place = s.files.names place
  way : ∀ above, above <+: target → s'.files.isDirectory above = true
  taken : ∀ file ∈ written, job.takesAt input source s.files file = true
  files : ∀ rest, s'.files.isFile (target ++ rest) = true ↔ rest ∈ written
  folders : ∀ rest, s'.files.isDirectory (target ++ rest) = true ↔ rest = [] ∨ ∃ file ∈ written, file.dropLast = rest

section Run

variable {job : Job} {input : Path} {source target : List String} {s : Session} (hfits : job.Fits input source target s)

include hfits

private theorem Fits.not_below_target (rest : List String) : ¬ target <+: source ++ rest := by
  intro h
  rcases List.prefix_or_prefix_of_prefix h (List.prefix_append ..) with h | h
  · obtain ⟨names, rfl⟩ := h
    by_cases hnil : names = []
    · exact hfits.outside (by simp [hnil])
    · have hfolder := FileTree.isDirectory_iff.1 hfits.folder
      rw [hfits.clear names hnil] at hfolder
      cases hfolder
  · exact hfits.outside h

private theorem Fits.ne_nil {file : List String} (h : job.takesAt input source s.files file = true) : file ≠ [] := by
  rintro rfl
  have hfile := isFile_of_takesAt h
  rw [List.append_nil, FileTree.isFile_eq_false hfits.folder] at hfile
  cases hfile

/-- Nothing is transpiled as a file that is the folder of another one. -/
private theorem Fits.not_takesAt {folder rest : List String} (hrest : rest ≠ [])
    (h : job.takesAt input source s.files (folder ++ rest) = true) :
    ¬ job.takesAt input source s.files folder = true := by
  intro hfolder
  have hfile := isFile_of_takesAt hfolder
  rw [FileTree.isFile_eq_false (isDirectory_of_takesAt hfits.tree hrest h)] at hfile
  cases hfile

omit hfits in
private theorem Mirrors.congr {written : List (List String)} {s' s'' : Session}
    (h : Mirrors job input source target s written s') (hfiles : s''.files = s'.files) (hhome : s''.home = s'.home) :
    Mirrors job input source target s written s'' := by
  obtain ⟨home, kept, names, way, taken, files, folders⟩ := h
  rw [← hhome] at home
  rw [← hfiles] at kept names way files folders
  exact ⟨home, kept, names, way, taken, files, folders⟩

private theorem Mirrors.dropLast_ne {written : List (List String)} {s' : Session}
    (h : Mirrors job input source target s written s') {file other : List String}
    (htaken : job.takesAt input source s.files file = true) (hmem : other ∈ written) : other.dropLast ≠ file := by
  intro heq
  have hother := h.taken other hmem
  rw [← List.dropLast_concat_getLast (hfits.ne_nil hother), heq] at hother
  exact hfits.not_takesAt (by simp) hother htaken

/-- After a folder and a file in it have been put below the output folder, the file is written too. -/
private theorem Mirrors.extend {written : List (List String)} {s' : Session}
    (h : Mirrors job input source target s written s')
    {folder : List String} {name : String} (htaken : job.takesAt input source s.files (folder ++ [name]) = true)
    {t : FileTree} {content : Content}
    (hfind : ∀ place, t.find? place = if place = target ++ (folder ++ [name]) then some (.file content)
      else if place = target ++ folder then some .directory else s'.files.find? place)
    (hnames : ∀ place, source <+: place → t.names place = s'.files.names place) :
    Mirrors job input source target s (written ++ [folder ++ [name]]) { s' with files := t } where
  home := h.home
  kept := by
    rintro place ⟨rest, rfl⟩
    rw [hfind, if_neg, if_neg, h.kept _ (List.prefix_append ..)]
    · intro heq
      exact hfits.not_below_target rest (heq ▸ List.prefix_append ..)
    · intro heq
      exact hfits.not_below_target rest (heq ▸ List.prefix_append ..)
  names := fun place hplace => (hnames place hplace).trans (h.names place hplace)
  way := by
    intro above habove
    rw [FileTree.isDirectory_iff, hfind, if_neg]
    · split
      · rfl
      · exact FileTree.isDirectory_iff.1 (h.way above habove)
    · rintro rfl
      have := habove.length_le
      simp only [List.length_append, List.length_singleton] at this
      omega
  taken := by
    intro file hfile
    rcases List.mem_append.1 hfile with hfile | hfile
    · exact h.taken file hfile
    · rwa [List.mem_singleton.1 hfile]
  files := by
    intro rest
    rw [FileTree.isFile_iff, hfind]
    simp only [List.append_cancel_left_eq, List.mem_append, List.mem_singleton]
    by_cases hfile : rest = folder ++ [name]
    · simp [hfile]
    by_cases hfolder : rest = folder
    · -- the folder of a file is no file of the input, so it was not written
      have hnot : folder ∉ written := fun hmem => hfits.not_takesAt (by simp) htaken (h.taken folder hmem)
      simp [hfolder, hnot]
    · simp only [hfile, hfolder, if_false, or_false, ← FileTree.isFile_iff, h.files]
  folders := by
    intro rest
    rw [FileTree.isDirectory_iff, hfind]
    simp only [List.append_cancel_left_eq, List.mem_append, List.mem_singleton]
    by_cases hfile : rest = folder ++ [name]
    · -- nothing is written below a file of the input
      subst hfile
      simp only [if_true, Option.some.injEq, reduceCtorEq, List.append_eq_nil_iff, List.cons_ne_self, and_false,
        false_or, false_iff, not_exists, not_and]
      rintro file (hmem | rfl) heq
      · exact h.dropLast_ne hfits htaken hmem heq
      · simp at heq
    by_cases hfolder : rest = folder
    · subst hfolder
      simp only [hfile, if_false, if_true, true_iff]
      exact .inr ⟨_, .inr rfl, by simp⟩
    · simp only [hfile, hfolder, if_false, ← FileTree.isDirectory_iff, h.folders]
      constructor
      · rintro (hnil | ⟨file, hmem, heq⟩)
        · exact .inl hnil
        · exact .inr ⟨file, .inl hmem, heq⟩
      · rintro (hnil | ⟨file, hmem | rfl, heq⟩)
        · exact .inl hnil
        · exact .inr ⟨file, hmem, heq⟩
        · rw [List.dropLast_concat] at heq
          exact absurd heq.symm hfolder

private theorem Fits.isName_of_takesAt {file : List String} (h : job.takesAt input source s.files file = true) :
    ∀ name ∈ file, Path.IsName name := by
  obtain ⟨content, hcontent⟩ := FileTree.isFile_iff.1 (isFile_of_takesAt h)
  have hmem := FileTree.mem_of_find? (by simp [hfits.ne_nil h]) hcontent
  exact fun name hname => (hfits.tree.named _ hmem).2 name (List.mem_append_right _ hname)

variable {written : List (List String)} {s' : Session} (hmirrors : Mirrors job input source target s written s')

include hmirrors

omit hfits in
/-- The folder of a file is there or can be made if it is there or its parent is. -/
private theorem Mirrors.admits_iff {folder : List String} {name : String} :
    Admits written (folder ++ [name]) ↔
      s'.files.isDirectory (target ++ folder) = true ∨ s'.files.isDirectory (target ++ folder.dropLast) = true := by
  have hlength : folder.length ≤ 1 ↔ folder.dropLast = [] := by
    rw [← List.length_eq_zero_iff, List.length_dropLast]
    omega
  simp only [Admits, List.dropLast_concat, hmirrors.folders, hlength]
  constructor
  · rintro (hnil | ⟨other, hmem, heq | heq⟩)
    · exact .inr (.inl hnil)
    · exact .inl (.inr ⟨other, hmem, heq⟩)
    · exact .inr (.inr ⟨other, hmem, heq⟩)
  · rintro ((rfl | ⟨other, hmem, heq⟩) | (hnil | ⟨other, hmem, heq⟩))
    · exact .inl rfl
    · exact .inr ⟨other, hmem, .inl heq⟩
    · exact .inl hnil
    · exact .inr ⟨other, hmem, .inr heq⟩

/-- On the way to the place of a result there is no file. -/
private theorem Mirrors.isFile_eq_false {folder : List String} {name : String}
    (htaken : job.takesAt input source s.files (folder ++ [name]) = true) {above : List String}
    (h : above <+: target ++ folder) : s'.files.isFile above = false := by
  rcases List.prefix_or_prefix_of_prefix h (List.prefix_append ..) with habove | ⟨rest, rfl⟩
  · exact FileTree.isFile_eq_false (hmirrors.way above habove)
  · obtain ⟨names, rfl⟩ := List.prefix_append_right_inj target |>.1 h
    rw [← Bool.not_eq_true, hmirrors.files]
    intro hmem
    rw [List.append_assoc] at htaken
    exact hfits.not_takesAt (by simp) htaken (hmirrors.taken rest hmem)

private theorem Mirrors.find?_eq_none {folder : List String} {name : String}
    (htaken : job.takesAt input source s.files (folder ++ [name]) = true)
    (h : ¬ s'.files.isDirectory (target ++ folder) = true) : s'.files.find? (target ++ folder) = none := by
  have hfile := hmirrors.isFile_eq_false hfits htaken (List.prefix_refl _)
  cases hfind : s'.files.find? (target ++ folder) with
  | none => rfl
  | some entry =>
    cases entry with
    | directory => exact absurd (FileTree.isDirectory_iff.2 hfind) h
    | file content => simp [FileTree.isFile, hfind] at hfile

omit hfits in
private theorem Mirrors.dropLast_eq {folder : List String} (h : ¬ s'.files.isDirectory (target ++ folder) = true) :
    (target ++ folder).dropLast = target ++ folder.dropLast := by
  have hne : folder ≠ [] := by
    rintro rfl
    exact h ((hmirrors.folders []).2 (.inl rfl))
  exact List.dropLast_append_of_ne_nil hne

private theorem Mirrors.makeDirectory_of_admits {folder : List String} {name : String}
    (htaken : job.takesAt input source s.files (folder ++ [name]) = true) (h : Admits written (folder ++ [name])) :
    ∃ t, s'.files.makeDirectory (target ++ folder) true = .ok t ∧
      (∀ place, t.find? place = if place = target ++ folder then some .directory else s'.files.find? place) ∧
      ∀ place, source <+: place → t.names place = s'.files.names place := by
  by_cases hdir : s'.files.isDirectory (target ++ folder) = true
  · refine ⟨s'.files, FileTree.makeDirectory_of_isDirectory hdir, fun place => ?_, fun _ _ => rfl⟩
    split
    case isTrue heq => rw [heq, FileTree.isDirectory_iff.1 hdir]
    case isFalse => rfl
  · have hnone := hmirrors.find?_eq_none hfits htaken hdir
    have hparent := hmirrors.dropLast_eq hdir
    refine ⟨s'.files.put (target ++ folder) .directory, ?_, fun place => ?_, ?_⟩
    · rw [FileTree.makeDirectory_of_absent true hnone, hparent, if_pos (hmirrors.admits_iff.1 h |>.resolve_left hdir)]
    · refine FileTree.find?_put fun hnil => ?_
      rw [hnil] at hnone
      cases hnone
    · rintro place ⟨rest, rfl⟩
      refine FileTree.names_put fun heq => hfits.not_below_target rest ?_
      rw [← heq, hparent]
      exact List.prefix_append ..

private theorem Mirrors.makeDirectory_of_not_admits {folder : List String} {name : String}
    (htaken : job.takesAt input source s.files (folder ++ [name]) = true) (h : ¬ Admits written (folder ++ [name])) :
    s'.files.makeDirectory (target ++ folder) true = .error .notFound := by
  rw [hmirrors.admits_iff, not_or] at h
  rw [FileTree.makeDirectory_of_absent true (hmirrors.find?_eq_none hfits htaken h.1), hmirrors.dropLast_eq h.1,
    if_neg h.2, FileTree.absence_eq_notFound fun above => hmirrors.isFile_eq_false hfits htaken]

omit hmirrors

/-- What becomes of a task that is to write some files: it writes them all, or it ends where a folder cannot be made. -/
def CoversAt (job : Job) (input : Path) (source target : List String) (s : Session) {α : Type} (task : Flow α)
    (files written : List (List String)) (s' : Session) : Prop :=
  (AdmitsAll written files ∧
      ∃ a s'', task.exec s' = (.ok a, s'') ∧ Mirrors job input source target s (written ++ files) s'') ∨
    (¬ AdmitsAll written files ∧ ∃ path s'', task.exec s' = (.error (.file .notFound path), s''))

include hmirrors

/-- The result of a file goes into its folder, once this is there. -/
private theorem Mirrors.exec_writeText {folder : List String} {name : String}
    (htaken : job.takesAt input source s.files (folder ++ [name]) = true) {t : FileTree}
    (hfind : ∀ place, t.find? place = if place = target ++ folder then some .directory else s'.files.find? place)
    (hnames : ∀ place, source <+: place → t.names place = s'.files.names place) (text : String) :
    ∃ s'', (Flow.writeText ((job.outputFolder input).below (folder ++ [name])) text).exec { s' with files := t } =
      (.ok (), s'') ∧ Mirrors job input source target s (written ++ [folder ++ [name]]) s'' := by
  have hparent : (target ++ (folder ++ [name])).dropLast = target ++ folder := by
    rw [← List.append_assoc, List.dropLast_concat]
  have hfree : t.isDirectory (target ++ (folder ++ [name])) = false := by
    rw [← Bool.not_eq_true, FileTree.isDirectory_iff, hfind, if_neg (by simp), ← FileTree.isDirectory_iff,
      hmirrors.folders]
    rintro (hnil | ⟨other, hmem, heq⟩)
    · simp at hnil
    · exact hmirrors.dropLast_ne hfits htaken hmem heq
  have hfolder : t.isDirectory (target ++ (folder ++ [name])).dropLast = true := by
    rw [hparent, FileTree.isDirectory_iff, hfind, if_pos rfl]
  have hleads := hmirrors.home ▸ hfits.leadsOut.below (hfits.isName_of_takesAt htaken)
  refine ⟨_, Flow.exec_writeText hleads (FileTree.write_eq_ok hfree hfolder), ?_⟩
  have hput : ∀ place, (t.put (target ++ (folder ++ [name])) (.file (.text text))).find? place =
      if place = target ++ (folder ++ [name]) then some (.file (.text text))
      else if place = target ++ folder then some .directory else s'.files.find? place := by
    intro place
    rw [FileTree.find?_put (by simp), hfind]
  refine hmirrors.extend hfits htaken hput fun place hplace => ?_
  rw [FileTree.names_put, hnames place hplace]
  obtain ⟨rest, rfl⟩ := hplace
  intro heq
  refine hfits.not_below_target rest ?_
  rw [← heq, hparent]
  exact List.prefix_append ..

/-- Transpiling a file writes the result, if its folder is there or can be made. -/
theorem Mirrors.coversAt_processFile {folder : List String} {name : String}
    (htaken : job.takesAt input source s.files (folder ++ [name]) = true) :
    CoversAt job input source target s
      (job.processFile (input.below (folder ++ [name])) ((job.outputFolder input).below folder)
        ((job.outputFolder input).below (folder ++ [name]))) [folder ++ [name]] written s' := by
  obtain ⟨text, s₁, hread, hfiles₁, hhome₁⟩ := hfits.reads (folder ++ [name])
    (Text.lower (input.below (folder ++ [name])).suffix == ".xml") s' hmirrors.home (isFile_of_takesAt htaken)
    (hmirrors.kept _ (List.prefix_append ..))
  obtain ⟨result, s₂, htranspile, hplain, hfiles₂, hhome₂⟩ :=
    hfits.transpiles text (input.below (folder ++ [name])) s₁
  replace hmirrors := (hmirrors.congr hfiles₁ hhome₁).congr hfiles₂ hhome₂
  have hleads : ((job.outputFolder input).below folder).LeadsTo s₂.home (target ++ folder) := by
    rw [hmirrors.home]
    exact hfits.leadsOut.below fun part hpart => hfits.isName_of_takesAt htaken part (List.mem_append_left _ hpart)
  have hall : AdmitsAll written [folder ++ [name]] ↔ Admits written (folder ++ [name]) := by simp [AdmitsAll]
  rw [CoversAt, hall, processFile, if_neg (by simpa using hfits.dialect), exec_bind_of_ok hread,
    exec_bind_of_ok htranspile, Path.parent_below]
  by_cases hadmits : Admits written (folder ++ [name])
  · obtain ⟨t, hmake, hfind, hnames⟩ := hmirrors.makeDirectory_of_admits hfits htaken hadmits
    obtain ⟨code, hcode⟩ := Target.exec_complete_write (t := ⟨job.config, job.validator,
      input.below (folder ++ [name]), (job.outputFolder input).below folder,
      (job.outputFolder input).below (folder ++ [name])⟩) hplain hfits.unvalidated text result.problems
      { s₂ with files := t }
    obtain ⟨s₃, hwrite, hdone⟩ := hmirrors.exec_writeText hfits htaken hfind hnames code
    refine .inl ⟨hadmits, (result.count, result.problems), s₃, ?_, hdone⟩
    rw [exec_bind_of_ok (exec_makeDirectory hleads hmake)]
    simp only
    rw [exec_bind_of_ok (hcode s₃ hwrite), exec_pure]
  · have hmake := hmirrors.makeDirectory_of_not_admits hfits htaken hadmits
    exact .inr ⟨hadmits, _, s₂, exec_bind_of_error (exec_makeDirectory_of_error hleads hmake)⟩

end Run

/-! ### The loops of a run -/

section Loops

variable {job : Job} {input : Path} {source target : List String} {s : Session} {α β γ : Type}

/-- A task that writes some files wherever a run stands. -/
def Covers (job : Job) (input : Path) (source target : List String) (s : Session) (task : Flow α)
    (files : List (List String)) : Prop :=
  ∀ written s', Mirrors job input source target s written s' →
    CoversAt job input source target s task files written s'

private theorem covers_pure (a : α) : Covers job input source target s (pure a : Flow α) [] := by
  intro written s' hmirrors
  exact .inl ⟨trivial, a, s', exec_pure a s', by rwa [List.append_nil]⟩

theorem CoversAt.bind {task : Flow α} {next : α → Flow β} {files others written : List (List String)} {s' : Session}
    (h : CoversAt job input source target s task files written s')
    (hnext : ∀ a, Covers job input source target s (next a) others) :
    CoversAt job input source target s (task >>= next) (files ++ others) written s' := by
  rw [CoversAt, admitsAll_append, ← List.append_assoc]
  rcases h with ⟨hadmits, a, s₁, hexec, hmirrors⟩ | ⟨hadmits, path, s₁, hexec⟩
  · rw [exec_bind_of_ok hexec]
    rcases hnext a _ s₁ hmirrors with ⟨hothers, hdone⟩ | ⟨hothers, hfailed⟩
    · exact .inl ⟨⟨hadmits, hothers⟩, hdone⟩
    · exact .inr ⟨fun h => hothers h.2, hfailed⟩
  · exact .inr ⟨fun h => hadmits h.1, path, s₁, exec_bind_of_error hexec⟩

private theorem CoversAt.look {task : Flow α} {next : α → Flow β} {files written : List (List String)} {s' : Session}
    {a : α} (h : task.exec s' = (.ok a, s')) (hnext : CoversAt job input source target s (next a) files written s') :
    CoversAt job input source target s (task >>= next) files written s' := by
  rwa [CoversAt, exec_bind_of_ok h]

private theorem CoversAt.bind_pure {task : Flow α} {f : α → β} {files written : List (List String)} {s' : Session}
    (h : CoversAt job input source target s task files written s') :
    CoversAt job input source target s (task >>= fun a => pure (f a)) files written s' := by
  have := h.bind fun a => covers_pure (f a)
  rwa [List.append_nil] at this

private theorem covers_mapM {task : β → Flow γ} {f : α → β} {files : α → List (List String)} {items : List α}
    (h : ∀ a ∈ items, Covers job input source target s (task (f a)) (files a)) :
    Covers job input source target s ((items.map f).mapM task) (items.flatMap files) := by
  induction items with
  | nil => exact covers_pure []
  | cons a items ih =>
    intro written s' hmirrors
    rw [List.map_cons, List.mapM_cons, List.flatMap_cons]
    refine (h a List.mem_cons_self written s' hmirrors).bind fun c written' s'' hmirrors' => ?_
    exact (ih (fun b hb => h b (List.mem_cons_of_mem a hb)) written' s'' hmirrors').bind_pure

variable (hfits : job.Fits input source target s)

include hfits

private theorem covers_processFiles {folder : List String} {names : List String}
    (h : ∀ name ∈ names, s.files.isFile (source ++ (folder ++ [name])) = true) :
    Covers job input source target s
      (job.processFiles ((job.outputFolder input).below folder) (names.map fun name => input.below (folder ++ [name])))
      ((names.map fun name => folder ++ [name]).filter (job.takesAt input source s.files)) := by
  induction names with
  | nil => exact covers_pure (0, [])
  | cons name names ih =>
    intro written s' hmirrors
    have hfile := h name List.mem_cons_self
    have hrest := ih fun name' hname' => h name' (List.mem_cons_of_mem name hname')
    rw [List.map_cons, List.map_cons, processFiles]
    by_cases htakes : job.takes (input.below (folder ++ [name])) = true
    · have htaken : job.takesAt input source s.files (folder ++ [name]) = true := by rw [takesAt, hfile, htakes]; rfl
      have hname := hfits.isName_of_takesAt htaken name (by simp)
      rw [if_neg (by simp [htakes]), List.filter_cons_of_pos htaken, Path.name_below, Path.child_of_isName hname,
        Path.below_below, ← List.singleton_append]
      refine (hmirrors.coversAt_processFile hfits htaken).bind fun counted written' s'' hmirrors' => ?_
      exact (hrest written' s'' hmirrors').bind_pure
    · rw [if_pos (by simp [htakes]), List.filter_cons_of_neg (by simp [takesAt, htakes])]
      exact hrest written s' hmirrors

omit hfits in
/-- Whatever a run looks at in the input is as it was at the start. -/
private theorem Mirrors.sameBelow {written : List (List String)} {s' : Session}
    (h : Mirrors job input source target s written s') : s.SameBelow source s' :=
  ⟨h.home, h.kept, h.names⟩

omit hfits in
theorem filter_takesAt (folder names : List String) :
    (((names.filter fun name => s.files.isFile (source ++ (folder ++ [name]))).map fun name => folder ++ [name]).filter
      (job.takesAt input source s.files)) =
    (names.map fun name => folder ++ [name]).filter (job.takesAt input source s.files) := by
  simp only [List.filter_map, List.filter_filter]
  congr 1
  refine List.filter_congr fun name _ => ?_
  simp only [Function.comp_apply, takesAt]
  cases s.files.isFile (source ++ (folder ++ [name])) <;> simp

/-- A walk from a folder down writes the files that it comes upon. -/
private theorem covers_processFolder (depth : Nat) (folder : List String) (hnames : ∀ name ∈ folder, Path.IsName name)
    (hdir : s.files.isDirectory (source ++ folder) = true) :
    Covers job input source target s (job.processFolder input (job.outputFolder input) depth (input.below folder))
      (job.filesFrom input source s.files depth folder) := by
  induction depth generalizing folder with
  | zero => exact covers_pure (α := Summary) {}
  | succ depth ih =>
    intro written s' hmirrors
    have hnames' : ∀ name ∈ s.files.names (source ++ folder), ∀ part ∈ folder ++ [name], Path.IsName part := fun _ =>
      hfits.tree.isName_concat hnames
    have hsame := hmirrors.sameBelow
    have hfolders := exec_filterM fun name hname => hsame.exec_isDirectory hfits.leads (hnames' name hname)
    have hfiles := exec_filterM fun name hname => hsame.exec_isFile hfits.leads (hnames' name hname)
    rw [processFolder, filesFrom]
    refine .look (hsame.exec_listDirectory hfits.leads hnames hdir) (.look hfolders (.look hfiles ?_))
    rw [Path.relativeTo?_below, ← filter_takesAt]
    refine (covers_processFiles hfits (fun name hname => (List.mem_filter.1 hname).2) written s' hmirrors).bind ?_
    intro counted written' s'' hmirrors'
    refine (covers_mapM (fun name hname => ?_) written' s'' hmirrors').bind_pure
    obtain ⟨hname, hdir'⟩ := List.mem_filter.1 hname
    exact ih (folder ++ [name]) (hnames' name hname) hdir'

end Loops

/-! ### When all files can be written -/

section Bridges

variable {written files : List (List String)}

private theorem Admits.mono {file : List String} {written' : List (List String)} (h : Admits written file)
    (hsub : written ⊆ written') : Admits written' file :=
  h.imp_right fun ⟨other, hmem, heq⟩ => ⟨other, hsub hmem, heq⟩

private theorem admitsAll_of_forall (h : ∀ file ∈ files, Admits written file) : AdmitsAll written files := by
  induction files generalizing written with
  | nil => trivial
  | cons file files ih =>
    refine ⟨h file List.mem_cons_self, ih fun other hother => ?_⟩
    exact (h other (List.mem_cons_of_mem file hother)).mono (List.subset_append_left ..)

private theorem admitsAll_flatMap {α : Type} {f : α → List (List String)} {items : List α}
    (h : ∀ a ∈ items, ∀ written', written ⊆ written' → AdmitsAll written' (f a)) :
    AdmitsAll written (items.flatMap f) := by
  induction items generalizing written with
  | nil => trivial
  | cons a items ih =>
    rw [List.flatMap_cons, admitsAll_append]
    refine ⟨h a List.mem_cons_self written fun _ hmem => hmem, ih fun b hb written' hsub => ?_⟩
    exact h b (List.mem_cons_of_mem a hb) written' fun file hfile => hsub (List.mem_append_left _ hfile)

variable {job : Job} {input : Path} {source : List String} {t : FileTree}

private theorem takesAt_of_mem_filesFrom {depth : Nat} {folder file : List String}
    (h : file ∈ job.filesFrom input source t depth folder) : job.takesAt input source t file = true := by
  induction depth generalizing folder with
  | zero => cases h
  | succ depth ih =>
    rw [filesFrom] at h
    rcases List.mem_append.1 h with h | h
    · exact (List.mem_filter.1 h).2
    · obtain ⟨name, -, hmem⟩ := List.mem_flatMap.1 h
      exact ih hmem

/-- All files of a folder are among those that a walk through it comes upon first. -/
private theorem mem_filter_takesAt {folder file : List String} {name : String} (hfile : file = folder ++ [name])
    (h : job.takesAt input source t file = true) :
    file ∈ ((t.names (source ++ folder)).map fun name => folder ++ [name]).filter (job.takesAt input source t) := by
  subst hfile
  have hholds := holds_of_takesAt h
  rw [← List.append_assoc] at hholds
  exact List.mem_filter.2 ⟨List.mem_map.2 ⟨name, FileTree.mem_names_of_holds hholds, rfl⟩, h⟩

/-- A walk that may go deep enough comes upon every file. -/
private theorem mem_filesFrom (ht : t.WellFormed) {depth : Nat} (folder : List String) {rest : List String}
    (hrest : rest ≠ []) (hdepth : rest.length ≤ depth) (h : job.takesAt input source t (folder ++ rest) = true) :
    folder ++ rest ∈ job.filesFrom input source t depth folder := by
  induction depth generalizing folder rest with
  | zero => simp_all
  | succ depth ih =>
    obtain ⟨name, rest, rfl⟩ := List.exists_cons_of_ne_nil hrest
    rw [filesFrom, List.mem_append]
    by_cases hnil : rest = []
    · subst hnil
      exact .inl (mem_filter_takesAt rfl h)
    · rw [List.append_cons] at h ⊢
      have hdir := isDirectory_of_takesAt ht hnil h
      have hname : name ∈ t.names (source ++ folder) := by
        apply FileTree.mem_names_of_holds
        rw [List.append_assoc, FileTree.holds_iff, FileTree.isDirectory_iff.1 hdir]
        simp
      refine .inr (List.mem_flatMap.2 ⟨name, List.mem_filter.2 ⟨hname, hdir⟩, ih _ hnil ?_ h⟩)
      simpa using hdepth

/-- If the folders are bridged, a walk from one of them down finds for each file that its folder can be made. -/
private theorem Bridged.admitsAll (h : job.Bridged input source t) {depth : Nat} {folder : List String}
    (hparent : 2 ≤ folder.length →
      ∀ file, job.takesAt input source t file = true → file.dropLast = folder.dropLast → file ∈ written) :
    AdmitsAll written (job.filesFrom input source t depth folder) := by
  induction depth generalizing folder written with
  | zero => trivial
  | succ depth ih =>
    rw [filesFrom, admitsAll_append]
    constructor
    · refine admitsAll_of_forall fun file hfile => ?_
      obtain ⟨hmem, htaken⟩ := List.mem_filter.1 hfile
      obtain ⟨name, -, rfl⟩ := List.mem_map.1 hmem
      rw [Admits, List.dropLast_concat, ← Nat.lt_succ_iff, or_iff_not_imp_left, Nat.not_lt]
      intro hlength
      obtain ⟨other, hother, heq⟩ := h _ htaken (by rwa [List.dropLast_concat])
      rw [List.dropLast_concat] at heq
      exact ⟨other, hparent hlength other hother heq, .inr heq⟩
    · refine admitsAll_flatMap fun name _ written' hsub => ih fun hlength file htaken heq => hsub ?_
      -- the files of the folder above have just been written
      rw [List.dropLast_concat] at heq
      have hne : file ≠ [] := by
        rintro rfl
        simp [← heq] at hlength
      have hfile : file = folder ++ [file.getLast hne] := by rw [← heq, List.dropLast_concat_getLast]
      exact List.mem_append_right _ (mem_filter_takesAt hfile htaken)

/-- If files can be written one after the other, each of them has its bridge among them. -/
private theorem AdmitsAll.exists_bridge (h : AdmitsAll written files)
    (hwritten : ∀ file ∈ written, 2 ≤ file.dropLast.length →
      ∃ other ∈ written ++ files, other.dropLast = file.dropLast.dropLast) :
    ∀ file ∈ files, 2 ≤ file.dropLast.length → ∃ other ∈ written ++ files, other.dropLast = file.dropLast.dropLast := by
  induction files generalizing written with
  | nil => simp
  | cons file files ih =>
    obtain ⟨hadmits, hrest⟩ := h
    rw [List.append_cons] at hwritten ⊢
    have hfile : 2 ≤ file.dropLast.length →
        ∃ other ∈ written ++ [file] ++ files, other.dropLast = file.dropLast.dropLast := by
      intro hlength
      rcases hadmits with hshort | ⟨other, hmem, heq | heq⟩
      · omega
      · rw [← heq] at hlength ⊢
        exact hwritten other hmem hlength
      · exact ⟨other, by simp [hmem], heq⟩
    have hall := ih hrest fun other hmem => by
      rcases List.mem_append.1 hmem with hmem | hmem
      · exact hwritten other hmem
      · rw [List.mem_singleton.1 hmem]
        exact hfile
    intro other hmem
    rcases List.mem_cons.1 hmem with rfl | hmem
    · exact hfile
    · exact hall other hmem

end Bridges

/-! ### A run over a folder -/

section Main

variable {job : Job} {input : Path} {source target : List String} {s : Session}

/-- The output folder is made, and nothing is written yet. -/
private theorem Fits.exec_makeDirectories (hfits : job.Fits input source target s) :
    ∃ s', (Flow.makeDirectories (job.outputFolder input)).exec s = (.ok (), s') ∧
      Mirrors job input source target s [] s' ∧ ∀ place, s.files.holds place = true → s'.files.holds place = true := by
  obtain ⟨t, hmake, hfind, hnames⟩ := FileTree.makeDirectories_eq_ok hfits.way
  have hout : ∀ place, source <+: place → ¬ place <+: target := fun place hplace h => hfits.outside (hplace.trans h)
  have hbelow : ∀ rest, t.find? (target ++ rest) = if rest = [] then some .directory else none := by
    intro rest
    rw [hfind]
    by_cases hrest : rest = []
    · simp [hrest]
    · rw [if_neg hrest, if_neg, hfits.clear rest hrest]
      rintro ⟨others, heq⟩
      simp [hrest] at heq
  refine ⟨_, Flow.exec_makeDirectories hfits.leadsOut hmake, ⟨rfl, ?_, ?_, ?_, ?_, ?_, ?_⟩, ?_⟩
  · intro place hplace
    rw [hfind, if_neg (hout place hplace)]
  · exact fun place hplace => hnames place (hout place hplace)
  · intro above habove
    rw [FileTree.isDirectory_iff, hfind, if_pos habove]
  · simp
  · intro rest
    rw [FileTree.isFile_iff, hbelow]
    split <;> simp
  · intro rest
    rw [FileTree.isDirectory_iff, hbelow]
    split <;> simp_all
  · intro place hholds
    rw [FileTree.holds_iff, hfind]
    split
    · simp
    · exact FileTree.holds_iff.1 hholds

/-- A run over a folder ends well, with a result at the place of every file that is to be transpiled, if and only if
every folder with files, from the second level on, stands in a folder with files.  Else a folder is not found. -/
theorem processInputFolder_ok_iff_bridged (hfits : job.Fits input source target s) :
    ((∃ summary s', (job.processInputFolder input).exec s = (.ok summary, s') ∧
        ∀ file, job.takesAt input source s.files file = true → s'.files.isFile (target ++ file) = true) ↔
      job.Bridged input source s.files) ∧
    (¬ job.Bridged input source s.files →
      ∃ path s', (job.processInputFolder input).exec s = (.error (.file .notFound path), s')) := by
  obtain ⟨s₁, hmake, hmirrors, hholds⟩ := hfits.exec_makeDirectories
  have hexec : (job.processInputFolder input).exec s =
      (job.processFolder input (job.outputFolder input) (2 * s₁.files.entries.length + 2) input).exec s₁ := by
    simp only [processInputFolder]
    rw [exec_bind_of_ok hmake, exec_bind_of_ok (exec_get s₁)]
  -- the walk may go deep enough to come upon every file
  have hmem : ∀ file, job.takesAt input source s.files file = true →
      file ∈ job.filesFrom input source s.files (2 * s₁.files.entries.length + 2) [] := by
    intro file htaken
    have hlength : (source ++ file).length ≤ s₁.files.entries.length :=
      FileTree.length_le_entries fun place hplace =>
        hholds place (hfits.tree.holds_above (holds_of_takesAt htaken) hplace)
    refine mem_filesFrom hfits.tree [] (hfits.ne_nil htaken) ?_ htaken
    rw [List.length_append] at hlength
    omega
  have hcovers := covers_processFolder hfits (2 * s₁.files.entries.length + 2) [] (by simp)
    (by simpa using hfits.folder) [] s₁ hmirrors
  rw [Path.below_nil] at hcovers
  rw [hexec]
  rcases hcovers with ⟨hadmits, summary, s₂, hrun, hdone⟩ | ⟨hadmits, path, s₂, hrun⟩
  · have hbridged : job.Bridged input source s.files := by
      intro file htaken hlength
      obtain ⟨other, hother, heq⟩ := hadmits.exists_bridge (by simp) file (hmem file htaken) hlength
      exact ⟨other, takesAt_of_mem_filesFrom hother, heq⟩
    refine ⟨iff_of_true ⟨summary, s₂, hrun, fun file htaken => ?_⟩ hbridged, fun hnot => absurd hbridged hnot⟩
    exact (hdone.files file).2 (hmem file htaken)
  · refine ⟨iff_of_false ?_ fun hbridged => hadmits (hbridged.admitsAll (by simp)), fun _ => ⟨path, s₂, hrun⟩⟩
    rintro ⟨summary, s', hok, -⟩
    rw [hrun] at hok
    cases hok

def constantJob : Job where
  config := { sourceDialect := some "tsql", outputFolder := some "out" }
  engine := { name := .null, transpile := fun _ _ _ _ => pure ⟨"select 1", 1, []⟩, supports := fun _ => true }
  validator := none

def bridgedTree : FileTree := ⟨[(["in"], .directory), (["in", "a.sql"], .file (.text "a")), (["in", "d"], .directory),
  (["in", "d", "b.sql"], .file (.text "b")), (["in", "d", "e"], .directory),
  (["in", "d", "e", "c.sql"], .file (.text "c"))]⟩

def unbridgedTree : FileTree := ⟨[(["in"], .directory), (["in", "d"], .directory), (["in", "d", "e"], .directory),
  (["in", "d", "e", "c.sql"], .file (.text "c"))]⟩

private theorem text_of_isFile {place : List String} (h : bridgedTree.isFile place = true) :
    ∃ text, bridgedTree.find? place = some (.file (.text text)) := by
  obtain ⟨content, hcontent⟩ := FileTree.isFile_iff.1 h
  have hne : place ≠ [] := by
    rintro rfl
    cases hcontent
  have hmem := FileTree.mem_of_find? hne hcontent
  simp only [bridgedTree, List.mem_cons, Prod.mk.injEq, reduceCtorEq, and_false, Entry.file.injEq, List.not_mem_nil,
    or_false, false_or] at hmem
  rcases hmem with ⟨-, rfl⟩ | ⟨-, rfl⟩ | ⟨-, rfl⟩
  all_goals exact ⟨_, hcontent⟩

private theorem constantJob_fits : constantJob.Fits ⟨"", ["in"]⟩ ["in"] ["out"] { files := bridgedTree } where
  dialect := by decide
  unvalidated := rfl
  leads := by decide
  leadsOut := by decide
  tree := by decide
  folder := by decide
  outside := by decide
  clear := fun rest _ => by simp [FileTree.find?, bridgedTree, List.lookup_cons]
  way := by
    intro above habove
    rw [← Sequence.mem_initials] at habove
    revert above
    decide
  reads := by
    intro file xml s' hhome hfile hkept
    obtain ⟨text, htext⟩ := text_of_isFile hfile
    have hmem := FileTree.mem_of_find? (by simp) htext
    have hnames := ((show bridgedTree.WellFormed by decide).named _ hmem).2
    have hleads : (Path.below ⟨"", ["in"]⟩ file).LeadsTo s'.home (["in"] ++ file) := by
      rw [hhome]
      exact Path.LeadsTo.below (by decide) fun name hname => hnames name (List.mem_append_right _ hname)
    exact ⟨text, s', exec_readText hleads (hkept.trans htext), rfl, rfl⟩
  transpiles := fun text file s' => ⟨⟨"select 1", 1, []⟩, s', rfl, by decide, rfl, rfl⟩

private theorem bridged_bridgedTree : constantJob.Bridged ⟨"", ["in"]⟩ ["in"] bridgedTree := by
  intro file htaken hlength
  obtain ⟨text, htext⟩ := text_of_isFile (isFile_of_takesAt htaken)
  have hmem := FileTree.mem_of_find? (by simp) htext
  simp only [bridgedTree, List.mem_cons, List.singleton_append, List.cons.injEq, true_and, Prod.mk.injEq, reduceCtorEq,
    and_false, List.not_mem_nil, or_false, false_or] at hmem
  rcases hmem with ⟨rfl, -⟩ | ⟨rfl, -⟩ | ⟨rfl, -⟩
  · simp at hlength
  · simp at hlength
  · exact ⟨["d", "b.sql"], by decide, rfl⟩

theorem processInputFolder_ok_of_bridgedTree :
    ∃ summary s', (constantJob.processInputFolder ⟨"", ["in"]⟩).exec { files := bridgedTree } = (.ok summary, s') ∧
      ∀ file, constantJob.takesAt ⟨"", ["in"]⟩ ["in"] bridgedTree file = true →
        s'.files.isFile (["out"] ++ file) = true :=
  (processInputFolder_ok_iff_bridged constantJob_fits).1.2 bridged_bridgedTree

theorem processInputFolder_ends_without_bridge :
    ∃ s', (constantJob.processInputFolder ⟨"", ["in"]⟩).exec { files := unbridgedTree } =
      (.error (.file .notFound "out/d/e"), s') := ⟨_, rfl⟩

end Main

end Job

end WarehouseMigration.Transpile
