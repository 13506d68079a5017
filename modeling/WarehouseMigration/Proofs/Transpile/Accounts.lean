import Mathlib.Algebra.Ring.Int.Defs
import WarehouseMigration.Proofs.FileTree.Walk
import WarehouseMigration.Proofs.Transpile.OutputTree

/-!
# The accounts of a run

A run over a folder that ends well accounts for the files in it (`run_accounts_for_files`).  What became of a file is
its `Treatment`: it was read and given to the engine, and the queries in the result were validated.  The files were
treated one after the other (`Course`), in the order in which a walk comes upon them, and what the run tells is what
their treatments add up to (`Accounts`).

The results go outside of the input (`Grounds`), so that the walk sees the input as it was at the start (`Preserves`);
elsewhere the tree only grows, and what was in the error log is there when the problems are added.  Each task of the
run handles some files wherever the run stands (`Handles`): a single file is one step (`handles_processFile`), and the
loops handle what their steps handle (`Handles.bind`, `handles_mapM`).
-/

namespace WarehouseMigration.Transpile

open WarehouseMigration.Flow
open Session (SameFiles)

/-! ### What becomes of the files -/

/-- What became of a file that was transpiled. -/
structure Treatment where
  file : Path
  text : String
  result : Transpiled
  /-- the queries in the result that were validated, each with its verdict -/
  verdicts : List (String × Verdict)

namespace Treatment

/-- The problems of a file: those that the engine found, then the complaints of the validation. -/
def problems (r : Treatment) : List Problem :=
  r.result.problems ++ r.verdicts.filterMap fun verdict => verdict.2.problem? r.file

/-- The paths where the pieces of the result go, seen from the input and the output folder of the run. -/
def outputs (codecs : Text.Codecs) (input output : Path) (r : Treatment) : List Path :=
  (pieces codecs r.file r.result).map fun piece =>
    (output.join ((r.file.parent.relativeTo? input).getD .here)).below [piece.1]

private theorem mem_outputs {codecs : Text.Codecs} {input output : Path} {r : Treatment} {folder : List String}
    {name : String} (hfile : r.file = input.below (folder ++ [name])) {piece : String × String}
    (h : piece ∈ pieces codecs r.file r.result) :
    (output.below folder).below [piece.1] ∈ r.outputs codecs input output := by
  refine List.mem_map.2 ⟨piece, h, ?_⟩
  rw [hfile, Path.parent_below, Path.relativeTo?_below]
  rfl

end Treatment

namespace Summary

private theorem foldl_append_eq (summary : Summary) (parts : List Summary) :
    parts.foldl append summary = summary ++ sum parts := by
  have happend : ∀ a b : Summary, a ++ b = ⟨a.files ++ b.files, a.count + b.count, a.problems ++ b.problems⟩ :=
    fun _ _ => rfl
  induction parts generalizing summary with
  | nil => simp [sum, happend]
  | cons part parts ih =>
    rw [sum, List.foldl_cons, List.foldl_cons, ih, ih]
    simp [happend, append, List.append_assoc, Int.add_assoc]

private theorem sum_cons (summary : Summary) (parts : List Summary) : sum
    (summary :: parts) = summary ++ sum parts := by
  have hfirst : append {} summary = summary := by simp [append]
  rw [sum, List.foldl_cons, hfirst, foldl_append_eq]

end Summary

variable {u : Unit}

namespace Job

variable {job : Job} {α β : Type}

def transpile (job : Job) (text : String) (file : Path) : Flow Transpiled :=
  job.engine.transpile (job.config.sourceDialect.getD "") Config.targetDialect text file

/-- A file is read and transpiled, and then the queries in its result are validated. -/
def Treats (job : Job) (r : Treatment) (s s' : Session) : Prop :=
  ∃ s₁ s₂, (job.read r.file (Text.lower r.file.suffix == ".xml")).exec s = (.ok r.text, s₁) ∧
    (job.transpile r.text r.file).exec s₁ = (.ok r.result, s₂) ∧
    Validates job.validator job.config r.verdicts s₂ s' ∧
    r.verdicts.map Prod.fst = if job.validator.isSome then queries job.engine.codecs r.file r.result else []

inductive Course (job : Job) : List Treatment → Session → Session → Prop
  | done (s : Session) : Course job [] s s
  | next {r : Treatment} {rest : List Treatment} {s s₁ s' : Session} (hfile : job.Treats r s s₁)
      (hrest : Course job rest s₁ s') : Course job (r :: rest) s s'

variable {treated : List Treatment}

private theorem Course.append {others : List Treatment} {s s₁ s' : Session} (h : job.Course treated s s₁)
    (hothers : job.Course others s₁ s') : job.Course (treated ++ others) s s' := by
  induction h with
  | done s => exact hothers
  | next hfile _ ih => exact .next hfile (ih hothers)

/-- What a run tells about the files that were treated: their paths, the number of their queries and their problems. -/
structure Sums (files : List Path) (treated : List Treatment) (count : Int) (problems : List Problem) : Prop where
  files : treated.map Treatment.file = files
  count : count = (treated.map fun r => r.result.count).sum
  problems : problems = treated.flatMap Treatment.problems

private theorem sums_nil : Sums [] [] 0 [] := ⟨rfl, rfl, rfl⟩

private theorem Sums.append {files others : List Path} {treated' : List Treatment} {count count' : Int}
    {problems problems' : List Problem} (h : Sums files treated count problems)
    (h' : Sums others treated' count' problems') :
    Sums (files ++ others) (treated ++ treated') (count + count') (problems ++ problems') := by
  obtain ⟨rfl, rfl, rfl⟩ := h
  obtain ⟨rfl, rfl, rfl⟩ := h'
  exact ⟨by simp, by simp, by simp⟩

/-- What a part of a run tells: about the files that were treated, and all files that it came upon. -/
structure Totals (files all : List Path) (summary : Summary) (treated : List Treatment) : Prop where
  sums : Sums files treated summary.count summary.problems
  all : summary.files = all

private theorem totals_nil : Totals [] [] {} [] := ⟨sums_nil, rfl⟩

private theorem Totals.append {files others all rest : List Path} {summary more : Summary} {treated' : List Treatment}
    (h : Totals files all summary treated) (h' : Totals others rest more treated') :
    Totals (files ++ others) (all ++ rest) (summary ++ more) (treated ++ treated') := by
  refine ⟨h.sums.append h'.sums, ?_⟩
  rw [← h.all, ← h'.all]
  rfl

/-! ### What a run may rely on -/

/-- What is known of a run over a folder: the input is a folder of a well-formed tree, no folder for results is in it,
and nobody changes the files but the run itself. -/
structure Grounds (job : Job) (input : Path) (source : List String) (s : Session) : Prop where
  dialect : job.config.sourceDialect.getD "" ≠ ""
  leads : input.LeadsTo s.home source
  tree : s.files.WellFormed
  distinct : s.files.Distinct
  folder : s.files.isDirectory source = true
  outside : ∀ target, (job.outputFolder input).LeadsTo s.home target →
    ∀ folder, s.files.isDirectory (source ++ folder) = true → ¬ source <+: target ++ folder
  reads : ∀ file xml, KeepsFiles (job.read file xml)
  transpiles : ∀ text file, KeepsFiles (job.transpile text file)
  validates : ∀ validator, job.validator = some validator → ∀ sql, KeepsFiles (validator.validate job.config sql)

/-- What holds all along a run: the input is as it was at the start, and entries stand in folders. -/
structure Preserves (source : List String) (s s' : Session) : Prop extends s.SameBelow source s' where
  rooted : s'.files.Rooted

namespace Preserves

variable {source q : List String} {s s₁ s₂ : Session}

private theorem congr (h : Preserves source s s₁) (hsame : SameFiles s₁ s₂) : Preserves source s s₂ := by
  obtain ⟨⟨home, kept, names⟩, rooted⟩ := h
  rw [← hsame.home] at home
  rw [← hsame.files] at kept names rooted
  exact ⟨⟨home, kept, names⟩, rooted⟩

/-- An entry that is put into a folder outside of the input leaves it as it was. -/
private theorem put (h : Preserves source s s₁) (hfolder : s.files.isDirectory source = true) {entry : Entry}
    (hfree : s₁.files.isDirectory q = false) (hparent : s₁.files.isDirectory q.dropLast = true)
    (hout : ¬ source <+: q.dropLast) : Preserves source s { s₁ with files := s₁.files.put q entry } where
  home := h.home
  kept := by
    intro place hplace
    rw [FileTree.find?_put (FileTree.ne_nil_of_isDirectory_eq_false hfree), if_neg, h.kept place hplace]
    rintro rfl
    -- nothing is put in place of the input, which is a folder, and nothing is put below it
    have hne := FileTree.ne_nil_of_isDirectory_eq_false hfree
    rw [← List.dropLast_concat_getLast hne, List.prefix_concat_iff, List.dropLast_concat_getLast hne] at hplace
    rcases hplace with rfl | hplace
    · rw [h.isDirectory (List.prefix_refl _), hfolder] at hfree
      cases hfree
    · exact hout hplace
  names := by
    intro place hplace
    rw [FileTree.names_put, h.names place hplace]
    rintro rfl
    exact hout hplace
  rooted := h.rooted.put hfree hparent

end Preserves

/-! ### One file -/

section File

variable {source : List String} {s : Session}

/-- What holds while the result of a file is written: the input is as it was, the folder for the result is there, and
nothing but files of some names has been written in it. -/
structure Opened (source place : List String) (s : Session) (output : Path) (names : List String)
    (s₁ s₂ : Session) : Prop where
  preserves : Preserves source s s₂
  made : s₂.files.isDirectory place = true
  grows : FileTree.Grows (fun q => ∃ name ∈ names, (output.below [name]).LeadsTo s.home q) s₁.files s₂.files

variable {place : List String} {output : Path} {names : List String} {s₁ s₂ s₃ : Session}

private theorem Opened.congr (h : Opened source place s output names s₁ s₂) (hsame : SameFiles s₂ s₃) :
    Opened source place s output names s₁ s₃ := by
  obtain ⟨preserves, made, grows⟩ := h
  rw [← hsame.files] at made grows
  exact ⟨preserves.congr hsame, made, grows⟩

/-- The folder for a result is there, or it is made. -/
private theorem opened_of_makeDirectory (names : List String) (hfolder : s.files.isDirectory source = true)
    (hout : ¬ source <+: place) (hleads : output.LeadsTo s.home place) (hkept : Preserves source s s₁)
    (h : (Flow.makeDirectory output true).exec s₁ = (.ok u, s₂)) :
    Opened source place s output names s₁ s₂ := by
  obtain ⟨q, files, hq, hfiles, rfl⟩ := exists_of_exec_change h
  rw [hkept.home] at hq
  obtain rfl := hleads.unique hq
  rcases FileTree.eq_put_of_makeDirectory hfiles with ⟨hdir, rfl⟩ | ⟨hfree, hparent, rfl⟩
  · exact ⟨hkept, hdir, .refl _⟩
  · refine ⟨hkept.put hfolder hfree hparent fun hpre => hout (hpre.trans (List.dropLast_prefix _)), ?_,
      .put_directory hfree⟩
    rw [FileTree.isDirectory_iff, FileTree.find?_put (FileTree.ne_nil_of_isDirectory_eq_false hfree), if_pos rfl]

/-- A file is written in the folder for the result: behind the path of the folder a name does not lead back, since no
file can take the place of the folder above it. -/
private theorem Opened.write (h : Opened source place s output names s₁ s₂)
    (hfolder : s.files.isDirectory source = true) (hout : ¬ source <+: place) (hleads : output.LeadsTo s.home place)
    {name text : String} (hname : name ∈ names)
    (hwrite : (Flow.writeText (output.below [name]) text).exec s₂ = (.ok u, s₃)) :
    Opened source place s output names s₁ s₃ := by
  obtain ⟨q, files, hq, hfiles, rfl⟩ := exists_of_exec_change hwrite
  rw [h.preserves.home] at hq
  obtain ⟨hfree, hparent, rfl⟩ := FileTree.eq_put_of_write hfiles
  have hgrows : FileTree.Grows _ s₁.files (s₂.files.put q (.file (.text text))) :=
    h.grows.trans (.put_file hfree ⟨name, hname, hq⟩)
  rcases hleads.entry_or_back hq with rfl | rfl
  · refine ⟨h.preserves.put hfolder hfree hparent ?_, FileTree.isDirectory_put hfree h.made, hgrows⟩
    rwa [List.dropLast_concat]
  · have hdir := h.preserves.rooted place (by simp [FileTree.isDirectory_iff.1 h.made])
    rw [hdir] at hfree
    cases hfree

end File

/-! ### The loops of a run -/

section Loops

variable {input : Path} {source target : List String} {s : Session}

/-- The places where the results of some files go. -/
def Written (job : Job) (input : Path) (home : String) (treated : List Treatment) (place : List String) : Prop :=
  ∃ r ∈ treated, ∃ path ∈ r.outputs job.engine.codecs input (job.outputFolder input), path.LeadsTo home place

/-- Wherever a run stands, the task treats some files and leaves the input as it was. -/
def Handles (job : Job) (input : Path) (source : List String) (s : Session) (task : Flow α)
    (post : α → List Treatment → Prop) : Prop :=
  ∀ ⦃s₁ a s₂⦄, Preserves source s s₁ → task.exec s₁ = (.ok a, s₂) →
    ∃ treated, job.Course treated s₁ s₂ ∧ Preserves source s s₂ ∧
      FileTree.Grows (job.Written input s.home treated) s₁.files s₂.files ∧ post a treated

variable {post : α → List Treatment → Prop}

private theorem handles_pure {a : α} (h : post a []) : job.Handles input source s (pure a) post := by
  intro s₁ b s₂ hkept hexec
  cases hexec
  exact ⟨[], .done s₁, hkept, .refl _, h⟩

variable {task : Flow α}

theorem Handles.bind {next : α → Flow β} {goal : β → List Treatment → Prop} (h : job.Handles input source s task post)
    (hnext : ∀ a treated, post a treated →
      job.Handles input source s (next a) fun b others => goal b (treated ++ others)) :
    job.Handles input source s (task >>= next) goal := by
  intro s₁ b s₂ hkept hexec
  obtain ⟨a, s', htask, hrest⟩ := exists_of_exec_bind hexec
  obtain ⟨treated, hcourse, hkept', hgrows, hpost⟩ := h hkept htask
  obtain ⟨others, hcourse', hkept₂, hgrows', hgoal⟩ := hnext a treated hpost hkept' hrest
  refine ⟨treated ++ others, hcourse.append hcourse', hkept₂, ?_, hgoal⟩
  refine (hgrows.mono fun place => ?_).trans (hgrows'.mono fun place => ?_)
  · rintro ⟨r, hr, hplace⟩
    exact ⟨r, List.mem_append_left _ hr, hplace⟩
  · rintro ⟨r, hr, hplace⟩
    exact ⟨r, List.mem_append_right _ hr, hplace⟩

private theorem handles_look {next : α → Flow β} {post : β → List Treatment → Prop} {a : α}
    (h : ∀ s', Preserves source s s' → task.exec s' = (.ok a, s'))
    (hnext : job.Handles input source s (next a) post) : job.Handles input source s (task >>= next) post := by
  intro s₁ b s₂ hkept hexec
  rw [exec_bind_of_ok (h s₁ hkept)] at hexec
  exact hnext hkept hexec

/-- What is made of the outcome of a task treats no further files. -/
private theorem Handles.map {f : α → β} {goal : β → List Treatment → Prop}
    (h : job.Handles input source s task post) (hgoal : ∀ a treated, post a treated → goal (f a) treated) :
    job.Handles input source s (task >>= fun a => pure (f a)) goal := by
  refine h.bind fun a treated hpost => handles_pure ?_
  rw [List.append_nil]
  exact hgoal a treated hpost

theorem handles_mapM {task : β → Flow Summary} {f : α → β} {files all : α → List Path} {items : List α}
    (h : ∀ a ∈ items, job.Handles input source s (task (f a)) (Totals (files a) (all a))) :
    job.Handles input source s ((items.map f).mapM task)
      fun parts => Totals (items.flatMap files) (items.flatMap all) (Summary.sum parts) := by
  induction items with
  | nil => exact handles_pure totals_nil
  | cons a items ih =>
    rw [List.map_cons, List.mapM_cons]
    refine (h a List.mem_cons_self).bind fun summary treated htotals => ?_
    refine (ih fun b hb => h b (List.mem_cons_of_mem a hb)).map fun parts others hothers => ?_
    rw [Summary.sum_cons, List.flatMap_cons, List.flatMap_cons]
    exact htotals.append hothers

variable (hground : job.Grounds input source s) (hleads : (job.outputFolder input).LeadsTo s.home target)

include hground hleads

private theorem Grounds.allows {folder : List String} (hnames : ∀ name ∈ folder, Path.IsName name)
    (hdir : s.files.isDirectory (source ++ folder) = true) (name : String) (written : List String) (s₁ : Session) :
    Target.Allows ⟨job.config, job.validator, input.below (folder ++ [name]), (job.outputFolder input).below folder,
      (job.outputFolder input).below (folder ++ [name])⟩ written
      (Opened source (target ++ folder) s ((job.outputFolder input).below folder) written s₁) where
  output := by rw [Path.name_below, Path.below_below]
  keeps := hground.validates
  same := fun _ _ hsame hopened => hopened.congr hsame
  folder := by
    intro s₂ place hopened hplace
    rw [hopened.preserves.home] at hplace
    rw [(hleads.below hnames).unique hplace]
    exact hopened.made
  write := fun _ _ _ hname _ hopened hwrite =>
    hopened.write hground.folder (hground.outside target hleads folder hdir) (hleads.below hnames) hname hwrite

theorem handles_processFile {folder : List String} (hnames : ∀ name ∈ folder, Path.IsName name)
    (hdir : s.files.isDirectory (source ++ folder) = true) (name : String) :
    job.Handles input source s
      (job.processFile (input.below (folder ++ [name])) ((job.outputFolder input).below folder)
        ((job.outputFolder input).below (folder ++ [name])))
      fun told treated => Sums [input.below (folder ++ [name])] treated told.1 told.2 := by
  intro s₁ told s' hkept hexec
  rw [processFile, if_neg (by simpa using hground.dialect)] at hexec
  obtain ⟨text, s₂, hread, hexec⟩ := exists_of_exec_bind hexec
  obtain ⟨result, s₃, htranspile, hexec⟩ := exists_of_exec_bind hexec
  obtain ⟨u, s₄, hmake, hexec⟩ := exists_of_exec_bind hexec
  obtain ⟨problems, s₅, hcomplete, hexec⟩ := exists_of_exec_bind hexec
  cases hexec
  have hsame : SameFiles s₁ s₃ :=
    ((hground.reads _ _).of_exec hread).trans ((hground.transpiles _ _).of_exec htranspile)
  rw [Path.parent_below] at hmake
  have hopened := opened_of_makeDirectory
    ((pieces job.engine.codecs (input.below (folder ++ [name])) result).map Prod.fst) hground.folder
    (hground.outside target hleads folder hdir) (hleads.below hnames) (hkept.congr hsame) hmake
  have hallows := hground.allows hleads hnames hdir name
    ((pieces job.engine.codecs (input.below (folder ++ [name])) result).map Prod.fst) s₃
  obtain ⟨hopened', verdicts, hverdicts, hqueries, rfl⟩ :=
    hallows.exists_of_exec_write hopened (Reporting.exec_of_complete hcomplete)
  obtain ⟨place, files, -, -, rfl⟩ := exists_of_exec_change hmake
  have htreats : job.Treats ⟨input.below (folder ++ [name]), text, result, verdicts⟩ s₁ s' :=
    ⟨s₂, s₃, hread, htranspile, hverdicts.change, hqueries⟩
  refine ⟨[_], .next htreats (.done s'), hopened'.preserves, ?_, ?_⟩
  · rw [← hsame.files]
    refine hopened'.grows.mono fun q => ?_
    rintro ⟨piece, hpiece, hq⟩
    obtain ⟨piece, hmem, rfl⟩ := List.mem_map.1 hpiece
    exact ⟨_, List.mem_singleton_self _, _, Treatment.mem_outputs rfl hmem, hq⟩
  · exact ⟨rfl, by simp, by simp [Treatment.problems]⟩

private theorem handles_processFiles {folder names : List String} (hnames : ∀ name ∈ folder, Path.IsName name)
    (hdir : s.files.isDirectory (source ++ folder) = true)
    (h : ∀ name ∈ names, Path.IsName name ∧ s.files.isFile (source ++ (folder ++ [name])) = true) :
    job.Handles input source s
      (job.processFiles ((job.outputFolder input).below folder) (names.map fun name => input.below (folder ++ [name])))
      fun told treated => Sums
        (((names.map fun name => folder ++ [name]).filter (job.takesAt input source s.files)).map input.below)
        treated told.1 told.2 := by
  induction names with
  | nil => exact handles_pure sums_nil
  | cons name names ih =>
    obtain ⟨hname, hfile⟩ := h name List.mem_cons_self
    have hrest := ih fun other hother => h other (List.mem_cons_of_mem name hother)
    rw [List.map_cons, List.map_cons, processFiles]
    by_cases htakes : job.takes (input.below (folder ++ [name])) = true
    · have htaken : job.takesAt input source s.files (folder ++ [name]) = true := by rw [takesAt, hfile, htakes]; rfl
      rw [if_neg (by simp [htakes]), List.filter_cons_of_pos htaken, List.map_cons, Path.name_below,
        Path.child_of_isName hname, Path.below_below]
      refine (handles_processFile hground hleads hnames hdir name).bind fun told treated hsums => ?_
      exact hrest.map fun more others hothers => hsums.append hothers
    · rw [if_pos (by simp [htakes]), List.filter_cons_of_neg (by simp [takesAt, htakes])]
      exact hrest

/-- A walk from a folder down treats the files that it is to treat, and comes upon all files. -/
private theorem handles_processFolder (depth : Nat) (folder : List String) (hnames : ∀ name ∈ folder, Path.IsName name)
    (hdir : s.files.isDirectory (source ++ folder) = true) :
    job.Handles input source s (job.processFolder input (job.outputFolder input) depth (input.below folder))
      (Totals (((s.files.below source).walkFrom (job.takesAt input source s.files) depth folder).map input.below)
        (((s.files.below source).walkFrom (fun file => s.files.isFile (source ++ file)) depth folder).map
          input.below)) := by
  induction depth generalizing folder with
  | zero => exact handles_pure totals_nil
  | succ depth ih =>
    have hnames' : ∀ name ∈ s.files.names (source ++ folder), ∀ part ∈ folder ++ [name], Path.IsName part := fun _ =>
      hground.tree.isName_concat hnames
    rw [processFolder, FileTree.walkFrom_below, FileTree.walkFrom_below]
    refine handles_look (fun s₁ hkept => hkept.exec_listDirectory hground.leads hnames hdir) ?_
    refine handles_look (fun s₁ hkept => exec_filterM fun name hmem =>
      hkept.exec_isDirectory hground.leads (hnames' name hmem)) ?_
    refine handles_look (fun s₁ hkept => exec_filterM fun name hmem =>
      hkept.exec_isFile hground.leads (hnames' name hmem)) ?_
    rw [Path.relativeTo?_below, ← filter_takesAt]
    refine (handles_processFiles hground hleads hnames hdir fun name hmem => ?_).bind fun told treated hsums => ?_
    · obtain ⟨hmem, hfile⟩ := List.mem_filter.1 hmem
      exact ⟨hground.tree.isName hmem, hfile⟩
    have hinner : ∀ name ∈ (s.files.names (source ++ folder)).filter fun name =>
        s.files.isDirectory (source ++ (folder ++ [name])), job.Handles input source s _ _ := fun name hmem =>
      ih (folder ++ [name]) (hnames' name (List.mem_filter.1 hmem).1) (List.mem_filter.1 hmem).2
    refine (handles_mapM hinner).map fun parts others htotals => ?_
    rw [List.map_append, List.map_append, List.map_flatMap, List.map_flatMap]
    refine Totals.append ⟨hsums, ?_⟩ htotals
    rw [List.filter_map, List.map_map]
    rfl

end Loops

/-! ### A run over a folder -/

section Run

variable {input : Path} {source : List String} {s s' : Session}

private theorem exists_of_exec_processInputFolder (hground : job.Grounds input source s) {summary : Summary}
    (hexec : (job.processInputFolder input).exec s = (.ok summary, s')) :
    ∃ treated files, job.Course treated { s with files := files } s' ∧ s'.home = s.home ∧
      FileTree.Grows (job.Written input s.home treated) s.files s'.files ∧
      Totals (((s.files.below source).walk (job.takesAt input source s.files)).map input.below)
        (((s.files.below source).walk fun file => s.files.isFile (source ++ file)).map input.below)
        summary treated := by
  obtain ⟨u, s₁, hmake, hexec⟩ := exists_of_exec_bind hexec
  obtain ⟨target, files, hleads, hfiles, rfl⟩ := exists_of_exec_change hmake
  rw [exec_bind_of_ok (exec_get _)] at hexec
  have hdir : s.files.isDirectory (source ++ []) = true := by rw [List.append_nil, hground.folder]
  have hout : ∀ place, source <+: place → ¬ place <+: target := by
    intro place hplace hpre
    exact hground.outside target hleads [] hdir (by simpa using hplace.trans hpre)
  obtain ⟨hgrows, hrooted, hfind, hnames⟩ := FileTree.grows_of_makeDirectories hground.tree.rooted hfiles
  have hkept : Preserves source s { s with files := files } :=
    ⟨⟨rfl, fun place hplace => hfind place (hout place hplace), fun place hplace => hnames place (hout place hplace)⟩,
      hrooted⟩
  have hhandles := handles_processFolder hground hleads (2 * files.entries.length + 2) [] (by simp) hdir
  rw [Path.below_nil] at hhandles
  obtain ⟨treated, hcourse, hkept', hgrows', htotals⟩ := hhandles hkept hexec
  have hdepth : ∀ place, (s.files.below source).isDirectory place = true →
      place.length < 2 * files.entries.length + 2 := by
    intro place hplace
    by_cases hnil : place = []
    · simp [hnil]
    · rw [FileTree.isDirectory_iff, FileTree.find?_below hnil, ← FileTree.isDirectory_iff] at hplace
      have hlength := hgrows.length_le hground.tree hplace
      rw [List.length_append] at hlength
      omega
  rw [FileTree.walkFrom_eq_walk (hground.tree.below source) hdepth,
    FileTree.walkFrom_eq_walk (hground.tree.below source) hdepth] at htotals
  exact ⟨treated, files, hcourse, hkept'.home, (hgrows.mono fun _ h => h.elim).trans hgrows', htotals⟩

end Run

/-! ### What the engine hears -/

/-- A memory of the files that the engine is given: only the engine adds to it. -/
structure Hears (job : Job) (heard : Session → List Path) : Prop where
  files : ∀ s files, heard { s with files := files } = heard s
  read : ∀ ⦃file xml s text s'⦄, (job.read file xml).exec s = (.ok text, s') → heard s' = heard s
  transpile : ∀ ⦃text file s result s'⦄, (job.transpile text file).exec s = (.ok result, s') →
    heard s' = heard s ++ [file]
  validate : ∀ ⦃validator⦄, job.validator = some validator → ∀ ⦃sql s verdict s'⦄,
    (validator.validate job.config sql).exec s = (.ok verdict, s') → heard s' = heard s

private theorem Hears.validates {heard : Session → List Path} (h : job.Hears heard) {verdicts : List (String × Verdict)}
    {s s' : Session} (hverdicts : Validates job.validator job.config verdicts s s') : heard s' = heard s := by
  induction hverdicts with
  | none s files => exact h.files s files
  | next files hvalidator hverdict _ ih => rw [ih, h.validate hvalidator hverdict, h.files]

private theorem Hears.course {heard : Session → List Path} (h : job.Hears heard)
    {s s' : Session} (hcourse : job.Course treated s s') : heard s' = heard s ++ treated.map Treatment.file := by
  induction hcourse with
  | done s => simp
  | next hfile _ ih =>
    obtain ⟨s₁, s₂, hread, htranspile, hverdicts, -⟩ := hfile
    rw [ih, h.validates hverdicts, h.transpile htranspile, h.read hread, List.append_assoc]
    rfl

end Job

/-! ### The error log -/

def textAt (t : FileTree) (place : List String) : String :=
  match t.find? place with
  | some (.file (.text text)) => text
  | _ => ""

private theorem exists_of_exec_appendText {p : Path} {text : String} {s s' : Session}
    (h : (Flow.appendText p text).exec s = (.ok u, s')) :
    ∃ place, p.LeadsTo s.home place ∧ s.files.isDirectory place = false ∧
      s'.files.find? place = some (.file (.text (textAt s.files place ++ text))) := by
  obtain ⟨old, hold, hwrite⟩ := (reads_inspect _ _ _).exists_of_bind h
  obtain ⟨place, files, hleads, hfiles, rfl⟩ := exists_of_exec_change hwrite
  obtain ⟨hfree, -, rfl⟩ := FileTree.eq_put_of_write hfiles
  rw [exec_inspect hleads] at hold
  obtain rfl : _ = old := Except.ok.inj (Prod.mk.inj hold).1
  refine ⟨place, hleads, hfree, ?_⟩
  rw [FileTree.find?_put (FileTree.ne_nil_of_isDirectory_eq_false hfree), if_pos rfl, textAt, FileTree.read]
  rcases s.files.find? place with - | - | text | members <;> rfl

private theorem logLine_eq (p : Problem) : p.logLine ++ "\n" =
    "TranspileError(code=" ++ p.code ++ ", kind=" ++ p.stage.name ++ ", severity=" ++ p.severity.name ++ ", path='" ++
      p.path ++ "', message='" ++ p.message ++ "')\n" := by
  have hmessage : "', message='".toList = "', ".toList ++ "message='".toList := by decide
  have hend : "')\n".toList = "')".toList ++ "\n".toList := by decide
  apply String.toList_inj.1
  unfold Problem.logLine
  simp only [toString, String.toList_append, List.append_assoc, hmessage, hend]

/-- The problems go into the log behind what is there, one line for each; without problems or a log nothing is done. -/
private theorem of_exec_logProblems {config : Config} {problems : List Problem} {logged : Option Path} {s s' : Session}
    (h : (logProblems config problems).exec s = (.ok logged, s')) :
    logged = (if problems.isEmpty then none else config.errorPath) ∧
      (config.errorPath = none ∨ problems = [] → s' = s) ∧
      ∀ log, config.errorPath = some log → problems ≠ [] →
        ∃ place, log.LeadsTo s.home place ∧ s.files.isDirectory place = false ∧ s'.files.find? place =
          some (.file (.text (textAt s.files place ++ String.join (problems.map fun p => p.logLine ++ "\n")))) := by
  rw [logProblems] at h
  cases hlog : config.errorPath with
  | none =>
    rw [hlog] at h
    cases h
    simp
  | some log =>
    rw [hlog] at h
    dsimp only at h
    by_cases hempty : problems.isEmpty = true
    · rw [if_pos hempty] at h
      cases h
      simp_all
    · rw [if_neg hempty] at h
      obtain ⟨u, s₁, happend, hrest⟩ := exists_of_exec_bind h
      cases hrest
      refine ⟨by simp [hempty], by simp_all, ?_⟩
      rintro log' heq -
      cases heq
      exact exists_of_exec_appendText happend

private theorem sum_countOf (problems : List Problem) :
    Problem.countOf .analysis problems + Problem.countOf .parsing problems + Problem.countOf .validation problems +
      Problem.countOf .generation problems + Problem.countOf .internal problems = problems.length := by
  induction problems with
  | nil => rfl
  | cons p problems ih =>
    simp only [Problem.countOf, List.countP_cons, List.length_cons] at ih ⊢
    cases p.stage <;> simp <;> omega

/-! ### The whole run -/

/-- The validator of a run: none if validation is skipped, else the one that is made. -/
def Makes (config : Config) (maker : Flow Validator) (made : Option Validator) (s s' : Session) : Prop :=
  if config.skipValidation.isSet then made = none ∧ s' = s
  else ∃ validator, made = some validator ∧ maker.exec s = (.ok validator, s')

private theorem Makes.sameFiles {config : Config} {maker : Flow Validator} {made : Option Validator} {s s' : Session}
    (h : Makes config maker made s s') (hmaker : KeepsFiles maker) : SameFiles s s' := by
  rw [Makes] at h
  split at h
  · obtain ⟨-, rfl⟩ := h
    exact .refl s'
  · obtain ⟨validator, -, hmade⟩ := h
    exact hmaker.of_exec hmade

private theorem exists_of_exec_execute {config : Config} {engine : Engine} {maker : Flow Validator}
    {read : Path → Bool → Flow String} {s s' : Session} {status : Status}
    (h : (execute config engine maker read).exec s = (.ok status, s')) :
    ∃ made s₁ s₂, Makes config maker made s s₁ ∧
      (Job.process ⟨config, engine, made, read⟩).exec s₁ = (.ok status.summary, s₂) ∧
      (logProblems config status.summary.problems).exec s₂ = (.ok status.errorLog, s') := by
  have hmain : ∀ made s₁, (do
      let summary ← Job.process ⟨config, engine, made, read⟩
      let logged ← logProblems config summary.problems
      pure ⟨summary, logged⟩ : Flow Status).exec s₁ = (.ok status, s') →
      ∃ s₂, (Job.process ⟨config, engine, made, read⟩).exec s₁ = (.ok status.summary, s₂) ∧
        (logProblems config status.summary.problems).exec s₂ = (.ok status.errorLog, s') := by
    intro made s₁ h
    obtain ⟨summary, s₂, hprocess, h⟩ := exists_of_exec_bind h
    obtain ⟨logged, s₃, hlog, h⟩ := exists_of_exec_bind h
    cases h
    exact ⟨s₂, hprocess, hlog⟩
  rw [execute] at h
  by_cases hinput : (config.inputSource.getD "" == "") = true
  · rw [if_pos hinput] at h
    cases h
  rw [if_neg hinput] at h
  dsimp only at h
  by_cases hskip : config.skipValidation.isSet = true
  · rw [if_pos hskip, pure_bind] at h
    obtain ⟨s₂, hprocess, hlog⟩ := hmain none s h
    exact ⟨none, s, s₂, by simp [Makes, hskip], hprocess, hlog⟩
  · rw [if_neg hskip, bind_map_left] at h
    obtain ⟨validator, s₁, hmaker, h⟩ := exists_of_exec_bind h
    obtain ⟨s₂, hprocess, hlog⟩ := hmain (some validator) s₁ h
    refine ⟨some validator, s₁, s₂, ?_, hprocess, hlog⟩
    rw [Makes, if_neg hskip]
    exact ⟨validator, rfl, hmaker⟩

private theorem Job.exec_process {job : Job} {input : Path} {source : List String} {s : Session}
    (hinput : job.config.inputPath = .ok input) (hleads : input.LeadsTo s.home source)
    (hfolder : s.files.isDirectory source = true) : job.process.exec s = (job.processInputFolder input).exec s := by
  have hdir : (Flow.isDirectory input).exec s = (.ok true, s) := by rw [Flow.isDirectory, exec_inspect hleads, hfolder]
  have hlift : (liftM job.config.inputPath : Flow Path).exec s = (.ok input, s) := by
    rw [hinput]
    rfl
  rw [process, exec_bind_of_ok hlift, exec_bind_of_ok hdir]
  rfl

namespace Job

section Accounts

variable {job : Job} {input : Path} {source : List String} {s : Session}

private theorem mem_walk_takesAt (hground : job.Grounds input source s) {file : List String} :
    file ∈ (s.files.below source).walk (job.takesAt input source s.files) ↔
      job.takesAt input source s.files file = true := by
  rw [FileTree.mem_walk_iff (hground.tree.below source), and_iff_right_iff_imp]
  intro htakes
  have hne : file ≠ [] := by
    rintro rfl
    have hfile := isFile_of_takesAt htakes
    rw [List.append_nil, FileTree.isFile_eq_false hground.folder] at hfile
    cases hfile
  obtain ⟨content, hcontent⟩ := FileTree.isFile_iff.1 (isFile_of_takesAt htakes)
  exact ⟨_, FileTree.mem_entries_below.2 ⟨hne, FileTree.mem_of_find? (by simp [hne]) hcontent⟩⟩

private theorem length_walk_files (hground : job.Grounds input source s) :
    ((s.files.below source).walk fun file => s.files.isFile (source ++ file)).length =
      (s.files.below source).entries.countP fun e => !e.2.isDirectory := by
  have hfile : (fun file => s.files.isFile (source ++ file)) = (s.files.below source).isFile := by
    funext file
    by_cases hnil : file = []
    · subst hnil
      rw [List.append_nil, FileTree.isFile_eq_false hground.folder]
      rfl
    · rw [FileTree.isFile, FileTree.isFile, FileTree.find?_below hnil]
  rw [hfile]
  exact FileTree.length_walk_isFile (hground.tree.below source) (hground.distinct.below source)

/-- The accounts of a run over a folder.  It starts in a session `s`, treats files from `s₁` to `s₂`, and ends in `s'`,
after the error log is written. -/
structure Accounts (job : Job) (input : Path) (source : List String) (s s₁ : Session) (treated : List Treatment)
    (s₂ : Session) (status : Status) (s' : Session) : Prop where
  /-- once the output folder is made, the files are treated one after the other, in the order of a walk -/
  course : ∃ files, job.Course treated { s₁ with files := files } s₂
  order : treated.map Treatment.file =
    ((s.files.below source).walk (job.takesAt input source s.files)).map input.below
  /-- the engine hears of each file that is visible and that it supports, once, and of no other -/
  once : (treated.map Treatment.file).Nodup
  exactly : ∀ file, file ∈ treated.map Treatment.file ↔
    ∃ place, file = input.below place ∧ s.files.isFile (source ++ place) = true ∧ job.takes file = true
  heard : ∀ heard, job.Hears heard → heard s₂ = heard s₁ ++ treated.map Treatment.file
  problems : status.summary.problems = treated.flatMap Treatment.problems
  stages : Problem.countOf .analysis status.summary.problems + Problem.countOf .parsing status.summary.problems +
    Problem.countOf .validation status.summary.problems + Problem.countOf .generation status.summary.problems +
    Problem.countOf .internal status.summary.problems = status.summary.problems.length
  figures : toValue status = .map [
    ("total_files_processed", toValue ((s.files.below source).entries.countP fun e => !e.2.isDirectory)),
    ("total_queries_processed", toValue (treated.map fun r => r.result.count).sum),
    ("analysis_error_count", Problem.countOf .analysis status.summary.problems),
    ("parsing_error_count", Problem.countOf .parsing status.summary.problems),
    ("validation_error_count", Problem.countOf .validation status.summary.problems),
    ("generation_error_count", Problem.countOf .generation status.summary.problems),
    ("error_log_file", toValue (if status.summary.problems.isEmpty then none else job.config.errorPath))]
  /-- a line for each problem follows what was in the log, which no file but a result can have changed -/
  log : ∀ log, job.config.errorPath = some log → status.summary.problems ≠ [] →
    ∃ place, log.LeadsTo s.home place ∧
      s'.files.find? place = some (.file (.text (textAt s₂.files place ++
        String.join (status.summary.problems.map fun p =>
          "TranspileError(code=" ++ p.code ++ ", kind=" ++ p.stage.name ++ ", severity=" ++ p.severity.name ++
            ", path='" ++ p.path ++ "', message='" ++ p.message ++ "')\n")))) ∧
      (¬ job.Written input s.home treated place → textAt s₂.files place = textAt s.files place)
  unlogged : job.config.errorPath = none ∨ status.summary.problems = [] → s' = s₂

private theorem Grounds.congr {s₁ : Session} (h : job.Grounds input source s) (hsame : SameFiles s s₁) :
    job.Grounds input source s₁ := by
  obtain ⟨dialect, leads, tree, distinct, folder, outside, reads, transpiles, validates⟩ := h
  rw [← hsame.home] at leads outside
  rw [← hsame.files] at tree distinct folder outside
  exact ⟨dialect, leads, tree, distinct, folder, outside, reads, transpiles, validates⟩

end Accounts

end Job

/-- A run over a folder that ends well accounts for the files in it: each visible file that the engine supports is
given to it once, the figures and the problems are the sums over these files, and the problems are in the error log. -/
theorem run_accounts_for_files {config : Config} {engine : Engine} {maker : Flow Validator}
    {read : Path → Bool → Flow String} {input : Path} {source : List String} {s s' : Session} {status : Status}
    (hinput : config.inputPath = .ok input) (hmaker : KeepsFiles maker)
    (hground : ∀ made s₁, Makes config maker made s s₁ → Job.Grounds ⟨config, engine, made, read⟩ input source s)
    (h : (execute config engine maker read).exec s = (.ok status, s')) :
    ∃ made s₁ treated s₂, Makes config maker made s s₁ ∧
      Job.Accounts ⟨config, engine, made, read⟩ input source s s₁ treated s₂ status s' := by
  obtain ⟨made, s₁, s₂, hmakes, hprocess, hlog⟩ := exists_of_exec_execute h
  have hsame := hmakes.sameFiles hmaker
  replace hground := hground made s₁ hmakes
  have hground' := hground.congr hsame
  rw [Job.exec_process hinput hground'.leads hground'.folder] at hprocess
  obtain ⟨treated, files, hcourse, hhome, hgrows, ⟨hfiles, hcount, hproblems⟩, hall⟩ :=
    Job.exists_of_exec_processInputFolder hground' hprocess
  obtain ⟨hlogged, hunlogged, hlogs⟩ := of_exec_logProblems hlog
  rw [hsame.files] at hfiles hall hgrows
  rw [hsame.home] at hhome hgrows
  refine ⟨made, s₁, treated, s₂, hmakes, ⟨files, hcourse⟩, hfiles, ?_, fun file => ?_, fun heard hhears => ?_,
    hproblems, sum_countOf _, ?_, fun log hlog hne => ?_, hunlogged⟩
  · rw [hfiles]
    refine List.Pairwise.map _ (fun a b hne heq => hne ?_) (FileTree.nodup_walk (hground.distinct.below source))
    simpa [Path.below] using heq
  · rw [hfiles, List.mem_map]
    constructor
    · rintro ⟨place, hmem, rfl⟩
      exact ⟨place, rfl, Bool.and_eq_true_iff.1 ((Job.mem_walk_takesAt hground).1 hmem)⟩
    · rintro ⟨place, rfl, htakes⟩
      exact ⟨place, (Job.mem_walk_takesAt hground).2 (Bool.and_eq_true_iff.2 htakes), rfl⟩
  · rw [hhears.course hcourse, hhears.files]
  · have hlength : status.summary.files.length = (s.files.below source).entries.countP fun e => !e.2.isDirectory := by
      rw [hall, List.length_map, Job.length_walk_files hground]
    rw [← hlogged, ← hlength, ← hcount]
    rfl
  · obtain ⟨place, hleads, hfree, htext⟩ := hlogs log hlog hne
    rw [hhome] at hleads
    simp only [logLine_eq] at htext
    refine ⟨place, hleads, htext, fun hwritten => ?_⟩
    rw [textAt, hgrows.others place hfree hwritten, textAt]

def loggedConfig : Config :=
  { sourceDialect := some "tsql", inputSource := some "in", outputFolder := some "out", errorFile := some "errors.log" }

def faultyEngine : Engine where
  name := .null
  transpile := fun _ _ text file => pure ⟨text, 1, [⟨"FAULT", .generation, .error, file.toString, "fault", none⟩]⟩
  supports := fun file => file.suffix == ".sql"

def complainer : Validator := ⟨fun _ sql => pure ⟨sql, some "complaint"⟩⟩

def mixedTree : FileTree := ⟨[(["errors.log"], .file (.text "old\n")), (["in"], .directory),
  (["in", "a.sql"], .file (.text "a")), (["in", ".b.sql"], .file (.text "b")), (["in", "c.txt"], .file (.text "c")),
  (["in", "d"], .directory), (["in", "d", "e.sql"], .file (.text "e"))]⟩

private theorem faultyEngine_grounds {made : Option Validator}
    (hmade : ∀ validator, made = some validator → validator = complainer) :
    Job.Grounds ⟨loggedConfig, faultyEngine, made, fun file _ => Flow.readText file⟩ ⟨"", ["in"]⟩ ["in"]
      { files := mixedTree } where
  dialect := show loggedConfig.sourceDialect.getD "" ≠ "" by decide
  leads := by decide
  tree := by decide
  distinct := by decide
  folder := by decide
  outside := by
    intro target hleads folder _ hpre
    obtain rfl := Path.LeadsTo.unique (show Path.LeadsTo "" ⟨"", ["out"]⟩ ["out"] by decide) hleads
    simp at hpre
  reads := fun file _ => (reads_readText file).along
  transpiles := fun _ _ => (reads_pure _).along
  validates := by
    intro validator hvalidator sql
    rw [hmade validator hvalidator]
    exact (reads_pure _).along

theorem run_accounts_for_mixed_files :
    ∃ status s', (execute loggedConfig faultyEngine (pure complainer)).exec { files := mixedTree } = (.ok status, s') ∧
      textAt s'.files ["errors.log"] =
        "old\nTranspileError(code=FAULT, kind=GENERATION, severity=ERROR, path='in/a.sql', message='fault')\n" ++
        "TranspileError(code=VALIDATION_ERROR, kind=VALIDATION, severity=WARNING, path='in/a.sql', " ++
        "message='complaint')\n" ++
        "TranspileError(code=FAULT, kind=GENERATION, severity=ERROR, path='in/d/e.sql', message='fault')\n" ++
        "TranspileError(code=VALIDATION_ERROR, kind=VALIDATION, severity=WARNING, path='in/d/e.sql', " ++
        "message='complaint')\n" ∧
      ∃ made s₁ treated s₂, Makes loggedConfig (pure complainer) made { files := mixedTree } s₁ ∧
        Job.Accounts ⟨loggedConfig, faultyEngine, made, fun file _ => Flow.readText file⟩ ⟨"", ["in"]⟩ ["in"]
          { files := mixedTree } s₁ treated s₂ status s' := by
  refine ⟨_, _, rfl, by decide +kernel, run_accounts_for_files rfl (reads_pure _).along (fun made s₁ hmakes => ?_) rfl⟩
  refine faultyEngine_grounds fun validator hvalidator => ?_
  obtain ⟨chosen, rfl, hchosen⟩ := hmakes
  cases hvalidator
  cases hchosen
  rfl

/-! ### Results in the input -/

def besideConfig : Config :=
  { sourceDialect := some "tsql", inputSource := some "in", outputFolder := some ".", skipValidation := .bool true }

def echoEngine : Engine where
  name := .null
  transpile := fun _ _ text file => do
    Flow.note "transpile" [file]
    return ⟨text, 1, []⟩
  supports := fun file => file.suffix == ".sql"

def nestedTree : FileTree := ⟨[(["in"], .directory), (["in", "in"], .directory), (["in", "in", "z"], .directory),
  (["in", "in", "z", "q.sql"], .file (.text "q")), (["in", "z"], .directory),
      (["in", "z", "p.sql"], .file (.text "p"))]⟩

/-- The folder for a result may be in the input although the output folder is not.  A run that comes upon that folder
later gives its own result to the engine and counts it. -/
theorem run_takes_own_result :
    besideConfig.outputPath = some .here ∧ Path.here.LeadsTo "" [] ∧ ¬ ["in"] <+: ([] : List String) ∧
    nestedTree.find? ["in", "z", "q.sql"] = none ∧
    (nestedTree.below ["in"]).entries.countP (fun e => !e.2.isDirectory) = 2 ∧
    ((execute besideConfig echoEngine (pure complainer)).exec { files := nestedTree }).1.toOption.map
      (fun status => ((toValue status).getD "total_files_processed").shown) = some "3" ∧
    ((execute besideConfig echoEngine (pure complainer)).exec { files := nestedTree }).2.calls.map
      (fun call => call.parts.map Value.shown) = [["in/in/z/q.sql"], ["in/z/p.sql"], ["in/z/q.sql"]] :=
  ⟨by decide, by decide, by decide, by decide +kernel, by decide +kernel, by decide +kernel, by decide +kernel⟩

end WarehouseMigration.Transpile
