import WarehouseMigration.Proofs.FileTree.Local
import WarehouseMigration.Proofs.Path.Written
import WarehouseMigration.Proofs.Session.Calls
import WarehouseMigration.Proofs.Transpile.Writing

/-!
# Files of the parts of a result

Of a multipart result, each part with plain text and a file name goes into a file.  Only the last name of its path
counts: whatever the path is, the file is an entry of the folder of the results, and nothing else is changed, whether
the result is written to its end or not (`parts_written_in_folder`).

The folders on the way are lost, so parts of different folders with one last name are written over one another.  All of
them are kept if and only if the last names are different (`parts_kept_iff`).
-/

namespace WarehouseMigration

/-! ### Text files in a folder -/

namespace FileTree

variable {t : FileTree} {folder place : List String} {files : List (String × String)}

/-- Puts text files into a folder, one after the other. -/
def putFiles (folder : List String) (files : List (String × String)) (t : FileTree) : FileTree :=
  files.foldl (fun t file => t.put (folder ++ [file.1]) (.file (.text file.2))) t

private theorem putFiles_append (files others : List (String × String)) :
    putFiles folder (files ++ others) t = putFiles folder others (putFiles folder files t) := List.foldl_append

private theorem find?_putFiles (files : List (String × String)) :
    (putFiles folder files t).find? place =
      ((files.filter fun file => place == folder ++ [file.1]).getLast?.map fun file => .file (.text file.2)).or
        (t.find? place) := by
  induction files using List.reverseRecOn with
  | nil => rfl
  | append_singleton files file ih =>
    rw [putFiles_append, putFiles, List.foldl_cons, List.foldl_nil, find?_put (by simp), ih, List.filter_append]
    by_cases hplace : place = folder ++ [file.1]
    · simp [hplace]
    · simp [hplace]

private theorem isFile_putFiles {file : String × String} (h : file ∈ files) :
    (putFiles folder files t).isFile (folder ++ [file.1]) = true := by
  have hmem : file ∈ files.filter fun f => folder ++ [file.1] == folder ++ [f.1] := List.mem_filter.2 ⟨h, by simp⟩
  rw [isFile_iff, find?_putFiles, List.getLast?_eq_some_getLast (List.ne_nil_of_mem hmem)]
  exact ⟨_, rfl⟩

private theorem exists_of_find?_putFiles_ne (h : (putFiles folder files t).find? place ≠ t.find? place) :
    ∃ file ∈ files, place = folder ++ [file.1] := by
  rw [find?_putFiles] at h
  cases hlast : (files.filter fun file => place == folder ++ [file.1]).getLast? with
  | none =>
    rw [hlast] at h
    exact absurd rfl h
  | some file =>
    obtain ⟨hmem, hplace⟩ := List.mem_filter.1 (List.mem_of_getLast? hlast)
    exact ⟨file, hmem, by simpa using hplace⟩

private theorem isDirectory_putFiles (h : ∀ file ∈ files, t.isDirectory (folder ++ [file.1]) = false)
    (place : List String) : (putFiles folder files t).isDirectory place = t.isDirectory place := by
  by_cases heq : (putFiles folder files t).find? place = t.find? place
  · rw [isDirectory, isDirectory, heq]
  · obtain ⟨file, hfile, rfl⟩ := exists_of_find?_putFiles_ne heq
    rw [h file hfile, Bool.eq_false_iff]
    intro hdir
    have hisFile : (putFiles folder files t).isFile (folder ++ [file.1]) = true := isFile_putFiles hfile
    rw [isFile_eq_false hdir] at hisFile
    cases hisFile

private theorem WellFormed.isName_of_isDirectory (ht : t.WellFormed) (h : t.isDirectory place = true) :
    ∀ name ∈ place, Path.IsName name := by
  by_cases hplace : place = []
  · simp [hplace]
  · exact (ht.named _ (mem_of_find? hplace (isDirectory_iff.1 h))).2

private theorem WellFormed.putFiles (ht : t.WellFormed) (hfolder : t.isDirectory folder = true)
    (h : ∀ file ∈ files, Path.IsName file.1 ∧ t.isDirectory (folder ++ [file.1]) = false) :
    (t.putFiles folder files).WellFormed := by
  induction files using List.reverseRecOn with
  | nil => exact ht
  | append_singleton files file ih =>
    have hfiles := fun f hf => h f (List.mem_append_left [file] hf)
    obtain ⟨hname, hfree⟩ := h file (by simp)
    have hdirs := isDirectory_putFiles (fun f hf => (hfiles f hf).2)
    rw [putFiles_append]
    refine (ih hfiles).put ?_ ?_ ?_
    · rw [hdirs, hfree]
    · rw [List.dropLast_concat, hdirs, hfolder]
    · intro name hmem
      rcases List.mem_append.1 hmem with hmem | hmem
      · exact ht.isName_of_isDirectory hfolder name hmem
      · rwa [List.mem_singleton.1 hmem]

private theorem below_putFiles : (t.putFiles folder files).below folder = (t.below folder).putFiles [] files := by
  induction files using List.reverseRecOn with
  | nil => rfl
  | append_singleton files file ih =>
    rw [putFiles_append, putFiles_append, ← ih]
    exact below_put (by simp)

def asEntries (files : List (String × String)) : List (List String × Entry) :=
  files.map fun file => ([file.1], .file (.text file.2))

private theorem nodup_asEntries : ((asEntries files).map Prod.fst).Nodup ↔ (files.map Prod.fst).Nodup := by
  have hkeys : (asEntries files).map Prod.fst = (files.map Prod.fst).map fun name => [name] := by simp [asEntries]
  rw [hkeys]
  exact List.nodup_map_iff List.singleton_injective

/-- The files that are put into an empty folder make a table in which a later file replaces an earlier one. -/
private theorem putFiles_empty : empty.putFiles [] files = ⟨Sequence.lastOf (asEntries files)⟩ := by
  induction files using List.reverseRecOn with
  | nil => rfl
  | append_singleton files file ih =>
    have hentries : asEntries (files ++ [file]) = asEntries files ++ [([file.1], .file (.text file.2))] :=
      List.map_append
    rw [putFiles_append, ih, hentries, Sequence.lastOf_concat]
    rfl

def fileCount (t : FileTree) : Nat := t.entries.countP fun e => !e.2.isDirectory

/-- No file replaces another one if and only if their names are different. -/
private theorem fileCount_putFiles_empty_iff :
    (empty.putFiles [] files).fileCount = files.length ↔ (files.map Prod.fst).Nodup := by
  have hcount : (empty.putFiles [] files).fileCount = (Sequence.lastOf (asEntries files)).length := by
    rw [putFiles_empty, fileCount, List.countP_eq_length]
    intro e he
    obtain ⟨file, -, rfl⟩ := List.mem_map.1 (Sequence.mem_of_mem_lastOf he)
    rfl
  have hlength : files.length = (asEntries files).length := by simp [asEntries]
  rw [hcount, hlength, Sequence.length_lastOf_eq_iff, nodup_asEntries]

private theorem find?_putFiles_empty (h : (files.map Prod.fst).Nodup) {file : String × String} (hfile : file ∈ files) :
    (empty.putFiles [] files).find? [file.1] = some (.file (.text file.2)) := by
  have hkeys := nodup_asEntries.2 h
  rw [putFiles_empty, Sequence.lastOf_of_nodup hkeys, find?_of_ne_nil (by simp), ← Sequence.mem_iff_lookup hkeys]
  exact List.mem_map.2 ⟨file, hfile, rfl⟩

end FileTree

/-! ### Writing the parts -/

namespace Transpile.Target

open WarehouseMigration.Flow
open Session (SameFiles)

variable {α β : Type} {t : Target} {folder : List String} {pieces done others : List (String × String)}
  {problems after : List Problem} {s s₁ s' : Session}

/-- The folder of the results is there. -/
structure Settled (t : Target) (folder : List String) (s : Session) : Prop where
  leads : t.folder.LeadsTo s.home folder
  isFolder : s.files.isDirectory folder = true
  wellFormed : s.files.WellFormed

/-- A piece has become a file of its name; unless it was validated, the file has its text. -/
def Becomes (t : Target) (piece file : String × String) : Prop :=
  file.1 = piece.1 ∧ (t.validator = none → file.2 = piece.2)

/-- The pieces have become files of the folder, none of them in the place of a folder, and nothing else has changed. -/
structure Puts (t : Target) (folder : List String) (pieces : List (String × String)) (s s' : Session) : Prop where
  home : s'.home = s.home
  files : ∃ files, List.Forall₂ t.Becomes pieces files ∧
    (∀ file ∈ files, Path.IsName file.1 ∧ s.files.isDirectory (folder ++ [file.1]) = false) ∧
    s'.files = s.files.putFiles folder files

namespace Puts

private theorem of_sameFiles (h : SameFiles s s') : t.Puts folder [] s s' where
  home := h.home
  files := ⟨[], .nil, by simp, h.files⟩

private theorem isDirectory (h : t.Puts folder pieces s s') (place : List String) :
    s'.files.isDirectory place = s.files.isDirectory place := by
  obtain ⟨files, -, hfree, hfiles⟩ := h.files
  rw [hfiles]
  exact FileTree.isDirectory_putFiles (fun file hfile => (hfree file hfile).2) place

private theorem settled (h : t.Puts folder pieces s s') (hs : t.Settled folder s) : t.Settled folder s' where
  leads := h.home ▸ hs.leads
  isFolder := by rw [h.isDirectory, hs.isFolder]
  wellFormed := by
    obtain ⟨files, -, hfree, hfiles⟩ := h.files
    rw [hfiles]
    exact hs.wellFormed.putFiles hs.isFolder hfree

private theorem append (h : t.Puts folder pieces s s₁) (h' : t.Puts folder others s₁ s') :
    t.Puts folder (pieces ++ others) s s' where
  home := h'.home.trans h.home
  files := by
    obtain ⟨files, hbecomes, hfree, hfiles⟩ := h.files
    obtain ⟨files', hbecomes', hfree', hfiles'⟩ := h'.files
    refine ⟨files ++ files', List.rel_append hbecomes hbecomes', fun file hfile => ?_, ?_⟩
    · rcases List.mem_append.1 hfile with hfile | hfile
      · exact hfree file hfile
      · obtain ⟨hname, hplace⟩ := hfree' file hfile
        exact ⟨hname, h.isDirectory _ ▸ hplace⟩
    · rw [hfiles', hfiles, FileTree.putFiles_append]

end Puts

/-- However the task ends, the first of some pieces have become files of the folder, and all of them if it succeeds. -/
def Files (t : Target) (folder : List String) (task : Reporting α) (pieces : List (String × String)) : Prop :=
  ∀ ⦃problems s o after s'⦄, t.Settled folder s → task.exec problems s = ((o, after), s') →
    ∃ done, done <+: pieces ∧ (∀ a, o = .ok a → done = pieces) ∧ t.Puts folder done s s'

private theorem files_pure (a : α) : t.Files folder (pure a : Reporting α) [] := by
  intro problems s o after s' hs h
  cases h
  exact ⟨[], List.nil_prefix, fun _ _ => rfl, .of_sameFiles (.refl s)⟩

private theorem Files.bind {task : Reporting α} {next : α → Reporting β} (h : t.Files folder task pieces)
    (hnext : ∀ a, t.Files folder (next a) others) : t.Files folder (task >>= next) (pieces ++ others) := by
  intro problems s o after s' hs hexec
  rcases htask : task.exec problems s with ⟨⟨e | a, found⟩, s₁⟩
  · obtain ⟨done, hdone, -, hputs⟩ := h hs htask
    cases (Stateful.run_bind_of_error htask).symm.trans hexec
    exact ⟨done, hdone.trans (List.prefix_append pieces others), fun a ha => (by cases ha), hputs⟩
  · obtain ⟨done, -, hall, hputs⟩ := h hs htask
    obtain rfl := hall a rfl
    obtain ⟨done', hdone', hall', hputs'⟩ :=
      hnext a (hputs.settled hs) ((Stateful.run_bind_of_ok htask).symm.trans hexec)
    exact ⟨done ++ done', (List.prefix_append_right_inj done).2 hdone', fun b hb => by rw [hall' b hb],
      hputs.append hputs'⟩

private theorem files_ofOutcome_bind {o : Outcome α} {next : α → Reporting β}
    (h : ∀ a, o = .ok a → t.Files folder (next a) pieces) :
    t.Files folder (.ofFlow (Flow.ofOutcome o) >>= next) pieces := by
  intro problems s o' after s' hs hexec
  have houtcome := Reporting.exec_ofFlow_eq (exec_ofOutcome o s) problems
  cases o with
  | error e =>
    cases (Stateful.run_bind_of_error houtcome).symm.trans hexec
    exact ⟨[], List.nil_prefix, fun a ha => (by cases ha), .of_sameFiles (.refl s)⟩
  | ok a => exact h a rfl hs ((Stateful.run_bind_of_ok houtcome).symm.trans hexec)

private theorem files_forM {task : α → Reporting Unit} {piece? : α → Option (String × String)} {items : List α}
    (h : ∀ a ∈ items, t.Files folder (task a) (piece? a).toList) :
    t.Files folder (items.forM task) (items.filterMap piece?) := by
  induction items with
  | nil => exact files_pure ()
  | cons a items ih =>
    have hcons : (a :: items).filterMap piece? = (piece? a).toList ++ items.filterMap piece? := by
      cases hpiece : piece? a <;> simp [hpiece]
    rw [hcons]
    exact (h a List.mem_cons_self).bind fun _ => ih fun b hb => h b (List.mem_cons_of_mem a hb)

/-! ### One file -/

/-- The task gives the text for a file and leaves the files alone; unless it validates, the text is the content. -/
def Supplies (t : Target) (task : Reporting String) (content : String) : Prop :=
  ∀ ⦃problems s o after s'⦄, task.exec problems s = ((o, after), s') →
    SameFiles s s' ∧ ∀ text, o = .ok text → t.validator = none → text = content

private theorem supplies_pure (t : Target) (content : String) : t.Supplies (pure content) content := by
  intro problems s o after s' h
  cases h
  exact ⟨.refl s, fun text htext _ => (Except.ok.inj htext).symm⟩

private theorem supplies_validated
    (hkeeps : ∀ validator, t.validator = some validator → ∀ sql, KeepsFiles (validator.validate t.config sql))
    (sql : String) : t.Supplies (t.validated sql) sql := by
  intro problems s o after s' h
  rw [validated] at h
  cases hvalidator : t.validator with
  | none =>
    rw [hvalidator] at h
    obtain ⟨hsame, htext⟩ := t.supplies_pure sql h
    exact ⟨hsame, fun text ho _ => htext text ho hvalidator⟩
  | some validator =>
    rw [hvalidator] at h
    refine ⟨?_, fun _ _ hnone => (by cases hnone)⟩
    have hsame := hkeeps validator hvalidator sql s
    rcases hverdict : (validator.validate t.config sql).exec s with ⟨e | verdict, s₁⟩
    · cases (Stateful.run_bind_of_error (Reporting.exec_ofFlow_eq hverdict problems)).symm.trans h
      rwa [hverdict] at hsame
    · have hrest := (Stateful.run_bind_of_ok (Reporting.exec_ofFlow_eq hverdict problems)).symm.trans h
      rw [hverdict] at hsame
      cases hcomplaint : verdict.complaint with
      | none =>
        rw [hcomplaint] at hrest
        cases hrest
        exact hsame
      | some complaint =>
        rw [hcomplaint] at hrest
        cases hrest
        exact hsame

/-- A text that is written behind the path of the folder goes into an entry of it.  Two dots lead back, but there is a
folder already. -/
private theorem puts_of_exec_writeText {name text content : String} (hname : name ≠ "" ∧ name ≠ "." ∧ '/' ∉ name.toList)
    (htext : t.validator = none → text = content) (hs : t.Settled folder s)
    (h : (Flow.writeText (t.folder.below [name]) text).exec s = (.ok (), s')) :
    t.Puts folder [(name, content)] s s' := by
  obtain ⟨place, files, hleads, hwrite, rfl⟩ := exists_of_exec_change h
  obtain ⟨hfree, -, rfl⟩ := FileTree.eq_put_of_write hwrite
  have hdots : name ≠ ".." := by
    rintro rfl
    have hnames := hs.wellFormed.isName_of_isDirectory hs.isFolder
    obtain rfl := hs.leads.back (fun hmem => (hnames _ hmem).ne_dots rfl) hleads
    have habove := hs.wellFormed.rooted folder (by simp [FileTree.isDirectory_iff.1 hs.isFolder])
    rw [hfree] at habove
    cases habove
  have hisName : Path.IsName name :=
    ⟨by simp [hname.1, hname.2.1, hdots], hname.2.2, hleads.1 name (by simp [Path.below])⟩
  have hbelow : (t.folder.below [name]).LeadsTo s.home (folder ++ [name]) := hs.leads.below (by simpa using hisName)
  obtain rfl := hbelow.unique hleads
  exact ⟨rfl, [(name, text)], .cons ⟨rfl, htext⟩ .nil, by simpa using ⟨hisName, hfree⟩, rfl⟩

section

variable {task : Reporting String} {content : String} (htask : t.Supplies task content)

include htask

/-- What is known of a text that is written where `p` leads, from what is known when this succeeds. -/
private theorem Supplies.files_writeText {p : Path}
    (h : ∀ ⦃text s s'⦄, (t.validator = none → text = content) → t.Settled folder s →
      (Flow.writeText p text).exec s = (.ok (), s') → t.Puts folder pieces s s') :
    t.Files folder (task >>= fun text => .ofFlow (Flow.writeText p text)) pieces := by
  intro problems s o after s' hs hexec
  rcases hsupply : task.exec problems s with ⟨⟨e | text, found⟩, s₁⟩
  · cases (Stateful.run_bind_of_error hsupply).symm.trans hexec
    exact ⟨[], List.nil_prefix, fun a ha => (by cases ha), .of_sameFiles (htask hsupply).1⟩
  · obtain ⟨hsame, htext⟩ := htask hsupply
    have hbefore : t.Puts folder [] s s₁ := .of_sameFiles hsame
    have hrest := (Stateful.run_bind_of_ok hsupply).symm.trans hexec
    rcases hwrite : (Flow.writeText p text).exec s₁ with ⟨e | u, s₂⟩
    · obtain rfl := session_eq_of_exec_change hwrite
      cases (Reporting.exec_ofFlow_eq hwrite found).symm.trans hrest
      exact ⟨[], List.nil_prefix, fun a ha => (by cases ha), hbefore⟩
    · cases (Reporting.exec_ofFlow_eq hwrite found).symm.trans hrest
      exact ⟨pieces, List.prefix_rfl, fun _ _ => rfl,
        hbefore.append (h (htext text rfl) (hbefore.settled hs) hwrite)⟩

/-- The folder of the results is there, so no text takes its place. -/
private theorem Supplies.files_folder : t.Files folder (task >>= fun text => .ofFlow (Flow.writeText t.folder text))
    [] := by
  refine htask.files_writeText fun text s s' _ hs hwrite => ?_
  obtain ⟨place, files, hleads, hfiles, -⟩ := exists_of_exec_change hwrite
  have hfree := (FileTree.eq_put_of_write hfiles).1
  rw [hs.leads.unique hleads, hs.isFolder] at hfree
  cases hfree

end

section

variable (hkeeps : ∀ validator, t.validator = some validator → ∀ sql, KeepsFiles (validator.validate t.config sql))

include hkeeps

private theorem files_writeFile (name content : String) :
    t.Files folder (t.writeFile name content) (filePieces name content) := by
  rw [writeFile_eq, filePieces]
  by_cases hname : (Path.ofString name).name = ""
  · simp only [hname, bne_self_eq_false, if_true, Bool.false_eq_true, if_false, Path.below_nil]
    split
    · exact (supplies_validated hkeeps content).files_folder
    · exact (t.supplies_pure content).files_folder
  · have hspelt := (Path.written_ofString name).parts _ (Path.name_mem_parts hname)
    simp only [bne_iff_ne, ne_eq, hname, not_false_eq_true, if_true, if_false]
    split
    · exact (supplies_validated hkeeps content).files_writeText fun _ _ _ => puts_of_exec_writeText hspelt
    · exact (t.supplies_pure content).files_writeText fun _ _ _ => puts_of_exec_writeText hspelt

private theorem files_writePart (part : Mail.Message) : t.Files folder (t.writePart part) (partPiece? part).toList :=
  writePart_induction (files_pure ()) files_ofOutcome_bind fun name content _ => files_writeFile hkeeps name content

private theorem files_forM_writePart (parts : List Mail.Message) :
    t.Files folder (parts.forM t.writePart) (parts.filterMap partPiece?) :=
  files_forM fun part _ => files_writePart hkeeps part

private theorem files_write (codecs : Text.Codecs) {result : Transpiled} (h : isMultipart result.code = true)
    (source : String) :
    t.Files folder (t.write codecs result.code source) (Transpile.pieces codecs t.input result) := by
  rw [Target.write, if_pos h, Transpile.pieces, if_pos h]
  refine files_ofOutcome_bind fun message hmessage => ?_
  rw [hmessage]
  exact files_forM_writePart hkeeps message.walk

end

/-! ### Nothing but files in the folder -/

private theorem map_fst_of_becomes {files : List (String × String)} (h : List.Forall₂ t.Becomes pieces files) :
    files.map Prod.fst = pieces.map Prod.fst := by
  induction h with
  | nil => rfl
  | cons hfile _ ih => rw [List.map_cons, List.map_cons, hfile.1, ih]

/-- What became of the files in a run, given the names for the files: only entries of the folder that are no folders
have changed, each of them is a file with one of the names, and if the run succeeded, there is a file for each name. -/
structure Filed (folder names : List String) (s : Session) (run : (Outcome Unit × List Problem) × Session) : Prop where
  only : ∀ place, run.2.files.find? place ≠ s.files.find? place →
    ∃ name ∈ names, Path.IsName name ∧ place = folder ++ [name] ∧ s.files.isDirectory place = false ∧
      run.2.files.isFile place = true
  all : run.1.1 = .ok () → ∀ name ∈ names, run.2.files.isFile (folder ++ [name]) = true

private theorem Files.filed {task : Reporting Unit} (h : t.Files folder task pieces) (hs : t.Settled folder s)
    (problems : List Problem) : Filed folder (pieces.map Prod.fst) s (task.exec problems s) := by
  rcases hexec : task.exec problems s with ⟨⟨o, after⟩, s'⟩
  obtain ⟨done, hdone, hall, hputs⟩ := h hs hexec
  obtain ⟨files, hbecomes, hfree, hfiles⟩ := hputs.files
  have hnames := map_fst_of_becomes hbecomes
  constructor
  · intro place hplace
    rw [hfiles] at hplace
    obtain ⟨file, hfile, rfl⟩ := FileTree.exists_of_find?_putFiles_ne hplace
    have hmem : file.1 ∈ done.map Prod.fst := hnames ▸ List.mem_map_of_mem hfile
    refine ⟨file.1, (hdone.map Prod.fst).subset hmem, (hfree file hfile).1, rfl, (hfree file hfile).2, ?_⟩
    rw [hfiles]
    exact FileTree.isFile_putFiles hfile
  · intro hok name hname
    rw [← hall () hok, ← hnames] at hname
    obtain ⟨file, hfile, rfl⟩ := List.mem_map.1 hname
    rw [hfiles]
    exact FileTree.isFile_putFiles hfile

/-- Whatever the parts of a result are, and whether it is written to its end or not, nothing changes but files that are
entries of the folder of the results. -/
theorem parts_written_in_folder
    (hkeeps : ∀ validator, t.validator = some validator → ∀ sql, KeepsFiles (validator.validate t.config sql))
    (hs : t.Settled folder s) (problems : List Problem) :
    (∀ parts : List Mail.Message, Filed folder ((parts.filterMap partPiece?).map Prod.fst) s
      ((parts.forM t.writePart).exec problems s)) ∧
    ∀ (codecs : Text.Codecs) (result : Transpiled) (source : String), isMultipart result.code = true →
      Filed folder ((Transpile.pieces codecs t.input result).map Prod.fst) s
        ((t.write codecs result.code source).exec problems s) :=
  ⟨fun parts => (files_forM_writePart hkeeps parts).filed hs problems,
    fun codecs _ source h => (files_write hkeeps codecs h source).filed hs problems⟩

/-- The validator that asks the workspace writes no files. -/
private theorem keepsFiles_validate (config : Config) (sql : String) : KeepsFiles (Validation.validate config sql) := by
  have hexplain : ∀ catalog schema, KeepsFiles (Validation.explain sql catalog schema) := by
    intro catalog schema
    refine (keepsFiles_call _ _ _).attempt.bind fun answer => ?_
    split
    · split
      · exact (reads_pure _).along
      · exact (reads_ofOutcome _).along.bind fun found => (reads_pure _).along
    · exact (reads_pure _).along
    · exact (reads_throw _).along
  refine (hexplain _ _).bind fun found => ?_
  split <;> exact (reads_pure _).along

def intoOut (validator : Option Validator) : Target where
  config := { inputSource := some "in", outputFolder := some "out" }
  validator := validator
  input := .ofString "in/q.sql"
  folder := .ofString "out"
  output := .ofString "out/q.sql"

def emptyOut : Session where
  home := "/w"
  files := ⟨[(["out"], .directory)]⟩

private theorem settled_emptyOut (validator : Option Validator) : (intoOut validator).Settled ["out"] emptyOut where
  leads := (by decide : Path.LeadsTo "/w" (.ofString "out") ["out"])
  isFolder := rfl
  wellFormed := by decide

def plainPart (name text : String) : Mail.Message :=
  .leaf ⟨fun _ => none, some ("text/plain; name=\"" ++ name ++ "\""), none, none, "text/plain"⟩ text.toList

/-- Paths that lead elsewhere are among those of the parts. -/
theorem parts_written_in_folder_elsewhere :
    Filed ["out"] ["x", "up.sql", ".."] emptyOut
      (([plainPart "/etc/x" "A", plainPart "../../up.sql" "B", plainPart "/" "C", plainPart "a/.." "D"].forM
        (intoOut (some .workspace)).writePart).exec [] emptyOut) := by
  have hkeeps : ∀ validator, (intoOut (some .workspace)).validator = some validator → ∀ sql,
      KeepsFiles (validator.validate (intoOut (some .workspace)).config sql) := by
    intro validator hvalidator sql
    cases hvalidator
    exact keepsFiles_validate _ sql
  have hnames : (([plainPart "/etc/x" "A", plainPart "../../up.sql" "B", plainPart "/" "C",
      plainPart "a/.." "D"].filterMap partPiece?).map Prod.fst) = ["x", "up.sql", ".."] := by decide +kernel
  have hfiled := (parts_written_in_folder hkeeps (settled_emptyOut _) []).1
    [plainPart "/etc/x" "A", plainPart "../../up.sql" "B", plainPart "/" "C", plainPart "a/.." "D"]
  rwa [hnames] at hfiled

/-! ### Parts that are kept -/

def plainParts (parts : List Mail.Message) : List Mail.Message := parts.filter (·.contentType == "text/plain")

private theorem plainParts_cons_of_plain {part : Mail.Message} (h : part.contentType = "text/plain")
    (parts : List Mail.Message) : plainParts (part :: parts) = part :: plainParts parts :=
  List.filter_cons_of_pos (by simpa using h)

private theorem plainParts_cons_of_not_plain {part : Mail.Message} (h : part.contentType ≠ "text/plain")
    (parts : List Mail.Message) : plainParts (part :: parts) = plainParts parts :=
  List.filter_cons_of_neg (by simpa using h)

def lastName (part : Mail.Message) : String :=
  match part.filename? with
  | .ok (some name) => (Path.ofString name).name
  | _ => ""

/-- A run has kept the parts: it has succeeded, and the folder, which had nothing in it, has as many files as there are
parts with plain text, and a file with the text of each. -/
structure Kept (folder : List String) (parts : List Mail.Message) (run : (Outcome Unit × List Problem) × Session) :
    Prop where
  returned : run.1.1 = .ok ()
  count : (run.2.files.below folder).fileCount = (plainParts parts).length
  texts : ∀ part ∈ plainParts parts, ∃ text, part.content = .ok text ∧
    ∃ place, (run.2.files.below folder).find? place = some (.file (.text text))

/-- The parts have texts, and last names that a file can have and that are different. -/
structure Separate (parts : List Mail.Message) : Prop where
  readable : ∀ part ∈ plainParts parts, ∃ text, part.content = .ok text
  fit : ∀ part ∈ plainParts parts, Path.Fits (lastName part)
  distinct : ((plainParts parts).map lastName).Nodup

def textOf (part : Mail.Message) : String :=
  match part.content with
  | .ok text => text
  | .error _ => ""

private theorem content_eq {part : Mail.Message} (h : ∃ text, part.content = .ok text) : part.content = .ok
    (textOf part) := by
  obtain ⟨text, htext⟩ := h
  rw [textOf, htext]

/-- A last name that fits is the name of an entry, unless it is missing or leads back. -/
private theorem isName_lastName {part : Mail.Message} (hname : lastName part ∉ ["", ".."])
    (hfits : Path.Fits (lastName part)) : Path.IsName (lastName part) := by
  rw [lastName] at hname hfits ⊢
  split at hname
  case h_1 name hfile =>
    rw [hfile] at hfits
    obtain ⟨hne, hdots⟩ : (Path.ofString name).name ≠ "" ∧ (Path.ofString name).name ≠ ".." := by simpa using hname
    obtain ⟨-, hdot, hslash⟩ := (Path.written_ofString name).parts _ (Path.name_mem_parts hne)
    exact ⟨by simp [hne, hdots, hdot], hslash, hfits⟩
  case h_2 => exact absurd (by simp) hname

private theorem partPiece?_of_plain {part : Mail.Message} {text : String} (hplain : part.contentType = "text/plain")
    (hname : lastName part ≠ "") (htext : part.content = .ok text) : partPiece? part = some (lastName part, text) := by
  rw [lastName] at hname ⊢
  rw [partPiece?, htext]
  split at hname
  case h_1 name hfile =>
    rw [hfile]
    simp [hplain, hname]
  case h_2 => exact absurd rfl hname

private theorem partPiece?_of_not_plain {part : Mail.Message} (h : part.contentType ≠ "text/plain") :
    partPiece? part = none := by
  rw [partPiece?]
  split
  · simp [h]
  · rfl

private theorem filterMap_partPiece? {parts : List Mail.Message}
    (hnames : ∀ part ∈ plainParts parts, lastName part ≠ "")
    {text : Mail.Message → String} (htexts : ∀ part ∈ plainParts parts, part.content = .ok (text part)) :
    parts.filterMap partPiece? = (plainParts parts).map fun part => (lastName part, text part) := by
  induction parts with
  | nil => rfl
  | cons part parts ih =>
    by_cases hplain : part.contentType = "text/plain"
    · rw [plainParts_cons_of_plain hplain] at hnames htexts ⊢
      rw [List.forall_mem_cons] at hnames htexts
      rw [List.filterMap_cons_some (partPiece?_of_plain hplain hnames.1 htexts.1), ih hnames.2 htexts.2, List.map_cons]
    · rw [plainParts_cons_of_not_plain hplain] at hnames htexts ⊢
      rw [List.filterMap_cons_none (partPiece?_of_not_plain hplain), ih hnames htexts]

private theorem exec_write_of_parse {codecs : Text.Codecs} {code source : String} {message : Mail.Message}
    (h : isMultipart code = true) (hparse : Mail.parse codecs code = .ok message) :
    (t.write codecs code source).exec problems s = (message.walk.forM t.writePart).exec problems s := by
  have hread := Reporting.exec_ofFlow_eq (exec_ofOutcome (Mail.parse codecs code) s) problems
  rw [hparse] at hread
  rw [Target.write, if_pos h, hparse]
  exact Stateful.run_bind_of_ok hread

section

variable (hvalidator : t.validator = none)

include hvalidator

private theorem exec_writeFile {name content : String} (hs : t.Settled folder s)
    (hname : Path.IsName (Path.ofString name).name)
    (hfree : s.files.isDirectory (folder ++ [(Path.ofString name).name]) = false) :
    (t.writeFile name content).exec problems s =
      ((.ok (), problems), { s with files := s.files.putFiles folder [((Path.ofString name).name, content)] }) := by
  have hne : (Path.ofString name).name ≠ "" := fun hnil => hname.1 (by simp [hnil])
  have hparent : s.files.isDirectory (folder ++ [(Path.ofString name).name]).dropLast = true := by
    rw [List.dropLast_concat, hs.isFolder]
  have hwrite : (Flow.writeText (t.folder.below [(Path.ofString name).name]) content).exec s =
      (.ok (), { s with files := s.files.put (folder ++ [(Path.ofString name).name]) (.file (.text content)) }) :=
    exec_writeText (hs.leads.below (List.forall_mem_singleton.2 hname)) (FileTree.write_eq_ok hfree hparent)
  rw [writeFile_eq]
  simp only [hne, if_false, validated, hvalidator, pure_bind, ite_self]
  exact Reporting.exec_ofFlow_eq hwrite problems

private theorem exec_writePart {part : Mail.Message} {piece : String × String} (hs : t.Settled folder s)
    (hpiece : partPiece? part = some piece) (hname : Path.IsName piece.1)
    (hfree : s.files.isDirectory (folder ++ [piece.1]) = false) :
    (t.writePart part).exec problems s =
      ((.ok (), problems), { s with files := s.files.putFiles folder [piece] }) := by
  rw [partPiece?] at hpiece
  split at hpiece
  case h_2 => cases hpiece
  case h_1 name content hfile hcontent =>
    split at hpiece
    case isFalse => cases hpiece
    case isTrue hplain =>
      obtain rfl := Option.some.inj hpiece
      have hplain := (Bool.and_eq_true_iff.1 hplain).1
      have hne : name ≠ "" := by
        rintro rfl
        have hnil : (Path.ofString "").name = "" := by decide
        exact hname.1 (by simp [hnil])
      have hnamed := Reporting.exec_ofFlow_eq (exec_ofOutcome (.ok (some name)) s) problems
      have hread := Reporting.exec_ofFlow_eq (exec_ofOutcome (.ok content) s) problems
      have hfilter : (some name).filter (· != "") = some name := by simp [hne]
      rw [writePart, if_pos hplain, hfile, hcontent]
      refine (Stateful.run_bind_of_ok hnamed).trans ((Stateful.run_bind_of_ok hread).trans ?_)
      rw [hfilter]
      exact exec_writeFile hvalidator hs hname hfree

private theorem exec_forM_writePart {parts : List Mail.Message} (hs : t.Settled folder s)
    (h : ∀ part ∈ plainParts parts, ∃ piece, partPiece? part = some piece ∧ Path.IsName piece.1 ∧
      s.files.isDirectory (folder ++ [piece.1]) = false) :
    (parts.forM t.writePart).exec problems s =
      ((.ok (), problems), { s with files := s.files.putFiles folder (parts.filterMap partPiece?) }) := by
  induction parts generalizing s with
  | nil => rfl
  | cons part parts ih =>
    change (t.writePart part >>= fun _ => parts.forM t.writePart).exec problems s = _
    by_cases hplain : part.contentType = "text/plain"
    · rw [plainParts_cons_of_plain hplain, List.forall_mem_cons] at h
      obtain ⟨⟨piece, hpiece, hname, hfree⟩, hrest⟩ := h
      have hputs : t.Puts folder [piece] s { s with files := s.files.putFiles folder [piece] } :=
        ⟨rfl, [piece], .cons ⟨rfl, fun _ => rfl⟩ .nil, by simpa using ⟨hname, hfree⟩, rfl⟩
      have hnext := ih (hputs.settled hs) fun part hpart => by
        obtain ⟨other, hother, hothername, hotherfree⟩ := hrest part hpart
        exact ⟨other, hother, hothername, (hputs.isDirectory _).trans hotherfree⟩
      refine (Stateful.run_bind_of_ok (exec_writePart hvalidator hs hpiece hname hfree)).trans (hnext.trans ?_)
      rw [List.filterMap_cons_some hpiece]
      rfl
    · have hpart : (t.writePart part).exec problems s = ((.ok (), problems), s) := by
        rw [writePart, if_neg (by simpa using hplain)]
        rfl
      rw [plainParts_cons_of_not_plain hplain] at h
      rw [List.filterMap_cons_none (partPiece?_of_not_plain hplain)]
      exact (Stateful.run_bind_of_ok hpart).trans (ih hs h)

private theorem eq_of_becomes {files : List (String × String)} (h : List.Forall₂ t.Becomes pieces files) :
    files = pieces := by
  induction h with
  | nil => rfl
  | cons hfile _ ih => rw [Prod.ext hfile.1 (hfile.2 hvalidator), ih]

private theorem kept_forM_iff {parts : List Mail.Message} (hs : t.Settled folder s)
    (hempty : s.files.below folder = .empty) (hnamed : ∀ part ∈ plainParts parts, lastName part ∉ ["", ".."]) :
    Kept folder parts ((parts.forM t.writePart).exec problems s) ↔ Separate parts := by
  have hne : ∀ part ∈ plainParts parts, lastName part ≠ "" := fun part hpart hnil => hnamed part hpart (by simp [hnil])
  have hnone : ∀ validator, t.validator = some validator → ∀ sql, KeepsFiles (validator.validate t.config sql) := by
    simp [hvalidator]
  -- either way all texts are there, so the parts become one piece each
  have hpieces : (∀ part ∈ plainParts parts, ∃ text, part.content = .ok text) →
      parts.filterMap partPiece? = (plainParts parts).map fun part => (lastName part, textOf part) := fun hreadable =>
    filterMap_partPiece? hne fun part hpart => content_eq (hreadable part hpart)
  have hbelow : ∀ files, (s.files.putFiles folder files).below folder = FileTree.empty.putFiles [] files := by
    intro files
    rw [FileTree.below_putFiles, hempty]
  constructor
  · intro hkept
    have hreadable : ∀ part ∈ plainParts parts, ∃ text, part.content = .ok text := fun part hpart =>
      (hkept.texts part hpart).imp fun _ h => h.1
    rcases hexec : (parts.forM t.writePart).exec problems s with ⟨⟨o, after⟩, s'⟩
    rw [hexec] at hkept
    obtain ⟨done, -, hall, hputs⟩ := files_forM_writePart hnone parts hs hexec
    obtain ⟨files, hbecomes, hfree, hfiles⟩ := hputs.files
    obtain rfl := eq_of_becomes hvalidator hbecomes
    obtain rfl := (hall () hkept.returned).trans (hpieces hreadable)
    have hcount := hkept.count
    rw [hfiles, hbelow, ← List.length_map (fun part => (lastName part, textOf part)),
      FileTree.fileCount_putFiles_empty_iff, List.map_map] at hcount
    exact ⟨hreadable, fun part hpart => (hfree _ (List.mem_map_of_mem hpart)).1.2.2, hcount⟩
  · intro hseparate
    have hfree : ∀ part ∈ plainParts parts, ∃ piece, partPiece? part = some piece ∧ Path.IsName piece.1 ∧
        s.files.isDirectory (folder ++ [piece.1]) = false := by
      intro part hpart
      have hplain : part.contentType = "text/plain" := by simpa using (List.mem_filter.1 hpart).2
      have hpiece := partPiece?_of_plain hplain (hne part hpart) (content_eq (hseparate.readable part hpart))
      refine ⟨_, hpiece, isName_lastName (hnamed part hpart) (hseparate.fit part hpart), ?_⟩
      rw [← FileTree.isDirectory_below hs.isFolder, hempty]
      rfl
    have hdistinct : ((plainParts parts).map fun part => (lastName part, textOf part)).map Prod.fst |>.Nodup := by
      rw [List.map_map]
      exact hseparate.distinct
    rw [exec_forM_writePart hvalidator hs hfree, hpieces hseparate.readable]
    refine ⟨rfl, ?_, fun part hpart => ⟨textOf part, content_eq (hseparate.readable part hpart), [lastName part], ?_⟩⟩
    · rw [hbelow, FileTree.fileCount_putFiles_empty_iff.2 hdistinct, List.length_map]
    · rw [hbelow]
      exact FileTree.find?_putFiles_empty hdistinct (List.mem_map_of_mem hpart)

/-- The parts of a result, written into an empty folder without validation, are kept if and only if they have texts and
their last names fit and are different: the folders in their paths do not keep them apart. -/
theorem parts_kept_iff {parts : List Mail.Message} (hs : t.Settled folder s) (hempty : s.files.below folder = .empty)
    (hnamed : ∀ part ∈ plainParts parts, lastName part ∉ ["", ".."]) (problems : List Problem) :
    (Kept folder parts ((parts.forM t.writePart).exec problems s) ↔ Separate parts) ∧
    ∀ (codecs : Text.Codecs) (code source : String) (message : Mail.Message), isMultipart code = true →
      Mail.parse codecs code = .ok message → message.walk = parts →
      (Kept folder parts ((t.write codecs code source).exec problems s) ↔ Separate parts) := by
  refine ⟨kept_forM_iff hvalidator hs hempty hnamed, fun codecs code source message hcode hparse hwalk => ?_⟩
  rw [exec_write_of_parse hcode hparse, hwalk]
  exact kept_forM_iff hvalidator hs hempty hnamed

end

/-- Parts of one folder with different names are kept. -/
theorem parts_kept_of_one_folder :
    Kept ["out"] [plainPart "a/x.txt" "A", plainPart "a/y.txt" "B"]
      (([plainPart "a/x.txt" "A", plainPart "a/y.txt" "B"].forM (intoOut none).writePart).exec [] emptyOut) := by
  have hreadable : ∀ part ∈ plainParts [plainPart "a/x.txt" "A", plainPart "a/y.txt" "B"],
      part.content.isOk = true := by decide +kernel
  have hseparate : Separate [plainPart "a/x.txt" "A", plainPart "a/y.txt" "B"] := by
    refine ⟨fun part hpart => ?_, by decide +kernel, by decide +kernel⟩
    have hok := hreadable part hpart
    cases hcontent : part.content with
    | ok text => exact ⟨text, rfl⟩
    | error e =>
      rw [hcontent] at hok
      cases hok
  exact (parts_kept_iff rfl (settled_emptyOut none) rfl (by decide +kernel) []).1.2 hseparate

/-- Two parts with one last name in different folders are not kept: there is one file for both. -/
theorem parts_of_two_folders_collide :
    [plainPart "a/x.txt" "A", plainPart "b/x.txt" "B"].map (fun part => part.filename?.toOption) =
        [some (some "a/x.txt"), some (some "b/x.txt")] ∧
      ((([plainPart "a/x.txt" "A", plainPart "b/x.txt" "B"].forM (intoOut none).writePart).exec []
        emptyOut).2.files.below ["out"]).fileCount = 1 ∧
      ¬ Kept ["out"] [plainPart "a/x.txt" "A", plainPart "b/x.txt" "B"]
        (([plainPart "a/x.txt" "A", plainPart "b/x.txt" "B"].forM (intoOut none).writePart).exec [] emptyOut) := by
  refine ⟨by decide +kernel, by decide +kernel, ?_⟩
  rw [kept_forM_iff rfl (settled_emptyOut none) rfl (by decide +kernel)]
  intro hseparate
  exact absurd hseparate.distinct (by decide +kernel)

end Transpile.Target

end WarehouseMigration
