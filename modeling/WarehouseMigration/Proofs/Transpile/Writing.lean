import WarehouseMigration.Proofs.Path.Written
import WarehouseMigration.Proofs.Session.Reads
import WarehouseMigration.Transpile.Result

/-!
# Validation of results

The queries in the result of a file (`queries`) are validated when the result is written: the whole text, or the SQL
among the parts of a multipart result, each once and in order.  What writing adds to the problems are the complaints
about them, and apart from the validations it changes nothing but files (`Allows.exists_of_exec_write`).

A task that writes goes through some queries (`Writes`), and a sequence of tasks goes through those of one after those
of the other (`Writes.bind`).  An invariant of the session comes along: it is kept as long as each file is written
where it may be.
-/

namespace WarehouseMigration.Transpile

open WarehouseMigration.Flow
open Session (SameFiles)

/-- The problem that a verdict on a query from a file gives rise to. -/
def Verdict.problem? (file : Path) (verdict : Verdict) : Option Problem :=
  verdict.complaint.map fun complaint => ⟨"VALIDATION_ERROR", .validation, .warning, file.toString, complaint, none⟩

/-- What a part of a multipart result becomes: plain text for a file, by its name. -/
def partPiece? (part : Mail.Message) : Option (String × String) :=
  match part.filename?, part.content with
  | .ok (some name), .ok content =>
    if part.contentType == "text/plain" && (Path.ofString name).name != "" then
      some ((Path.ofString name).name, content)
    else none
  | _, _ => none

/-- What a text for a file becomes: nothing, if the path of the file has no last name. -/
def filePieces (name content : String) : List (String × String) :=
  if (Path.ofString name).name != "" then [((Path.ofString name).name, content)] else []

/-- The pieces of the result of a file: the name of the file for each of them, and its text. -/
def pieces (codecs : Text.Codecs) (file : Path) (result : Transpiled) : List (String × String) :=
  if isMultipart result.code then
    match Mail.parse codecs result.code with
    | .ok message => message.walk.filterMap partPiece?
    | .error _ => []
  else [(file.name, result.code)]

def sqlIn (pieces : List (String × String)) : List String :=
  (pieces.filter fun piece => (Path.splitSuffix piece.1).2 == ".sql").map Prod.snd

private theorem sqlIn_append (pieces others : List (String × String)) :
    sqlIn (pieces ++ others) = sqlIn pieces ++ sqlIn others := by
  simp [sqlIn]

private theorem sqlIn_singleton (name text : String) :
    sqlIn [(name, text)] = if (Path.splitSuffix name).2 == ".sql" then [text] else [] := by
  by_cases h : ((Path.splitSuffix name).2 == ".sql") = true <;> simp [sqlIn, h]

/-- The queries to validate in the result of a file; a text that could not be parsed is not one of them. -/
def queries (codecs : Text.Codecs) (file : Path) (result : Transpiled) : List String :=
  if !isMultipart result.code && result.problems.any (·.stage == .parsing) then []
  else sqlIn (pieces codecs file result)

/-- Queries are validated one after the other; besides, only files change. -/
inductive Validates (validator : Option Validator) (config : Config) :
    List (String × Verdict) → Session → Session → Prop
  | none (s : Session) (files : FileTree) : Validates validator config [] s { s with files := files }
  | next {s s₁ s' : Session} {chosen : Validator} {sql : String} {verdict : Verdict} {others : List (String × Verdict)}
      (files : FileTree) (hvalidator : validator = some chosen)
      (hverdict : (chosen.validate config sql).exec { s with files := files } = (.ok verdict, s₁))
      (hothers : Validates validator config others s₁ s') : Validates validator config ((sql, verdict) :: others) s s'

namespace Validates

variable {validator : Option Validator} {config : Config} {verdicts others : List (String × Verdict)}
  {s s₁ s' : Session}

/-- Files may change before the first query is validated. -/
theorem change {files : FileTree} (h : Validates validator config verdicts { s with files := files } s') :
    Validates validator config verdicts s s' := by
  generalize hs : { s with files := files } = changed at h
  cases h with
  | none _ files' =>
    subst hs
    exact .none s files'
  | next files' hvalidator hverdict hothers =>
    subst hs
    exact .next files' hvalidator hverdict hothers

private theorem append (h : Validates validator config verdicts s s₁)
    (hothers : Validates validator config others s₁ s') : Validates validator config (verdicts ++ others) s s' := by
  induction h with
  | none s files => exact hothers.change
  | next files hvalidator hverdict _ ih => exact .next files hvalidator hverdict (ih hothers)

end Validates

namespace Reporting

variable {α β : Type} {problems after : List Problem} {s s' : Session}

private theorem exists_of_exec_bind {task : Reporting α} {next : α → Reporting β} {b : β}
    (h : (task >>= next).exec problems s = ((.ok b, after), s')) :
    ∃ a found s₁, task.exec problems s = ((.ok a, found), s₁) ∧ (next a).exec found s₁ = ((.ok b, after), s') :=
  Stateful.exists_of_run_bind h

theorem exec_get_bind (next : List Problem → Reporting α) (problems : List Problem) (s : Session) :
    (get >>= next).exec problems s = (next problems).exec problems s := rfl

private theorem ofFlow_pure_bind (a : α) (next : α → Reporting β) : (ofFlow (pure a) >>= next) = next a := rfl

private theorem exec_ofFlow (flow : Flow α) (problems : List Problem) (s : Session) :
    (ofFlow flow).exec problems s = (((flow.exec s).1, problems), (flow.exec s).2) := rfl

theorem exec_ofFlow_eq {flow : Flow α} {o : Outcome α} (h : flow.exec s = (o, s')) (problems : List Problem) :
    (ofFlow flow).exec problems s = ((o, problems), s') := by
  rw [exec_ofFlow, h]

private theorem exec_of_ofFlow {flow : Flow α} {a : α} (h : (ofFlow flow).exec problems s = ((.ok a, after), s')) :
    flow.exec s = (.ok a, s') ∧ after = problems := by
  rw [exec_ofFlow] at h
  rcases hflow : flow.exec s with ⟨o, s₁⟩
  rw [hflow] at h
  cases h
  exact ⟨rfl, rfl⟩

theorem exec_complete {task : Reporting Unit} (h : task.exec problems s = ((.ok (), after), s')) :
    (task.complete problems).exec s = (.ok after, s') := by
  change (task.complete problems) s = _
  rw [complete, h]

theorem exec_of_complete {task : Reporting Unit} (h : (task.complete problems).exec s = (.ok after, s')) :
    task.exec problems s = ((.ok (), after), s') := by
  change (task.complete problems) s = _ at h
  rw [complete] at h
  rcases htask : task.exec problems s with ⟨⟨e | u, found⟩, s₁⟩
  · rw [htask] at h
    cases h
  · rw [htask] at h
    cases h
    rfl

end Reporting

namespace Target

variable {α β : Type} {t : Target} {Ready : Session → Prop}

/-- What became of some queries: they were validated if there is a validator, and the complaints about them were added
to the problems. -/
def Reviews (t : Target) (sqls : List String) (problems after : List Problem) (s s' : Session) : Prop :=
  ∃ verdicts, Validates t.validator t.config verdicts s s' ∧
    verdicts.map Prod.fst = (if t.validator.isSome then sqls else []) ∧
    after = problems ++ verdicts.filterMap fun verdict => verdict.2.problem? t.input

/-- The task goes through some queries and keeps an invariant. -/
def Writes (t : Target) (Ready : Session → Prop) (task : Reporting α) (sqls : List String) : Prop :=
  ∀ ⦃problems s a after s'⦄, Ready s → task.exec problems s = ((.ok a, after), s') →
    Ready s' ∧ t.Reviews sqls problems after s s'

private theorem reviews_nil (problems : List Problem) (s : Session) (files : FileTree) :
    t.Reviews [] problems problems s { s with files := files } :=
  ⟨[], .none s files, by simp, by simp⟩

private theorem Reviews.append {sqls others : List String} {problems found after : List Problem} {s s₁ s' : Session}
    (h : t.Reviews sqls problems found s s₁) (hothers : t.Reviews others found after s₁ s') :
    t.Reviews (sqls ++ others) problems after s s' := by
  obtain ⟨verdicts, hverdicts, hsqls, rfl⟩ := h
  obtain ⟨verdicts', hverdicts', hsqls', rfl⟩ := hothers
  refine ⟨verdicts ++ verdicts', hverdicts.append hverdicts', ?_, by simp⟩
  rw [List.map_append, hsqls, hsqls']
  split <;> rfl

private theorem writes_pure (a : α) : t.Writes Ready (pure a : Reporting α) [] := by
  intro problems s b after s' hready h
  cases h
  exact ⟨hready, reviews_nil problems s s.files⟩

theorem Writes.bind {task : Reporting α} {next : α → Reporting β} {sqls others : List String}
    (h : t.Writes Ready task sqls) (hnext : ∀ a, t.Writes Ready (next a) others) :
    t.Writes Ready (task >>= next) (sqls ++ others) := by
  intro problems s b after s' hready hexec
  obtain ⟨a, found, s₁, htask, hrest⟩ := Reporting.exists_of_exec_bind hexec
  obtain ⟨hready₁, hreviews⟩ := h hready htask
  obtain ⟨hready', hothers⟩ := hnext a hready₁ hrest
  exact ⟨hready', hreviews.append hothers⟩

/-- What is computed beforehand goes through no queries. -/
private theorem writes_ofOutcome_bind {o : Outcome α} {next : α → Reporting β} {sqls : List String}
    (h : ∀ a, o = .ok a → t.Writes Ready (next a) sqls) :
    t.Writes Ready (.ofFlow (Flow.ofOutcome o) >>= next) sqls := by
  intro problems s b after s' hready hexec
  obtain ⟨a, found, s₁, htask, hrest⟩ := Reporting.exists_of_exec_bind hexec
  obtain ⟨houtcome, rfl⟩ := Reporting.exec_of_ofFlow htask
  rw [exec_ofOutcome] at houtcome
  obtain ⟨ho, rfl⟩ := Prod.mk.inj houtcome
  exact h a ho hready hrest

private theorem writes_forM {task : α → Reporting Unit} {piece? : α → Option (String × String)} {items : List α}
    (h : ∀ a ∈ items, t.Writes Ready (task a) (sqlIn (piece? a).toList)) :
    t.Writes Ready (items.forM task) (sqlIn (items.filterMap piece?)) := by
  induction items with
  | nil => exact writes_pure ()
  | cons a items ih =>
    have hcons : (a :: items).filterMap piece? = (piece? a).toList ++ items.filterMap piece? := by
      cases hpiece : piece? a <;> simp [hpiece]
    rw [hcons, sqlIn_append]
    exact (h a List.mem_cons_self).bind fun _ => ih fun b hb => h b (List.mem_cons_of_mem a hb)

/-! ### Files of a result -/

/-- A last name has one segment, so that no folder is made on the way to the file of a part. -/
theorem writeFile_eq (t : Target) (name content : String) :
    t.writeFile name content = (do
      let output := t.folder.below (if (Path.ofString name).name = "" then [] else [(Path.ofString name).name])
      let content ← if output.suffix == ".sql" then t.validated content else pure content
      .ofFlow (Flow.writeText output content)) := by
  rw [← Path.child_name, writeFile, Path.split_name]
  exact Reporting.ofFlow_pure_bind t.folder _

/-- Whatever holds of a task that does nothing, of one that begins with a computation, and of writing the file of a
part, holds of writing the part. -/
theorem writePart_induction {part : Mail.Message} {P : Reporting Unit → List (String × String) → Prop}
    (hpure : P (pure ()) [])
    (houtcome : ∀ {γ : Type} {o : Outcome γ} {next : γ → Reporting Unit} {pieces : List (String × String)},
      (∀ a, o = .ok a → P (next a) pieces) → P (.ofFlow (Flow.ofOutcome o) >>= next) pieces)
    (hfile : ∀ name content, (partPiece? part).toList = filePieces name content →
      P (t.writeFile name content) (filePieces name content)) :
    P (t.writePart part) (partPiece? part).toList := by
  rw [writePart]
  by_cases hplain : (part.contentType == "text/plain") = true
  · rw [if_pos hplain]
    refine houtcome fun name? hname? => houtcome fun content hcontent => ?_
    rw [partPiece?, hname?, hcontent] at hfile ⊢
    cases name? with
    | none => exact hpure
    | some name =>
      simp only [hplain, Bool.true_and] at hfile ⊢
      by_cases hname : name = ""
      · subst hname
        exact hpure
      · have hfilter : (some name).filter (· != "") = some name := by simp [hname]
        have hpieces : (if ((Path.ofString name).name != "") = true then some ((Path.ofString name).name, content)
            else none).toList = filePieces name content := by
          rw [filePieces]
          split <;> rfl
        rw [hfilter, hpieces]
        exact hfile name content hpieces
  · have hnone : partPiece? part = none := by
      rw [partPiece?]
      split
      · simp [hplain]
      · rfl
    rw [if_neg hplain, hnone]
    exact hpure

/-- What is known of a file whose result is to be written: validation keeps the files, the folder of the results is
there, and the invariant lets some names be written in it. -/
structure Allows (t : Target) (names : List String) (Ready : Session → Prop) : Prop where
  output : t.output = t.folder.below [t.input.name]
  keeps : ∀ validator, t.validator = some validator → ∀ sql, KeepsFiles (validator.validate t.config sql)
  same : ∀ ⦃s s'⦄, SameFiles s s' → Ready s → Ready s'
  folder : ∀ ⦃s place⦄, Ready s → t.folder.LeadsTo s.home place → s.files.isDirectory place = true
  write : ∀ ⦃s s'⦄, ∀ name ∈ names, ∀ text, Ready s →
    (Flow.writeText (t.folder.below [name]) text).exec s = (.ok (), s') → Ready s'

namespace Allows

section

variable {names : List String} (hallows : t.Allows names Ready)

include hallows

private theorem writes_validated (sql : String) : t.Writes Ready (t.validated sql) [sql] := by
  intro problems s a after s' hready h
  rw [validated] at h
  cases hvalidator : t.validator with
  | none =>
    rw [hvalidator] at h
    cases h
    exact ⟨hready, [], .none s s.files, by simp [hvalidator], by simp⟩
  | some validator =>
    rw [hvalidator] at h
    obtain ⟨verdict, found, s₁, htask, hrest⟩ := Reporting.exists_of_exec_bind h
    obtain ⟨hverdict, rfl⟩ := Reporting.exec_of_ofFlow htask
    have hready₁ := hallows.same ((hallows.keeps validator hvalidator sql).of_exec hverdict) hready
    have hvalidates : Validates t.validator t.config [(sql, verdict)] s s₁ :=
      .next s.files hvalidator hverdict (.none s₁ s₁.files)
    have hsqls : [(sql, verdict)].map Prod.fst = if t.validator.isSome then [sql] else [] := by simp [hvalidator]
    cases hcomplaint : verdict.complaint with
    | none =>
      rw [hcomplaint] at hrest
      cases hrest
      exact ⟨hready₁, _, hvalidates, hsqls, by simp [Verdict.problem?, hcomplaint]⟩
    | some complaint =>
      rw [hcomplaint] at hrest
      cases hrest
      exact ⟨hready₁, _, hvalidates, hsqls, by simp [Verdict.problem?, hcomplaint]⟩

private theorem writes_text {name : String} (hname : name ∈ names) (text : String) :
    t.Writes Ready (.ofFlow (Flow.writeText (t.folder.below [name]) text)) [] := by
  intro problems s u after s' hready h
  obtain ⟨hwrite, rfl⟩ := Reporting.exec_of_ofFlow h
  refine ⟨hallows.write name hname text hready hwrite, ?_⟩
  obtain ⟨place, files, -, -, rfl⟩ := exists_of_exec_change hwrite
  exact reviews_nil after s files

private theorem writes_sql {name : String} (hname : name ∈ names) (sql : String) :
    t.Writes Ready (t.validated sql >>= fun text => .ofFlow (Flow.writeText (t.folder.below [name]) text)) [sql] :=
  (hallows.writes_validated sql).bind fun text => hallows.writes_text hname text

/-- The folder of the results is there, so no text takes its place. -/
private theorem writes_folder {task : Reporting String} {sqls : List String} (h : t.Writes Ready task sqls)
    (others : List String) : t.Writes Ready (task >>= fun text => .ofFlow (Flow.writeText t.folder text)) others := by
  intro problems s u after s' hready hexec
  obtain ⟨text, found, s₁, htask, hrest⟩ := Reporting.exists_of_exec_bind hexec
  obtain ⟨place, files, hleads, hfiles, -⟩ := exists_of_exec_change (Reporting.exec_of_ofFlow hrest).1
  have hfree := (FileTree.eq_put_of_write hfiles).1
  rw [hallows.folder (h hready htask).1 hleads] at hfree
  cases hfree

private theorem writes_writeFile (name content : String) (hnames : ∀ piece ∈ filePieces name content, piece.1 ∈ names) :
    t.Writes Ready (t.writeFile name content) (sqlIn (filePieces name content)) := by
  rw [writeFile_eq]
  rw [filePieces] at hnames ⊢
  by_cases hname : (Path.ofString name).name = ""
  · simp only [hname, if_true, Path.below_nil]
    split
    · exact hallows.writes_folder (hallows.writes_validated content) _
    · exact hallows.writes_folder (writes_pure content) _
  · simp only [bne_iff_ne, ne_eq, hname, not_false_eq_true, if_true, if_false, Path.suffix_below, sqlIn_singleton,
      List.forall_mem_singleton] at hnames ⊢
    split
    · exact hallows.writes_sql hnames content
    · rw [pure_bind]
      exact hallows.writes_text hnames content

private theorem writes_writePart {part : Mail.Message}
    (hnames : ∀ piece, partPiece? part = some piece → piece.1 ∈ names) :
    t.Writes Ready (t.writePart part) (sqlIn (partPiece? part).toList) := by
  refine writePart_induction (P := fun task pieces => t.Writes Ready task (sqlIn pieces)) (writes_pure ())
    writes_ofOutcome_bind fun name content hpieces => ?_
  refine hallows.writes_writeFile name content fun piece hpiece => hnames piece ?_
  rwa [← hpieces, Option.mem_toList] at hpiece

end

theorem exists_of_exec_write {codecs : Text.Codecs} {result : Transpiled}
    (hallows : t.Allows ((pieces codecs t.input result).map Prod.fst) Ready) {source : String} {u : Unit}
    {after : List Problem} {s s' : Session} (hready : Ready s)
    (h : (t.write codecs result.code source).exec result.problems s = ((.ok u, after), s')) :
    Ready s' ∧ t.Reviews (queries codecs t.input result) result.problems after s s' := by
  rw [Target.write] at h
  rw [queries]
  rw [pieces] at hallows ⊢
  by_cases hmultipart : isMultipart result.code = true
  · rw [if_pos hmultipart] at h hallows ⊢
    rw [if_neg (by simp [hmultipart])]
    refine (writes_ofOutcome_bind fun message hmessage => ?_ : t.Writes ..) hready h
    rw [hmessage] at hallows ⊢
    refine writes_forM fun part hpart => hallows.writes_writePart fun piece hpiece => ?_
    exact List.mem_map.2 ⟨piece, List.mem_filterMap.2 ⟨part, hpart, hpiece⟩, rfl⟩
  · rw [if_neg hmultipart] at h hallows ⊢
    rw [writeText, hallows.output, Path.suffix_below, Reporting.exec_get_bind] at h
    by_cases hparsing : result.problems.any (·.stage == .parsing) = true
    · rw [if_pos hparsing] at h
      rw [if_pos (by simp [hmultipart, hparsing])]
      exact hallows.writes_text (by simp) source hready h
    · rw [if_neg hparsing] at h
      rw [if_neg (by simp [hparsing]), sqlIn_singleton]
      split at h
      case isTrue hsql =>
        rw [if_pos hsql]
        exact hallows.writes_sql (by simp) result.code hready h
      case isFalse hsql =>
        rw [if_neg hsql]
        exact hallows.writes_text (by simp) result.code hready h

end Allows

end Target

end WarehouseMigration.Transpile
