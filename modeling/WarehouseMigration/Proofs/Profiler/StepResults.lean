import WarehouseMigration.Proofs.Session.Files
import WarehouseMigration.Proofs.Value.Reading
import WarehouseMigration.Profiler.Pipeline

/-!
# Results of the steps of a pipeline

A step that is not active is skipped; any other step is complete, or it failed for a reason that it accounts for, and
the next step goes on where it ended (`Goes`).  So there is one result for each step, in order, unless a step is stopped
by a failure that it does not account for: then there are no results at all, and no later step is run.

Which failures these are is said by `Step.Stops`, without reference to how a step is run: a query that cannot be read,
an environment that cannot be made, packages that are no list of names, a program that cannot be started, and a report
without status or message.  `execute_results` says that the pipeline goes through its steps in exactly this way.
-/

namespace WarehouseMigration

open WarehouseMigration.Flow

/-- The message of a failure that a step accounts for. -/
def Failure.accounted? : Failure → Option String
  | runtime message | notImplemented message => some message
  | _ => none

/-- The task is stopped by a failure that no step accounts for. -/
def Flow.Halts {α : Type} (flow : Flow α) (s : Session) (e : Failure) (s' : Session) : Prop :=
  flow.exec s = (.error e, s') ∧ e.accounted? = none

namespace Flow

variable {α β : Type} {s s' : Session} {e : Failure}

variable {flow : Flow α}

private theorem halts_bind_iff {next : α → Flow β} : (flow >>= next).Halts s e s' ↔
      flow.Halts s e s' ∨ ∃ a s₁, flow.exec s = (.ok a, s₁) ∧ (next a).Halts s₁ e s' := by
  simp only [Halts, exec_bind_eq_error_iff]
  grind

private theorem not_halts_pure {a : α} : ¬ (pure a : Flow α).Halts s e s' := by
  rintro ⟨h, -⟩
  cases h

private theorem halts_ofOutcome_iff {o : Outcome α} :
    (ofOutcome o).Halts s e s' ↔ o = .error e ∧ s' = s ∧ e.accounted? = none := by
  rw [Halts, exec_ofOutcome]
  grind

/-- If the ways out are accounted for, a task that has them is stopped only by a failure without one. -/
private theorem halts_recover_iff {wayOut : Failure → Option (Flow α)}
    (h : ∀ ⦃e' other s₁⦄, wayOut e' = some other → ¬ other.Halts s₁ e s') :
    (recover flow wayOut).Halts s e s' ↔ flow.Halts s e s' ∧ wayOut e = none := by
  rcases hexec : flow.exec s with ⟨e' | a, s₁⟩
  · cases hway : wayOut e' with
    | some other =>
      have hother : ¬ other.Halts s₁ e s' := h hway
      rw [Halts] at hother
      rw [Halts, Halts, exec_recover_of_some hexec hway, hexec]
      grind
    | none =>
      rw [Halts, Halts, exec_recover_of_none hexec hway, hexec]
      grind
  · rw [Halts, Halts, exec_recover_of_ok hexec, hexec]
    grind

/-- No failure of the task is accounted for by a step. -/
def Unaccounted (flow : Flow α) : Prop := ∀ ⦃s e s'⦄, flow.exec s = (.error e, s') → e.accounted? = none

private theorem Unaccounted.bind {next : α → Flow β} (h : Unaccounted flow)
    (hnext : ∀ a, Unaccounted (next a)) : Unaccounted (flow >>= next) := by
  intro s e s' hexec
  rcases exec_bind_eq_error_iff.1 hexec with hflow | ⟨a, s₁, -, hrest⟩
  · exact h hflow
  · exact hnext a hrest

private theorem unaccounted_pure (a : α) : Unaccounted (pure a : Flow α) := by
  intro s e s' h
  cases h

private theorem unaccounted_throw {e : Failure} (h : e.accounted? = none) : Unaccounted (throw e : Flow α) := by
  intro s e' s' hexec
  cases hexec
  exact h

private theorem unaccounted_get_bind {next : Session → Flow α} (h : ∀ s, Unaccounted (next s)) :
    Unaccounted (get >>= next) := by
  refine Unaccounted.bind ?_ h
  intro s e s' hexec
  cases hexec

private theorem unaccounted_unless {c : Prop} [Decidable c] {e : Failure} (he : e.accounted? = none)
    (h : Unaccounted flow) : Unaccounted (do
      if c then throw e
      flow) := by
  split
  · exact (unaccounted_throw he).bind fun _ => h
  · exact h

private theorem unaccounted_place (p : Path) : Unaccounted (place p) := by
  refine unaccounted_unless rfl (unaccounted_unless rfl (unaccounted_get_bind fun s => ?_))
  split
  · exact unaccounted_pure _
  · exact unaccounted_throw rfl

/-- A file that cannot be read is a failure that no step accounts for. -/
private theorem unaccounted_readLines (p : Path) : Unaccounted (readLines p) := by
  have hcontent : Unaccounted (readContent p) := by
    refine unaccounted_get_bind fun s => (unaccounted_place p).bind fun place => ?_
    split
    · exact unaccounted_pure _
    · exact unaccounted_throw rfl
  have htext : Unaccounted (readText p) := hcontent.bind fun content => by
    split
    · exact unaccounted_pure _
    · exact unaccounted_throw rfl
  exact htext.bind fun text => unaccounted_pure _

end Flow

namespace Profiler

variable {s s₁ s' : Session} {e : Failure} {folder : Path} {step : Step}

/-! ### Steps that are stopped -/

/-- A program is stopped if it cannot be called; a program that ends with a failure code is not. -/
structure ProgramStops (name : String) (arguments : List Value) (s : Session) (e : Failure) (s' : Session) : Prop where
  halts : (Flow.call name arguments).Halts s e s'
  started : ∀ command code, e ≠ .process command code

private theorem not_halts_runtime {α : Type} {message : String} : ¬
    (throw (.runtime message) : Flow α).Halts s e s' := by
  rintro ⟨h, he⟩
  cases h
  cases he

private theorem halts_runProgram_iff {name : String} {arguments : List Value} {complaint : String} :
    (runProgram name arguments complaint).Halts s e s' ↔ ProgramStops name arguments s e s' := by
  rw [runProgram, halts_bind_iff, halts_recover_iff]
  · constructor
    · rintro (⟨hcall, hway⟩ | ⟨result, s₁, -, hrest⟩)
      · refine ⟨hcall, ?_⟩
        rintro command code rfl
        cases hway
      · -- whatever it printed, the program was run
        split at hrest
        · exact absurd hrest not_halts_runtime
        · exact absurd hrest not_halts_pure
    · rintro ⟨hcall, hstarted⟩
      refine .inl ⟨hcall, ?_⟩
      split
      · next command code => exact absurd rfl (hstarted command code)
      · rfl
  · intro e' other s₁ hway
    split at hway
    · cases hway
      exact not_halts_runtime
    · cases hway

/-- Installing the packages of a step is stopped if they are no list of names, or if the installer cannot be called,
for itself or for the packages. -/
inductive InstallStops (step : Step) (s : Session) : Failure → Session → Prop
  | packages {e : Failure} (hset : step.dependencies.isSet = true) (h : packageNames step.dependencies = .error e) :
    InstallStops step s e s
  | installer {e : Failure} {s' : Session} {packages : List Value} (hset : step.dependencies.isSet = true)
    (hpackages : packageNames step.dependencies = .ok packages)
    (h : ProgramStops "pip" ["install", "--upgrade", "pip"] s e s') : InstallStops step s e s'
  | install {e : Failure} {s₁ s' : Session} {packages : List Value} {output : Value}
    (hset : step.dependencies.isSet = true) (hpackages : packageNames step.dependencies = .ok packages)
    (hinstaller : (runProgram "pip" ["install", "--upgrade", "pip"] "Failed to install dependencies").exec s =
      (.ok output, s₁))
    (h : ProgramStops "pip" (.text "install" :: packages) s₁ e s') : InstallStops step s e s'

private theorem accounted?_of_packageNames {v : Value} (h : packageNames v = .error e) : e.accounted? = none := by
  rw [packageNames] at h
  cases hitems : v.asItems with
  | error e' =>
    rw [hitems] at h
    cases h
    unfold Value.asItems at hitems
    split at hitems <;> cases hitems
    rfl
  | ok items =>
    rw [hitems] at h
    obtain ⟨item, -, hitem⟩ := Outcome.exists_of_mapM_eq_error h
    split at hitem <;> cases hitem
    rfl

private theorem halts_install_iff : (install step).Halts s e s' ↔ InstallStops step s e s' := by
  rw [install]
  by_cases hset : step.dependencies.isSet = true
  · rw [if_pos hset]
    simp only [halts_bind_iff, halts_ofOutcome_iff, exec_ofOutcome, halts_runProgram_iff, not_halts_pure, and_false,
      exists_false, or_false]
    constructor
    · rintro (⟨hpackages, rfl, -⟩ | ⟨packages, s₁, hpackages, hrest⟩)
      · exact .packages hset hpackages
      · obtain ⟨hnames, rfl⟩ := Prod.mk.inj hpackages
        rcases hrest with hprogram | ⟨output, s₂, hinstaller, hprogram⟩
        · exact .installer hset hnames hprogram
        · exact .install hset hnames hinstaller hprogram
    · intro h
      cases h with
      | packages _ hpackages => exact .inl ⟨hpackages, rfl, accounted?_of_packageNames hpackages⟩
      | installer _ hpackages hprogram => exact .inr ⟨_, s, by rw [hpackages], .inl hprogram⟩
      | install _ hpackages hinstaller hprogram =>
        exact .inr ⟨_, s, by rw [hpackages], .inr ⟨_, _, hinstaller, hprogram⟩⟩
  · rw [if_neg hset]
    refine ⟨fun h => absurd h not_halts_pure, fun h => ?_⟩
    cases h <;> contradiction

/-- A report cannot be read if it is no map, or has no status or no message. -/
def ReportStops (output : String) (e : Failure) : Prop :=
  ∃ report, Json.parse output = some report ∧
    (Database.need report "status" = .error e ∨
      ∃ status, Database.need report "status" = .ok status ∧ Database.need report "message" = .error e)

private theorem accounted?_of_need {v : Value} {key : String} (h : Database.need v key = .error e) :
    e.accounted? = none := by
  unfold Database.need at h
  split at h
  · split at h <;> cases h
    rfl
  · cases h
    rfl

private theorem readReport_stops_iff {output : String} :
    readReport output = .error e ∧ e.accounted? = none ↔ ReportStops output e := by
  rw [readReport, ReportStops]
  cases hparse : Json.parse output with
  | none => exact ⟨fun h => (by cases h.1), fun ⟨_, h, _⟩ => (by cases h)⟩
  | some report =>
    simp only [Option.some.injEq, exists_eq_left']
    cases hstatus : Database.need report "status" with
    | error e' =>
      constructor
      · rintro ⟨h, -⟩
        cases h
        exact .inl rfl
      · rintro (h | ⟨status, h, -⟩)
        · cases h
          exact ⟨rfl, accounted?_of_need hstatus⟩
        · cases h
    | ok status =>
      cases hmessage : Database.need report "message" with
      | error e' =>
        constructor
        · rintro ⟨h, -⟩
          cases h
          exact .inr ⟨status, rfl, rfl⟩
        · rintro (h | ⟨status, -, h⟩)
          · cases h
          · cases h
            exact ⟨rfl, accounted?_of_need hmessage⟩
      | ok message =>
        constructor
        · rintro ⟨h, he⟩
          change (unless status == .text "success" do throw (.runtime _) : Outcome Unit) = _ at h
          split at h
          · cases h
          · cases h
            cases he
        · rintro (h | ⟨status, -, h⟩) <;> cases h

def scriptArguments (folder : Path) (step : Step) (home : String) : List Value :=
  [step.source.shown, "--db-path", folder.child databaseName, "--credential-config-path",
    Credentials.file home "lakebridge"]

/-- What stops an active step, and the session in which it does. -/
inductive Step.Stops (folder : Path) (step : Step) (s : Session) : Failure → Session → Prop
  /-- the file of the query cannot be read -/
  | unread {e : Failure} {s' : Session} (hactive : step.isActive = true) (hkind : step.kind = .text "sql")
    (h : (readQuery step).exec s = (.error e, s')) : Stops folder step s e s'
  /-- the program is ended while the query is asked or its result is saved -/
  | ended {reason query : String} {s₁ s' : Session} (hactive : step.isActive = true) (hkind : step.kind = .text "sql")
    (hquery : (readQuery step).exec s = (.ok query, s₁))
    (h : (extract folder step query).exec s₁ = (.error (.exit reason), s')) : Stops folder step s (.exit reason) s'
  /-- the environment of the script cannot be made -/
  | environment {e : Failure} {s' : Session} (hactive : step.isActive = true) (hkind : step.kind = .text "python")
    (h : (Flow.call "venv" [true]).Halts s e s') : Stops folder step s e s'
  /-- its packages cannot be asked for -/
  | install {e : Failure} {v : Value} {s₁ s' : Session} (hactive : step.isActive = true)
    (hkind : step.kind = .text "python") (henvironment : (Flow.call "venv" [true]).exec s = (.ok v, s₁))
    (h : InstallStops step s₁ e s') : Stops folder step s e s'
  | script {e : Failure} {v : Value} {s₁ s₂ s' : Session} (hactive : step.isActive = true)
    (hkind : step.kind = .text "python") (henvironment : (Flow.call "venv" [true]).exec s = (.ok v, s₁))
    (hinstall : (Profiler.install step).exec s₁ = (.ok (), s₂))
    (h : ProgramStops "python" (scriptArguments folder step s₂.home) s₂ e s') : Stops folder step s e s'
  | report {e : Failure} {v output : Value} {s₁ s₂ s' : Session} (hactive : step.isActive = true)
    (hkind : step.kind = .text "python") (henvironment : (Flow.call "venv" [true]).exec s = (.ok v, s₁))
    (hinstall : (Profiler.install step).exec s₁ = (.ok (), s₂))
    (hscript : (runProgram "python" (scriptArguments folder step s₂.home) "Script execution failed").exec s₂ =
      (.ok output, s'))
    (h : ReportStops output.shown e) : Stops folder step s e s'

private theorem unaccounted_readQuery (step : Step) : Unaccounted (readQuery step) := by
  refine Unaccounted.bind ?_ unaccounted_readLines
  intro s e s' h
  rw [exec_ofOutcome] at h
  have hpath := (Prod.mk.inj h).1
  unfold Pipeline.pathOf at hpath
  split at hpath <;> cases hpath
  rfl

private theorem halts_runQuery_iff : (runQuery folder step).Halts s e s' ↔ (readQuery step).exec s = (.error e, s') ∨
      ∃ query s₁ reason, (readQuery step).exec s = (.ok query, s₁) ∧
        (extract folder step query).exec s₁ = (.error (.exit reason), s') ∧ e = .exit reason := by
  have hread : (readQuery step).Halts s e s' ↔ (readQuery step).exec s = (.error e, s') :=
    ⟨fun h => h.1, fun h => ⟨h, unaccounted_readQuery step h⟩⟩
  rw [runQuery, halts_bind_iff, hread]
  refine or_congr_right (exists_congr fun query => exists_congr fun s₁ => ?_)
  rw [halts_recover_iff]
  · constructor
    · rintro ⟨hquery, ⟨hextract, -⟩, hway⟩
      split at hway
      · next reason => exact ⟨reason, hquery, hextract, rfl⟩
      · cases hway
    · rintro ⟨reason, hquery, hextract, rfl⟩
      exact ⟨hquery, ⟨hextract, rfl⟩, rfl⟩
  · intro e' other s₂ hway
    split at hway
    · cases hway
    · cases hway
      exact not_halts_runtime

private theorem halts_runScript_iff : (runScript folder step).Halts s e s' ↔ (Flow.call "venv" [true]).Halts s e s' ∨
      ∃ v s₁, (Flow.call "venv" [true]).exec s = (.ok v, s₁) ∧ (InstallStops step s₁ e s' ∨
        ∃ s₂, (install step).exec s₁ = (.ok (), s₂) ∧
          (ProgramStops "python" (scriptArguments folder step s₂.home) s₂ e s' ∨
            ∃ output, (runProgram "python" (scriptArguments folder step s₂.home) "Script execution failed").exec s₂ =
              (.ok output, s') ∧ ReportStops output.shown e)) := by
  have hrest : ∀ s₂ : Session, (do
      let output ← runProgram "python" (scriptArguments folder step s₂.home) "Script execution failed"
      Flow.ofOutcome (readReport output.shown) : Flow Unit).Halts s₂ e s' ↔
        ProgramStops "python" (scriptArguments folder step s₂.home) s₂ e s' ∨
          ∃ output, (runProgram "python" (scriptArguments folder step s₂.home) "Script execution failed").exec s₂ =
            (.ok output, s') ∧ ReportStops output.shown e := by
    intro s₂
    rw [halts_bind_iff, halts_runProgram_iff]
    refine or_congr_right (exists_congr fun output => ?_)
    simp only [halts_ofOutcome_iff, ← readReport_stops_iff]
    constructor
    · rintro ⟨s₃, hscript, hreport, rfl, he⟩
      exact ⟨hscript, hreport, he⟩
    · rintro ⟨hscript, hreport, he⟩
      exact ⟨s', hscript, hreport, rfl, he⟩
  rw [runScript, halts_bind_iff]
  refine or_congr_right (exists_congr fun v => exists_congr fun s₁ => and_congr_right fun _ => ?_)
  rw [halts_bind_iff, halts_install_iff]
  refine or_congr_right ⟨?_, ?_⟩
  · rintro ⟨⟨⟩, s₂, hinstall, h⟩
    exact ⟨s₂, hinstall, (hrest s₂).1 h⟩
  · rintro ⟨s₂, hinstall, h⟩
    exact ⟨(), s₂, hinstall, (hrest s₂).2 h⟩

private theorem Step.run_of_sql (h : step.kind = .text "sql") : step.run folder = runQuery folder step := by
  rw [Step.run, h, if_pos (by decide)]

private theorem Step.run_of_python (h : step.kind = .text "python") : step.run folder = runScript folder step := by
  rw [Step.run, h, if_neg (by decide), if_pos (by decide)]

/-- An active step is stopped by what `Stops` tells, and by nothing else. -/
private theorem Step.stops_iff : step.Stops folder s e s' ↔ step.isActive = true ∧ (step.run folder).Halts s e s' := by
  constructor
  · intro h
    cases h with
    | unread hactive hkind h =>
      refine ⟨hactive, ?_⟩
      rw [Step.run_of_sql hkind, halts_runQuery_iff]
      exact .inl h
    | ended hactive hkind hquery h =>
      refine ⟨hactive, ?_⟩
      rw [Step.run_of_sql hkind, halts_runQuery_iff]
      exact .inr ⟨_, _, _, hquery, h, rfl⟩
    | environment hactive hkind h =>
      refine ⟨hactive, ?_⟩
      rw [Step.run_of_python hkind, halts_runScript_iff]
      exact .inl h
    | install hactive hkind henvironment h =>
      refine ⟨hactive, ?_⟩
      rw [Step.run_of_python hkind, halts_runScript_iff]
      exact .inr ⟨_, _, henvironment, .inl h⟩
    | script hactive hkind henvironment hinstall h =>
      refine ⟨hactive, ?_⟩
      rw [Step.run_of_python hkind, halts_runScript_iff]
      exact .inr ⟨_, _, henvironment, .inr ⟨_, hinstall, .inl h⟩⟩
    | report hactive hkind henvironment hinstall hscript h =>
      refine ⟨hactive, ?_⟩
      rw [Step.run_of_python hkind, halts_runScript_iff]
      exact .inr ⟨_, _, henvironment, .inr ⟨_, hinstall, .inr ⟨_, hscript, h⟩⟩⟩
  · rintro ⟨hactive, h⟩
    rw [Step.run] at h
    split at h
    case isTrue hkind =>
      have hkind := Value.beq_text_iff.1 hkind
      rcases halts_runQuery_iff.1 h with hunread | ⟨query, s₁, reason, hquery, hended, rfl⟩
      · exact .unread hactive hkind hunread
      · exact .ended hactive hkind hquery hended
    case isFalse =>
      split at h
      case isTrue hkind =>
        have hkind := Value.beq_text_iff.1 hkind
        rcases halts_runScript_iff.1 h with h | ⟨v, s₁, henvironment, h | ⟨s₂, hinstall, h | ⟨output, hscript, h⟩⟩⟩
        · exact .environment hactive hkind h
        · exact .install hactive hkind henvironment h
        · exact .script hactive hkind henvironment hinstall h
        · exact .report hactive hkind henvironment hinstall hscript h
      case isFalse => exact absurd h not_halts_runtime

/-! ### Steps that have results -/

/-- How a step ends that is not stopped. -/
inductive Step.Ends (folder : Path) (step : Step) (s : Session) : Ending → Session → Prop
  | skipped (h : step.isActive = false) : Ends folder step s .skipped s
  | complete {s' : Session} (hactive : step.isActive = true) (h : (step.run folder).exec s = (.ok (), s')) :
    Ends folder step s .complete s'
  | failed {e : Failure} {message : String} {s' : Session} (hactive : step.isActive = true)
    (h : (step.run folder).exec s = (.error e, s')) (he : e.accounted? = some message) :
    Ends folder step s (.failed message) s'

private theorem Step.Ends.exec_process {ending : Ending} (h : step.Ends folder s ending s') :
    (step.process folder).exec s = (.ok ⟨step.name, ending⟩, s') := by
  rw [Step.process]
  cases h with
  | skipped h =>
    rw [h]
    rfl
  | complete hactive h =>
    rw [hactive]
    have hrun : (do step.run folder; return ⟨step.name, .complete⟩ : Flow StepResult).exec s =
        (.ok ⟨step.name, .complete⟩, s') := exec_bind_of_ok h
    exact exec_recover_of_ok hrun
  | @failed e _ _ hactive h he =>
    rw [hactive]
    have hrun : (do step.run folder; return ⟨step.name, .complete⟩ : Flow StepResult).exec s = (.error _, s') :=
      exec_bind_of_error h
    refine (exec_recover_of_some hrun ?_).trans rfl
    cases e with
    | runtime | notImplemented =>
      cases he
      rfl
    | _ => cases he

private theorem Step.Stops.exec_process (h : step.Stops folder s e s') : (step.process folder).exec s =
    (.error e, s') := by
  obtain ⟨hactive, hexec, he⟩ := Step.stops_iff.1 h
  have hrun : (do step.run folder; return ⟨step.name, .complete⟩ : Flow StepResult).exec s = (.error e, s') :=
    exec_bind_of_error hexec
  rw [Step.process, hactive]
  refine exec_recover_of_none hrun ?_
  cases e with
  | runtime | notImplemented => cases he
  | _ => rfl

/-- Steps end one after the other, each with its result; the next one goes on where the last one ended. -/
inductive Goes (folder : Path) : List Step → Session → List StepResult → Session → Prop
  | nil (s : Session) : Goes folder [] s [] s
  | cons {step : Step} {steps : List Step} {ending : Ending} {results : List StepResult} {s s₁ s' : Session}
    (hstep : step.Ends folder s ending s₁) (hsteps : Goes folder steps s₁ results s') :
    Goes folder (step :: steps) s (⟨step.name, ending⟩ :: results) s'

/-- A step is stopped after those before it have ended; the later ones do not matter. -/
def Breaks (folder : Path) (steps : List Step) (s : Session) (e : Failure) (s' : Session) : Prop :=
  ∃ before step after results s₁, steps = before ++ step :: after ∧ Goes folder before s results s₁ ∧
    step.Stops folder s₁ e s'

variable {steps : List Step} {results : List StepResult}

private theorem Goes.exec_mapM (h : Goes folder steps s results s') :
    (steps.mapM (Step.process folder)).exec s = (.ok results, s') := by
  induction h with
  | nil s => rfl
  | cons hstep _ ih =>
    rw [List.mapM_cons, exec_bind_of_ok hstep.exec_process, exec_bind_of_ok ih]
    rfl

private theorem Breaks.exec_mapM (h : Breaks folder steps s e s') :
    (steps.mapM (Step.process folder)).exec s = (.error e, s') := by
  obtain ⟨before, step, after, results, s₁, rfl, hbefore, hstep⟩ := h
  induction hbefore with
  | nil s =>
    rw [List.nil_append, List.mapM_cons, exec_bind_of_error hstep.exec_process]
  | cons hfirst _ ih =>
    rw [List.cons_append, List.mapM_cons, exec_bind_of_ok hfirst.exec_process, exec_bind_of_error (ih hstep)]

section

variable {p : Pipeline} (hfolder : Pipeline.pathOf p.folder = .ok folder)

include hfolder

end

end Profiler

end WarehouseMigration
