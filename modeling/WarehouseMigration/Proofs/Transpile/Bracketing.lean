import WarehouseMigration.Proofs.Session.Calls
import WarehouseMigration.Proofs.Transpile.Writing
import WarehouseMigration.Transpile.Run
import WarehouseMigration.Transpiler.Server

/-!
# What a run says to the server

Of the calls of a run with a language server, those count here that start the server, open and close a document and
shut the server down (`Event`).  They should be well bracketed: a document is closed before the next one is opened, and
a server that was started is shut down after the last document (`WellBracketed`).

All documents of a run but the last one are opened and closed, and the last one stays open just when the request for
its transpilation failed (`Converses`): this is what one document does (`converses_transpile`), and the loops of the
run keep it.  The server is shut down only when all else has ended well.  So the talk of a run that returns is well
bracketed, and that of a run that fails is not as soon as the server was started (`run_wellBracketed_iff`).
-/

namespace WarehouseMigration.Transpile

open WarehouseMigration.Flow
open Transpiler (Server)

/-! ### Events -/

/-- What is said to a server. -/
inductive Event where
  | started
  | opened (address : String)
  | closed (address : String)
  | shutdown
deriving DecidableEq

namespace Event

/-- The address of the document that a message is about. -/
def addressIn : List Value → Option String
  | [.record _ [.record _ _ fields] _] =>
    match fields.lookup "uri" with
    | some (.text address) => some address
    | _ => none
  | _ => none

def of? (c : Call) : Option Event :=
  if c.name = "server.start" then some .started
  else if c.name = "document.open" then (addressIn c.parts).map .opened
  else if c.name = "document.close" then (addressIn c.parts).map .closed
  else if c.name = "shutdown" then some .shutdown
  else none

def isDocument : Event → Bool
  | .opened _ => true
  | .closed _ => true
  | _ => false

end Event

/-- Whether every document is closed before the next one is opened, and no other is; one may be open at the start. -/
def balanced : Option String → List Event → Bool
  | none, [] => true
  | some _, [] => false
  | none, .opened address :: rest => balanced (some address) rest
  | some _, .opened _ :: _ => false
  | none, .closed _ :: _ => false
  | some address, .closed other :: rest => address == other && balanced none rest
  | document, .started :: rest => balanced document rest
  | document, .shutdown :: rest => balanced document rest

/-- Documents are opened and closed in turn, and a server that was started is shut down after the last of them. -/
structure WellBracketed (talk : List Event) : Prop where
  documents : balanced none talk = true
  shutdown : .started ∈ talk → ∃ before after, talk = before ++ .shutdown :: after ∧ ∀ event ∈ after, ¬ event.isDocument

/-- Documents that are opened and closed one after the other. -/
def turns (addresses : List String) : List Event := addresses.flatMap fun address => [.opened address, .closed address]

private theorem turns_append (addresses others : List String) : turns
    (addresses ++ others) = turns addresses ++ turns others :=
  List.flatMap_append

private theorem not_mem_turns {event : Event} (h : ¬ event.isDocument) (addresses : List String) :
    event ∉ turns addresses := by
  intro hmem
  obtain ⟨address, -, hevent⟩ := List.mem_flatMap.1 hmem
  simp only [List.mem_cons, List.not_mem_nil, or_false] at hevent
  rcases hevent with rfl | rfl <;> exact h rfl

private theorem balanced_turns_append (addresses : List String) (rest : List Event) :
    balanced none (turns addresses ++ rest) = balanced none rest := by
  induction addresses with
  | nil => rfl
  | cons address addresses ih =>
    have hcons : turns (address :: addresses) ++ rest =
      .opened address :: .closed address :: (turns addresses ++ rest) := rfl
    rw [hcons, balanced, balanced, BEq.rfl, Bool.true_and, ih]

/-- Documents in turn end with one that is closed. -/
private theorem getLast?_turns_ne (addresses : List String) (address : String) :
    (turns addresses).getLast? ≠ some (.opened address) := by
  rcases List.eq_nil_or_concat addresses with rfl | ⟨others, last, rfl⟩
  · simp [turns]
  · rw [List.concat_eq_append, turns_append]
    simp [turns]

/-- What can be said before the documents. -/
def Opening (first : List Event) : Prop := first = [] ∨ first = [.started]

section

variable {first : List Event} (hfirst : Opening first) (addresses : List String)

include hfirst

private theorem balanced_opening (last : List Event) :
    balanced none (first ++ turns addresses ++ last) = balanced none last := by
  rw [List.append_assoc]
  rcases hfirst with rfl | rfl
  · exact balanced_turns_append addresses last
  · exact balanced_turns_append addresses last

private theorem getLast?_opening_ne (address : String) :
    (first ++ turns addresses).getLast? ≠ some (.opened address) := by
  rw [List.getLast?_append]
  cases hturns : (turns addresses).getLast? with
  | none => rcases hfirst with rfl | rfl <;> simp
  | some event => simpa [hturns] using getLast?_turns_ne addresses address

private theorem shutdown_not_mem_opening : .shutdown ∉ first ++ turns addresses := by
  have hturns : .shutdown ∉ turns addresses := not_mem_turns (by decide) addresses
  rcases hfirst with rfl | rfl <;> simp [hturns]

private theorem wellBracketed_shutdown : WellBracketed (first ++ turns addresses ++ [.shutdown]) where
  documents := balanced_opening hfirst addresses [.shutdown]
  shutdown := fun _ => ⟨first ++ turns addresses, [], rfl, List.forall_mem_nil _⟩

/-- Documents in turn without a shutdown are well bracketed only if the server was not started. -/
private theorem wellBracketed_turns_iff : WellBracketed
    (first ++ turns addresses) ↔ .started ∉ first ++ turns addresses := by
  constructor
  · intro h hstarted
    obtain ⟨before, after, htalk, -⟩ := h.shutdown hstarted
    apply shutdown_not_mem_opening hfirst addresses
    rw [htalk]
    simp
  · intro h
    have hbalanced := balanced_opening hfirst addresses []
    rw [List.append_nil] at hbalanced
    exact ⟨hbalanced, fun hstarted => absurd hstarted h⟩

end

/-! ### Starting and stopping -/

/-- The task starts the server at most once, and says nothing else. -/
def Starts {α : Type} (flow : Flow α) : Prop :=
  ∀ s, ∃ said, (flow.exec s).2.seen Event.of? = s.seen Event.of? ++ said ∧ Opening said

namespace Starts

variable {α β : Type}

private theorem of_quiet {flow : Flow α} (h : Quiet Event.of? flow) : Starts flow := by
  intro s
  exact ⟨[], by rw [h s, List.append_nil], .inl rfl⟩

private theorem after {flow : Flow α} {next : α → Flow β} (h : Quiet Event.of? flow) (hnext : ∀ a, Starts (next a)) :
    Starts (flow >>= next) := by
  intro s
  have hs := h s
  rcases hexec : flow.exec s with ⟨e | a, s₁⟩ <;> rw [hexec] at hs
  · rw [exec_bind_of_error hexec]
    exact ⟨[], by rw [hs, List.append_nil], .inl rfl⟩
  · obtain ⟨said, hsaid, hcases⟩ := hnext a s₁
    rw [exec_bind_of_ok hexec]
    exact ⟨said, by rw [hsaid, hs], hcases⟩

private theorem before {flow : Flow α} {next : α → Flow β} (h : Starts flow) (hnext : ∀ a, Quiet Event.of? (next a)) :
    Starts (flow >>= next) := by
  intro s
  obtain ⟨said, hsaid, hcases⟩ := h s
  refine ⟨said, ?_, hcases⟩
  rcases hexec : flow.exec s with ⟨e | a, s₁⟩ <;> rw [hexec] at hsaid
  · rw [exec_bind_of_error hexec]
    exact hsaid
  · rw [exec_bind_of_ok hexec, hnext a s₁]
    exact hsaid

private theorem attempt {flow : Flow α} (h : Starts flow) : Starts flow.attempt := h

end Starts

private theorem Event.of?_eq_none {name : String}
    (h : name ∉ ["server.start", "document.open", "document.close", "shutdown"])
    (parts : List Value) (named : List (String × Value)) (receiver : Value) :
    of? ⟨name, parts, named, receiver⟩ = none := by
  simp only [List.mem_cons, List.not_mem_nil, or_false, not_or] at h
  simp [of?, h]

private theorem starts_call (parts : List Value) (named : List (String × Value)) :
    Starts (Flow.call "server.start" parts named) := by
  intro s
  obtain ⟨o, answers, replies, hexec⟩ := exists_exec_call "server.start" parts named s
  refine ⟨[.started], ?_, .inr rfl⟩
  rw [hexec, Session.seen, List.filterMap_append]
  rfl

private theorem quiet_programsOf (environment : Path) : Quiet Event.of? (Server.programsOf environment) := by
  refine Along.get_bind fun s => (Along.forIn (fun folder _ => ?_) _ _).bind fun _ => Along.pure _
  exact (reads_isFile folder).along.bind fun found =>
    Along.ite ((Along.throw _).bind fun _ => Along.pure _) (Along.pure _)

private theorem starts_launch (server : Server) : Starts server.launch := by
  have hcall : ∀ parts named, Starts (Flow.call "server.start" parts named >>= fun _ => pure ()) := fun parts named =>
    (starts_call parts named).before fun _ => Along.pure ()
  rw [Server.launch]
  split
  · exact .of_quiet (Along.throw _)
  · refine .after (fun _ => rfl) fun s => .after (reads_pathExists _).along fun found => ?_
    -- with an environment of its own or without, the last thing that happens is the call
    cases found with
    | true => exact .after (quiet_programsOf _) fun programs => hcall _ _
    | false => exact hcall _ _

private theorem quiet_address (path : Path) : Quiet Event.of? (Server.address path) := fun _ => rfl

private theorem quiet_introduce (server : Server) (config : Config) : Quiet Event.of? (server.introduce config) := by
  refine (reads_ofOutcome _).along.bind fun input => (reads_isDirectory input).along.bind fun found => ?_
  refine (quiet_replyTo _ _).bind fun number => (quiet_address _).bind fun root => ?_
  exact (quiet_call (Event.of?_eq_none (by decide) _ _ _)).bind fun _ => Along.pure ()

private theorem quiet_awaitCapability (naps : Nat) : Quiet Event.of? (Server.awaitCapability naps) := by
  induction naps with
  | zero =>
    refine (quiet_replyTo _ _).bind fun found => ?_
    split
    · exact Along.pure _
    · exact Along.throw _
  | succ naps ih =>
    refine (quiet_replyTo _ _).bind fun found => ?_
    split
    · exact Along.pure _
    · exact (quiet_note (Event.of?_eq_none (by decide) _ _ _)).bind fun _ => ih

private theorem starts_start (server : Server) (config : Config) : Starts (server.start config) := by
  have hprepare : Starts (server.prepare config) := (starts_launch server).before fun _ =>
    (quiet_introduce server config).bind fun _ => quiet_awaitCapability _
  have hattempt : Starts ((server.prepare config).attempt >>= fun _ => pure ()) :=
    hprepare.attempt.before fun _ => Along.pure ()
  refine .after (quiet_replyTo _ _) fun alive => ?_
  split
  · exact .after (Along.throw _) fun _ => hattempt
  · exact hattempt

private theorem exec_stop (s : Session) : ∃ s', Server.stop.exec s = (.ok (), s') ∧
    s'.seen Event.of? = s.seen Event.of? ++ [.shutdown] := by
  refine ⟨{ s with calls := s.calls ++ [⟨"shutdown", [.null], [], .null⟩] ++ [⟨"exit", [.null], [], .null⟩] ++
    [⟨"stop", [], [], .null⟩] }, rfl, ?_⟩
  simp only [Session.seen, List.filterMap_append, List.append_assoc]
  rfl

/-! ### Documents -/

def addressAt (home : String) (path : Path) : String :=
  "file://" ++ (Path.mk (path.absolute home).anchor ((path.absolute home).parts.map Server.addressPart)).toString

private theorem exec_address (path : Path) (s : Session) :
    (Server.address path).exec s = (.ok (addressAt s.home path), s) := rfl

/-- The request for the transpilation of the document was the last that was done, and it failed. -/
def LeftOpen {α : Type} (result : Outcome α × Session) (address : String) : Prop :=
  ∃ path s e, (Server.address path).exec s = (.ok address, s) ∧
    (Server.requestTranspilation path).exec s = (.error e, result.2) ∧ result.1 = .error e

/-- Whatever the task says is about documents that are opened and closed in turn, except that the last one may be left
open. -/
def Converses {α : Type} (flow : Flow α) : Prop :=
  ∀ s, ∃ addresses rest, (flow.exec s).2.seen Event.of? = s.seen Event.of? ++ (turns addresses ++ rest) ∧
    (rest = [] ∨ ∃ address, rest = [.opened address] ∧ LeftOpen (flow.exec s) address)

namespace Converses

variable {α β : Type}

private theorem of_quiet {flow : Flow α} (h : Quiet Event.of? flow) : Converses flow := by
  intro s
  exact ⟨[], [], by rw [h s]; exact (List.append_nil _).symm, .inl rfl⟩

/-- It is enough to know how a task goes on after results that it has. -/
private theorem bind_of_exec {flow : Flow α} {next : α → Flow β} (h : Converses flow)
    (hnext : ∀ s a s', flow.exec s = (.ok a, s') → Converses (next a)) : Converses (flow >>= next) := by
  intro s
  obtain ⟨addresses, rest, hseen, hrest⟩ := h s
  rcases hexec : flow.exec s with ⟨e | a, s₁⟩ <;> rw [hexec] at hseen hrest
  · -- the failure is that of the whole, and so is the document that it left open
    rw [exec_bind_of_error hexec]
    refine ⟨addresses, rest, hseen, ?_⟩
    rcases hrest with hnil | ⟨address, hopened, path, s₀, e', haddress, hrequest, he⟩
    · exact .inl hnil
    · cases he
      exact .inr ⟨address, hopened, path, s₀, e, haddress, hrequest, rfl⟩
  · have hnil : rest = [] := by
      rcases hrest with hnil | ⟨address, -, path, s₀, e', -, -, he⟩
      · exact hnil
      · cases he
    obtain ⟨others, last, hseen', hlast⟩ := hnext s a s₁ hexec s₁
    rw [exec_bind_of_ok hexec]
    refine ⟨addresses ++ others, last, ?_, hlast⟩
    rw [hseen', hseen, hnil, List.append_nil, turns_append, List.append_assoc, List.append_assoc]

private theorem bind {flow : Flow α} {next : α → Flow β} (h : Converses flow) (hnext : ∀ a, Converses (next a)) :
    Converses (flow >>= next) :=
  h.bind_of_exec fun _ a _ _ => hnext a

private theorem mapM {task : α → Flow β} (h : ∀ a, Converses (task a)) (items : List α) : Converses
    (items.mapM task) := by
  induction items with
  | nil => exact of_quiet (Along.pure [])
  | cons a items ih =>
    rw [List.mapM_cons]
    exact (h a).bind fun b => ih.bind fun bs => of_quiet (Along.pure (b :: bs))

end Converses

private theorem exec_openDocument (path : Path) (text : String) (s : Session) :
    ∃ s', (Server.openDocument path text).exec s = (.ok (), s') ∧ s'.home = s.home ∧
      s'.seen Event.of? = s.seen Event.of? ++ [.opened (addressAt s.home path)] := by
  refine ⟨{ s with calls := s.calls ++ [⟨"document.open", _, [], .null⟩] }, rfl, rfl, ?_⟩
  rw [Session.seen, List.filterMap_append]
  rfl

private theorem exec_closeDocument (path : Path) (s : Session) :
    ∃ s', (Server.closeDocument path).exec s = (.ok (), s') ∧
      s'.seen Event.of? = s.seen Event.of? ++ [.closed (addressAt s.home path)] := by
  refine ⟨{ s with calls := s.calls ++ [⟨"document.close", _, [], .null⟩] }, rfl, ?_⟩
  rw [Session.seen, List.filterMap_append]
  rfl

private theorem quiet_requestTranspilation (path : Path) : Quiet Event.of? (Server.requestTranspilation path) :=
  (quiet_address path).bind fun _ => quiet_call (Event.of?_eq_none (by decide) _ _ _)

private theorem home_requestTranspilation (path : Path) (s : Session) :
    ((Server.requestTranspilation path).exec s).2.home = s.home := by
  rw [Server.requestTranspilation, exec_bind_of_ok (exec_address path s)]
  obtain ⟨o, answers, replies, h⟩ := exists_exec_call "transpile"
    [.map [("uri", .text (addressAt s.home path)), ("language_id", Server.language)]] [] s
  exact congrArg (fun result => result.2.home) h

/-- A document is closed again unless the request for its transpilation fails. -/
theorem converses_transpile (text : String) (path : Path) : Converses (Server.transpile text path) := by
  intro s
  obtain ⟨s₁, hopen, hhome, hseen⟩ := exec_openDocument path text s
  have hseen₂ := quiet_requestTranspilation path s₁
  have hhome₂ := home_requestTranspilation path s₁
  rw [Server.transpile, exec_bind_of_ok hopen]
  rcases hrequest : (Server.requestTranspilation path).exec s₁ with ⟨e | answer, s₂⟩ <;>
    rw [hrequest] at hseen₂ hhome₂
  · rw [exec_bind_of_error hrequest]
    refine ⟨[], [.opened (addressAt s.home path)], hseen₂.trans hseen, .inr ⟨_, rfl, path, s₁, e, ?_, hrequest, rfl⟩⟩
    rw [exec_address, hhome]
  · obtain ⟨s₃, hclose, hseen₃⟩ := exec_closeDocument path s₂
    rw [exec_bind_of_ok hrequest, exec_bind_of_ok hclose]
    refine ⟨[addressAt s.home path], [], ?_, .inl rfl⟩
    -- what is left reads the answer of the server, which says nothing more
    have hread : ∀ {γ : Type} (read : Value → Outcome γ) (items : List Value),
        Quiet Event.of? (items.mapM fun v => Flow.ofOutcome (read v)) := fun read items =>
      (reads_mapM (fun v => reads_ofOutcome (read v)) items).along
    rw [((hread _ _).bind fun edits => (hread _ _).bind fun remarks => Along.pure _) s₃, hseen₃, hhome₂, hseen₂, hseen,
      hhome, List.append_assoc]
    rfl

/-! ### Files -/

namespace Reporting

variable {α β : Type}

def Quiet (task : Reporting α) : Prop := Stateful.Along (Session.SameSeen Event.of?) task

private theorem quiet_ofFlow {flow : Flow α} (h : Flow.Quiet Event.of? flow) : (ofFlow flow).Quiet := fun _ s => h s

private theorem quiet_complete {task : Reporting Unit} (h : task.Quiet) (problems : List Problem) :
    Flow.Quiet Event.of? (task.complete problems) := by
  intro s
  have hs : (task.exec problems s).2.seen Event.of? = s.seen Event.of? := h problems s
  change ((task.complete problems) s).2.seen Event.of? = _
  rw [complete]
  rcases htask : task.exec problems s with ⟨⟨e | u, found⟩, s₁⟩ <;> rw [htask] at hs <;> exact hs

end Reporting

namespace Target

variable {t : Target} (hvalidate : ∀ validator, t.validator = some validator → ∀ sql,
  Quiet Event.of? (validator.validate t.config sql))

include hvalidate

private theorem quiet_validated (sql : String) : (t.validated sql).Quiet := by
  rw [validated]
  split
  · exact Stateful.Along.pure sql
  · next validator hvalidator =>
    refine (Reporting.quiet_ofFlow (hvalidate validator hvalidator sql)).bind fun verdict => ?_
    split
    · exact Stateful.Along.bind (fun _ _ => rfl) fun _ => Stateful.Along.pure _
    · exact Stateful.Along.pure _

omit hvalidate in
private theorem quiet_writeTo (output : Path) (text : String) : (Reporting.ofFlow (Flow.writeText output text)).Quiet :=
  Reporting.quiet_ofFlow (quiet_change _ _)

private theorem quiet_writeFile (name content : String) : (t.writeFile name content).Quiet := by
  rw [writeFile_eq]
  exact Stateful.Along.ite ((quiet_validated hvalidate content).bind (quiet_writeTo _))
    ((Stateful.Along.pure content).bind (quiet_writeTo _))

private theorem quiet_writePart (part : Mail.Message) : (t.writePart part).Quiet := by
  rw [writePart]
  split
  · refine (Reporting.quiet_ofFlow (reads_ofOutcome _).along).bind fun name? => ?_
    refine (Reporting.quiet_ofFlow (reads_ofOutcome _).along).bind fun content => ?_
    split
    · exact quiet_writeFile hvalidate _ content
    · exact Stateful.Along.pure ()
  · exact Stateful.Along.pure ()

private theorem quiet_writeText (code source : String) : (t.writeText code source).Quiet := by
  have hget : (get : Reporting (List Problem)).Quiet := fun _ _ => rfl
  refine hget.bind fun problems => Stateful.Along.ite ?_ (Stateful.Along.ite ?_ ?_)
  · exact (Stateful.Along.pure source).bind (quiet_writeTo _)
  · exact (quiet_validated hvalidate code).bind (quiet_writeTo _)
  · exact (Stateful.Along.pure code).bind (quiet_writeTo _)

private theorem quiet_write (codecs : Text.Codecs) (code source : String) : (t.write codecs code source).Quiet := by
  rw [write]
  split
  · refine (Reporting.quiet_ofFlow (reads_ofOutcome _).along).bind fun message => ?_
    exact Stateful.Along.forM (quiet_writePart hvalidate) _
  · exact quiet_writeText hvalidate code source

end Target

/-! ### Runs -/

namespace Job

/-- What is known of a run: reading and validating say nothing, and the engine speaks about documents. -/
structure Discreet (job : Job) : Prop where
  reads : ∀ file xml, Quiet Event.of? (job.read file xml)
  transpiles : ∀ source target text file, Converses (job.engine.transpile source target text file)
  validates : ∀ validator, job.validator = some validator → ∀ sql,
    Quiet Event.of? (validator.validate job.config sql)

namespace Discreet

variable {job : Job}

section

variable (hjob : job.Discreet)

include hjob

private theorem processFile (input folder output : Path) : Converses (job.processFile input folder output) := by
  rw [Job.processFile]
  dsimp only
  split
  · exact .of_quiet (Along.pure _)
  · refine (Converses.of_quiet (hjob.reads _ _)).bind fun source => (hjob.transpiles _ _ _ _).bind fun result => ?_
    refine Converses.of_quiet ((quiet_change _ _).bind fun _ => ?_)
    exact (Reporting.quiet_complete (Target.quiet_write hjob.validates _ _ _) _).bind fun _ => Along.pure _

private theorem processFiles (folder : Path) (files : List Path) : Converses (job.processFiles folder files) := by
  induction files with
  | nil => exact .of_quiet (Along.pure _)
  | cons file files ih =>
    rw [Job.processFiles]
    split
    · exact ih
    · exact (hjob.processFile _ _ _).bind fun _ => ih.bind fun _ => .of_quiet (Along.pure _)

private theorem processFolder (root output : Path) (fuel : Nat) (folder : Path) :
    Converses (job.processFolder root output fuel folder) := by
  induction fuel generalizing folder with
  | zero => exact .of_quiet (Along.pure _)
  | succ fuel ih =>
    rw [Job.processFolder]
    refine (Converses.of_quiet (reads_listDirectory folder).along).bind fun entries => ?_
    refine (Converses.of_quiet (reads_filterM reads_isDirectory entries).along).bind fun folders => ?_
    refine (Converses.of_quiet (reads_filterM reads_isFile entries).along).bind fun files => ?_
    refine (hjob.processFiles _ files).bind fun done => ?_
    exact (Converses.mapM ih folders).bind fun inner => .of_quiet (Along.pure _)

private theorem process : Converses job.process := by
  refine (Converses.of_quiet (reads_ofOutcome _).along).bind fun input => ?_
  refine (Converses.of_quiet (reads_isDirectory input).along).bind fun isFolder => ?_
  cases isFolder with
  | true =>
    refine (Converses.of_quiet (quiet_change _ _)).bind fun _ => ?_
    have hget : Quiet Event.of? (get : Flow Session) := fun _ => rfl
    exact (Converses.of_quiet hget).bind fun s => hjob.processFolder _ _ _ _
  | false =>
    refine (Converses.of_quiet (reads_isFile input).along).bind fun isFile => ?_
    cases isFile with
    | true =>
      rw [if_pos rfl, Job.processInputFile]
      split
      · exact .of_quiet (Along.pure _)
      · refine (Converses.of_quiet (quiet_change _ _)).bind fun _ => ?_
        exact (hjob.processFile _ _ _).bind fun done => .of_quiet (Along.pure _)
    | false => exact .of_quiet (Along.throw _)

end

end Discreet

end Job

private theorem quiet_logProblems (config : Config) (problems : List Problem) :
    Quiet Event.of? (logProblems config problems) := by
  rw [logProblems]
  split
  · next log _ =>
    have happend : Quiet Event.of? (Flow.appendText log (String.join (problems.map fun p => p.logLine ++ "\n"))) :=
      (reads_inspect _ _ _).along.bind fun old => quiet_change _ _
    split
    · exact Along.pure none
    · exact happend.bind fun _ => Along.pure _
  · exact Along.pure none

/-- What is known of the makers of a run: neither reading nor making a validator and using it says anything. -/
structure Unheard (config : Config) (validator : Flow Validator) (read : Path → Bool → Flow String) : Prop where
  reads : ∀ file xml, Quiet Event.of? (read file xml)
  makes : Quiet Event.of? validator
  validates : ∀ s made s', validator.exec s = (.ok made, s') → ∀ sql, Quiet Event.of? (made.validate config sql)

private theorem converses_execute (server : Server) {config : Config} {validator : Flow Validator}
    {read : Path → Bool → Flow String} (h : Unheard config validator read) :
    Converses (execute config server.engine validator read) := by
  have hrest : ∀ made : Option Validator, (∀ v, made = some v → ∀ sql, Quiet Event.of? (v.validate config sql)) →
      Converses (Job.process ⟨config, server.engine, made, read⟩ >>= fun summary =>
        logProblems config summary.problems >>= fun log => pure (Status.mk summary log)) := by
    intro made hmade
    have hjob : Job.Discreet ⟨config, server.engine, made, read⟩ :=
      ⟨h.reads, fun _ _ text file => converses_transpile text file, hmade⟩
    refine hjob.process.bind fun summary => ?_
    exact .of_quiet ((quiet_logProblems _ _).bind fun _ => Along.pure _)
  rw [execute]
  split
  · refine (Converses.of_quiet (Along.throw _)).bind_of_exec fun s u s' hexec => ?_
    cases hexec
  split
  · refine (Converses.of_quiet (Along.pure none)).bind_of_exec fun s made s' hexec => hrest made fun v hv => ?_
    cases hexec
    cases hv
  · rw [map_eq_pure_bind]
    refine (Converses.of_quiet (h.makes.bind fun v => Along.pure _)).bind_of_exec fun s made s' hexec => ?_
    obtain ⟨v, s₁, hmake, hv⟩ := exists_of_exec_bind hexec
    cases hv
    refine hrest (some v) fun v' hv' => ?_
    cases hv'
    exact h.validates s v s' hmake

/-- A run says that it starts the server, if it does, then goes through documents, and shuts the server down if all of
that ended well. -/
private theorem exists_talk_run (server : Server) {config : Config} {validator : Flow Validator}
    {read : Path → Bool → Flow String} (h : Unheard config validator read) (s : Session) :
    ∃ first addresses last, ((run config server.engine validator read).exec s).2.seen Event.of? =
        s.seen Event.of? ++ (first ++ turns addresses ++ last) ∧ Opening first ∧
      ((∃ status, ((run config server.engine validator read).exec s).1 = .ok status) ∧ last = [.shutdown] ∨
        (∃ e, ((run config server.engine validator read).exec s).1 = .error e) ∧
        (last = [] ∨ ∃ address, last = [.opened address] ∧
          LeftOpen ((run config server.engine validator read).exec s) address)) := by
  obtain ⟨first, hseen, hfirst⟩ := starts_start server config s
  have hstart : server.engine.start config = server.start config := rfl
  rw [run, hstart]
  rcases hexec : (server.start config).exec s with ⟨e | u, s₁⟩ <;> rw [hexec] at hseen
  · rw [exec_bind_of_error hexec]
    exact ⟨first, [], [], by simpa [turns] using hseen, hfirst, .inr ⟨⟨e, rfl⟩, .inl rfl⟩⟩
  · rw [exec_bind_of_ok hexec]
    obtain ⟨addresses, rest, hseen₂, hrest⟩ := converses_execute server h s₁
    rcases hexecute : (execute config server.engine validator read).exec s₁ with ⟨e | status, s₂⟩ <;>
      rw [hexecute] at hseen₂ hrest
    · rw [exec_bind_of_error hexecute]
      refine ⟨first, addresses, rest, ?_, hfirst, .inr ⟨⟨e, rfl⟩, ?_⟩⟩
      · rw [hseen₂, hseen, List.append_assoc, List.append_assoc]
      · exact hrest
    · have hnil : rest = [] := by
        rcases hrest with hnil | ⟨address, -, path, s₀, e', -, -, he⟩
        · exact hnil
        · cases he
      obtain ⟨s₃, hstop, hseen₃⟩ := exec_stop s₂
      have hstop' : server.engine.stop.exec s₂ = (.ok (), s₃) := hstop
      rw [exec_bind_of_ok hexecute, exec_bind_of_ok hstop']
      refine ⟨first, addresses, [.shutdown], ?_, hfirst, .inl ⟨⟨status, rfl⟩, rfl⟩⟩
      rw [exec_pure, hseen₃, hseen₂, hseen, hnil, List.append_nil]
      simp only [List.append_assoc]

/-- The server is shut down if and only if the run returns, and documents are opened and closed in turn unless the run
ends with a request that failed.  So what a run says is well bracketed if it returns; a run that fails has to have
neither started the server nor left a document open. -/
theorem run_wellBracketed_iff (server : Server) {config : Config} {validator : Flow Validator}
    {read : Path → Bool → Flow String} (h : Unheard config validator read) (s : Session) :
    ∃ talk, ((run config server.engine validator read).exec s).2.seen Event.of? = s.seen Event.of? ++ talk ∧
      (WellBracketed talk ↔ (∃ status, ((run config server.engine validator read).exec s).1 = .ok status) ∨
        .started ∉ talk ∧ ∀ address, talk.getLast? ≠ some (.opened address)) ∧
      (.shutdown ∈ talk ↔ ∃ status, ((run config server.engine validator read).exec s).1 = .ok status) ∧
      (balanced none talk = false ↔ ∃ address, talk.getLast? = some (.opened address)) ∧
      ∀ address, talk.getLast? = some (.opened address) →
        LeftOpen ((run config server.engine validator read).exec s) address := by
  obtain ⟨first, addresses, last, hseen, hfirst, hend⟩ := exists_talk_run server h s
  have hshutdown := shutdown_not_mem_opening hfirst addresses
  have hlast := getLast?_opening_ne hfirst addresses
  have hbalanced := balanced_opening hfirst addresses
  have hreturned := wellBracketed_shutdown hfirst addresses
  have hfailed := wellBracketed_turns_iff hfirst addresses
  generalize first ++ turns addresses = said at hseen hshutdown hlast hbalanced hreturned hfailed
  refine ⟨said ++ last, hseen, ?_⟩
  rw [hbalanced]
  rcases hend with ⟨⟨status, hok⟩, rfl⟩ | ⟨⟨e, herror⟩, rfl | ⟨address, rfl, hopen⟩⟩
  · simp [hreturned, hok, balanced]
  · simp [hfailed, hlast, hshutdown, herror, balanced]
  · -- the document that is left open is the last thing that was said
    have hnot : ¬ WellBracketed (said ++ [.opened address]) := by
      intro hbracketed
      have hdocuments := hbracketed.documents
      rw [hbalanced] at hdocuments
      cases hdocuments
    simp [hnot, hshutdown, herror, balanced, hopen]

/-- Asking the workspace to explain a query says nothing to the server. -/
private theorem quiet_validate (config : Config) (sql : String) : Quiet Event.of? (Validation.validate config sql) := by
  have hfetch : ∀ parts named, Quiet Event.of? (Flow.call "fetch" parts named) := fun parts named =>
    quiet_call (Event.of?_eq_none (by decide) _ _ _)
  have hexplain : ∀ catalog schema, Quiet Event.of? (Validation.explain sql catalog schema) := by
    intro catalog schema
    refine (hfetch _ _).attempt.bind fun answer => ?_
    split
    · refine Along.ite (Along.pure _) ?_
      exact (reads_ofOutcome _).along.bind fun found => Along.pure _
    · exact Along.pure _
    · exact Along.throw _
  refine (hexplain _ _).bind fun found => ?_
  split
  · exact Along.pure _
  · exact Along.pure _
  · exact Along.pure _

private theorem unheard_workspace (config : Config) :
    Unheard config (pure .workspace) fun file _ => Flow.readText file where
  reads := fun file _ => (reads_readText file).along
  makes := Along.pure _
  validates := by
    intro s made s' hexec sql
    cases hexec
    exact quiet_validate config sql

def smallServer : Server where
  manifest := ⟨.ofString "m.yml", .text "m", .list [.text "d"], .map [], .list [.text "m"], [], .null⟩
  folder := .ofString "m"
  clientName := "c"
  clientVersion := "1"

def smallConfig : Config :=
  { inputSource := some "in", outputFolder := some "out", sourceDialect := some "d", skipValidation := .bool true }

def smallSession (reply : Reply) : Session where
  home := "/w"
  files := ⟨[(["in"], .directory), (["in", "a.sql"], .file (.text "A")), (["in", "b.sql"], .file (.text "B"))]⟩
  reaction := fun call =>
    if call.name = "server.capability" then some (.value (.bool true))
    else if call.name = "transpile" then some reply
    else none

/-- Both files are opened and closed in turn, and the server is shut down. -/
theorem run_wellBracketed_two_files :
    ((run smallConfig smallServer.engine (pure .workspace)).exec (smallSession (.value .null))).2.seen Event.of? =
      [.started, .opened "file:///w/in/a.sql", .closed "file:///w/in/a.sql", .opened "file:///w/in/b.sql",
        .closed "file:///w/in/b.sql", .shutdown] ∧
    WellBracketed [.started, .opened "file:///w/in/a.sql", .closed "file:///w/in/a.sql",
      .opened "file:///w/in/b.sql", .closed "file:///w/in/b.sql", .shutdown] := by
  obtain ⟨talk, hseen, hiff, hshutdown, -⟩ :=
    run_wellBracketed_iff smallServer (unheard_workspace smallConfig) (smallSession (.value .null))
  have htalk : ((run smallConfig smallServer.engine (pure .workspace)).exec (smallSession (.value .null))).2.seen
      Event.of? = [.started, .opened "file:///w/in/a.sql", .closed "file:///w/in/a.sql",
        .opened "file:///w/in/b.sql", .closed "file:///w/in/b.sql", .shutdown] := by decide +kernel
  have hempty : (smallSession (.value .null)).seen Event.of? = [] := rfl
  rw [hempty, List.nil_append, htalk] at hseen
  rw [← hseen] at hiff hshutdown
  exact ⟨htalk, hiff.2 (.inl (hshutdown.1 (by decide)))⟩

def takenSession : Session :=
  { smallSession (.value .null) with
    files := ⟨[(["in"], .directory), (["in", "a.sql"], .file (.text "A")), (["out"], .directory),
      (["out", "a.sql"], .directory)]⟩ }

/-- A request that fails leaves its document open, and a result that cannot be written leaves the server running. -/
theorem run_not_wellBracketed_failing :
    (((run smallConfig smallServer.engine (pure .workspace)).exec
        (smallSession (.failure (.broken "refused")))).2.seen Event.of? = [.started, .opened "file:///w/in/a.sql"] ∧
      ¬ WellBracketed [.started, .opened "file:///w/in/a.sql"]) ∧
    (((run smallConfig smallServer.engine (pure .workspace)).exec takenSession).2.seen Event.of? =
        [.started, .opened "file:///w/in/a.sql", .closed "file:///w/in/a.sql"] ∧
      ¬ WellBracketed [.started, .opened "file:///w/in/a.sql", .closed "file:///w/in/a.sql"]) := by
  refine ⟨⟨by decide +kernel, fun h => ?_⟩, ⟨by decide +kernel, fun h => ?_⟩⟩
  · exact absurd h.documents (by decide)
  · have hiff := wellBracketed_turns_iff (.inr rfl) ["file:///w/in/a.sql"]
    exact hiff.1 h (by decide)

end WarehouseMigration.Transpile
