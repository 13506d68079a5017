import WarehouseMigration.Connector.Setup
import WarehouseMigration.Context
import WarehouseMigration.Lineage.Files
import WarehouseMigration.Profiler.Setup
import WarehouseMigration.Sql.Engine
import WarehouseMigration.Transpile.Checker
import WarehouseMigration.Transpile.Run

/-!
# Commands

The commands of the product, each with the arguments of its command line.

A command tells the workspace what it runs and notes how long its parts take.
-/

namespace WarehouseMigration.Telemetry

/-- A value that the client may tell: a word or a version number as it is, and anything else with low lines in place
of the characters that words do not have. -/
def label (isWord isVersion : String → Bool) (value : String) : String :=
  if isWord value || isVersion value then value
  else String.ofList (value.toList.map fun c => if isWord (String.singleton c) then c else '_')

/-- A text with a low line in place of each run of blanks. -/
def joined : List Char → List Char
  | [] => []
  | c :: rest =>
    if !Text.isBlank c then c :: joined rest
    else match rest with
      | d :: _ => if Text.isBlank d then joined rest else '_' :: joined rest
      | [] => ['_']

def timed (place : String) (task : Flow α) : Flow α := do
  let result ← task
  match (Text.split place ".").drop 3 with
  | name :: _ =>
    let seconds ← Flow.now "seconds"
    Flow.notice s!"{Text.capitalize name} took {seconds} seconds"
    return result
  | [] => throw (.noIndex "list index out of range")

end WarehouseMigration.Telemetry

/-! ### Commands -/

namespace WarehouseMigration.Command

structure Tools where
  engine : Transpiler.Manifest → Transpile.Engine
  installed : Transpiler.Installed
  validator : Flow Transpile.Validator
  /-- how a source dialect is told to the workspace -/
  label : String → String
  analysis : Lineage.Analysis
  reachable : String → Value → Flow Bool
  /-- how a failure is told to the workspace -/
  nameOf : Failure → Value
  terminal : Bool

def argument (f : Fields) (name : String) : Option String := (f.get name).shown?

def announce (command : String) : Flow Unit := Context.addAgent "cmd" command

/-! ### Transpiling -/

def overrideClient (overrides : Value) : Flow Unit := do
  if overrides.isSet then
    for name in ["warehouse_id", "cluster_id"] do
      let v := overrides.getD name
      if v.isSet then modify fun s => { s with made := Sequence.put ("client " ++ name) v s.made }

def effectiveSetting (name : String) : Flow Value := do
  let s ← get
  return ((s.made.lookup ("client " ++ name)) <|> s.client.lookup name).getD .null

def runTranspiler (config : Transpile.Config) (engine : Transpile.Engine) (validator : Flow Transpile.Validator) :
    Flow (List Transpile.Status) := do
  announce "execute-transpile"
  overrideClient config.client
  return [← Transpile.run config engine validator]

def transpileSettings (f : Fields) : Transpile.Check (Transpile.Config × Transpiler.Manifest) := do
  Transpile.Check.useTranspiler (argument f "transpiler_config_path")
  Transpile.Check.useSourceDialect (argument f "source_dialect")
  Transpile.Check.useInputSource (argument f "input_source")
  Transpile.Check.useOutputFolder (argument f "output_folder")
  Transpile.Check.useErrorFile (argument f "error_file_path")
  Transpile.Check.useSkipValidation (argument f "skip_validation")
  Transpile.Check.useCatalog (argument f "catalog_name")
  Transpile.Check.useSchema (argument f "schema_name")
  Transpile.Check.check

def settle (check : Transpile.Check α) (checker : Transpile.Checker) : Flow α := fun session =>
  let ((outcome, _), session) := check.exec checker session
  (outcome, session)

def transpile (t : Tools) (f : Fields) : Flow Unit := do
  let stored ← Context.transpileConfig
  announce "execute-transpile"
  let (config, manifest) ← settle (transpileSettings f) ⟨stored.getD {}, t.installed, none⟩
  let some dialect := config.sourceDialect
    | throw (.broken "Source dialect has been validated by this point.")
  let engine := t.engine manifest
  Context.addAgent "transpiler_source_tech" (t.label dialect)
  let plugin ← Flow.ofOutcome engine.name.asText
  Context.addAgent "transpiler_plugin_name" (String.ofList (Telemetry.joined plugin.toList))
  Flow.printLine (Json.render (← runTranspiler config engine t.validator))

/-! ### Comparing -/

def compare (operation : String) : Flow Unit := do
  announce ("execute-" ++ operation)
  Reconcile.launch operation

def configureSecrets : Flow Unit := do Connector.saveConnection (← Connector.chooseSource)

def configureReconcile : Flow Unit := do
  announce "configure-reconcile"
  unless (← Flow.setting "warehouse_id").isSet do Flow.changeSetting "warehouse_id" (← Warehouse.create)
  let _ ← Flow.call "installer" [true]
  let _ ← Flow.call "installer.run" [] [("module", "reconcile")]

/-! ### Other commands -/

def leadsAnywhere (path : String) : Flow Bool := do
  if path == "" then return false
  Flow.recover (Flow.pathExists (.ofString path)) fun _ => some (pure false)

def generateLineage (t : Tools) (f : Fields) : Flow Unit := do
  let path := fun (name : String) => match f.get name with
    | .text s => (pure s : Outcome String)
    | _ => throw (.wrongKind "not a path")
  let input ← Flow.ofOutcome (path "input_source")
  unless ← leadsAnywhere input do
    throw (.invalid s!"Invalid path for '--input-source': Path '{input}' does not exist.")
  let output ← Flow.ofOutcome (path "output_folder")
  unless ← leadsAnywhere output do
    throw (.invalid s!"Invalid path for '--output-folder': Path '{output}' does not exist.")
  let some dialect := argument f "source_dialect"
    | throw (.invalid "Value for '--source-dialect' must be provided.")
  unless Sql.dialects.contains dialect do
    let known := ", ".intercalate Sql.dialects
    throw (.invalid
      s!"Unsupported source dialect provided for '--source-dialect': '{dialect}' (supported: {known})")
  Lineage.generate t.analysis dialect input output

def configureProfiler (t : Tools) : Flow Unit := do
  let source ← Flow.choice "Please select the source system you want to configure" (Profiler.sources.map .text)
  Profiler.configure t.reachable (Text.lower source.shown) (Credentials.file (← get).home "lakebridge")

def installTranspile (t : Tools) (f : Fields) : Flow Unit := do
  let interactive ← Flow.ofOutcome (interactiveMode ((argument f "interactive").getD "auto") t.terminal)
  announce "install-transpile"
  let artifact := f.get "artifact"
  if artifact.isSet then Context.addAgent "artifact-overload" (Path.ofString artifact.shown).name
  let _ ← Flow.call "installer" [interactive]
  let _ ← Flow.call "installer.run" [] [("module", "transpile"), ("artifact", artifact)]

/-- Sets the components up when the program itself is installed: the transpilers that are there are upgraded. -/
def setUp (terminal : Value) : Flow Unit := do
  Context.addAgent "cmd" "install"
  Flow.note "logger.setLevel" ["INFO"]
  let _ ← Flow.call "installer" [terminal]
  unless (← Flow.call "installer.upgrade").isSet do
    Flow.note "logger.debug" ["No existing Lakebridge transpilers detected; assuming fresh installation."]
  Flow.note "logger.info" ["Successfully Setup Lakebridge Components Locally"]
  Flow.note "logger.info"
    ["For more information, please visit https://databrickslabs.github.io/lakebridge/"]

def analyze (t : Tools) (f : Fields) : Flow Unit := do
  let outcome ← Flow.attempt do
    let result ← Flow.call "analyzer.run_analyzer" [f.get "source_directory", f.get "report_file", f.get "source_tech"]
    Context.addAgent "analyzer_source_tech" (← Flow.ofOutcome (result.member "source_system"))
  if let .error e := outcome then Context.addAgent "analyzer_error" (t.nameOf e)
  announce "analyze"
  Flow.ofOutcome outcome

/-- The commands: their names, the arguments that have to be given, those that may be given, and what they do. -/
def all (t : Tools) : List (String × List String × List String × (Fields → Flow Unit)) :=
  [("transpile", [], ["transpiler_config_path", "source_dialect", "input_source", "output_folder", "error_file_path",
      "skip_validation", "catalog_name", "schema_name"], transpile t),
   ("reconcile", [], [], fun _ => compare "reconcile"),
   ("aggregates_reconcile", [], [], fun _ => compare "aggregates-reconcile"),
   ("generate_lineage", ["input_source", "output_folder"], ["source_dialect"], generateLineage t),
   ("configure_secrets", [], [], fun _ => configureSecrets),
   ("configure_database_profiler", [], [], fun _ => configureProfiler t),
   ("install_transpile", [], ["artifact", "interactive"], installTranspile t),
   ("configure_reconcile", [], [], fun _ => configureReconcile),
   ("analyze", [], ["source_directory", "report_file", "source_tech"], analyze t)]

def run (t : Tools) (name : String) (arguments : Value) : Flow Unit := do
  match (all t).lookup name with
  | some (required, optional, act) => act (← Flow.ofOutcome (Fields.ofValue required optional arguments))
  | none => throw (.noMember name)

/-! ### Commands that run in a Java machine -/

def proxyHelp (name : String) : String := s!"Proxy to run {name} in JVM"

def runProxy (root : Path) (compiles : Bool) (arguments : List String) : Flow Value := do
  if compiles then
    let _ ← Flow.call "run" ["mvn", "compile", "-f", root.child "pom.xml"]
  let path ← Flow.readLines (root.child "core/target/classpath.txt")
  let classes := root.child "core/target/scala-2.12/classes"
  let argument :: _ := arguments
    | throw (.noIndex "list index out of range")
  Flow.note "start" ["java", "--class-path", s!"{classes}:{path}", "com.databricks.labs.lakebridge.Main", argument]
  let code ← Flow.consult "wait"
  Flow.note "end"
  return code

end WarehouseMigration.Command
