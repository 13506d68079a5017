import WarehouseMigration.Transpiler.Installed

/-!
# Checking a configuration

The configuration of a transpilation comes from three sources: the command line, the stored configuration and the
operator.  The command line wins over the stored configuration, and the operator is asked only for what is missing.  A
value that is not valid stops the check, with a message that tells its source.
-/

namespace WarehouseMigration.Transpile

open Transpiler

structure Checker where
  config : Config
  installed : Installed
  /-- the source dialect from the command line, which can only be checked together with the transpiler -/
  dialectOverride : Option String := none

abbrev Check (α : Type) := ExceptT Failure (StateT Checker (StateM Session)) α

namespace Check

/-- A task that does not look at the configuration. -/
def ofFlow (flow : Flow α) : Check α := fun checker session =>
  let (outcome, session) := flow.exec session
  ((outcome, checker), session)

def exec (step : Check α) (checker : Checker) (session : Session) : (Outcome α × Checker) × Session :=
  step.run checker session

def update (change : Config → Config) : Check Unit := modify fun c => { c with config := change c.config }

def requirePath (path : Path) (message : String) : Check Unit := do
  unless ← ofFlow (Flow.pathExists path) do throw (.invalid message)

/-! ### The command line -/

variable (given : Option String)

def useTranspiler : Check Unit := do
  if let some path := given then
    requirePath (.ofString path) s!"Invalid path for '--transpiler-config-path', does not exist: {path}"
    update ({ · with transpiler := some path })

def useSourceDialect : Check Unit := do
  if given.isSome then modify fun c => { c with dialectOverride := given }

def useInputSource : Check Unit := do
  if let some path := given then
    requirePath (.ofString path) s!"Invalid path for '--input-source', does not exist: {path}"
    update ({ · with inputSource := some path })

def useOutputFolder : Check Unit := do
  if let some path := given then
    requirePath (Path.ofString path).parent s!"Invalid path for '--output-folder', parent does not exist for: {path}"
    update ({ · with outputFolder := some path })

def useErrorFile : Check Unit := do
  if let some path := given then
    requirePath (Path.ofString path).parent s!"Invalid path for '--error-file-path', parent does not exist: {path}"
    update ({ · with errorFile := some path })

def useSkipValidation : Check Unit := do
  if let some word := given then
    let lower := Text.lower word
    if lower != "true" && lower != "false" then
      throw (.invalid s!"Invalid value for '--skip-validation': {Text.quote word} must be 'true' or 'false'.")
    update ({ · with skipValidation := .bool (lower == "true") })

def useCatalog : Check Unit := do
  if let some name := given.filter (· != "") then update ({ · with catalog := .text name })

def useSchema : Check Unit := do
  if let some name := given.filter (· != "") then update ({ · with schema := .text name })

/-! ### The check -/

def checkInputSource : Check Unit := do
  match (← get).config.inputSource with
  | some path => requirePath (.ofString path) s!"Invalid input source path configured, does not exist: {path}"
  | none =>
    let path := Text.strip (← ofFlow (Flow.questionText "Enter input SQL path (directory/file)"))
    requirePath (.ofString path) s!"Invalid input source, path does not exist: {path}"
    update ({ · with inputSource := some path })

def checkOutputFolder : Check Unit := do
  match (← get).config.outputFolder with
  | some path =>
    requirePath (Path.ofString path).parent s!"Invalid output folder configured, parent does not exist for: {path}"
  | none =>
    let path := Text.strip (← ofFlow (Flow.questionText "Enter output folder path (directory)"))
    requirePath (Path.ofString path).parent s!"Invalid output folder path, parent does not exist for: {path}"
    update ({ · with outputFolder := some path })

def checkErrorFile : Check Unit := do
  if let some path := (← get).config.errorFile then
    requirePath (Path.ofString path).parent s!"Invalid error file path configured, parent does not exist for: {path}"

def findTranspiler (dialect : String) : Check (Option Manifest) := do
  let installed := (← get).installed
  let name ← match ← ofFlow (installed.withDialect dialect) with
    | [] => return none
    | [name] => pure name
    | names => do pure (← ofFlow (Flow.choice "Select the transpiler:" (names.map .text))).shown
  let path ← ofFlow (installed.manifestPath name)
  update ({ · with transpiler := some path.toString })
  return some (← ofFlow (Manifest.load path))

def settleDialect (dialect : String) (transpiler : Option Manifest) (complaint : String) : Check Manifest := do
  match transpiler with
  | none =>
    match ← findTranspiler dialect with
    | none =>
      let known := Text.join ", " (← ofFlow (← get).installed.dialects)
      throw (.invalid s!"{complaint}: {Text.quote dialect} (supported dialects: {known})")
    | some found =>
      update ({ · with sourceDialect := some dialect })
      return found
  | some m =>
    if !(← ofFlow (Flow.ofOutcome (m.hasDialect dialect))) then
      let known := Text.join ", " (← ofFlow (Flow.ofOutcome m.dialects.asTexts))
      throw (.invalid s!"Invalid value for '--source-dialect': {Text.quote dialect} must be one of: {known}")
    update ({ · with sourceDialect := some dialect })
    return m

def askDialect : Check Manifest := do
  let dialect ← match ← ofFlow (← get).installed.dialects with
    | [] => throw (.invalid
        "No transpilers are available, install using 'install-transpile' or use --transpiler-conf-path'.")
    | [dialect] => pure dialect
    | dialects => do pure (← ofFlow (Flow.choice "Select the source dialect:" (dialects.map .text))).shown
  let some m ← findTranspiler dialect
    | throw (.broken "No transpiler engine available for a supported dialect; configuration is invalid.")
  update ({ · with sourceDialect := some dialect })
  return m

def checkTranspiler : Check Manifest := do
  let transpiler ← match (← get).config.transpiler with
    | some path => do
      requirePath (.ofString path) s!"Error: Invalid value for '--transpiler-config-path': '{path}', file does not exist."
      pure (some (← ofFlow (Manifest.load (.ofString path))))
    | none => pure none
  match (← get).dialectOverride, (← get).config.sourceDialect with
  | some dialect, _ => settleDialect dialect transpiler "Invalid value for '--source-dialect'"
  | none, some dialect => settleDialect dialect transpiler "Invalid configured source dialect"
  | none, none => askDialect

def checkSettings (m : Manifest) : Check Unit := do
  let config := (← get).config
  if let .map given := config.options then
    let settings ← (m.settingsFor (config.sourceDialect.getD "")).mapM fun s => do
      let flag := s.flag.shown
      match given.lookup flag with
      | some v => return (flag, v)
      | none => return (flag, ← ofFlow s.obtain)
    update ({ · with options := .map (Sequence.lastOf settings) })

def check : Check (Config × Manifest) := do
  checkInputSource
  checkOutputFolder
  checkErrorFile
  let m ← checkTranspiler
  checkSettings m
  return ((← get).config, m)

end Check

end WarehouseMigration.Transpile
