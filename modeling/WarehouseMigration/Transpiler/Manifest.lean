import WarehouseMigration.SourceFile
import WarehouseMigration.Transpile.Config
import WarehouseMigration.Yaml
import WarehouseMigration.Operator

/-!
# Descriptions of transpilers

A transpiler may ask for settings of its own.  Its description tells how each one is obtained.

Each transpiler comes with a file that names it, lists its dialects and settings and tells how its server is started.
-/

namespace WarehouseMigration.Transpiler

/-- How a setting is obtained. -/
inductive Asking where
  | force
  | question
  | choice
  | confirm
deriving DecidableEq

def Asking.byName : List (String × Asking) :=
  [("FORCE", .force), ("QUESTION", .question), ("CHOICE", .choice), ("CONFIRM", .confirm)]

def Asking.name (a : Asking) : String := ((byName.find? (·.2 = a)).map (·.1)).getD ""

/-- A setting that a transpiler asks for. -/
structure Setting where
  flag : Value
  asking : Asking
  prompt : Value
  choices : Value
  standard : Value

namespace Setting

instance : ToValue Setting := ⟨fun s => .map [("flag", s.flag), ("method", s.asking.name), ("prompt", s.prompt),
  ("choices", s.choices), ("default", s.standard)]⟩

def read (v : Value) : Outcome Setting := do
  if v.entries?.isNone then
    throw (.invalid s!"Invalid transpiler config option, expecting a dict entry, got {v.shown}")
  let required := fun (key : String) => do
    if (v.getD key).isSet then return v.getD key
    else throw (Failure.invalid s!"Missing '{key}' entry in {v.shown}")
  let flag ← required "flag"
  let method ← required "method"
  let asking ← match method with
    | .text name => match Asking.byName.lookup name with
      | some asking => pure asking
      | none => throw (.noKey name)
    | .list _ | .map _ => throw (.wrongKind "not a key")
    | other => throw (.noEntry other.shown)
  let prompt ← required "prompt"
  return ⟨flag, asking, prompt, v.getOr "choices" (.list []), v.getD "default"⟩

def readAll (entries : List (String × Value)) : Outcome (List (String × List Setting)) :=
  entries.mapM fun (dialect, v) => do return (dialect, ← (← v.asItems).mapM read)

def obtain (s : Setting) : Flow Value := do
  match s.asking with
  | .force => return s.standard
  | .confirm => Flow.ask "confirm" [s.prompt]
  | .question =>
    let answer ← Flow.ask "question" [s.prompt] [("default", if s.standard.isSet then s.standard else "None")]
    return if answer == "<none>" then .null else answer
  | .choice => Flow.choice s.prompt (← s.choices.asItems)

end Setting

/-! ### Descriptions of transpilers -/

structure Manifest where
  path : Path
  name : Value
  dialects : Value
  environment : Value
  commandLine : Value
  /-- the settings of each dialect; those under `all` belong to every dialect -/
  settings : List (String × List Setting)
  custom : Value

namespace Manifest

instance : ToValue Manifest := ⟨fun m => .map [("path", m.path), ("remorph", .map [("name", m.name),
  ("dialects", m.dialects), ("env_vars", m.environment), ("command_line", m.commandLine)]),
  ("options", .map (m.settings.map fun (dialect, s) => (dialect, toValue s))), ("custom", m.custom)]⟩

def kindOf : Value → String
  | .null => "NoneType"
  | .bool _ => "bool"
  | .int _ => "int"
  | .float _ => "float"
  | .text _ => "str"
  | .list _ => "list"
  | _ => "dict"

def isEmpty (v : Value) : Outcome Bool := do return (← v.asItems).isEmpty

def read (path : Path) (data : Value) : Outcome Manifest := do
  if data.entries?.isNone then
    throw (.invalid s!"Invalid transpiler config, expecting a dict, got a {kindOf data}")
  let own := data.getD "remorph"
  if own.entries?.isNone then
    throw (.invalid s!"Invalid transpiler config, expecting a 'remorph' dict entry, got {own.shown}")
  let version := own.getOr "version" (.int 0)
  if !(version == .int 1) then throw (.invalid s!"Unsupported transpiler config version: {version.shown}")
  let name := own.getD "name"
  if !name.isSet then throw (.invalid "Missing 'name' entry")
  let dialects := own.getOr "dialects" (.list [])
  if ← isEmpty dialects then throw (.invalid "Missing 'dialects' entry")
  let commandLine := own.getOr "command_line" (.list [])
  if ← isEmpty commandLine then throw (.invalid "Missing 'command_line' entry")
  let options := data.getOr "options" (.map [])
  match options.entries? with
  | none => throw (.invalid s!"Invalid transpiler config, expecting an 'options' dict entry, got {options.shown}")
  | some entries =>
    return { path, name, dialects, environment := own.getOr "environment" (.map []), commandLine,
             settings := ← Setting.readAll entries, custom := data.getOr "custom" (.map []) }

def load (path : Path) : Flow Manifest := do
  Flow.ofOutcome (read path (← Yaml.ofText (← Flow.readLines path)))

def settingsFor (m : Manifest) (dialect : String) : List Setting :=
  (m.settings.lookup "all").getD [] ++ (m.settings.lookup dialect).getD []

def hasDialect (m : Manifest) (dialect : String) : Outcome Bool := m.dialects.holds dialect

def initialOptions (m : Manifest) (config : Transpile.Config) : Value :=
  .map [("remorph", .map [("source-dialect", config.sourceDialect)]), ("options", config.options), ("custom", m.custom)]

end Manifest

/-- Whether a transpiler of a given name can work with a file: some take every file, one also takes the description of
a dbt project, and all others only take SQL. -/
def supportsFile (name : Value) (file : Path) : Bool :=
  if name == .text "Bladebridge" || name == .text "test-transpiler" then true
  else SourceFile.isSql file || name == .text "Morpheus" && SourceFile.isDbtProject file

end WarehouseMigration.Transpiler
