import WarehouseMigration.Transpile.Engine
import WarehouseMigration.Transpile.TextEdit
import WarehouseMigration.Transpiler.Manifest

/-!
# Servers of transpilers

A server tells its client which requests it can answer.  A client only asks for a transpilation once the server has
registered that it can do one.

A transpiler is a language server.  It is started as its description says, told the folder of the code, and then handed
one document at a time: the document is opened, transpiled and closed, and the answer is a list of edits and remarks.
-/

namespace WarehouseMigration.Transpiler

def transpileMethod : String := "document/transpileToDatabricks"

/-- A request that a server can answer. -/
structure Registration where
  id : Nat
  method : String

structure Client where
  stopped : Bool := false
  /-- the server's registration for transpilations -/
  capability : Option Registration := none

namespace Client

def register (c : Client) (registrations : List Registration) : Client :=
  { c with capability := (registrations.reverse.find? (·.method == transpileMethod)).or c.capability }

def request (c : Client) (document : Value) : Flow Value := do
  if c.stopped then throw (.illegalState "Client has been stopped.")
  if c.capability.isNone then
    throw (.illegalState "Client has not yet registered its transpile capability.")
  Flow.call transpileMethod [document]

end Client

/-! ### What a server writes to its error stream -/

/-- The messages in the lines of a server's error stream, and the lines that were not read.  Reading ends with the
stream, behind a line that is cut short, and after `limit` messages. -/
def relay (limit : Option Nat) : List (List Nat) → List String × List (List Nat)
  | [] => ([], [])
  | line :: rest =>
    if limit = some 0 then ([], line :: rest)
    else if line.isEmpty then ([], rest)
    else
      let message := Text.strip (Text.lossy line)
      if line.getLast? = some 0x0A then
        let (messages, unread) := relay (limit.map (· - 1)) rest
        (message :: messages, unread)
      else ([message], rest)

/-! ### Servers of transpilers -/

/-- A server and the client that talks to it. -/
structure Server where
  manifest : Manifest
  folder : Path
  clientName : String
  clientVersion : String
  /-- the character sets, besides the known ones, in which its results may be spelt -/
  codecs : Text.Codecs := fun _ => none

namespace Server

/-- The characters that stand for themselves in an address. -/
def isPlain (b : Nat) : Bool :=
  b < 128 && ((Char.ofNat b).isAlphanum || ['_', '.', '-', '~', '/'].contains (Char.ofNat b))

def escaped (b : Nat) : List Char :=
  let digit := fun n => (Nat.toDigits 16 n).map Char.toUpper
  ['%'] ++ digit (b / 16) ++ digit (b % 16)

def addressPart (s : String) : String :=
  String.ofList ((Text.utf8 s).flatMap fun b => if isPlain b then [Char.ofNat b] else escaped b)

def address (path : Path) : Flow String := do
  let path := path.absolute (← get).home
  return "file://" ++ (Path.mk path.anchor (path.parts.map addressPart)).toString

def isAlive : Flow Value := Flow.consult "server.alive"

def capability : Flow Value := Flow.consult "server.capability"

/-! ### Starting and stopping -/

def programsOf (environment : Path) : Flow Path := do
  let whole := environment.absolute (← get).home
  let programs := whole.child "bin"
  for folder in [whole, programs] do
    if ← Flow.isFile folder then
      throw (.invalid s!"Unable to create directory {Text.quote folder.toString}")
  return programs

def logLevel : String := "NOTSET"

def launch (s : Server) : Flow Unit := do
  match s.manifest.commandLine.parts with
  | [] => throw (.invalid s!"Missing command line for LSP server: {s.manifest.path}")
  | program :: parts =>
    let inherited : List (String × Value) := (← get).environment.map fun (k, v) => (k, .text v)
    let settings := s.manifest.environment.pairs.foldl (fun l (k, v) => Sequence.put k v l) inherited
    let environment := s.folder.child ".venv"
    let (program, settings) ← if ← Flow.pathExists environment then do
        let programs ← programsOf environment
        let search := ((settings.lookup "PATH").getD (.text "/bin:/usr/bin")).shown
        let program := if ["python", "python3"].contains program.shown then toValue (programs.child "python3") else program
        pure (program, Sequence.put "PATH" (.text s!"{programs}:{search}") settings)
      else pure (program, settings)
    let settings := Sequence.put "DATABRICKS_LAKEBRIDGE_LOG_LEVEL" (.text logLevel) settings
    let _ ← Flow.call "server.start" (program :: parts ++ [.text s!"--log_level={logLevel}"])
      [("env", .map settings), ("cwd", s.folder)]

def introduce (s : Server) (config : Transpile.Config) : Flow Unit := do
  let input ← config.inputPath
  let root := if ← Flow.isDirectory input then input else input.parent
  let client := Value.record "ClientInfo" [] [("name", s.clientName), ("version", s.clientVersion)]
  let _ ← Flow.call "initialize" [.record "InitializeParams" [] [
    ("capabilities", .record "ClientCapabilities" [] []), ("client_info", client),
    ("process_id", ← Flow.consult "process.id"), ("root_uri", ← address root), ("workspace_folders", .null),
    ("initialization_options", s.manifest.initialOptions config)]]

/-- Waits until the server has registered that it can transpile, for at most so many naps. -/
def awaitCapability : Nat → Flow Unit
  | 0 => do
    unless (← capability).isSet do
      throw (.remote "FeatureRequestError" s!"LSP server did not register its {transpileMethod} capability")
  | naps + 1 => do
    unless (← capability).isSet do
      Flow.note "nap"
      awaitCapability naps

/-- How often a client naps before it gives up. -/
def patience : Nat := 99

def prepare (s : Server) (config : Transpile.Config) : Flow Unit := do
  s.launch
  s.introduce config
  awaitCapability patience

def start (s : Server) (config : Transpile.Config) : Flow Unit := do
  if (← isAlive).isSet then throw (.illegalState "LSP engine is already initialized")
  let _ ← (s.prepare config).attempt
  return ()

def stop : Flow Unit := do
  Flow.note "shutdown" [.null]
  Flow.note "exit" [.null]
  Flow.note "stop"

/-! ### Documents -/

def language : Value := .constant "LanguageKind.Sql"

def openDocument (path : Path) (text : String) : Flow Unit := do
  Flow.note "document.open" [.record "DidOpenTextDocumentParams" [.record "TextDocumentItem" []
    [("uri", ← address path), ("language_id", language), ("version", .int 1), ("text", text)]] []]

def closeDocument (path : Path) : Flow Unit := do
  Flow.note "document.close"
    [.record "DidCloseTextDocumentParams" [.record "TextDocumentIdentifier" [] [("uri", ← address path)]] []]

def requestTranspilation (path : Path) : Flow Value := do
  Flow.call "transpile" [.map [("uri", ← address path), ("language_id", language)]]

def transpile (text : String) (path : Path) : Flow Transpiled := do
  openDocument path text
  let answer ← requestTranspilation path
  closeDocument path
  let edits ← (answer.getD "changes").parts.mapM fun v => Flow.ofOutcome (TextEdit.read v)
  let remarks ← (answer.getD "diagnostics").parts.mapM fun v => Flow.ofOutcome (Diagnostic.read v)
  return TextEdit.revise text edits (remarks.map (Diagnostic.toProblem path.toString)) path.toString

def engine (s : Server) : Transpile.Engine where
  name := s.manifest.name
  start := s.start
  stop := stop
  transpile := fun _ _ text path => transpile text path
  supports := supportsFile s.manifest.name
  codecs := s.codecs

end Server

end WarehouseMigration.Transpiler
