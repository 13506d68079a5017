import WarehouseMigration.Rehearsal
import WarehouseMigration.Transpiler.Installer
import WarehouseMigration.Transpiler.Server

/-!
# Rehearsing transpilers

Scripts in which transpilers are looked up and installed, on scripted machines.
-/

/-! ### Scripted machines

A machine can be rehearsed: what the network holds, which programs end with a failure code, and what the package
manager delivers is then written down beforehand.
-/

namespace WarehouseMigration.Machine

def unescape : List Char → List Char
  | '\\' :: 'n' :: rest => '\n' :: unescape rest
  | '\\' :: 't' :: rest => '\t' :: unescape rest
  | '\\' :: 'r' :: rest => '\r' :: unescape rest
  | '\\' :: '\\' :: rest => '\\' :: unescape rest
  | c :: rest => c :: unescape rest
  | [] => []

def networkReply (network : Value) (address : String) : Reply :=
  match network.get? address with
  | some (.map [("zip", members)]) => .value members
  | some (.map [("status", .int code)]) => .failure (.http code.toNat "refused")
  | some (.map [("down", reason)]) => .failure (.unreachable reason.shown)
  | some v => .value v
  | none => .failure (.http 404 "refused")

def programReply (code files : Value) : Reply :=
  match code with
  | .int (.ofNat 0) | .null => .value files
  | .int n => .failure (.process "command" n)
  | _ => .value files

def scripted (v : Value) (call : Call) : Option Reply :=
  match call.name, call.parts with
  | "download", [.text address] => some (networkReply (v.getD "network") address)
  | "run", .list command :: _ =>
    let codes := v.getD "exit_codes"
    some (if command.any (· == .text "pip") then programReply (codes.getD "pip") (v.getD "package")
      else programReply (codes.getD "installer") .null)
  | "java", _ =>
    match v.get? "java" with
    | some java => some (.value (.object [("path", "<cwd>/bin/java"),
        ("output", if (java.getD "exit").isSet then .null
          else .bytes (Text.utf8 (String.ofList (unescape (java.getD "output").shown.toList))))]))
    | none => none
  | _, _ => none

def addArchives (archives : Value) (tree : FileTree) : FileTree :=
  archives.pairs.foldl (fun tree (name, members) =>
    tree.addFile (Path.ofString name).parts (.archive (members.pairs.map fun (n, v) => (n, v.shown)))) tree

end WarehouseMigration.Machine

namespace WarehouseMigration.Transpiler.Rehearsal

open WarehouseMigration.Rehearsal

def labs : Installed := ⟨.ofString "labs"⟩

def onMachine (i : Value) (s : Session) : Session :=
  { s with reaction := fun c => Machine.scripted i c <|> s.reaction c }

def commands (s : Session) : Value := s.calls.filterMap fun c => match c.name with
  | "run" => some (Value.list (c.name :: c.parts))
  | "environment" => some (.list ["EnvBuilder", .map c.named])
  | _ => none

def below (s : Session) (folder : String) : Value :=
  .map ((toValue s.files).pairs.filter fun p => Text.startsWith p.1 folder)

def artifact : Scene := fun _ i _ => do
  let p := Path.ofString (← (i "name").asText)
  return .map [("version", Artifact.version p), ("bladebridge", Product.bladebridge.accepts p),
    ("morpheus", Product.morpheus.accepts p)]

def mavenAddresses : Scene := fun _ i _ => do
  let t k := (i k).asText
  let m := i "more"
  return .map [("metadata", Maven.metadataAddress (← t "group") (← t "artifact")),
    ("artifact", Maven.address (← t "group") (← t "artifact") (← t "version") ((m "classifier").shown?.getD "")
      (m.getOr "extension" "jar").shown)]

def mavenVersion : Scene := fun _ i _ => do return ← Maven.presentIn (← (i "xml").asText)

def javaVersion : Scene := fun _ i _ => do return Java.version (← (i "output").asText)

def java : Scene := fun _ i s => do
  let f ← (Java.find.exec (onMachine i s)).1
  return .map [("found", f.map fun (p, v) => Value.list [p, v]), ("okay", ← (Java.isRecent.exec (onMachine i s)).1)]

def publishedVersion : Scene := fun style i s => do
  let f := if (i "kind").shown == "pypi" then latestPackage (i "name").shown
    else Maven.latest (i "group").shown (i "name").shown
  let (r, s) := f.exec (onMachine i s)
  return .map [("result", outcome style r), ("urls", s.addresses)]

def mavenDownload : Scene := fun style i s => do
  let m := i "more"
  let (r, s) := (Maven.download "g.h" "a" "1.0" (.ofString "target.bin") ((m "classifier").shown?.getD "")
    (m.getOr "extension" "jar").shown).exec (onMachine i s)
  return .map [("result", outcome style r), ("urls", s.addresses), ("target", (toValue s.files) "target.bin")]

def backupStep (target : Path) (b : Backup) (v : Value) : Flow Backup :=
  let file := fun k => Machine.deliver .here (.map [(k, "x")])
  match v.parts with
  | [.text "start"] => b.start
  | [.text "commit"] => b.commit
  | [.text "rollback"] => b.rollback
  | [.text "write", fs] => do
    Machine.deliver .here fs
    return b
  | [.text "with_success"] => do
    Backup.guard target (do file "target/full"; return ((), true))
    return b
  | _ => Backup.guard target (do file "target/partial"; throw (.invalid "stop"))

def backup : Scene := fun style i s => do
  let target := Path.ofString "target"
  let (r, _) := (i "steps").parts.foldl (fun (r, b, s) v =>
    let (o, s) := (backupStep target b v).exec s
    (r ++ [Value.map [("result", outcome style (o.map fun _ => ())), ("files", s.files)]], o.toOption.getD b, s))
    ([], (⟨target, none, false⟩ : Backup), s)
  return r

def each (i : Value) (s : Session) (f : Value → Flow Value) : Outcome Value :=
  (Flow.exec (do return toValue (← (i "steps").parts.mapM f)) s).1

def artifacts : Scene := fun style i s => each i s fun v => do
  if let some e := v.get? "entries" then
    modify fun x => { x with files := Machine.addArchives (.map [((v "artifact").shown, e)]) x.files }
  let p := (v.getOr "product" "databricks-morph-plugin").shown
  let a := some (Path.ofString (v "artifact").shown)
  let r ← Flow.attempt (if (v "kind").shown == "maven" then installArchive labs p "com.databricks.labs" p a
    else installWheel labs p "databricks-bb-plugin" a)
  return .map [("result", outcome style r), ("version", outcome style (← Flow.attempt (labs.version p))),
    ("files", below (← get) "labs")]

def installations : Scene := fun style i s => each i s fun v => do
  modify fun x => { x with
    files := Machine.addArchives (v "artifacts") x.files
    calls := []
    reaction := Machine.scripted (.map (v.pairs ++ i.pairs)) }
  let p := if (v "transpiler").shown == "morpheus" then Product.morpheus else .bladebridge
  let r ← Flow.attempt (p.install labs ((v "artifact").shown?.map .ofString))
  let x ← get
  return .map [("name", p.name), ("result", outcome style r), ("urls", x.addresses), ("commands", commands x),
    ("files", below x "labs")]

def installed : Scene := fun style i s => do
  return (← (i "calls").asItems).map fun c => outcome style ((show Flow Value from match names c with
    | ["version", p] => toValue <$> labs.version p
    | ["names"] => bag <$> labs.names
    | ["configs"] => do return .map ((← labs.byName).map fun (k, m) => (k, toValue m))
    | ["dialects"] => toValue <$> labs.dialects
    | ["with_dialect", d] => toValue <$> labs.withDialect d
    | ["config_path", n] => toValue <$> labs.manifestPath n
    | ["options", n, d] => toValue <$> labs.settings n d
    | ["path"] => pure labs.folder
    | _ => pure labs.root).exec s).1

def manifest : Scene := fun _ i _ => do
  let m ← Manifest.read (.ofString "config.yml") (i "config")
  let c ← Transpile.Config.read (i.getOr "transpile" (.map []))
  return .map [("config", m), ("name", m.name), ("dialects", m.dialects),
    ("options", (names (i "ask")).map fun (d : String) => Value.list [d, m.settingsFor d]),
      ("init", m.initialOptions c)]

def setting : Scene := fun style i s => do
  let o ← Setting.read (i "option")
  let (r, s) := o.obtain.exec s
  return .map [("option", o), ("value", outcome style r), ("calls", s.calls)]

def supported : Scene := fun _ i _ => do return (names (i "files")).map fun f => supportsFile (i "name") (.ofString f)

def interaction : Scene := fun _ i _ => do
  return ← interactiveMode ((i "value").shown?.getD (i.getOr "default" "auto").shown) (i "tty").isSet

end WarehouseMigration.Transpiler.Rehearsal

/-! ### Rehearsing the talk with a server

The server is scripted: whether it can be started, whether it runs, what it has registered and what it answers.
-/

namespace WarehouseMigration.Transpiler.Server.Rehearsal

open WarehouseMigration.Rehearsal

def behaviour (i : Value) (c : Call) : Option Reply :=
  match c.name with
  | "server.alive" => some (.value (.bool (i "alive").isSet))
  | "server.capability" => some (.value (i "capability"))
  | "server.start" => if (i "start_error").isSet then some (.failure (.system (i "start_error").shown)) else none
  | "process.id" => some (.value "<pid>")
  | "transpile" => some (.value (i "response"))
  | _ => none

def shownCall (i : Value) (c : Call) : Call :=
  if c.name != "server.start" then c else
    let settings := (Value.map c.named).getD "env"
    let search := ((Text.split (settings "PATH").shown ":").headD "")
    { c with named := [
        ("env", .map ((names (i "show_env")).map fun name => (name, settings name))),
        ("path", if (i "show_path").isSet then .text search else .null),
        ("cwd", (Value.map c.named).getD "cwd")] }

def step (server : Server) (v : Value) : Flow Value := do
  let a := fun (k : Nat) => (v.parts.drop k).headD .null
  match (a 0).shown with
  | "initialize" => silently (server.start (← Transpile.Config.read (a 1)))
  | "start" => silently server.launch
  | "await" => silently (awaitCapability patience)
  | "shutdown" => silently stop
  | "transpile" => do return toValue (← transpile (a 1).shown (.ofString (a 2).shown))
  | "transpiler_name" => return server.manifest.name
  | "supported_dialects" => return server.manifest.dialects
  | "server_has_transpile_capability" => do return .bool (!(← capability).isNull)
  | _ => isAlive

def talk : Scene := fun style i s => do
  let manifest : Manifest :=
    { path := .ofString "config.yml", name := "name", dialects := ["d"], environment := i "env",
      commandLine := i "command_line", settings := [], custom := .map [("k", .int 1)] }
  let folder := if (i "workdir").isSet then (Path.ofString "work").absolute s.home else .here
  let server : Server := ⟨manifest, folder, "client", "1", fun _ => none⟩
  let (r, s) := (steps style (i "steps").parts (step server)).exec { s with
    reaction := behaviour i }
  let (naps, calls) := s.calls.partition (·.name == "nap")
  return .map [("answers", outcome style r), ("calls", calls.map (shownCall i)), ("naps", naps.length)]

def request : Scene := fun style i s =>
  let methods := (names (i "methods")).zipIdx.map fun (method, k) => ⟨k, method⟩
  let client := Client.register { stopped := (i "stopped").isSet } methods
  let (r, s) := (client.request "params").exec s
  return .map [("registered", Value.ofOption (fun r => toValue r.id) client.capability),
    ("answer", outcome style ((fun _ => "sent") <$> r)),
    ("sent", .list (s.calls.map fun c => .list (c.name :: c.parts))),
    ("alive", .bool ((i "server").shown == "running"))]

def lineOf : Value → List Nat
  | .list bytes => bytes.map fun v => (whole v).toNat
  | v => Text.utf8 v.shown

def errorStream : Scene := fun _ i _ =>
  let limit := if (i "stop_after").isNull then none else some (whole (i "stop_after")).toNat
  let (messages, unread) := relay limit ((i "lines").parts.map lineOf)
  return .map [("result", .null), ("messages", messages), ("left", unread.length)]

end WarehouseMigration.Transpiler.Server.Rehearsal
