import WarehouseMigration.Transpiler.Manifest

/-!
# Installed transpilers

The transpilers that are installed below a folder.  Each product has a folder of its own with a library, in which its
description lies, and a state, in which its version is noted.
-/

namespace WarehouseMigration.Transpiler

/-- The place where transpilers are installed. -/
structure Installed where
  root : Path

namespace Installed

variable (i : Installed)

def folder : Path := i.root.child "remorph-transpilers"

def productFolder (product : String) : Path := i.folder.child product

def notedVersion (text : String) : Outcome (Option String) := do
  let some data := Json.parse text | throw (.badJson "not well-formed")
  if data.entries?.isNone then throw (.noMember "not a map")
  if !(data.getD "version").isSet then return none
  let version ← (data.getD "version").asText
  match version.toList with
  | 'v' :: rest => return some (String.ofList rest)
  | _ => return none

def version (i : Installed) (product : String) : Flow (Option String) := do
  match ← Flow.attempt (Flow.readText ((i.productFolder product).child "state/version.json")) with
  | .ok text => notedVersion text
  | .error (.file .notFound _) => return none
  | .error failure => throw failure

def manifestIn (product : Path) : Flow (Option Manifest) := do
  let file := product.child "lib/config.yml"
  if !(← Flow.isDirectory product) || !(← Flow.isDirectory (product.child "lib")) || !(← Flow.isFile file) then
    return none
  match ← Flow.attempt (Manifest.load file) with
  | .ok m => return some m
  | .error failure => if failure.isInvalid then return none else throw failure

def products : Flow (List Path) := do
  if ← Flow.pathExists i.folder then Flow.listDirectory i.folder else return []

def manifests : Flow (List Manifest) := do
  return (← (← i.products).mapM manifestIn).filterMap id

def byName : Flow (List (String × Manifest)) := do
  return Sequence.lastOf ((← i.manifests).map fun m => (m.name.shown, m))

def names : Flow (List String) := do return (← i.byName).map (·.1)

def dialects (i : Installed) : Flow (List String) := do
  let all ← (← i.manifests).mapM fun m => Flow.ofOutcome m.dialects.asItems
  return (all.flatten.map Value.shown).eraseDups.mergeSort

def withDialect (dialect : String) : Flow (List String) := do
  let fitting ← (← i.byName).filterM fun (_, m) => Flow.ofOutcome (m.hasDialect dialect)
  return (fitting.map (·.1)).mergeSort

def search (name : String) : List Path → Flow (Option Manifest)
  | [] => return none
  | product :: rest => do
    match ← manifestIn product with
    | some m => if m.name == .text name then return some m else search name rest
    | none => search name rest

def manifestPath (name : String) : Flow Path := do
  match ← search name (← i.products) with
  | some m => return m.path
  | none => throw (.invalid s!"No such transpiler: {name}")

def settings (name dialect : String) : Flow (List Setting) := do
  return (((← i.byName).lookup name).map (·.settingsFor dialect)).getD []

end Installed

end WarehouseMigration.Transpiler
