import WarehouseMigration.Text.Search
import WarehouseMigration.Value.Basic

/-!
# Paths

Paths of files and folders, as a list of names below an anchor.  The empty anchor is the working directory.
-/

namespace WarehouseMigration

structure Path where
  anchor : String
  parts : List String
deriving DecidableEq

namespace Path

def here : Path := ⟨"", []⟩

def anchorOf (cs : List Char) : String :=
  match cs with
  | '/' :: '/' :: '/' :: _ => "/"
  | '/' :: '/' :: _ => "//"
  | '/' :: _ => "/"
  | _ => ""

def ofString (s : String) : Path :=
  ⟨anchorOf s.toList, (Text.split s "/").filter fun part => part != "" && part != "."⟩

variable (p : Path)

def toString : String :=
  let names := "/".intercalate p.parts
  if p.parts.isEmpty then if p.anchor = "" then "." else p.anchor
  else if p.anchor = "" || p.anchor.endsWith "/" then p.anchor ++ names
  else p.anchor ++ "/" ++ names

instance : ToString Path := ⟨toString⟩

instance : ToValue Path := ⟨fun p => .text p.toString⟩

def isAbsolute : Bool := p.anchor != ""

def join (p q : Path) : Path := if q.isAbsolute then q else ⟨p.anchor, p.parts ++ q.parts⟩

def child (name : String) : Path := p.join (ofString name)

def name : String := p.parts.getLast?.getD ""

def parent : Path := ⟨p.anchor, p.parts.dropLast⟩

def withName (name : String) : Path := ⟨p.anchor, p.parts.dropLast ++ [name]⟩

/-- Whether a path has a character that no name can have. -/
def hasNull : Bool := p.parts.any (·.toList.contains '\x00')

def splitSuffix (name : String) : String × String :=
  let cs := name.toList
  let tail := (cs.reverse.takeWhile (· != '.')).reverse
  let front := cs.take (cs.length - tail.length - 1)
  if tail.isEmpty || front.isEmpty || tail.length = cs.length then (name, "")
  else (String.ofList front, String.ofList ('.' :: tail))

def suffix : String := (splitSuffix p.name).2

def stem : String := (splitSuffix p.name).1

def withSuffix (ending : String) : Path := p.withName (p.stem ++ ending)

/-- The path below `base`, if it lies there. -/
def relativeTo? (p base : Path) : Option Path :=
  if p.anchor = base.anchor && base.parts.isPrefixOf p.parts then some ⟨"", p.parts.drop base.parts.length⟩ else none

/-- The path with its place given from the working directory `home` on. -/
def absolute (home : String) (p : Path) : Path := if p.isAbsolute then p else ⟨home, p.parts⟩

/-- Drops each pair of a name and the two dots after it. -/
def collapse (parts : List String) : List String :=
  (parts.foldl (fun stack part =>
    match part, stack with
    | "..", top :: rest => if top = ".." then part :: stack else rest
    | _, _ => part :: stack) []).reverse

end Path

end WarehouseMigration
