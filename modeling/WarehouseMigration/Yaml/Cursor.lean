import WarehouseMigration.Failure

/-!
# Reading positions

A place in a text is told by its line and its column.  A text that is no document has a fault: what is wrong, where,
and what was being read.

A reading position is what is left of a text, together with its place.
-/

namespace WarehouseMigration.Yaml

structure Mark where
  index : Nat := 0
  line : Nat := 0
  column : Nat := 0
deriving DecidableEq

/-- Where a text comes from. -/
structure Origin where
  name : String
  /-- the text itself, if messages show the line of a fault -/
  text : Option (List Char) := none

def Origin.ofText (text : String) : Origin := ⟨"<unicode string>", some text.toList⟩

def Origin.ofFile (name : String) : Origin := ⟨name, none⟩

def isBreak (c : Char) : Bool := c = '\r' || c = '\n' || c = '\u0085' || c = '\u2028' || c = '\u2029'

/-- How much of a line is shown on either side of a place, and how much if the line is longer. -/
def snippetReach : Nat × Nat := (36, 32)

def shownPart (line : List Char) : List Char × String :=
  if snippetReach.1 < line.length then (line.take snippetReach.2, " ... ") else (line, "")

/-- The line around a place, with a sign below the place. -/
def snippet (text : List Char) (index : Nat) : String :=
  let (before, head) := shownPart ((text.take index).reverse.takeWhile (!isBreak ·))
  let (after, tail) := shownPart ((text.drop index).takeWhile (!isBreak ·))
  let blanks := fun n => String.ofList (List.replicate n ' ')
  blanks 4 ++ head ++ String.ofList (before.reverse ++ after) ++ tail ++ "\n" ++
    blanks (4 + before.length + head.length) ++ "^"

def Mark.message (m : Mark) (o : Origin) : String :=
  s!"  in \"{o.name}\", line {m.line + 1}, column {m.column + 1}" ++
    match o.text with
    | some text => ":\n" ++ snippet text m.index
    | none => ""

/-- Why a text is no document. -/
inductive Fault where
  /-- a character that no text may hold -/
  | character (c : Char) (index : Nat)
  /-- a rule that is broken at a place, while something was read that began earlier -/
  | broken (rule : YamlRule) (context : Option (String × Option Mark)) (problem : String) (mark : Mark)
  /-- a value that cannot be made -/
  | unmade (cause : Failure)

def Fault.failure (o : Origin) : Fault → Failure
  | character c index =>
    let code := String.ofList (Text.hexDigits 4 c.toNat)
    .badYaml .characters
      s!"unacceptable character #x{code}: special characters are not allowed\n  in \"{o.name}\", position {index}"
  | broken rule context problem mark =>
    let before := match context with
      | none => []
      | some (what, none) => [what]
      | some (what, some start) =>
        if start.line = mark.line && start.column = mark.column then [what] else [what, start.message o]
    .badYaml rule ("\n".intercalate (before ++ [problem, mark.message o]))
  | unmade cause => cause

/-! ### Reading positions -/

def isGap (c : Char) : Bool := c = ' ' || c = '\t' || isBreak c

def endsWord (next : Option Char) : Bool := next.all fun c => c = ' ' || isBreak c

def endsLine (next : Option Char) : Bool := next.all isBreak

def isNameChar (c : Char) : Bool := c.isAlphanum || c = '-' || c = '_'

def found (next : Option Char) : String := Text.quote (String.singleton (next.getD '\x00'))

/-- What is left of a text. -/
structure Cursor where
  rest : List Char
  mark : Mark := {}

namespace Cursor

variable (c : Cursor)

def peek (ahead : Nat := 0) : Option Char := c.rest[ahead]?

def step : Cursor :=
  match c.rest with
  | [] => c
  | ch :: rest =>
    let m := c.mark
    if isBreak ch && !(ch = '\r' && rest.head? = some '\n') then ⟨rest, ⟨m.index + 1, m.line + 1, 0⟩⟩
    else ⟨rest, ⟨m.index + 1, m.line, if ch = '\ufeff' then m.column else m.column + 1⟩⟩

def skip (c : Cursor) : Nat → Cursor
  | 0 => c
  | n + 1 => c.step.skip n

def skipWhile (accepts : Char → Bool) (c : Cursor) : Cursor := c.skip (c.rest.takeWhile accepts).length

def lineBreak? : Option (Char × Cursor) :=
  match c.rest with
  | '\r' :: '\n' :: _ => some ('\n', c.skip 2)
  | ch :: _ =>
    if ch = '\u2028' || ch = '\u2029' then some (ch, c.step)
    else if isBreak ch then some ('\n', c.step)
    else none
  | [] => none

def isAtMark (mark : String) : Bool := mark.toList.isPrefixOf c.rest && (c.peek 3).all isGap

/-- Whether a document ends here. -/
def isAtSeparator : Bool := c.isAtMark "---" || c.isAtMark "..."

def skipComment : Cursor :=
  let c := c.skipWhile (· = ' ')
  if c.peek = some '#' then c.skipWhile (!isBreak ·) else c

end Cursor

def badToken (context : String) (start : Mark) (problem : String) (c : Cursor) : Fault :=
  .broken .tokens (some (context, some start)) problem c.mark

def missing (context : String) (start : Mark) (wanted : String) (c : Cursor) : Fault :=
  badToken context start s!"expected {wanted}, but found {found c.peek}" c

end WarehouseMigration.Yaml
