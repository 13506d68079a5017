import WarehouseMigration.Failure
import WarehouseMigration.Sequence
import WarehouseMigration.Value.Show

/-!
# Templates

A template is a text with fields in braces; a doubled brace stands for itself.  The one argument of a template here
is a named table of numbers, and a field reads an entry of it: `\x7bname[3]\x7d`.
-/

namespace WarehouseMigration.Text.Template

structure Table where
  name : String
  entries : List (Int × Int)

variable (t : Table)

def Table.shown : String :=
  "\x7b" ++ ", ".intercalate (t.entries.map fun e => Value.intText e.1 ++ ": " ++ Value.intText e.2) ++ "\x7d"

/-! ### References -/

def indexBound : Nat := Nat.pow 2 63

/-- Reads on in a number of which `n` is read. -/
def indexFrom (n : Nat) : List Char → Outcome (Option Nat)
  | [] => pure (some n)
  | c :: rest =>
    match digitValue? c with
    | none => pure none
    | some d =>
      if 10 * n + d < indexBound then indexFrom (10 * n + d) rest
      else throw (.invalid "Too many decimal digits in format string")

/-- The number that a key spells, if it has decimal digits only. -/
def index? (key : List Char) : Outcome (Option Nat) := if key.isEmpty then pure none else indexFrom 0 key

/-- A part of a reference: a member of a value, or its entry for an index or for a text. -/
inductive Access where
  | member (name : List Char)
  | index (n : Nat)
  | key (text : List Char)

def isNamePart (c : Char) : Bool := c != '.' && c != '['

/-- The first of the parts after a name. -/
def nextAccess : List Char → Outcome (Access × List Char)
  | '.' :: rest =>
    let name := rest.takeWhile isNamePart
    if name.isEmpty then throw (.invalid "Empty attribute in format string")
    else pure (.member name, rest.drop name.length)
  | '[' :: rest =>
    let key := rest.takeWhile (· != ']')
    match rest.drop key.length with
    | [] => throw (.invalid "Missing ']' in format string")
    | _ :: rest => do
      match ← index? key with
      | some n => pure (.index n, rest)
      | none => if key.isEmpty then throw (.invalid "Empty attribute in format string") else pure (.key key, rest)
  | _ => throw (.invalid "Only '.' or '[' may follow ']' in format field specifier")

/-- What a field refers to: the table or a number of it. -/
inductive Referent where
  | table
  | number (n : Int)

def Table.follow (parts : List Char) : Outcome Referent :=
  if parts.isEmpty then pure .table
  else do
    match ← nextAccess parts with
    | (.member _, _) => throw (.noMember "")
    | (.key text, _) => throw (.noKey (String.ofList text))
    | (.index n, rest) =>
      match t.entries.lookup (n : Int) with
      | none => throw (.noEntry (Value.intText n))
      | some v =>
        if rest.isEmpty then pure (.number v)
        else
          match ← nextAccess rest with
          | (.member _, _) => throw (.noMember "")
          | _ => throw (.wrongKind "")

def Table.refer (reference : List Char) : Outcome Referent := do
  let name := reference.takeWhile isNamePart
  let index ← index? name
  if name.isEmpty || index.isSome then
    throw (.noIndex "Replacement index 0 out of range for positional args tuple")
  else if String.ofList name != t.name then throw (.noKey (String.ofList name))
  else t.follow (reference.drop name.length)

/-! ### Fields -/

/-- A field of a template: a reference, the sign of a conversion into a text, and a layout. -/
structure Field where
  reference : List Char
  conversion : Option Char := none
  layout : List Char := []

/-- What can be wrong with a field: the sign of a conversion is not known, or a table has a layout.  The layout of a
number or of a text is not looked at. -/
def Field.fault? (field : Field) (referent : Referent) : Option Failure :=
  match field.conversion, referent with
  | some sign, _ =>
    if sign = 'r' || sign = 's' || sign = 'a' then none
    else
      let name := if 32 < sign.toNat && sign.toNat < 127 then [sign] else "\\x".toList ++ Nat.toDigits 16 sign.toNat
      some (.invalid ("Unknown conversion specifier " ++ String.ofList name))
  | none, .table => if field.layout.isEmpty then none else some (.wrongKind "")
  | none, .number _ => none

def Table.textOf : Referent → String
  | .table => t.shown
  | .number n => Value.intText n

def Table.text (field : Field) : Outcome String := do
  let referent ← t.refer field.reference
  match field.fault? referent with
  | some failure => throw failure
  | none => return t.textOf referent

/-- Splits a reference off the text after an opening brace.  A bracket inside it hides what follows up to the closing
bracket. -/
def splitReference (hidden : Bool) (reference : List Char) : List Char → Outcome (List Char × Char × List Char)
  | [] => throw (.invalid "expected '\x7d' before end of string")
  | c :: rest =>
    if hidden then splitReference (c != ']') (c :: reference) rest
    else if c = '{' then throw (.invalid "unexpected '\x7b' in field name")
    else if c = '[' then splitReference true (c :: reference) rest
    else if c = '}' || c = ':' || c = '!' then pure (reference.reverse, c, rest)
    else splitReference false (c :: reference) rest

def splitLayout (depth : Nat) (layout : List Char) : List Char → Outcome (List Char × List Char)
  | [] => throw (.invalid "unmatched '\x7b' in format spec")
  | c :: rest =>
    if c = '{' then splitLayout (depth + 1) (c :: layout) rest
    else if c = '}' then
      if depth ≤ 1 then pure (layout.reverse, rest) else splitLayout (depth - 1) (c :: layout) rest
    else splitLayout depth (c :: layout) rest

def readLayout (reference : List Char) (conversion : Option Char) (cs : List Char) : Outcome (Field × List Char) := do
  let (layout, rest) ← splitLayout 1 [] cs
  return (⟨reference, conversion, layout⟩, rest)

def readField (cs : List Char) : Outcome (Field × List Char) := do
  let (reference, stop, rest) ← splitReference false [] cs
  if stop = ':' then readLayout reference none rest
  else if stop = '!' then
    match rest with
    | [] => throw (.invalid "end of string while looking for conversion specifier")
    | sign :: '}' :: rest => return (⟨reference, some sign, []⟩, rest)
    | sign :: ':' :: rest => readLayout reference (some sign) rest
    | [_] => throw (.invalid "unmatched '\x7b' in format spec")
    | _ => throw (.invalid "expected ':' after conversion specifier")
  else return (⟨reference, none, []⟩, rest)

/-! ### Filling in -/

def isBrace (c : Char) : Bool := c = '{' || c = '}'

/-- Fills in a template; `fuel` bounds the number of characters. -/
def fillFrom (t : Table) : Nat → List Char → Outcome (List Char)
  | 0, _ | _, [] => pure []
  | fuel + 1, c :: rest =>
    if !isBrace c then do return c :: (← fillFrom t fuel rest)
    else if rest.head? = some c then do return c :: (← fillFrom t fuel rest.tail)
    else if c = '}' || rest.isEmpty then
      throw (.invalid ("Single '" ++ String.singleton c ++ "' encountered in format string"))
    else do
      let (field, rest) ← readField rest
      let text ← t.text field
      return text.toList ++ (← fillFrom t fuel rest)

def fill (template : List Char) : Outcome (List Char) := fillFrom t (template.length + 1) template

end WarehouseMigration.Text.Template
