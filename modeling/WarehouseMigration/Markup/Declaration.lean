import WarehouseMigration.Markup.Name
import WarehouseMigration.Value.Json

/-!
# Declarations and references in XML documents

What a document says before its root element, and the references that stand for single characters.
-/

namespace WarehouseMigration.Markup

def charOf? (n : Nat) : Option Char :=
  if n.isValidChar && isAllowed (Char.ofNat n) then some (Char.ofNat n) else none

def readNumber (base : Nat) (ds : List Char) : Option Nat :=
  if ds.isEmpty then none
  else ds.foldlM (fun n d => (Json.hexValue? d).bind fun v => if v < base then some (base * n + v) else none) 0

def namedChars : List (String × Char) := [("amp", '&'), ("lt", '<'), ("gt", '>'), ("apos", '\''), ("quot", '"')]

/-- Reads what stands between an ampersand and a semicolon: the number of a character, or its name. -/
def readReference : List Char → Option (Char × List Char)
  | '#' :: rest => do
    let (base, rest) := match rest with
      | 'x' :: rest => (16, rest)
      | rest => (10, rest)
    let (digits, rest) ← splitAt [';'] rest
    return (← charOf? (← readNumber base digits), rest)
  | cs => do
    let (name, rest) ← readName cs
    return (← namedChars.lookup name, ← skipWord? ";" rest)

def attributeValue : Nat → List Char → Option (List Char)
  | 0, _ => none
  | _, [] => some []
  | fuel + 1, '&' :: rest => do
    let (c, rest) ← readReference rest
    return c :: (← attributeValue fuel rest)
  | fuel + 1, c :: rest =>
    if isGap c then (attributeValue fuel rest).map (' ' :: ·)
    else if c != '<' && isAllowed c then (attributeValue fuel rest).map (c :: ·)
    else none

/-- The setting `name = "value"` of an XML declaration, behind white space. -/
def readSetting (name : String) (isValue : List Char → Bool) (cs : List Char) : Option (List Char × List Char) := do
  let rest ← skipWord? name (← skipGap? cs)
  let rest ← skipWord? "=" (rest.dropWhile isGap)
  let (value, rest) ← readQuoted (rest.dropWhile isGap)
  if value.all (fun c => c.isAlphanum || c = '.' || c = '-' || c = '_') && isValue value then
    some (value, rest) else none

/-- Reads an XML declaration, with the name of a character set if it has one. -/
def readXmlDeclaration (cs : List Char) : Option (Option String × List Char) := do
  let (_, rest) ← readSetting "version" (fun _ => true) cs
  let (charset, rest) := match readSetting "encoding" (fun v => (v.head?.map Char.isAlpha).getD false) rest with
    | some (name, rest) => (some (String.ofList name), rest)
    | none => (none, rest)
  let (_, rest) := (readSetting "standalone" (fun v => v == "yes".toList || v == "no".toList) rest).getD ([], rest)
  return (charset, ← skipWord? "?>" (rest.dropWhile isGap))

def isPublicChar (c : Char) : Bool := c.isAlphanum || c = '\n' || " -'()+,./:=?;!*#@$_%".contains c

/-- What follows a reference to declarations that are kept elsewhere. -/
def skipExternal (cs : List Char) : Option (List Char) := do
  match skipWord? "SYSTEM" cs with
  | some rest => return (← readQuoted (← skipGap? rest)).2
  | none =>
    let (id, rest) ← readQuoted (← skipGap? (← skipWord? "PUBLIC" cs))
    if !id.all isPublicChar then none
    return (← readQuoted (← skipGap? rest)).2

def skipClose (cs : List Char) : Option (List Char) := skipWord? ">" (cs.dropWhile isGap)

/-- What follows a document type; it makes no declarations of its own. -/
def skipType (cs : List Char) : Option (List Char) := do
  let (_, rest) ← readMarkedName (← skipGap? cs)
  skipClose (((skipGap? rest).bind skipExternal).getD rest)

end WarehouseMigration.Markup
