import WarehouseMigration.Failure
import WarehouseMigration.Markup.Declaration
import WarehouseMigration.Text.Charset

/-!
# Markup

A reader for XML documents.  Of an element it keeps the name, the text in front of its first child and the children;
a name that belongs to a namespace is written with the namespace in braces.
-/

namespace WarehouseMigration

inductive Element where
  | mk (name text : String) (children : List Element)

namespace Element

def name : Element → String
  | mk name _ _ => name

def text : Element → String
  | mk _ text _ => text

def children : Element → List Element
  | mk _ _ children => children

def named (e : Element) (name : String) : List Element := e.children.filter (·.name == name)

def select (e : Element) : List String → List Element
  | [] => [e]
  | name :: path => (e.named name).flatMap (select · path)

end Element

namespace Markup

def readAttributes (found : List (MarkedName × String)) :
    Nat → List Char → Option (List (MarkedName × String) × List Char)
  | 0, _ => none
  | fuel + 1, cs =>
    match cs.dropWhile isGap with
    | '>' :: rest => some (found, '>' :: rest)
    | '/' :: rest => some (found, '/' :: rest)
    | _ => do
      let (name, rest) ← readMarkedName (← skipGap? cs)
      let rest ← skipWord? "=" (rest.dropWhile isGap)
      let (value, rest) ← readQuoted (rest.dropWhile isGap)
      if (found.lookup name).isSome then none
      let value ← attributeValue (value.length + 1) value
      readAttributes (found ++ [(name, String.ofList value)]) fuel rest

abbrev Namespaces := List (String × String)

def xmlNamespace : String := "http://www.w3.org/XML/1998/namespace"

def declaringNamespace : String := "http://www.w3.org/2000/xmlns/"

def declaredMark? (name : MarkedName) : Option String :=
  if name == ⟨"", "xmlns"⟩ then some "" else if name.mark == "xmlns" then some name.last else none

/-- Whether a mark may stand for a namespace: the reserved marks and namespaces belong together, only the empty mark
can be taken back, and a name cannot hold the brace that ends it. -/
def isBinding (mark space : String) : Bool :=
  if mark == "xml" then space == xmlNamespace
  else mark != "xmlns" && space != xmlNamespace && space != declaringNamespace && (mark == "" || space != "") &&
    !space.contains '\x7d'

def declare (known : Namespaces) (attributes : List (MarkedName × String)) : Option Namespaces :=
  let new := attributes.filterMap fun (name, space) => (declaredMark? name).map (·, space)
  if new.all fun (mark, space) => isBinding mark space then some (new ++ known) else none

def fullName (space last : String) : String := if space == "" then last else "\x7b" ++ space ++ "\x7d" ++ last

def qualify (known : Namespaces) (name : MarkedName) : Option String :=
  if name.mark == "" then some (fullName ((known.lookup "").getD "") name.last)
  else (known.lookup name.mark).map (fullName · name.last)

def areDistinct (known : Namespaces) (attributes : List (MarkedName × String)) : Bool :=
  let marked := (attributes.map (·.1)).filter fun name => (declaredMark? name).isNone && name.mark != ""
  match marked.mapM (qualify known) with
  | some names => names.eraseDups.length == names.length
  | none => false

inductive Piece where
  | text (cs : List Char)
  | child (e : Element)

def leadingText : List Piece → List Char
  | .text cs :: rest => cs ++ leadingText rest
  | _ => []

def Piece.gather (name : String) (inside : List Piece) : Element :=
  .mk name (String.ofList (leadingText inside))
    (inside.filterMap fun
      | .child e => some e
      | .text _ => none)

def holdsClosing (cs : List Char) : Bool := (splitAt "]]>".toList cs).isSome

mutual

def readElement (known : Namespaces) : Nat → List Char → Option (Element × List Char)
  | 0, _ => none
  | fuel + 1, cs => do
    let (name, rest) ← readMarkedName cs
    let (attributes, rest) ← readAttributes [] (rest.length + 1) rest
    let known ← declare known attributes
    let full ← qualify known name
    if !areDistinct known attributes then none
    match rest with
    | '/' :: '>' :: rest => return (Piece.gather full [], rest)
    | '>' :: rest =>
      let (inside, rest) ← readContent known fuel rest
      let (last, rest) ← readMarkedName (← skipWord? "</" rest)
      if last != name then none
      return (Piece.gather full inside, ← skipClose rest)
    | _ => none

def readContent (known : Namespaces) : Nat → List Char → Option (List Piece × List Char)
  | 0, _ => none
  | _, [] => some ([], [])
  | _, '<' :: '/' :: rest => some ([], '<' :: '/' :: rest)
  | fuel + 1, '<' :: '!' :: rest => do
    if let some rest := skipWord? "--" rest then return ← readContent known fuel (← skipComment rest)
    let (inside, rest) ← splitAt "]]>".toList (← skipWord? "[CDATA[" rest)
    if !inside.all isAllowed then none
    let (pieces, rest) ← readContent known fuel rest
    return (.text inside :: pieces, rest)
  | fuel + 1, '<' :: '?' :: rest => do readContent known fuel (← skipInstruction rest)
  | fuel + 1, '<' :: rest => do
    let (child, rest) ← readElement known fuel rest
    let (pieces, rest) ← readContent known fuel rest
    return (.child child :: pieces, rest)
  | fuel + 1, '&' :: rest => do
    let (c, rest) ← readReference rest
    let (pieces, rest) ← readContent known fuel rest
    return (.text [c] :: pieces, rest)
  | fuel + 1, cs => do
    let here := cs.takeWhile fun c => c != '<' && c != '&'
    if !here.all isAllowed || holdsClosing here then none
    let (pieces, rest) ← readContent known fuel (cs.dropWhile fun c => c != '<' && c != '&')
    return (.text here :: pieces, rest)

end

def skipMisc : Nat → List Char → Option (List Char)
  | 0, _ => none
  | fuel + 1, cs =>
    match cs.dropWhile isGap with
    | '<' :: '!' :: '-' :: '-' :: rest => (skipComment rest).bind (skipMisc fuel)
    | '<' :: '?' :: rest => (skipInstruction rest).bind (skipMisc fuel)
    | rest => some rest

/-- Reads the declaration at the beginning of a document, if it has one. -/
def readOpening (cs : List Char) : Option (Option String × List Char) :=
  match skipWord? "<?xml" cs with
  | some rest =>
    if (rest.head?.map isNameChar).getD false then some (none, cs)
    else readXmlDeclaration rest
  | none => some (none, cs)

def parse? (s : String) : Option Element := do
  let cs := unifyLines (Text.withoutMark s)
  let (_, rest) ← readOpening cs
  let rest ← skipMisc (rest.length + 1) rest
  let rest ← match skipWord? "<!DOCTYPE" rest with
    | some rest => do skipMisc cs.length (← skipType rest)
    | none => some rest
  let (root, rest) ← readElement [("xml", xmlNamespace)] (2 * cs.length + 4) (← skipWord? "<" rest)
  if (← skipMisc (rest.length + 1) rest).isEmpty then some root else none

def parse (s : String) : Outcome Element :=
  match parse? s with
  | some root => pure root
  | none => throw (.badMarkup "not well-formed")

/-- A text whose bytes are read in a character set with one byte for every character; what is none of its characters
cannot stand in a document. -/
def reread (upper : List Nat) (s : String) : String :=
  String.ofList ((Text.utf8 s).map fun b => (Text.Charset.charOf? upper b).getD '\ufffe')

def parseBytes (s : String) : Outcome Element := do
  match (readOpening (Text.withoutMark s)).bind (·.1) with
  | none => parse s
  | some name =>
    if ["utf-8", "utf-16", "utf-16le", "utf-16be"].contains name.toLower then
      if name.toLower == "utf-8" then parse s else throw (.badMarkup "not well-formed")
    else
      match Text.Charset.ofName? (fun _ => none) name with
      | some .latin => parse (reread ((List.range 128).map (· + 128)) s)
      | some (.table upper) => parse (reread upper s)
      | some _ => parse (reread [] s)
      | none =>
        let plain := Text.Charset.plainName name
        if (Text.Charset.unitNames ++ Text.Charset.wideNames).contains plain then
          throw (.invalid "multi-byte encodings are not supported")
        if Text.Charset.otherNames.contains plain then throw (.noTextEncoding name)
        throw (.unknownEncoding name)

end Markup

end WarehouseMigration
