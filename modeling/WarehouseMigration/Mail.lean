import WarehouseMigration.Mail.Header

/-!
# Multipart messages

A transpiler may answer with several files at once, packed as the parts of a multipart message.  This module reads such
a message: its headers, the boundaries between its parts, and the content of a part in its transfer encoding and
character set.
-/

namespace WarehouseMigration.Mail

/-! ### Lines -/

/-- Splits a text into lines, each with its end; `line` is the current one, last character first. -/
def splitLines (line : List Char) : List Char → List (List Char)
  | [] => if line.isEmpty then [] else [line.reverse]
  | '\r' :: '\n' :: rest => ('\n' :: '\r' :: line).reverse :: splitLines [] rest
  | '\r' :: rest => ('\r' :: line).reverse :: splitLines [] rest
  | '\n' :: rest => ('\n' :: line).reverse :: splitLines [] rest
  | c :: rest => splitLines (c :: line) rest

def dropLineEnd (cs : List Char) : List Char :=
  match cs.reverse with
  | '\n' :: '\r' :: rest => rest.reverse
  | '\n' :: rest => rest.reverse
  | '\r' :: rest => rest.reverse
  | _ => cs

def isEmptyLine (line : List Char) : Bool := line.head? == some '\n' || line.head? == some '\r'

def boundary? (mark line : List Char) : Option Bool :=
  let start := '-' :: '-' :: mark
  let isGap := fun (cs : List Char) => (dropLineEnd cs).all fun c => c = ' ' || c = '\t'
  if !start.isPrefixOf line then none
  else
    let rest := line.drop start.length
    if ['-', '-'].isPrefixOf rest && isGap (rest.drop 2) then some true
    else if isGap rest then some false
    else none

/-! ### Headers -/

structure Header where
  name : String
  value : String

def isNameChar (c : Char) : Bool := 33 ≤ c.toNat && c.toNat ≤ 126 && c != ':'

def isEnvelope (line : List Char) : Bool := "From ".toList.isPrefixOf line

def isHeaderLine (line : List Char) : Bool :=
  isEnvelope line || (line.dropWhile isNameChar).head? == some ':' || line.head?.any isSpace

/-- The headers of header lines; a line that begins with a blank continues the header in the line before it, which
`current` holds. -/
def readHeaders (current : Option (List Char × List Char)) : List (List Char) → List Header
  | [] => (current.map finish).toList
  | line :: rest =>
    if line.head?.any isSpace then readHeaders (current.map fun (name, value) => (name, value ++ line)) rest
    else
      let name := line.takeWhile (· != ':')
      let next := if isEnvelope line || name.isEmpty then none
        else some (name, (line.drop (name.length + 1)).dropWhile isSpace)
      (current.map finish).toList ++ readHeaders next rest
where
  finish : List Char × List Char → Header
    | (name, value) => ⟨Text.lower (String.ofList name), String.ofList (value.filter fun c => c != '\n' && c != '\r')⟩

/-! ### Messages -/

structure About where
  codecs : Text.Codecs
  /-- the kind of content, in standard form -/
  kind : Option String
  disposition : Option String
  /-- the transfer encoding, in standard form -/
  transfer : Option String
  /-- the kind of content of a message that does not tell its kind -/
  standard : String

namespace About

def ofHeaders (codecs : Text.Codecs) (headers : List Header) (standard : String) : Outcome About := do
  let value? := fun (name : String) => (headers.find? (·.name == name)).map (·.value)
  return { codecs
           kind := ← (value? "content-type").mapM (standardForm (standardKind codecs))
           disposition := value? "content-disposition"
           transfer := ← (value? "content-transfer-encoding").mapM (standardForm (.ok <| standardTransfer codecs ·))
           standard }

def contentType (a : About) : String :=
  match a.kind with
  | none => a.standard
  | some form =>
    let kind := Text.lower (Text.strip ((Text.split form ";").headD ""))
    if kind.toList.count '/' == 1 then kind else "text/plain"

def boundary? (a : About) : Option (List Char) :=
  (a.kind.bind (parameter? · "boundary")).map fun mark => Text.trimEnd (unquote mark).toList

def filename? (a : About) : Outcome (Option String) := do
  let disposition ← a.disposition.mapM (standardForm (standardDisposition a.codecs))
  return ((disposition.bind (parameter? · "filename")).or (a.kind.bind (parameter? · "name"))).map fun name =>
    Text.strip (unquote name)

def charset (a : About) : String :=
  match a.kind.bind (parameter? · "charset") with
  | some name => if name != "" && name.toList.all (·.toNat < 128) then Text.lower name else "utf-8"
  | none => "utf-8"

end About

/-- A message: what it tells about its content, and its text or its parts. -/
inductive Message where
  | leaf (about : About) (body : List Char)
  | container (about : About) (parts : List Message)

namespace Message

def about : Message → About
  | leaf about _ | container about _ => about

def contentType (m : Message) : String := m.about.contentType

def filename? (m : Message) : Outcome (Option String) := m.about.filename?

def walk : Message → List Message
  | leaf about body => [leaf about body]
  | container about parts => container about parts :: walkAll parts
where
  walkAll : List Message → List Message
    | [] => []
    | m :: rest => walk m ++ walkAll rest

mutual

def beforeBoundary : Message → Message
  | leaf about body => leaf about (dropLineEnd body)
  | container about parts =>
    if Text.startsWith about.contentType "multipart/" then container about parts
    else container about (lastBeforeBoundary parts)

def lastBeforeBoundary : List Message → List Message
  | [] => []
  | [m] => [beforeBoundary m]
  | m :: rest => m :: lastBeforeBoundary rest

end

end Message

abbrev Stop := List Char → Bool

mutual

def readMessage (codecs : Text.Codecs) (standard : String) (stops : List Stop) :
    Nat → List (List Char) → Outcome (Message × List (List Char))
  | 0, lines => do return (.leaf (← About.ofHeaders codecs [] standard) [], lines)
  | fuel + 1, lines => do
    let isStop : Stop := fun line => stops.any (· line)
    let headerLines := lines.takeWhile fun line => !isStop line && isHeaderLine line
    let rest := lines.drop headerLines.length
    let rest := match rest with
      | line :: more => if !isStop line && isEmptyLine line then more else rest
      | [] => []
    let rest := match headerLines.getLast? with
      | some line => if isEnvelope line && headerLines.length > 1 then line :: rest else rest
      | none => rest
    let about ← About.ofHeaders codecs (readHeaders none headerLines) standard
    let kind := about.contentType
    if kind == "message/delivery-status" then
      let (parts, rest) ← readBlocks codecs stops fuel rest
      return (.container about parts, rest)
    if Text.startsWith kind "message/" then
      let (inner, rest) ← readMessage codecs "text/plain" stops fuel rest
      return (.container about [inner], rest)
    match (if Text.startsWith kind "multipart/" then about.boundary? else none) with
    | none => return (.leaf about (rest.takeWhile (!isStop ·)).flatten, rest.dropWhile (!isStop ·))
    | some mark =>
      let inside := rest.dropWhile fun line => !isStop line && (boundary? mark line).isNone
      let preamble := (rest.take (rest.length - inside.length)).flatten
      match inside with
      | [] => return (.leaf about preamble, [])
      | line :: more =>
        if isStop line then return (.leaf about preamble, inside)
        if boundary? mark line == some true then return (.leaf about preamble, more.dropWhile (!isStop ·))
        let inner := if kind == "multipart/digest" then "message/rfc822" else "text/plain"
        let (parts, rest) ← readParts codecs inner mark stops fuel inside
        return (.container about parts, rest)

def readParts (codecs : Text.Codecs) (standard : String) (mark : List Char) (stops : List Stop) :
    Nat → List (List Char) → Outcome (List Message × List (List Char))
  | 0, lines => return ([], lines)
  | fuel + 1, lines => do
    let isStop : Stop := fun line => stops.any (· line)
    match lines with
    | [] => return ([], [])
    | line :: more =>
      if isStop line then return ([], lines)
      if boundary? mark line == some true then return ([], more.dropWhile (!isStop ·))
      let start := more.dropWhile fun line => !isStop line && (boundary? mark line).isSome
      let (part, rest) ← readMessage codecs standard ((fun line => (boundary? mark line).isSome) :: stops) fuel start
      let (parts, rest) ← readParts codecs standard mark stops fuel rest
      return (part.beforeBoundary :: parts, rest)

def readBlocks (codecs : Text.Codecs) (stops : List Stop) :
    Nat → List (List Char) → Outcome (List Message × List (List Char))
  | 0, lines => return ([], lines)
  | fuel + 1, lines => do
    let isStop : Stop := fun line => stops.any (· line)
    let (block, rest) ← readMessage codecs "text/plain" (isEmptyLine :: stops) fuel lines
    let rest := match rest with
      | line :: more => if isStop line then rest else more
      | [] => []
    match rest with
    | [] => return ([block], [])
    | line :: _ =>
      if isStop line then return ([block], rest)
      let (blocks, rest) ← readBlocks codecs stops fuel rest
      return (block :: blocks, rest)

end

def parse (codecs : Text.Codecs) (text : String) : Outcome Message :=
  let lines := splitLines [] text.toList
  (readMessage codecs "text/plain" [] (2 * lines.length + 2) lines).map (·.1)

/-! ### Content -/

def decode (codecs : Text.Codecs) (charset : String) (bytes : List Nat) : Outcome String :=
  if bytes.isEmpty then pure ""
  else match Text.Charset.ofName? codecs charset with
  | some known =>
    match known.decode? bytes with
    | some cs => pure (String.ofList cs)
    | none => throw (.badEncoding "bytes that spell no text")
  | none =>
    if Text.Charset.otherNames.contains (Text.Charset.plainName charset) then throw (.noTextEncoding charset)
    else throw (.unknownEncoding charset)

def Message.content : Message → Outcome String
  | container .. => pure "None"
  | leaf about body => decode about.codecs about.charset (transferred (Text.lower (about.transfer.getD "")) body)

end WarehouseMigration.Mail
