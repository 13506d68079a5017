import WarehouseMigration.Yaml.Scalar

/-!
# Tokens

The signs of a document: marks, texts, names, and the beginnings and ends of blocks, which are told by indentation.
Whether a text is a key is known only once a colon follows it on its line, so that the sign for a key is put in later.
-/

namespace WarehouseMigration.Yaml

/-- What a directive at the head of a document says. -/
inductive Directive where
  | version (major minor : Nat)
  | handle (handle uri : String)
  | unknown
deriving DecidableEq

inductive TokenKind where
  | directive (content : Directive)
  | streamStart
  | streamEnd
  | documentStart
  | documentEnd
  | blockList
  | blockMap
  | blockEnd
  | openList
  | closeList
  | openMap
  | closeMap
  /-- the dash before an item of a block -/
  | item
  | comma
  | key
  | value
  | reference (name : String)
  | anchor (name : String)
  | tag (handle : Option String) (suffix : String)
  | scalar (text : String) (plain : Bool)
deriving DecidableEq

def TokenKind.name : TokenKind → String
  | directive _ => "<directive>"
  | streamStart => "<stream start>"
  | streamEnd => "<stream end>"
  | documentStart => "<document start>"
  | documentEnd => "<document end>"
  | blockList => "<block sequence start>"
  | blockMap => "<block mapping start>"
  | blockEnd => "<block end>"
  | openList => "["
  | closeList => "]"
  | openMap => "\x7b"
  | closeMap => "\x7d"
  | item => "-"
  | comma => ","
  | key => "?"
  | value => ":"
  | reference _ => "<alias>"
  | anchor _ => "<anchor>"
  | tag .. => "<tag>"
  | scalar .. => "<scalar>"

structure Token where
  kind : TokenKind
  start : Mark
  stop : Mark

/-! ### Names, tags and directives -/

def readName (what : String) (start : Mark) (c : Cursor) : Except Fault (String × Cursor) := do
  let name := c.rest.takeWhile isNameChar
  let after := c.skip name.length
  let refusal := missing s!"while scanning an {what}" start "alphabetic or numeric character" after
  if name.isEmpty then throw refusal
  if !after.peek.all fun ch => isGap ch || ['?', ':', ',', ']', '}', '%', '@', '\x60'].contains ch then throw refusal
  return (String.ofList name, after)

def isUriChar (c : Char) : Bool := c.isAlphanum || "-;/?:@&=+$,_.!~*'()[]".toList.contains c

/-- Reads the bytes of an address; behind a percent sign they are written as numbers. -/
def readUriBytes (context : String) (start : Mark) : Nat → Cursor → Except Fault (List Nat × Cursor)
  | 0, c => pure ([], c)
  | fuel + 1, c => do
    let (byte, after) ← match c.rest with
      | '%' :: rest =>
        if let some k := (List.range 2).find? fun k => !(rest[k]?).any fun ch => (Json.hexValue? ch).isSome then
          throw (badToken context start
            s!"expected URI escape sequence of 2 hexadecimal numbers, but found {found (rest[k]?)}" c.step)
        pure ((codeOf (rest.take 2)).getD 0, c.skip 3)
      | ch :: _ => if isUriChar ch then pure (ch.toNat, c.step) else return ([], c)
      | [] => return ([], c)
    let (more, after) ← readUriBytes context start fuel after
    return (byte :: more, after)

def readUri (what : String) (start : Mark) (c : Cursor) : Except Fault (String × Cursor) := do
  let context := "while scanning a " ++ what
  let (bytes, after) ← readUriBytes context start (c.rest.length + 1) c
  if bytes.isEmpty then throw (missing ("while parsing a " ++ what) start "URI" c)
  match Text.fromUtf8 bytes with
  | some uri => return (String.ofList uri, after)
  | none => throw (badToken context start "bytes that spell no text" c)

def readHandle (what : String) (start : Mark) (c : Cursor) : Except Fault (String × Cursor) := do
  let refusal := missing ("while scanning a " ++ what) start "'!'"
  if c.peek != some '!' then throw (refusal c)
  if c.peek 1 = some ' ' then return ("!", c.step)
  let name := c.step.rest.takeWhile isNameChar
  let after := c.skip (name.length + 1)
  if after.peek != some '!' then throw (refusal after)
  return (String.ofList ('!' :: name ++ ['!']), after.step)

def readTag (c : Cursor) : Except Fault (TokenKind × Cursor) := do
  let start := c.mark
  let (tag, after) ←
    if c.peek 1 = some '<' then do
      let (uri, after) ← readUri "tag" start (c.skip 2)
      if after.peek != some '>' then throw (missing "while parsing a tag" start "'>'" after)
      pure (.tag none uri, after.step)
    else if (c.peek 1).all isGap then pure (.tag none "!", c.step)
    else do
      let word := c.step.rest.takeWhile fun ch => !(ch = ' ' || isBreak ch)
      let (handle, after) ← if word.contains '!' then readHandle "tag" start c else pure ("!", c.step)
      let (suffix, after) ← readUri "tag" start after
      pure (.tag handle suffix, after)
  if !endsWord after.peek then throw (missing "while scanning a tag" start "' '" after)
  return (tag, after)

def readDirective (c : Cursor) : Except Fault (Directive × Cursor) := do
  let lacks := missing "while scanning a directive" c.mark
  let digits := fun (c : Cursor) => do
    let digits := c.rest.takeWhile Char.isDigit
    if digits.isEmpty then throw (lacks "a digit" c)
    return (Json.digitsValue digits, c.skip digits.length)
  let name := c.step.rest.takeWhile isNameChar
  let after := c.skip (name.length + 1)
  if name.isEmpty || !endsWord after.peek then throw (lacks "alphabetic or numeric character" after)
  let (content, after) ← match String.ofList name with
    | "YAML" => do
      let (major, after) ← digits (after.skipWhile (· = ' '))
      if after.peek != some '.' then throw (lacks "a digit or '.'" after)
      let (minor, after) ← digits after.step
      if !endsWord after.peek then throw (lacks "a digit or ' '" after)
      pure (.version major minor, after)
    | "TAG" => do
      let (handle, after) ← readHandle "directive" c.mark (after.skipWhile (· = ' '))
      if after.peek != some ' ' then throw (lacks "' '" after)
      let (uri, after) ← readUri "directive" c.mark (after.skipWhile (· = ' '))
      if !endsWord after.peek then throw (lacks "' '" after)
      pure (.handle handle uri, after)
    | _ => pure (.unknown, after.skipWhile (!isBreak ·))
  let after := after.skipComment
  if !endsLine after.peek then throw (lacks "a comment or a line break" after)
  return (content, (after.lineBreak?.map (·.2)).getD after)

/-! ### The lexer -/

/-- A token that may turn out to be a key: its number, its place, and whether it must be one. -/
structure PossibleKey where
  number : Nat
  required : Bool
  mark : Mark

/-- What is known while the tokens of a text are read. -/
structure Lexer where
  cursor : Cursor
  size : Nat
  tokens : List Token
  taken : Nat := 0
  /-- the indentation of the present block, and those of the blocks around it -/
  indent : Int := -1
  indents : List Int := []
  level : Int := 0
  keyAllowed : Bool := true
  /-- the possible key of each level of brackets -/
  keys : List (Int × PossibleKey) := []
  done : Bool := false

namespace Lexer

def ofText (cs : List Char) : Lexer := { cursor := ⟨cs, {}⟩, size := cs.length, tokens := [⟨.streamStart, {}, {}⟩] }

variable (l : Lexer)

def inFlow : Bool := l.level != 0

def mark (l : Lexer) : Mark := l.cursor.mark

def note (kind : TokenKind) : Lexer := { l with tokens := l.tokens ++ [⟨kind, l.mark, l.mark⟩] }

def add (kind : TokenKind) (after : Cursor) : Lexer :=
  { l with tokens := l.tokens ++ [⟨kind, l.mark, after.mark⟩], cursor := after }

def addSign (kind : TokenKind) (length : Nat := 1) : Lexer := l.add kind (l.cursor.skip length)

def lostKey (key : PossibleKey) : Fault :=
  badToken "while scanning a simple key" key.mark "could not find expected ':'" l.cursor

/-- Forgets the possible keys that are on another line or too far away. -/
def dropStale : Except Fault Lexer := do
  let isStale := fun (key : PossibleKey) => key.mark.line != l.mark.line || 1024 < l.mark.index - key.mark.index
  match l.keys.find? fun (_, key) => isStale key && key.required with
  | some (_, key) => throw (l.lostKey key)
  | none => return { l with keys := l.keys.filter fun (_, key) => !isStale key }

def dropKey : Except Fault Lexer := do
  match l.keys.lookup l.level with
  | some key =>
    if key.required then throw (l.lostKey key)
    return { l with keys := l.keys.filter (·.1 != l.level) }
  | none => return l

def saveKey : Except Fault Lexer := do
  if !l.keyAllowed then return l
  let required := !l.inFlow && l.indent == (l.mark.column : Int)
  let cleared ← l.dropKey
  return { cleared with keys := cleared.keys ++ [(l.level, ⟨l.taken + l.tokens.length, required, l.mark⟩)] }

def unwound (column : Int) (indent : Int) : List Int → Nat × Int × List Int
  | [] => (0, indent, [])
  | outer :: rest =>
    if column < indent then
      let (n, indents) := unwound column outer rest
      (n + 1, indents)
    else (0, indent, outer :: rest)

def unwind (column : Int) : Lexer :=
  if l.inFlow then l
  else
    let (n, indent, indents) := unwound column l.indent l.indents
    { l with
      tokens := l.tokens ++ List.replicate n ⟨.blockEnd, l.mark, l.mark⟩
      indent := indent
      indents := indents }

def deepen (column : Int) : Lexer × Bool :=
  if l.indent < column then ({ l with indent := column, indents := l.indent :: l.indents }, true) else (l, false)

def closeBlocks : Except Fault Lexer := do
  return { ← (l.unwind (-1)).dropKey with keyAllowed := false }

def endStream : Except Fault Lexer := do
  return { (← l.closeBlocks).note .streamEnd with keys := [], done := true }

/-- A mark between documents. -/
def fetchSeparator (kind : TokenKind) : Except Fault Lexer := do return (← l.closeBlocks).addSign kind 3

def fetchDirective : Except Fault Lexer := do
  let l ← l.closeBlocks
  let (content, after) ← readDirective l.cursor
  return l.add (.directive content) after

def openBracket (kind : TokenKind) : Except Fault Lexer := do
  let l ← l.saveKey
  return { l.addSign kind with level := l.level + 1, keyAllowed := true }

def closeBracket (kind : TokenKind) : Except Fault Lexer := do
  let l ← l.dropKey
  return { l.addSign kind with level := l.level - 1, keyAllowed := false }

def fetchComma : Except Fault Lexer := do
  return { (← l.dropKey).addSign .comma with keyAllowed := true }

def beginBlock (kind : TokenKind) (refusal : String) : Except Fault Lexer := do
  if l.inFlow then return l
  if !l.keyAllowed then throw (.broken .tokens none refusal l.mark)
  let (l, deeper) := l.deepen l.mark.column
  return if deeper then l.note kind else l

def fetchItem : Except Fault Lexer := do
  let l ← l.beginBlock .blockList "sequence entries are not allowed here"
  return { (← l.dropKey).addSign .item with keyAllowed := true }

def fetchKey : Except Fault Lexer := do
  let l ← l.beginBlock .blockMap "mapping keys are not allowed here"
  return { (← l.dropKey).addSign .key with keyAllowed := !l.inFlow }

def insertKey (key : PossibleKey) : Lexer :=
  let place := key.number - l.taken
  let (deep, deeper) := if l.inFlow then (l, false) else l.deepen key.mark.column
  let signs := (if deeper then [TokenKind.blockMap] else []) ++ [.key]
  { deep with
    tokens := l.tokens.take place ++ signs.map (⟨·, key.mark, key.mark⟩) ++ l.tokens.drop place
    keys := l.keys.filter (·.1 != l.level)
    keyAllowed := false }

def fetchValue : Except Fault Lexer := do
  match l.keys.lookup l.level with
  | some key => return (l.insertKey key).addSign .value
  | none =>
    let l ← l.beginBlock .blockMap "mapping values are not allowed here"
    return { (← l.dropKey).addSign .value with keyAllowed := !l.inFlow }

def fetchWord (read : Cursor → Except Fault (TokenKind × Cursor)) : Except Fault Lexer := do
  let l ← l.saveKey
  let (kind, after) ← read l.cursor
  return { l.add kind after with keyAllowed := false }

def fetchPlain : Except Fault Lexer := do
  let l ← l.saveKey
  let text := readPlain l.inFlow l.indent ⟨[], l.mark, false, l.cursor⟩ [] l.size
  return { l with
    tokens := l.tokens ++ [⟨.scalar (String.ofList text.chars) true, l.mark, text.stop⟩]
    cursor := text.after
    keyAllowed := text.broken }

def fetchBlock : Except Fault Lexer := do
  let l ← l.dropKey
  let ((text, stop), after) ← readBlock l.indent l.cursor
  return { l with
    tokens := l.tokens ++ [⟨.scalar text false, l.mark, stop⟩]
    cursor := after
    keyAllowed := true }

/-- The position of the next token, and whether a new line has begun before it. -/
def skipGaps (broken : Bool) : Nat → Cursor → Bool × Cursor
  | 0, c => (broken, c)
  | fuel + 1, c =>
    let c := c.skipComment
    match c.lineBreak? with
    | some (_, c) => skipGaps true fuel c
    | none => (broken, c)

def toNext : Lexer :=
  let c := if l.mark.index = 0 && l.cursor.peek = some '\ufeff' then l.cursor.step else l.cursor
  let (broken, c) := skipGaps false (l.size + 1) c
  { l with cursor := c, keyAllowed := l.keyAllowed || broken && !l.inFlow }

def isAtPlain (c : Char) : Bool :=
  !(isGap c || "-?:,[]\x7b\x7d#&*!|>'\"%@\x60".toList.contains c) ||
    !(l.cursor.peek 1).all isGap && (c = '-' || !l.inFlow && (c = '?' || c = ':'))

/-- Reads the next token, or the signs before it. -/
def fetch : Except Fault Lexer := do
  let l ← l.toNext.dropStale
  let l := l.unwind l.mark.column
  let c := l.cursor
  let atStart := l.mark.column == 0
  let followed := (c.peek 1).all isGap
  match c.peek with
  | none => l.endStream
  | some ch =>
    if ch = '%' && atStart then l.fetchDirective
    else if atStart && c.isAtMark "---" then l.fetchSeparator .documentStart
    else if atStart && c.isAtMark "..." then l.fetchSeparator .documentEnd
    else if ch = '[' then l.openBracket .openList
    else if ch = '{' then l.openBracket .openMap
    else if ch = ']' then l.closeBracket .closeList
    else if ch = '}' then l.closeBracket .closeMap
    else if ch = ',' then l.fetchComma
    else if ch = '-' && followed then l.fetchItem
    else if ch = '?' && (l.inFlow || followed) then l.fetchKey
    else if ch = ':' && (l.inFlow || followed) then l.fetchValue
    else if ch = '*' then l.fetchWord fun c => do
      let (name, after) ← readName "alias" c.mark c.step
      return (.reference name, after)
    else if ch = '&' then l.fetchWord fun c => do
      let (name, after) ← readName "anchor" c.mark c.step
      return (.anchor name, after)
    else if ch = '!' then l.fetchWord readTag
    else if (ch = '|' || ch = '>') && !l.inFlow then l.fetchBlock
    else if ch = '\'' || ch = '"' then l.fetchWord fun c => do
      let (text, after) ← readQuoted c
      return (.scalar text false, after)
    else if l.isAtPlain ch then l.fetchPlain
    else throw (.broken .tokens (some ("while scanning for the next token", none))
      s!"found character {found (some ch)} that cannot start any token" l.mark)

/-- Reads tokens until the first one that waits is known: it may still turn out to be a key. -/
def fill : Nat → Lexer → Except Fault Lexer
  | 0, l => pure l
  | fuel + 1, l => do
    if l.done then return l
    if l.tokens.isEmpty then fill fuel (← l.fetch)
    else
      let l ← l.dropStale
      if l.keys.any fun (_, key) => key.number == l.taken then fill fuel (← l.fetch) else return l

def ready : Except Fault Lexer := l.fill (l.size + 2)

end Lexer

end WarehouseMigration.Yaml
