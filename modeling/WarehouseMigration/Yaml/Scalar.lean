import WarehouseMigration.Value.Json
import WarehouseMigration.Yaml.Cursor

/-!
# Texts of scalars

A text is written plainly, in single or double quotes, or as a block of lines.  Where a text goes on in the next line,
the end of the line counts as a blank, and further ends of lines as themselves; a block can keep all its lines.
-/

namespace WarehouseMigration.Yaml

/-! ### Texts in quotes -/

def escaped? (c : Char) : Option Char :=
  ("0abt\tnvfre \"\\/N_LP".toList.zip
    "\x00\x07\x08\t\t\n\x0b\x0c\r\x1b \"\\/\u0085\u00a0\u2028\u2029".toList).lookup c

/-- How many hexadecimal digits follow a letter behind a backslash. -/
def escapeWidth? : Char → Option Nat
  | 'x' => some 2
  | 'u' => some 4
  | 'U' => some 8
  | _ => none

def codeOf (digits : List Char) : Option Nat :=
  digits.foldlM (fun n c => (Json.hexValue? c).map (16 * n + ·)) 0

def lowUnit? (high : Nat) (c : Cursor) : Option Nat :=
  match c.rest with
  | '\\' :: 'u' :: more => do
    let low ← codeOf (more.take 4)
    if Text.isHighUnit high && Text.isLowUnit low && 4 ≤ more.length then some low else none
  | _ => none

def quotedBreaks (start : Mark) : Nat → Cursor → Except Fault (List Char × Cursor)
  | 0, c => pure ([], c)
  | fuel + 1, c => do
    if c.isAtSeparator then
      throw (badToken "while scanning a quoted scalar" start "found unexpected document separator" c)
    let c := c.skipWhile fun ch => ch = ' ' || ch = '\t'
    match c.lineBreak? with
    | none => return ([], c)
    | some (b, c) =>
      let (more, c) ← quotedBreaks start fuel c
      return (b :: more, c)

def readEscape (start : Mark) (c : Cursor) : Except Fault (List Char × Cursor) := do
  let context := "while scanning a double-quoted scalar"
  let e := c.peek.getD '\x00'
  match escaped? e, escapeWidth? e with
  | some ch, _ => return ([ch], c.step)
  | none, some width =>
    let c := c.step
    if let some k := (List.range width).find? fun k => !(c.peek k).any fun ch => (Json.hexValue? ch).isSome then
      throw (badToken context start
        s!"expected escape sequence of {width} hexadecimal numbers, but found {found (c.peek k)}" c)
    let code := (codeOf (c.rest.take width)).getD 0
    if 0x110000 ≤ code then throw (.unmade (.invalid "chr() arg not in range(0x110000)"))
    let c := c.skip width
    match lowUnit? code c, Text.charOf? 0 code with
    | some low, _ => return ([Text.paired code low], c.skip 6)
    | none, some ch => return ([ch], c)
    | none, none => throw (.unmade (.badEncoding "a unit without its partner"))
  | none, none =>
    match c.lineBreak? with
    | some (_, after) => quotedBreaks start (after.rest.length + 1) after
    | none => throw (badToken context start s!"found unknown escape character {found (c.peek)}" c)

def quotedWord (double : Bool) (start : Mark) : Nat → Cursor → Except Fault (List Char × Cursor)
  | 0, c => pure ([], c)
  | fuel + 1, c => do
    let plain := c.rest.takeWhile fun ch => !(isGap ch || ch = '\'' || ch = '"' || ch = '\\')
    let c := c.skip plain.length
    let next ← match double, c.rest with
      | false, '\'' :: '\'' :: _ => pure (some (['\''], c.skip 2))
      | true, '\'' :: _ => pure (some (['\''], c.step))
      | false, '"' :: _ => pure (some (['"'], c.step))
      | false, '\\' :: _ => pure (some (['\\'], c.step))
      | true, '\\' :: _ => some <$> readEscape start c.step
      | _, _ => pure none
    match next with
    | none => return (plain, c)
    | some (cs, c) =>
      let (more, c) ← quotedWord double start fuel c
      return (plain ++ cs ++ more, c)

def quotedGap (start : Mark) (c : Cursor) : Except Fault (List Char × Cursor) := do
  let blanks := c.rest.takeWhile fun ch => ch = ' ' || ch = '\t'
  let c := c.skip blanks.length
  if c.rest.isEmpty then
    throw (badToken "while scanning a quoted scalar" start "found unexpected end of stream" c)
  match c.lineBreak? with
  | none => return (blanks, c)
  | some (b, c) =>
    let (breaks, c) ← quotedBreaks start (c.rest.length + 1) c
    return ((if b != '\n' then [b] else if breaks.isEmpty then [' '] else []) ++ breaks, c)

def quotedRest (double : Bool) (start : Mark) : Nat → Cursor → Except Fault (List Char × Cursor)
  | 0, c => pure ([], c)
  | fuel + 1, c => do
    if c.peek = some (if double then '"' else '\'') then return ([], c.step)
    let (gap, c) ← quotedGap start c
    let (word, c) ← quotedWord double start (c.rest.length + 1) c
    let (more, c) ← quotedRest double start fuel c
    return (gap ++ word ++ more, c)

def readQuoted (c : Cursor) : Except Fault (String × Cursor) := do
  let double := c.peek = some '"'
  let (word, after) ← quotedWord double c.mark (c.rest.length + 1) c.step
  let (more, after) ← quotedRest double c.mark (after.rest.length + 1) after
  return (String.ofList (word ++ more), after)

/-! ### Plain texts -/

def isBracketMark (c : Char) : Bool := c = ',' || c = '[' || c = ']' || c = '{' || c = '}'

def plainLength (inFlow : Bool) : List Char → Nat
  | [] => 0
  | c :: rest =>
    if isGap c || c = ':' && rest.head?.all (fun d => isGap d || inFlow && isBracketMark d) ||
        inFlow && (isBracketMark c || c = '?') then 0
    else plainLength inFlow rest + 1

/-- The blanks and ends of lines that come next; `none` if the document ends there. -/
def plainBreaks : Nat → Cursor → Option (List Char) × Cursor
  | 0, c => (some [], c)
  | fuel + 1, c =>
    let c := c.skipWhile (· = ' ')
    match c.lineBreak? with
    | none => (some [], c)
    | some (b, c) =>
      if c.isAtSeparator then (none, c)
      else
        let (more, c) := plainBreaks fuel c
        (more.map (b :: ·), c)

def plainGap (c : Cursor) : List Char × Bool × Cursor :=
  let blanks := c.rest.takeWhile (· = ' ')
  let c := c.skip blanks.length
  match c.lineBreak? with
  | none => (blanks, false, c)
  | some (b, c) =>
    if c.isAtSeparator then ([], true, c)
    else
      match plainBreaks (c.rest.length + 1) c with
      | (none, c) => ([], true, c)
      | (some breaks, c) =>
        ((if b != '\n' then [b] else if breaks.isEmpty then [' '] else []) ++ breaks, true, c)

/-- A plain text that has been read. -/
structure PlainText where
  chars : List Char
  stop : Mark
  /-- whether a new line has begun behind it -/
  broken : Bool
  after : Cursor

/-- Reads a plain text whose further lines begin behind the column `indent`. -/
def readPlain (inFlow : Bool) (indent : Int) (done : PlainText) (gap : List Char) : Nat → PlainText
  | 0 => done
  | fuel + 1 =>
    let c := done.after
    let length := plainLength inFlow c.rest
    if c.peek = some '#' || length = 0 then done
    else
      let behind := c.skip length
      let (more, broken, after) := plainGap behind
      let done := ⟨done.chars ++ gap ++ c.rest.take length, behind.mark, broken, after⟩
      if more.isEmpty || !inFlow && (after.mark.column : Int) ≤ indent then done
      else readPlain inFlow indent done more fuel

/-! ### Blocks of lines -/

/-- What the head of a block says: whether the ends of lines at its end are kept or dropped, and its indentation. -/
structure BlockHead where
  keep : Option Bool := none
  indent : Option Nat := none

/-- Whether a sign tells what happens to the ends of lines. -/
def keeps? : Option Char → Option Bool
  | some '+' => some true
  | some '-' => some false
  | _ => none

def readIndent (start : Mark) (c : Cursor) : Except Fault (Option Nat × Cursor) := do
  match c.peek with
  | some d =>
    if d = '0' then
      throw (badToken "while scanning a block scalar" start
        "expected indentation indicator in the range 1-9, but found 0" c)
    else if d.isDigit then return (some (d.toNat - 48), c.step)
    else return (none, c)
  | none => return (none, c)

def readBlockHead (start : Mark) (c : Cursor) : Except Fault (BlockHead × Cursor) := do
  let context := "while scanning a block scalar"
  let (head, c) ← match keeps? c.peek with
    | some keep => do
      let (indent, c) ← readIndent start c.step
      pure (⟨some keep, indent⟩, c)
    | none => do
      let (indent, c) ← readIndent start c
      let keep := if indent.isSome then keeps? c.peek else none
      pure ((⟨keep, indent⟩ : BlockHead), if keep.isSome then c.step else c)
  if !endsWord c.peek then throw (missing context start "chomping or indentation indicators" c)
  let c := c.skipComment
  if !endsLine c.peek then throw (missing context start "a comment or a line break" c)
  return (head, (c.lineBreak?.map (·.2)).getD c)

/-- The empty lines at the beginning of a block, its indentation as far as it shows, and the place behind the last
end of a line. -/
def blockStart (deepest : Nat) (stop : Mark) : Nat → Cursor → List Char × Nat × Mark × Cursor
  | 0, c => ([], deepest, stop, c)
  | fuel + 1, c =>
    let c := c.skipWhile (· = ' ')
    let deepest := max deepest c.mark.column
    match c.lineBreak? with
    | none => ([], deepest, stop, c)
    | some (b, c) =>
      let (more, rest) := blockStart deepest c.mark fuel c
      (b :: more, rest)

def skipIndent (indent : Nat) (c : Cursor) : Cursor :=
  c.skip (min (indent - c.mark.column) (c.rest.takeWhile (· = ' ')).length)

def blockBreaks (indent : Nat) (stop : Mark) : Nat → Cursor → List Char × Mark × Cursor
  | 0, c => ([], stop, c)
  | fuel + 1, c =>
    let c := skipIndent indent c
    match c.lineBreak? with
    | none => ([], stop, c)
    | some (b, c) =>
      let (more, rest) := blockBreaks indent c.mark fuel c
      (b :: more, rest)

/-- What is read of a block: its text, the end of its last line, the empty lines behind it, and where it ends. -/
structure BlockText where
  chars : List Char
  last : List Char
  breaks : List Char
  stop : Mark
  after : Cursor

def beginsBlank (c : Cursor) : Bool := c.peek = some ' ' || c.peek = some '\t'

/-- Reads the lines of a block.  If it is folded, the end of a line between two lines that begin with no blank counts
as a blank, or as nothing before empty lines. -/
def readLines (folded : Bool) (indent : Nat) (done : BlockText) : Nat → BlockText
  | 0 => done
  | fuel + 1 =>
    let c := done.after
    if c.mark.column != indent || c.rest.isEmpty then done
    else
      let line := c.rest.takeWhile (!isBreak ·)
      let behind := c.skip line.length
      let (last, next) := match behind.lineBreak? with
        | some (b, next) => ([b], next)
        | none => ([], behind)
      let (breaks, stop, after) := blockBreaks indent next.mark (next.rest.length + 1) next
      let chars := done.chars ++ done.breaks ++ line
      if after.mark.column != indent || after.rest.isEmpty then ⟨chars, last, breaks, stop, after⟩
      else
        let glue :=
          if folded && last = ['\n'] && !beginsBlank c && !beginsBlank after then if breaks.isEmpty then [' '] else []
          else last
        readLines folded indent ⟨chars ++ glue, last, breaks, stop, after⟩ fuel

def readBlock (outer : Int) (c : Cursor) : Except Fault ((String × Mark) × Cursor) := do
  let folded := c.peek = some '>'
  let (head, next) ← readBlockHead c.mark c.step
  let least := max 1 (outer + 1).toNat
  let fuel := next.rest.length + 1
  let (breaks, indent, stop, next) := match head.indent with
    | some n =>
      let indent := least + n - 1
      let (breaks, stop, next) := blockBreaks indent next.mark fuel next
      (breaks, indent, stop, next)
    | none =>
      let (breaks, deepest, stop, next) := blockStart 0 next.mark fuel next
      (breaks, max least deepest, stop, next)
  let text := readLines folded indent ⟨[], [], breaks, stop, next⟩ fuel
  let tail := (if head.keep = some false then [] else text.last) ++ (if head.keep = some true then text.breaks else [])
  return ((String.ofList (text.chars ++ tail), text.stop), text.after)

end WarehouseMigration.Yaml
