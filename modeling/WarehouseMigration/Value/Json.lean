import WarehouseMigration.Value.Show
import WarehouseMigration.Sequence

/-!
# JSON

Reading and writing values as JSON.  Texts are written in ASCII with escapes, a comma or a colon is followed by one
space, and the last of several entries with one key counts.
-/

namespace WarehouseMigration.Json

open Value (intText)

/-! ### Writing -/

def unitEscape (n : Nat) : List Char := ['\\', 'u'] ++ Text.hexDigits 4 n

def escapedChar (c : Char) : List Char :=
  let n := c.toNat
  if c = '"' || c = '\\' then ['\\', c]
  else if 32 ≤ n && n < 127 then [c]
  else if c = '\n' then ['\\', 'n']
  else if c = '\r' then ['\\', 'r']
  else if c = '\t' then ['\\', 't']
  else if n = 8 then ['\\', 'b']
  else if n = 12 then ['\\', 'f']
  else if n < 65536 then unitEscape n
  else unitEscape (0xD800 + (n - 65536) / 1024) ++ unitEscape (0xDC00 + (n - 65536) % 1024)

def renderText (s : String) : String := String.ofList ('"' :: s.toList.flatMap escapedChar ++ ['"'])

def numberLayout : Decimal.Layout := ⟨-4, 16, "Infinity", "NaN"⟩

mutual

def render : Value → String
  | .null => "null"
  | .bool b => if b then "true" else "false"
  | .int n => intText n
  | .float x => Decimal.render numberLayout x
  | .text s => renderText s
  | .bytes bs => "\x7b\"bytes\": [" ++ ", ".intercalate (bs.map fun (b : Nat) => intText b) ++ "]\x7d"
  | .list items => "[" ++ renderItems items ++ "]"
  | .map entries => "\x7b" ++ renderEntries entries ++ "\x7d"
  | .object fields => "\x7b" ++ renderEntries fields ++ "\x7d"
  | .constant name => renderText name
  | .record type parts fields =>
    "\x7b\"record\": " ++ renderText type ++ ", \"arguments\": [" ++ renderItems parts ++ "], \"fields\": \x7b" ++
      renderEntries fields ++ "\x7d\x7d"
  | .handle path | .plan path _ => renderText ("<" ++ path ++ ">")

def renderItems : List Value → String
  | [] => ""
  | [v] => render v
  | v :: rest => render v ++ ", " ++ renderItems rest

def renderEntries : List (String × Value) → String
  | [] => ""
  | [(key, v)] => renderText key ++ ": " ++ render v
  | (key, v) :: rest => renderText key ++ ": " ++ render v ++ ", " ++ renderEntries rest

end

/-! ### Reading -/

def isGap (c : Char) : Bool := c = ' ' || c = '\n' || c = '\r' || c = '\t'

def skipGap (cs : List Char) : List Char := cs.dropWhile isGap

def hexValue? (c : Char) : Option Nat :=
  if '0' ≤ c && c ≤ '9' then some (c.toNat - 48)
  else if 'a' ≤ c && c ≤ 'f' then some (c.toNat - 87)
  else if 'A' ≤ c && c ≤ 'F' then some (c.toNat - 55)
  else none

/-- The number written with four hexadecimal digits. -/
def readUnit : List Char → Option (Nat × List Char)
  | a :: b :: c :: d :: rest => do
    let a ← hexValue? a
    let b ← hexValue? b
    let c ← hexValue? c
    let d ← hexValue? d
    pure (4096 * a + 256 * b + 16 * c + d, rest)
  | _ => none

/-- The character after an escape sign other than `u`. -/
def plainEscape? : Char → Option Char
  | '"' => some '"'
  | '\\' => some '\\'
  | '/' => some '/'
  | 'b' => some '\x08'
  | 'f' => some '\x0c'
  | 'n' => some '\n'
  | 'r' => some '\r'
  | 't' => some '\t'
  | _ => none

/-- Reads the rest of a text up to its closing quote; `acc` holds its characters, last first. -/
def readText (acc : List Char) : Nat → List Char → Option (String × List Char)
  | 0, _ => none
  | fuel + 1, cs =>
    match cs with
    | [] => none
    | '"' :: rest => some (String.ofList acc.reverse, rest)
    | '\\' :: 'u' :: rest => do
      let (n, rest) ← readUnit rest
      match Text.isHighUnit n, rest with
      | true, '\\' :: 'u' :: rest =>
        let (low, rest) ← readUnit rest
        if Text.isLowUnit low then readText (Text.paired n low :: acc) fuel rest else none
      | _, _ => readText ((← Text.charOf? 0 n) :: acc) fuel rest
    | '\\' :: e :: rest => do readText ((← plainEscape? e) :: acc) fuel rest
    | c :: rest => if c.toNat < 32 then none else readText (c :: acc) fuel rest

def digitsValue (ds : List Char) : Nat := ds.foldl (fun n d => 10 * n + (d.toNat - 48)) 0

def spanDigits (cs : List Char) : List Char × List Char := cs.span Char.isDigit

/-- The float `±n * 10 ^ e`. -/
def decimalFloat (negative : Bool) (n : Nat) (e : Int) : Float :=
  let x := Float.ofScientific n (e < 0) e.natAbs
  if negative then -x else x

def readNumber (cs : List Char) : Option (Value × List Char) := do
  let (negative, cs) := match cs with
    | '-' :: rest => (true, rest)
    | _ => (false, cs)
  let (whole, cs) := spanDigits cs
  if whole.isEmpty || (whole.length > 1 && whole.head? == some '0') then none
  let (fraction, cs) := match cs with
    | '.' :: rest => if (spanDigits rest).1.isEmpty then ([], cs) else spanDigits rest
    | _ => ([], cs)
  let (exponent, cs) : Option Int × List Char := match cs with
    | e :: rest =>
      if e = 'e' || e = 'E' then
        let (sign, rest) : Int × List Char := match rest with
          | '-' :: r => (-1, r)
          | '+' :: r => (1, r)
          | _ => (1, rest)
        let (ds, after) := spanDigits rest
        if ds.isEmpty then (none, cs) else (some (sign * digitsValue ds), after)
      else (none, cs)
    | [] => (none, cs)
  if fraction.isEmpty && exponent.isNone then
    pure (.int (if negative then -(digitsValue whole : Int) else digitsValue whole), cs)
  else
    pure (.float (decimalFloat negative (digitsValue (whole ++ fraction)) (exponent.getD 0 - fraction.length)), cs)

def readWord (cs : List Char) : Option (Value × List Char) :=
  let words : List (String × Value) :=
    [("null", .null), ("true", .bool true), ("false", .bool false), ("NaN", .float (0.0 / 0.0)),
     ("Infinity", .float (1.0 / 0.0)), ("-Infinity", .float (-1.0 / 0.0))]
  words.findSome? fun (word, v) =>
    if word.toList.isPrefixOf cs then some (v, cs.drop word.length) else none

mutual

def readValue : Nat → List Char → Option (Value × List Char)
  | 0, _ => none
  | fuel + 1, cs =>
    match cs with
    | '"' :: rest => (readText [] (rest.length + 1) rest).map fun (s, rest) => (.text s, rest)
    | '[' :: rest =>
      match skipGap rest with
      | ']' :: rest => some (.list [], rest)
      | rest => readItems [] fuel rest
    | '{' :: rest =>
      match skipGap rest with
      | '}' :: rest => some (.map [], rest)
      | rest => readEntries [] fuel rest
    | cs => (readWord cs).or (readNumber cs)

/-- Reads the items of a list after its bracket; `acc` holds those before, last first. -/
def readItems (acc : List Value) : Nat → List Char → Option (Value × List Char)
  | 0, _ => none
  | fuel + 1, cs => do
    let (v, rest) ← readValue fuel (skipGap cs)
    match skipGap rest with
    | ',' :: rest => readItems (v :: acc) fuel rest
    | ']' :: rest => some (.list (v :: acc).reverse, rest)
    | _ => none

def readEntries (acc : List (String × Value)) : Nat → List Char → Option (Value × List Char)
  | 0, _ => none
  | fuel + 1, cs =>
    match skipGap cs with
    | '"' :: rest => do
      let (key, rest) ← readText [] (rest.length + 1) rest
      match skipGap rest with
      | ':' :: rest =>
        let (v, rest) ← readValue fuel (skipGap rest)
        match skipGap rest with
        | ',' :: rest => readEntries (Sequence.put key v acc) fuel rest
        | '}' :: rest => some (.map (Sequence.put key v acc), rest)
        | _ => none
      | _ => none
    | _ => none

end

def parse (s : String) : Option Value := do
  let cs := s.toList
  let (v, rest) ← readValue (cs.length + 1) (skipGap cs)
  if (skipGap rest).isEmpty then some v else none

end WarehouseMigration.Json
