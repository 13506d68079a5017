import WarehouseMigration.Value.Json
import WarehouseMigration.Failure

/-!
# Literals

Values in the notation in which `Value.quoted` writes them: texts in quotes, the words `None`, `True` and `False`,
numbers, and collections in brackets.  What stands in round brackets is read as a list, too.
-/

namespace WarehouseMigration.Literal

def skipBlanks : List Char → List Char
  | '\\' :: '\n' :: rest => skipBlanks rest
  | c :: rest => if c = ' ' || c = '\t' || c = '\x0c' then skipBlanks rest else c :: rest
  | [] => []

/-- What follows blanks, line ends and comments; `isComment` tells whether the text begins inside a comment. -/
def skipLines (isComment : Bool) : List Char → List Char
  | [] => []
  | '\n' :: rest => skipLines false rest
  | '\\' :: '\n' :: rest => skipLines false rest
  | c :: rest =>
    if isComment then skipLines true rest
    else if c = '#' then skipLines true rest
    else if c = ' ' || c = '\t' || c = '\x0c' then skipLines false rest
    else c :: rest

/-- What stands between the parts of a literal; within brackets this includes line ends and comments. -/
def skipGap (isBracketed : Bool) (cs : List Char) : List Char :=
  if isBracketed then skipLines false cs else skipBlanks cs

def escaped? (c : Char) : Option Char :=
  ("abfnrtv\\'\"".toList.zip "\x07\x08\x0c\n\r\t\x0b\\'\"".toList).lookup c

def readCode (width : Nat) (cs : List Char) : Option (Char × List Char) :=
  let ds := cs.take width
  if ds.length == width && ds.all fun d => (Json.hexValue? d).isSome then
    (Text.charOf? 0 (ds.foldl (fun n d => 16 * n + (Json.hexValue? d).getD 0) 0)).map (·, cs.drop width)
  else none

/-- Reads up to the closing quote; `acc` holds the characters so far, last first. -/
def readQuoted (close : Char) (acc : List Char) : Nat → List Char → Option (List Char × List Char)
  | 0, _ => none
  | fuel + 1, '\\' :: d :: rest =>
    let code := fun width => do
      let (e, rest) ← readCode width rest
      readQuoted close (e :: acc) fuel rest
    match d with
    | '\n' => readQuoted close acc fuel rest
    | 'x' => code 2
    | 'u' => code 4
    | 'U' => code 8
    | 'N' => none
    | _ =>
      match escaped? d with
      | some e => readQuoted close (e :: acc) fuel rest
      | none => readQuoted close (d :: '\\' :: acc) fuel rest
  | fuel + 1, c :: rest =>
    if c = close then some (acc.reverse, rest)
    else if c = '\n' then none
    else readQuoted close (c :: acc) fuel rest
  | _, [] => none

def readString : List Char → Option (List Char × List Char)
  | c :: rest => if c = '\'' || c = '"' then readQuoted c [] (rest.length + 1) rest else none
  | [] => none

/-- Texts that stand side by side are one. -/
def readStrings (isBracketed : Bool) (acc : List Char) : Nat → List Char → Option (Value × List Char)
  | 0, _ => none
  | fuel + 1, cs =>
    match readString (skipGap isBracketed cs) with
    | some (inside, rest) => readStrings isBracketed (acc ++ inside) fuel rest
    | none => some (.text (String.ofList acc), cs)

variable (cs : List Char)

def readDigits : List Char × List Char := (cs.takeWhile Char.isDigit, cs.dropWhile Char.isDigit)

def readExponent : Option (Int × List Char) :=
  match cs with
  | e :: rest =>
    if e != 'e' && e != 'E' then none
    else
      let (sign, rest) : Int × List Char := match rest with
        | '-' :: rest => (-1, rest)
        | '+' :: rest => (1, rest)
        | _ => (1, rest)
      let (ds, rest) := readDigits rest
      if ds.isEmpty then none else some (sign * Json.digitsValue ds, rest)
  | [] => none

def goesOn (c : Char) : Bool := c.isAlphanum || c = '_' || c = '.' || c.toNat ≥ 128

def readNumber (isNegative : Bool) : Option (Value × List Char) := do
  let (whole, rest) := readDigits cs
  let (hasPoint, fraction, rest) := match rest with
    | '.' :: rest => (true, readDigits rest)
    | _ => (false, [], rest)
  if whole.isEmpty && fraction.isEmpty then none
  let digits := Json.digitsValue (whole ++ fraction)
  let exponent := readExponent rest
  let rest := (exponent.map (·.2)).getD rest
  if rest.head?.any goesOn then none
  if hasPoint || exponent.isSome then
    return (.float (Json.decimalFloat isNegative digits ((exponent.map (·.1)).getD 0 - fraction.length)), rest)
  if whole.head? = some '0' && whole.any (· != '0') then none
  return (.int (if isNegative then -digits else digits), rest)

def readWord : Option (Value × List Char) :=
  [("None", Value.null), ("True", .bool true), ("False", .bool false)].findSome? fun (word, v) =>
    let rest := cs.drop word.length
    if word.toList.isPrefixOf cs && !rest.head?.any goesOn then some (v, rest) else none

mutual

/-- Reads a literal; `isBracketed` tells whether brackets are open around it. -/
def read (isBracketed : Bool) : Nat → List Char → Option (Value × List Char)
  | 0, _ => none
  | fuel + 1, cs =>
    match skipGap isBracketed cs with
    | '[' :: rest => (readItems ']' [] fuel rest).map fun (items, _, rest) => (.list items, rest)
    | '(' :: rest => (readItems ')' [] fuel rest).map fun (items, isOpen, rest) =>
      match items, isOpen with
      | [v], false => (v, rest)
      | _, _ => (.list items, rest)
    | '\x7b' :: rest => (readEntries [] fuel rest).map fun (entries, rest) => (.map entries, rest)
    | '-' :: rest => readNumber (skipGap isBracketed rest) true
    | '+' :: rest => readNumber (skipGap isBracketed rest) false
    | cs =>
      match readString cs with
      | some (inside, rest) => readStrings isBracketed inside (rest.length + 1) rest
      | none => (readWord cs).or (readNumber cs false)

def readItems (close : Char) (acc : List Value) : Nat → List Char → Option (List Value × Bool × List Char)
  | 0, _ => none
  | fuel + 1, cs =>
    let cs := skipLines false cs
    if cs.head? = some close then some (acc.reverse, !acc.isEmpty, cs.tail)
    else do
      let (v, rest) ← read true fuel cs
      match skipLines false rest with
      | ',' :: rest => readItems close (v :: acc) fuel rest
      | c :: rest => if c = close then some ((v :: acc).reverse, false, rest) else none
      | [] => none

def readEntries (acc : List (String × Value)) : Nat → List Char → Option (List (String × Value) × List Char)
  | 0, _ => none
  | fuel + 1, cs =>
    match skipLines false cs with
    | '\x7d' :: rest => some (acc, rest)
    | cs => do
      let (key, rest) ← read true fuel cs
      let ':' :: rest := skipLines false rest | none
      let (v, rest) ← read true fuel rest
      let acc := Sequence.put key.shown v acc
      match skipLines false rest with
      | ',' :: rest => readEntries acc fuel rest
      | '\x7d' :: rest => some (acc, rest)
      | _ => none

end

def isIndented (isFirst : Bool) : List String → Bool
  | [] => false
  | line :: rest =>
    match skipBlanks line.toList with
    | [] | '#' :: _ => isIndented false rest
    | cs => !isFirst && cs.length < line.length

def parse (s : String) : Outcome Value := do
  if isIndented true (s.splitOn "\n") then throw .badIndent
  let cs := skipLines false s.toList
  match read false (2 * cs.length + 2) cs with
  | some (v, rest) => if (skipLines false rest).isEmpty then return v else throw (.badSource "invalid syntax")
  | none => throw (.badSource "invalid syntax")

end WarehouseMigration.Literal
