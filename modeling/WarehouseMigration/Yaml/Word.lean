import WarehouseMigration.Text.Base64
import WarehouseMigration.Text.Integer
import WarehouseMigration.Text.LetterCase
import WarehouseMigration.Text.Search
import WarehouseMigration.Value.Json
import WarehouseMigration.Yaml.Cursor

/-!
# Tags and words

A tag tells what kind of value a part of a document stands for.  A plain word without a tag has the one that its form
tells: numbers, dates, and words for nothing, yes and no are recognised, all else is text.
-/

namespace WarehouseMigration.Yaml

/-- The kinds of values. -/
inductive Tag where
  | null
  | bool
  | int
  | float
  | timestamp
  | binary
  | text
  | list
  | map
  | set
  /-- a mapping with an order, and a list of pairs -/
  | orderedMap
  | pairs
  /-- the key under which another mapping is merged in -/
  | merge
  /-- the key of a mapping's standard value -/
  | standard
  | other (uri : String)
deriving DecidableEq

namespace Tag

def standardUri : String := "tag:yaml.org,2002:"

def names : List (String × Tag) :=
  [("null", null), ("bool", bool), ("int", int), ("float", float), ("timestamp", timestamp), ("binary", binary),
   ("str", text), ("seq", list), ("map", map), ("set", set), ("omap", orderedMap), ("pairs", pairs), ("merge", merge),
   ("value", standard)]

def ofUri (uri : String) : Tag := ((names.find? (standardUri ++ ·.1 == uri)).map (·.2)).getD (other uri)

def uri : Tag → String
  | other uri => uri
  | tag => standardUri ++ ((names.find? (·.2 == tag)).map (·.1)).getD ""

end Tag

/-! ### The forms of plain words -/

def isDigitMark (c : Char) : Bool := c.isDigit || c = '_'

def unsigned : List Char → List Char
  | '-' :: rest => rest
  | '+' :: rest => rest
  | cs => cs

def isDigits (first : Char → Bool) : List Char → Bool
  | [] => false
  | c :: rest => first c && rest.all isDigitMark

def isSixtieth : List Char → Bool
  | [c] => c.isDigit
  | [c, d] => '0' ≤ c && c ≤ '5' && d.isDigit
  | _ => false

variable (cs : List Char)

def colonParts : List (List Char) := (Text.splitFrom [':'] 0 [] cs)

def isWholeForm : Bool :=
  match cs with
  | ['0'] => true
  | '0' :: 'b' :: rest => !rest.isEmpty && rest.all fun c => c = '0' || c = '1' || c = '_'
  | '0' :: 'x' :: rest => !rest.isEmpty && rest.all fun c => (Json.hexValue? c).isSome || c = '_'
  | '0' :: rest => rest.all fun c => '0' ≤ c && c ≤ '7' || c = '_'
  | cs =>
    match colonParts cs with
    | first :: rest => isDigits (fun c => '1' ≤ c && c ≤ '9') first && rest.all isSixtieth
    | [] => false

def isExponent : List Char → Bool
  | [] => true
  | e :: sign :: digits =>
    (e = 'e' || e = 'E') && (sign = '-' || sign = '+') && !digits.isEmpty && digits.all Char.isDigit
  | _ => false

def isPointForm : Bool :=
  match cs.dropWhile (· != '.') with
  | _ :: tail =>
    match colonParts (cs.takeWhile (· != '.')) with
    | [whole] => isDigits Char.isDigit whole && isExponent (tail.dropWhile isDigitMark)
    | whole :: rest => isDigits Char.isDigit whole && rest.all isSixtieth && tail.all isDigitMark
    | [] => false
  | [] => false

/-- Whether a word is a number with a point. -/
def isFractionForm : Bool :=
  isPointForm (unsigned cs) ||
    match cs with
    | '.' :: rest => isDigits Char.isDigit (rest.takeWhile isDigitMark) && isExponent (rest.dropWhile isDigitMark)
    | _ => false

/-! ### Points in time -/

/-- A time of the day, with the distance from universal time in minutes if it is known. -/
structure Clock where
  hour : Nat
  minute : Nat
  second : Nat
  micro : Nat
  zone : Option Int

/-- A date, and a time of the day if it is known. -/
structure Moment where
  year : Nat
  month : Nat
  day : Nat
  clock : Option Clock

def readDigits (least most : Nat) (cs : List Char) : Option (Nat × List Char) :=
  let digits := (cs.take most).takeWhile Char.isDigit
  if digits.length < least then none else some (Json.digitsValue digits, cs.drop digits.length)

def behind (sign : Char) : List Char → Option (List Char)
  | c :: rest => if c = sign then some rest else none
  | [] => none

def readZone : Option (Option Int) :=
  match cs.dropWhile fun c => c = ' ' || c = '\t' with
  | [] => if cs.isEmpty then some none else none
  | ['Z'] => some (some 0)
  | sign :: rest => do
    if sign != '-' && sign != '+' then none
    let (hours, rest) ← readDigits 1 2 rest
    let minutes ← match rest with
      | [] => some 0
      | rest => do
        let (minutes, rest) ← readDigits 2 2 (← behind ':' rest)
        if rest.isEmpty then some minutes else none
    let distance : Int := 60 * hours + minutes
    some (some (if sign = '-' then -distance else distance))

def readClock : Option Clock := do
  let (hour, rest) ← readDigits 1 2 cs
  let (minute, rest) ← readDigits 2 2 (← behind ':' rest)
  let (second, rest) ← readDigits 2 2 (← behind ':' rest)
  let (part, rest) := match rest with
    | '.' :: rest => (rest.takeWhile Char.isDigit, rest.dropWhile Char.isDigit)
    | rest => ([], rest)
  let micro := Json.digitsValue ((part ++ List.replicate 6 '0').take 6)
  return ⟨hour, minute, second, micro, ← readZone rest⟩

def readMoment : Option Moment := do
  let (year, rest) ← readDigits 4 4 cs
  let (month, rest) ← readDigits 1 2 (← behind '-' rest)
  let (day, rest) ← readDigits 1 2 (← behind '-' rest)
  match rest with
  | [] => return ⟨year, month, day, none⟩
  | c :: more =>
    let time := rest.dropWhile fun c => c = ' ' || c = '\t'
    if c = 'T' || c = 't' then return ⟨year, month, day, some (← readClock more)⟩
    else if c = ' ' || c = '\t' then return ⟨year, month, day, some (← readClock time)⟩
    else none

/-- Whether a word is a point in time; a date alone has two digits for month and day. -/
def isMomentForm : Bool :=
  match readMoment cs with
  | some m => m.clock.isSome || cs.length = 10
  | none => false

namespace Moment

def daysIn (year month : Nat) : Nat :=
  if month = 2 then if year % 4 = 0 && (year % 100 != 0 || year % 400 = 0) then 29 else 28
  else if [4, 6, 9, 11].contains month then 30 else 31

/-- What is wrong with a point in time. -/
def flaw? (m : Moment) : Option String :=
  let bad := fun (b : Bool) (s : String) => if b then some s else none
  bad (m.year = 0) "year 0 is out of range" <|>
  bad (m.month = 0 || 12 < m.month) "month must be in 1..12" <|>
  bad (m.day = 0 || daysIn m.year m.month < m.day) "day is out of range for month" <|>
  m.clock.bind fun t =>
    bad (23 < t.hour) "hour must be in 0..23" <|>
    bad (59 < t.minute) "minute must be in 0..59" <|>
    bad (59 < t.second) "second must be in 0..59"

def padded (width n : Nat) : String :=
  let digits := Nat.toDigits 10 n
  String.ofList (List.replicate (width - digits.length) '0' ++ digits)

def zoneText (minutes : Int) : String :=
  let n := minutes.natAbs
  (if minutes < 0 then "-" else "+") ++ padded 2 (n / 60) ++ ":" ++ padded 2 (n % 60)

def text (m : Moment) : String :=
  padded 4 m.year ++ "-" ++ padded 2 m.month ++ "-" ++ padded 2 m.day ++
    match m.clock with
    | none => ""
    | some t =>
      " " ++ padded 2 t.hour ++ ":" ++ padded 2 t.minute ++ ":" ++ padded 2 t.second ++
        (if t.micro = 0 then "" else "." ++ padded 6 t.micro) ++ (t.zone.map zoneText).getD ""

end Moment

/-! ### What plain words stand for -/

def truthWords : List (String × Bool) :=
  [("yes", true), ("no", false), ("true", true), ("false", false), ("on", true), ("off", false)]

def spellings (word : String) : List String := [word, Text.capitalize word, Text.upper word]

def Tag.ofWord (word : String) : Tag :=
  let cs := word.toList
  if word == "" || word == "~" || (spellings "null").contains word then .null
  else if truthWords.any fun (w, _) => (spellings w).contains word then .bool
  else if ([".nan", ".NaN", ".NAN"]).contains word then .float
  else if ([".inf", ".Inf", ".INF"]).contains (String.ofList (unsigned cs)) then .float
  else if isFractionForm cs then .float
  else if isWholeForm (unsigned cs) then .int
  else if word == "<<" then .merge
  else if word == "=" then .standard
  else if isMomentForm cs then .timestamp
  else .text

def baseNumber (base : Nat) (cs : List Char) : Outcome Int := do
  let digits := cs.foldlM (fun n c =>
    (Json.hexValue? c).bind fun d => if d < base then some (base * n + d) else none) 0
  match digits, cs with
  | some n, _ :: _ => return (n : Nat)
  | _, _ => throw (.invalid s!"invalid literal for int() with base {base}: {Text.quote (String.ofList cs)}")

def wholeNumber (word : String) : Outcome Int := do
  let cs := word.toList.filter (· != '_')
  let n ← match unsigned cs with
    | [] => throw (.noIndex "string index out of range")
    | ['0'] => pure 0
    | '0' :: 'b' :: rest => baseNumber 2 rest
    | '0' :: 'x' :: rest => baseNumber 16 rest
    | '0' :: rest => baseNumber 8 ('0' :: rest)
    | digits => do
      let parts ← (colonParts digits).mapM fun part => Text.toInt (String.ofList part)
      pure (parts.foldl (fun n part => 60 * n + part) 0)
  return if cs.head? = some '-' then -n else n

def decimal? (cs : List Char) : Option Float := do
  let (whole, rest) := cs.span Char.isDigit
  let (part, rest) := match rest with
    | '.' :: rest => rest.span Char.isDigit
    | rest => ([], rest)
  if whole.isEmpty && part.isEmpty then none
  let n := Json.digitsValue (whole ++ part)
  let places : Int := part.length
  match rest with
  | [] => some (Json.decimalFloat false n (-places))
  | e :: rest =>
    let digits := unsigned rest
    if e != 'e' || digits.isEmpty || !digits.all Char.isDigit then none
    let power : Int := Json.digitsValue digits
    some (Json.decimalFloat false n ((if rest.head? = some '-' then -power else power) - places))

def decimalNumber (cs : List Char) : Outcome Float :=
  match decimal? cs, String.ofList cs with
  | some x, _ => pure x
  | none, "inf" | none, "infinity" => pure (1.0 / 0.0)
  | none, "nan" => pure (0.0 / 0.0)
  | none, s => throw (.invalid ("could not convert string to float: " ++ Text.quote s))

def fraction (word : String) : Outcome Float := do
  let cs := (Text.lower word).toList.filter (· != '_')
  let x ← match unsigned cs with
    | [] => throw (.noIndex "string index out of range")
    | ['.', 'i', 'n', 'f'] => pure (1.0 / 0.0)
    | ['.', 'n', 'a', 'n'] => pure (0.0 / 0.0)
    | digits =>
      match colonParts digits with
      | [_] => decimalNumber digits
      | parts => do
        let parts ← parts.reverse.mapM decimalNumber
        pure (parts.foldl (fun ((sum, base) : Float × Float) x => (sum + x * base, base * 60)) (0, 1)).1
  return if cs.head? = some '-' then -x else x

/-- What a text of a scalar stands for under a tag; `none` if scalars of that tag have no values. -/
def Tag.value? (tag : Tag) (text : String) (mark : Mark) : Option (Except Fault Value) :=
  let ofOutcome := fun (o : Outcome Value) => some (o.mapError Fault.unmade)
  match tag with
  | .null => some (pure .null)
  | .text => some (pure (.text text))
  | .bool => ofOutcome <| match truthWords.lookup (Text.lower text) with
    | some b => pure (.bool b)
    | none => throw (.noKey (Text.lower text))
  | .int => ofOutcome (Value.int <$> wholeNumber text)
  | .float => ofOutcome (Value.float <$> fraction text)
  | .timestamp => ofOutcome <| match readMoment text.toList with
    | some m =>
      match m.flaw? with
      | some flaw => throw (.invalid flaw)
      | none => pure (.text m.text)
    | none => throw (.noMember "no point in time")
  | .binary => some <| match Text.Base64.decode text.toList with
    | .ok bytes => pure (.bytes bytes)
    | .error flaw =>
      let count := (text.toList.filter fun c => (Text.Base64.number? c).isSome).length
      let reason := if flaw = .padding then "Incorrect padding" else
        s!"Invalid base64-encoded string: number of data characters ({count}) cannot be 1 more than a multiple of 4"
      throw (.broken .values none ("failed to decode base64 data: " ++ reason) mark)
  | _ => none

end WarehouseMigration.Yaml
