/-!
# UTF-8

Texts as bytes.  Decoding accepts exactly the shortest forms of Unicode characters.
-/

namespace WarehouseMigration.Text

def utf8Char (c : Char) : List Nat :=
  let n := c.toNat
  if n < 0x80 then [n]
  else if n < 0x800 then [0xC0 + n / 64, 0x80 + n % 64]
  else if n < 0x10000 then [0xE0 + n / 4096, 0x80 + n / 64 % 64, 0x80 + n % 64]
  else [0xF0 + n / 262144, 0x80 + n / 4096 % 64, 0x80 + n / 64 % 64, 0x80 + n % 64]

def utf8 (s : String) : List Nat := s.toList.flatMap utf8Char

def continues (b : Nat) : Bool := 0x80 ≤ b && b < 0xC0

def charOf? (least n : Nat) : Option Char :=
  if least ≤ n && n < 0x110000 && !(0xD800 ≤ n && n < 0xE000) then some (Char.ofNat n) else none

/-- Reads characters: `wanted` more bytes belong to the current one, which has the value `n` so far and must be at
least `least`. -/
def fromUtf8From (wanted least n : Nat) : List Nat → Option (List Char)
  | [] => if wanted = 0 then some [] else none
  | b :: rest =>
    match wanted with
    | 0 =>
      if b < 0x80 then (Char.ofNat b :: ·) <$> fromUtf8From 0 0 0 rest
      else if 0xC2 ≤ b && b < 0xE0 then fromUtf8From 1 0x80 (b - 0xC0) rest
      else if 0xE0 ≤ b && b < 0xF0 then fromUtf8From 2 0x800 (b - 0xE0) rest
      else if 0xF0 ≤ b && b < 0xF5 then fromUtf8From 3 0x10000 (b - 0xF0) rest
      else none
    | k + 1 =>
      if continues b then
        let n := n * 64 + (b - 0x80)
        if k = 0 then do return (← charOf? least n) :: (← fromUtf8From 0 0 0 rest)
        else fromUtf8From k least n rest
      else none

def fromUtf8 (bytes : List Nat) : Option (List Char) := fromUtf8From 0 0 0 bytes

/-- A character that is being read: how many bytes it still wants, its value so far, and the bounds of its next
byte. -/
structure Unfinished where
  wanted : Nat
  value : Nat
  low : Nat
  high : Nat

def replacement : Char := '\uFFFD'

def opening (b : Nat) : List Char × Option Unfinished :=
  if b < 0x80 then ([Char.ofNat b], none)
  else if 0xC2 ≤ b && b < 0xE0 then ([], some ⟨1, b - 0xC0, 0x80, 0xBF⟩)
  else if 0xE0 ≤ b && b < 0xF0 then
    ([], some ⟨2, b - 0xE0, if b = 0xE0 then 0xA0 else 0x80, if b = 0xED then 0x9F else 0xBF⟩)
  else if 0xF0 ≤ b && b < 0xF5 then
    ([], some ⟨3, b - 0xF0, if b = 0xF0 then 0x90 else 0x80, if b = 0xF4 then 0x8F else 0xBF⟩)
  else ([replacement], none)

def lossyFrom : Option Unfinished → List Nat → List Char
  | none, [] => []
  | some _, [] => [replacement]
  | none, b :: rest => (opening b).1 ++ lossyFrom (opening b).2 rest
  | some u, b :: rest =>
    if u.low ≤ b && b ≤ u.high then
      let value := u.value * 64 + (b - 0x80)
      if u.wanted ≤ 1 then Char.ofNat value :: lossyFrom none rest
      else lossyFrom (some ⟨u.wanted - 1, value, 0x80, 0xBF⟩) rest
    else replacement :: (opening b).1 ++ lossyFrom (opening b).2 rest

def lossy (bytes : List Nat) : String := String.ofList (lossyFrom none bytes)

def withoutMark (s : String) : List Char :=
  match s.toList with
  | '\ufeff' :: cs => cs
  | cs => cs

/-! ### Units of sixteen bits

Several formats write a character outside of the first plane as a pair of units.  A unit without its partner is no
character.
-/

def isHighUnit (n : Nat) : Bool := 0xD800 ≤ n && n < 0xDC00

def isLowUnit (n : Nat) : Bool := 0xDC00 ≤ n && n < 0xE000

def paired (high low : Nat) : Char := Char.ofNat (0x10000 + 0x400 * (high - 0xD800) + (low - 0xDC00))

end WarehouseMigration.Text
