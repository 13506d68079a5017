import WarehouseMigration.Text.Base64
import WarehouseMigration.Text.Blank
import WarehouseMigration.Value.Json

/-!
# Transfer encodings

How bytes are written in a message: as they are, quoted with equals signs, or in groups of printable characters.
-/

namespace WarehouseMigration.Mail

/-- The bytes of a text that was not declared to hold anything but ASCII: a character outside of it is one byte, or an
escape if it needs more. -/
def rawBytes (cs : List Char) : List Nat :=
  cs.flatMap fun c =>
    let n := c.toNat
    if n < 256 then [n]
    else (if n < 65536 then ['\\', 'u'] ++ Text.hexDigits 4 n else ['\\', 'U'] ++ Text.hexDigits 8 n).map Char.toNat

def hexByte? (b : Nat) : Option Nat := if b < 128 then Json.hexValue? (Char.ofNat b) else none

def quotedPrintable : Nat → List Nat → List Nat
  | 0, _ => []
  | fuel + 1, bs =>
    match bs with
    | [] | [61] => []
    | 61 :: 10 :: rest => quotedPrintable fuel rest
    | 61 :: 13 :: rest => quotedPrintable fuel ((rest.dropWhile (· != 10)).drop 1)
    | 61 :: 61 :: rest => 61 :: quotedPrintable fuel rest
    | 61 :: a :: b :: rest =>
      match hexByte? a, hexByte? b with
      | some x, some y => (16 * x + y) :: quotedPrintable fuel rest
      | _, _ => 61 :: quotedPrintable fuel (a :: b :: rest)
    | b :: rest => b :: quotedPrintable fuel rest

def base64 (bs : List Nat) : List Nat :=
  let cs := bs.map Char.ofNat
  let padded := cs ++ List.replicate ((4 - cs.length % 4) % 4) '='
  let body := (padded.reverse.dropWhile (· = '=')).reverse
  let isClean := body.all (fun c => (Text.Base64.number? c).isSome) && padded.length - body.length ≤ 2
  let attempts := (if isClean then [padded] else []) ++ [cs, cs ++ ['=', '=']]
  match attempts.findSome? fun attempt => (Text.Base64.decode attempt).toOption with
  | some bytes => bytes
  | none => bs

/-! ### Groups of six bits behind a length -/

/-- Splits bytes into lines without their ends; `line` is the current one, last byte first. -/
def byteLines (line : List Nat) : List Nat → List (List Nat)
  | [] => if line.isEmpty then [] else [line.reverse]
  | 13 :: 10 :: rest => line.reverse :: byteLines [] rest
  | 13 :: rest => line.reverse :: byteLines [] rest
  | 10 :: rest => line.reverse :: byteLines [] rest
  | b :: rest => byteLines (b :: line) rest

def isOpening (line : List Nat) : Bool :=
  let cs := line.map Char.ofNat
  "begin ".toList.isPrefixOf cs &&
    let mode := (cs.drop 6).takeWhile (· != ' ')
    !mode.isEmpty && mode.all fun c => '0' ≤ c && c ≤ '7'

def sixBits? (b : Nat) : Option Nat := if 32 ≤ b && b ≤ 96 then some ((b - 32) % 64) else none

/-- The bytes that groups of six bits make: `place` is the place in the group of four, `left` the bits not used. -/
def joinBits (place left : Nat) : List Nat → List Nat
  | [] => []
  | n :: rest =>
    match place with
    | 0 => joinBits 1 n rest
    | 1 => (left * 4 + n / 16) :: joinBits 2 (n % 16) rest
    | 2 => (left * 16 + n / 4) :: joinBits 3 (n % 4) rest
    | _ => (left * 64 + n) :: joinBits 0 0 rest

def lineBytes? : List Nat → Option (List Nat)
  | [] => some []
  | first :: rest => do
    let count := (first + 32) % 64
    let needed := (count * 4 + 2) / 3
    let isFiller := fun b => b = 32 || b = 96 || b = 10 || b = 13
    let bits ← (rest.take needed).mapM sixBits?
    if !(rest.drop needed).all isFiller then none
    return (joinBits 0 0 (bits ++ List.replicate (needed - bits.length) 0)).take count

def fileBytes : List (List Nat) → Option (List Nat)
  | [] => some []
  | line :: rest =>
    if line.isEmpty then none
    else
      let isGap := fun b => b = 32 || b = 9 || b = 13 || b = 10 || b = 12
      let word := ((line.dropWhile isGap).reverse.dropWhile isGap).reverse
      if word == "end".toList.map Char.toNat then some []
      else do
        let length := ((line.headD 0 + 32) % 64 * 4 + 5) / 3
        let here ← (lineBytes? line).or (lineBytes? (line.take length))
        return here ++ (← fileBytes rest)

def framedFile (bs : List Nat) : List Nat :=
  match (byteLines [] bs).dropWhile (!isOpening ·) with
  | _ :: lines => (fileBytes lines).getD bs
  | [] => bs

def transferred (encoding : String) (body : List Char) : List Nat :=
  let raw := rawBytes body
  match encoding with
  | "quoted-printable" => quotedPrintable (raw.length + 1) raw
  | "base64" => base64 (byteLines [] raw).flatten
  | "x-uuencode" | "uuencode" | "uue" | "x-uue" => framedFile raw
  | _ => raw

end WarehouseMigration.Mail
