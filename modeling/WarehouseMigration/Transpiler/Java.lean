import WarehouseMigration.Session
import WarehouseMigration.Text.Blank

/-!
# Java

One of the transpilers runs on Java.  The version that is installed is read from what the program tells about itself.
-/

namespace WarehouseMigration.Transpiler.Java

/-- A version: feature, interim, update and patch number. -/
structure Version where
  numbers : List Nat
deriving DecidableEq

instance : ToValue Version := ⟨fun v => toValue v.numbers⟩

def numberOf (ds : List Char) : Nat := ds.foldl (fun n d => 10 * n + (Text.digitValue? d).getD 0) 0

/-- Reads at most `count` numbers with points between them and a quote behind the last. -/
def readNumbers : Nat → List Char → Option (List Nat)
  | 0, _ => none
  | count + 1, cs =>
    let digits := cs.takeWhile Text.isDecimal
    if digits.isEmpty then none else
      match cs.dropWhile Text.isDecimal with
      | '"' :: _ => some [numberOf digits]
      | '.' :: rest => (readNumbers count rest).map (numberOf digits :: ·)
      | _ => none

def mark : List Char := " version \"".toList

def findVersion : List Char → Option Version
  | [] => none
  | c :: rest =>
    match if mark.isPrefixOf (c :: rest) then readNumbers 4 ((c :: rest).drop mark.length) else none with
    | some numbers => some ⟨numbers ++ List.replicate (4 - numbers.length) 0⟩
    | none => findVersion rest

def version (output : String) : Option Version := findVersion output.toList

inductive Told where
  | nothing
  /-- something else than a version -/
  | other (bytes : List Nat)
  | version (v : Version)

instance : ToValue Told where
  toValue
    | .nothing => .null
    | .other bytes => .bytes bytes
    | .version v => v

def isBlankByte (b : Nat) : Bool := b = 32 || 9 ≤ b && b ≤ 13

def told (bytes : List Nat) : Told :=
  match version (String.ofList ((bytes.filter (· < 128)).map Char.ofNat)) with
  | some v => .version v
  | none => .other ((bytes.dropWhile isBlankByte).reverse.dropWhile isBlankByte).reverse

/-- The program and what it tells, if it is installed. -/
def find : Flow (Option (String × Told)) := do
  match ← Flow.replyTo "java" { name := "java" } with
  | .object fields =>
    let path := match fields.lookup "path" with
      | some (.text p) => p
      | _ => ""
    match fields.lookup "output" with
    | some (.bytes bytes) => return some (path, told bytes)
    | _ => return some (path, .nothing)
  | _ => return none

def Version.isBefore (a b : Version) : Bool := decide (a.numbers < b.numbers)

def isRecent : Flow Bool := do
  match ← find with
  | some (_, .version v) => return !v.isBefore ⟨[11, 0, 0, 0]⟩
  | _ => return false

end WarehouseMigration.Transpiler.Java
