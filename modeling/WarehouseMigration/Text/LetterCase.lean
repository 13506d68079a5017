import WarehouseMigration.Text.LetterCase.Table
import WarehouseMigration.Text.Word

/-!
# Letter case

Lower, upper and capitalised forms of a text in any script.  A mapping may yield several characters, and the
lower-case form of a capital sigma depends on its place in the word.
-/

namespace WarehouseMigration.Text

namespace LetterCase

def shifted (ranges : List (Nat × Nat × Nat × Int)) (n : Nat) : Nat :=
  match ranges.find? fun (first, last, step, _) => first ≤ n && n ≤ last && (n - first) % step == 0 with
  | some (_, _, _, shift) => (n + shift).toNat
  | none => n

def expanded (expansions : List (Nat × List Nat)) (ranges : List (Nat × Nat × Nat × Int)) (c : Char) : List Char :=
  match expansions.lookup c.toNat with
  | some image => image.map Char.ofNat
  | none => [Char.ofNat (shifted ranges c.toNat)]

end LetterCase

open LetterCase

def lowerChar (c : Char) : List Char :=
  if c.toNat < 128 then [c.toLower] else expanded lowerExpansions lowerRanges c

def upperChar (c : Char) : List Char :=
  if c.toNat < 128 then [c.toUpper] else expanded upperExpansions upperRanges c

def titleChar (c : Char) : List Char :=
  match titleExceptions.lookup c.toNat with
  | some image => image.map Char.ofNat
  | none => upperChar c

def meetsCased (cs : List Char) : Bool :=
  match cs.dropWhile fun c => inRuns c.toNat ignorableRuns with
  | [] => false
  | c :: _ => inRuns c.toNat casedRuns

/-- Lower case of a text that follows `before` (given last character first).  A capital sigma that ends a word
becomes a final sigma. -/
def lowerFrom (before : List Char) : List Char → List Char
  | [] => []
  | c :: rest =>
    (if c = 'Σ' then if meetsCased before && !meetsCased rest then ['ς'] else ['σ'] else lowerChar c) ++
      lowerFrom (c :: before) rest

def lowerChars (cs : List Char) : List Char := lowerFrom [] cs

def lower (s : String) : String := String.ofList (lowerChars s.toList)

def upper (s : String) : String := String.ofList (s.toList.flatMap upperChar)

def capitalize (s : String) : String :=
  match s.toList with
  | [] => ""
  | c :: rest => String.ofList (titleChar c ++ lowerFrom [c] rest)

end WarehouseMigration.Text
