/-!
# Searching and replacing

Occurrences of one text in another, from left to right and without overlap.
-/

namespace WarehouseMigration.Text

/-- Replaces the occurrences of a non-empty text; `skip` characters of an occurrence are still to be dropped. -/
def replaceFrom (old new : List Char) (skip : Nat) : List Char → List Char
  | [] => []
  | c :: rest =>
    match skip with
    | k + 1 => replaceFrom old new k rest
    | 0 =>
      if old.isPrefixOf (c :: rest) then new ++ replaceFrom old new (old.length - 1) rest
      else c :: replaceFrom old new 0 rest

/-- Replaces every occurrence of `old`.  The empty text occurs before every character and at the end. -/
def replaceChars (old new cs : List Char) : List Char :=
  if old.isEmpty then new ++ cs.flatMap fun c => c :: new else replaceFrom old new 0 cs

def replace (s old new : String) : String := String.ofList (replaceChars old.toList new.toList s.toList)

/-- Splits at the occurrences of a non-empty separator; `piece` is the current piece, last character first. -/
def splitFrom (sep : List Char) (skip : Nat) (piece : List Char) : List Char → List (List Char)
  | [] => [piece.reverse]
  | c :: rest =>
    match skip with
    | k + 1 => splitFrom sep k piece rest
    | 0 =>
      if sep.isPrefixOf (c :: rest) then piece.reverse :: splitFrom sep (sep.length - 1) [] rest
      else splitFrom sep 0 (c :: piece) rest

def split (s sep : String) : List String := (splitFrom sep.toList 0 [] s.toList).map String.ofList

def occursIn (part : List Char) : List Char → Bool
  | [] => part.isEmpty
  | c :: rest => part.isPrefixOf (c :: rest) || occursIn part rest

def contains (s part : String) : Bool := occursIn part.toList s.toList

def startsWith (s start : String) : Bool := start.toList.isPrefixOf s.toList

def endsWith (s tail : String) : Bool := tail.toList.isSuffixOf s.toList

/-- A text without `start` if it begins with it. -/
def dropStart (start cs : List Char) : List Char := if start.isPrefixOf cs then cs.drop start.length else cs

/-- A text without `tail` if it ends with it. -/
def dropTail (tail cs : List Char) : List Char :=
  if tail.isSuffixOf cs then cs.take (cs.length - tail.length) else cs

def inner (cs : List Char) : List Char := cs.tail.dropLast

def join (sep : String) (parts : List String) : String := sep.intercalate parts

def newlines (s : String) : String := replace (replace s "\r\n" "\n") "\r" "\n"

end WarehouseMigration.Text
