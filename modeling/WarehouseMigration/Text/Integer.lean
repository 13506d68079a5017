import WarehouseMigration.Failure
import WarehouseMigration.Text.Blank

/-!
# Whole numbers in texts

A whole number is a sign, if any, and digits of any script, with single underscores between them and white space
around it all.
-/

namespace WarehouseMigration.Text

/-- Reads digits; `separated` tells that an underscore may come next. -/
def digitsFrom (n : Nat) (separated : Bool) : List Char → Option Nat
  | [] => if separated then some n else none
  | c :: rest =>
    if c = '_' then if separated then digitsFrom n false rest else none
    else
      match digitValue? c with
      | some d => digitsFrom (10 * n + d) true rest
      | none => none

def toInt? (s : String) : Option Int :=
  match trim s.toList with
  | '-' :: rest => (digitsFrom 0 false rest).map fun n => -(n : Int)
  | '+' :: rest => (digitsFrom 0 false rest).map fun n => (n : Int)
  | cs => (digitsFrom 0 false cs).map fun n => (n : Int)

/-- The whole number that a text spells, or why it spells none. -/
def toInt (s : String) : Outcome Int :=
  match toInt? s with
  | some n => pure n
  | none => throw (.invalid ("invalid literal for int() with base 10: " ++ quote s))

end WarehouseMigration.Text
