import WarehouseMigration.Value.Basic
import WarehouseMigration.Decimal
import WarehouseMigration.Text.Quoted

/-!
# Values in messages

The text of a value inside a message or a statement: a text stands for itself, but is quoted inside a list or a map.
-/

namespace WarehouseMigration.Value

def numberLayout : Decimal.Layout := ⟨-4, 16, "inf", "nan"⟩

def intText (n : Int) : String :=
  if n < 0 then "-" ++ String.ofList (Decimal.digits n.natAbs) else String.ofList (Decimal.digits n.natAbs)

mutual

def quoted : Value → String
  | null => "None"
  | bool b => if b then "True" else "False"
  | int n => intText n
  | float x => Decimal.render numberLayout x
  | text s => Text.quote s
  | bytes bs => "b" ++ Text.quote (String.ofList (bs.map Char.ofNat))
  | list items => "[" ++ quotedItems items ++ "]"
  | map entries => "\x7b" ++ quotedEntries entries ++ "\x7d"
  | object fields => "namespace(" ++ quotedFields fields ++ ")"
  | constant name => name
  | record type parts fields => type ++ "(" ++ quotedItems parts ++ quotedFields fields ++ ")"
  | handle path | plan path _ => "<" ++ path ++ ">"

def quotedItems : List Value → String
  | [] => ""
  | [v] => quoted v
  | v :: rest => quoted v ++ ", " ++ quotedItems rest

def quotedEntries : List (String × Value) → String
  | [] => ""
  | [(key, v)] => Text.quote key ++ ": " ++ quoted v
  | (key, v) :: rest => Text.quote key ++ ": " ++ quoted v ++ ", " ++ quotedEntries rest

def quotedFields : List (String × Value) → String
  | [] => ""
  | [(key, v)] => key ++ "=" ++ quoted v
  | (key, v) :: rest => key ++ "=" ++ quoted v ++ ", " ++ quotedFields rest

end

def shown : Value → String
  | text s => s
  | v => quoted v

end WarehouseMigration.Value
