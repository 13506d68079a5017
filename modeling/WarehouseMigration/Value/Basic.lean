/-!
# Values

What a configuration file, a stored record, an answer of a remote service or an argument of a call to it holds.
Maps and objects keep the order in which their entries were written.
-/

namespace WarehouseMigration

/-- A value whose shape is known only once it is looked at. -/
inductive Value where
  | null
  | bool (b : Bool)
  | int (n : Int)
  | float (x : Float)
  | text (s : String)
  | bytes (bs : List Nat)
  | list (items : List Value)
  /-- A dictionary, looked up by key. -/
  | map (entries : List (String × Value))
  /-- An object of a remote service, read by field. -/
  | object (fields : List (String × Value))
  /-- A member of a service's enumeration, written `Owner.MEMBER`. -/
  | constant (name : String)
  /-- A request built for a service: its type, positional and named parts. -/
  | record (type : String) (parts : List Value) (fields : List (String × Value))
  /-- A remote object that is known by its path only. -/
  | handle (path : String)
  /-- A frame or column that is not evaluated yet: the path of the calls that make it, and their full text. -/
  | plan (path text : String)

namespace Value

instance : Inhabited Value := ⟨null⟩

def texts (items : List String) : Value := list (items.map text)

def ofOption (f : α → Value) : Option α → Value
  | some a => f a
  | none => null

def get? (v : Value) (key : String) : Option Value :=
  match v with
  | map entries => entries.lookup key
  | _ => none

def getD (v : Value) (key : String) : Value := (v.get? key).getD null

def getOr (v : Value) (key : String) (standard : Value) : Value := (v.get? key).getD standard

def parts : Value → List Value
  | list items => items
  | _ => []

/-- The entries of a map; nothing else has any. -/
def pairs : Value → List (String × Value)
  | map entries => entries
  | _ => []

def extended (v : Value) (entries : List (String × Value)) : Value := map (v.pairs ++ entries)

def field? (v : Value) (name : String) : Option Value :=
  match v with
  | object fields => fields.lookup name
  | _ => none

def text? : Value → Option String
  | text s => some s
  | _ => none

def entries? : Value → Option (List (String × Value))
  | map entries => some entries
  | _ => none

def isNull : Value → Bool
  | null => true
  | _ => false

def isSet : Value → Bool
  | null => false
  | bool b => b
  | int n => n != 0
  | float x => x != 0
  | text s => s != ""
  | bytes bs => !bs.isEmpty
  | list items => !items.isEmpty
  | map entries => !entries.isEmpty
  | object _ | constant _ | record .. | handle _ | plan .. => true

def number? : Value → Option (Int ⊕ Float)
  | bool b => some (.inl (if b then 1 else 0))
  | int n => some (.inl n)
  | float x => some (.inr x)
  | _ => none

def sameNumber : Int ⊕ Float → Int ⊕ Float → Bool
  | .inl a, .inl b => a == b
  | .inl a, .inr b | .inr b, .inl a => Float.ofInt a == b
  | .inr a, .inr b => a == b

mutual

def same : Value → Value → Bool
  | null, null => true
  | text a, text b => a == b
  | bytes a, bytes b => a == b
  | list a, list b => sameItems a b
  | map a, map b => a.length == b.length && sameEntries a b
  | object a, object b => a.length == b.length && sameEntries a b
  | constant a, constant b => a == b
  | record a as af, record b bs bf => a == b && sameItems as bs && af.length == bf.length && sameEntries af bf
  | handle a, handle b => a == b
  | plan p a, plan q b => p == q && a == b
  | a, b =>
    match a.number?, b.number? with
    | some x, some y => sameNumber x y
    | _, _ => false

def sameItems : List Value → List Value → Bool
  | [], [] => true
  | a :: as, b :: bs => same a b && sameItems as bs
  | _, _ => false

def sameEntries : List (String × Value) → List (String × Value) → Bool
  | [], _ => true
  | (key, a) :: rest, entries =>
    (match entries.lookup key with
      | some b => same a b
      | none => false) && sameEntries rest entries

end

instance : BEq Value := ⟨same⟩

end Value

/-- Types with a standard form as a value. -/
class ToValue (α : Type) where
  toValue : α → Value

export ToValue (toValue)

instance : ToValue Value := ⟨id⟩

instance : ToValue String := ⟨.text⟩

instance : ToValue Bool := ⟨.bool⟩

instance : ToValue Int := ⟨.int⟩

instance : ToValue Nat := ⟨fun n => .int n⟩

instance : ToValue Unit := ⟨fun _ => .null⟩

instance [ToValue α] : ToValue (Option α) := ⟨Value.ofOption toValue⟩

instance [ToValue α] : ToValue (List α) := ⟨fun items => .list (items.map toValue)⟩

instance [ToValue α] : CoeOut α Value := ⟨toValue⟩

end WarehouseMigration
