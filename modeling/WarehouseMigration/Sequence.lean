/-!
# Positions in a list

Positions that may count from the end: `-1` is the last one.
-/

namespace WarehouseMigration.Sequence

def offset (xs : List α) (i : Int) : Nat :=
  min (if i < 0 then (xs.length + i).toNat else i.toNat) xs.length

def before (xs : List α) (i : Int) : List α := xs.take (offset xs i)

/-- The items from a position on. -/
def since (xs : List α) (i : Int) : List α := xs.drop (offset xs i)

/-- The item at a position, if there is one. -/
def at? (xs : List α) (i : Int) : Option α :=
  if i < 0 then if xs.length + i < 0 then none else xs[(xs.length + i).toNat]? else xs[i.toNat]?

def initials : List α → List (List α)
  | [] => [[]]
  | a :: rest => [] :: (initials rest).map (a :: ·)

def inOrder : List String → List String → Bool
  | [], _ => true
  | _ :: _, [] => false
  | a :: as, b :: bs => if a == b then inOrder as bs else decide (a ≤ b)

/-- The items in the order of their keys, compared character by character; items with equal keys keep their order. -/
def sortedBy (key : α → String) (xs : List α) : List α := xs.mergeSort fun a b => key a ≤ key b

/-- The groups of consecutive items with equal keys. -/
def runs [BEq κ] (key : α → κ) : List α → List (κ × List α)
  | [] => []
  | a :: rest =>
    match runs key rest with
    | (k, group) :: groups => if key a == k then (k, a :: group) :: groups else (key a, [a]) :: (k, group) :: groups
    | [] => [(key a, [a])]

/-- Adds or replaces the entry of a key; a new key goes to the end. -/
def put [BEq κ] (key : κ) (value : β) : List (κ × β) → List (κ × β)
  | [] => [(key, value)]
  | (k, v) :: rest => if k == key then (k, value) :: rest else (k, v) :: put key value rest

def lastOf [BEq κ] (entries : List (κ × β)) : List (κ × β) :=
  entries.foldl (fun table (k, v) => put k v table) []

end WarehouseMigration.Sequence
