import WarehouseMigration.Failure
import WarehouseMigration.Value.Show
import WarehouseMigration.Text.Search

/-!
# Reading records

The parts of a record that is given as a map.  A record has required and optional fields and no others.
-/

namespace WarehouseMigration

/-- The fields given for a record. -/
structure Fields where
  entries : List (String × Value)

namespace Fields

def ofValue (required optional : List String) (v : Value) : Outcome Fields :=
  match v with
  | .map entries =>
    if required.all (fun name => (entries.lookup name).isSome) &&
        entries.all (fun (name, _) => required.contains name || optional.contains name) then
      pure ⟨entries⟩
    else throw (.wrongKind "unexpected or missing argument")
  | _ => throw (.wrongKind "argument must be a mapping")

def get? (f : Fields) (name : String) : Option Value := f.entries.lookup name

def get (f : Fields) (name : String) : Value := (f.get? name).getD .null

end Fields

namespace Value

variable (v : Value)

/-- A field of an object that a service gave. -/
def member (name : String) : Outcome Value :=
  match v.field? name with
  | some field => pure field
  | none => throw (.noMember name)

def asText : Value → Outcome String
  | text s => pure s
  | _ => throw (.noMember "not a text")

def asText? : Outcome (Option String) := if v.isSet then some <$> v.asText else pure none

def shown? : Option String := if v.isNull then none else some v.shown

def asItems : Value → Outcome (List Value)
  | list items => pure items
  | text s => pure (s.toList.map fun c => text (String.singleton c))
  | map entries => pure (entries.map fun (key, _) => text key)
  | _ => throw (.wrongKind "not iterable")

def asTexts : Outcome (List String) := do (← v.asItems).mapM asText

def asRecords? (read : Value → Outcome α) (v : Value) : Outcome (Option (List α)) := do
  if v.isNull then return none else return some (← (← v.asItems).mapM read)

def asRecord? (read : Value → Outcome α) (v : Value) : Outcome (Option α) :=
  if v.isNull then pure none else some <$> read v

def holds (part : String) : Outcome Bool :=
  match v with
  | text s => pure (Text.contains s part)
  | list items => pure (items.any (· == text part))
  | map entries => pure (entries.lookup part).isSome
  | _ => throw (.wrongKind "not a container")

def isBelow (bound : Int) : Outcome Bool :=
  match v.number? with
  | some (.inl n) => pure (n < bound)
  | some (.inr x) => pure (x < Float.ofInt bound)
  | none => throw (.wrongKind "not a number")

def isAbove (bound : Int) : Outcome Bool :=
  match v.number? with
  | some (.inl n) => pure (bound < n)
  | some (.inr x) => pure (Float.ofInt bound < x)
  | none => throw (.wrongKind "not a number")

/-- The whole part of a number, rounded toward zero. -/
def truncated : Outcome Int :=
  match v.number? with
  | some (.inl n) => pure n
  | some (.inr x) => pure (if x < 0 then -((-x).toUInt64.toNat : Int) else x.toUInt64.toNat)
  | none => throw (.wrongKind "not a number")

end Value

end WarehouseMigration
