import WarehouseMigration.Yaml.Node
import WarehouseMigration.Yaml.Printer

/-!
# YAML

A document is read in two steps: its nodes from its text, and the value from its nodes.  Before a mapping's value is
made, the mappings that it merges in are put before its own entries.
-/

namespace WarehouseMigration.Yaml

/-! ### Merged mappings -/

def refusedMerge (mark : Mark) (wanted : String) (node : Node) : List (Node × Node) :=
  [(.broken (.broken .values (some ("while constructing a mapping", some mark))
    s!"expected {wanted} for merging, but found {node.kind}" node.mark), node)]

def isRefused (entries : List (Node × Node)) : Bool := entries.any fun (key, _) =>
  match key with
  | .broken _ => true
  | _ => false

def mergedEntries (mark : Mark) : Node → List (Node × Node)
  | .map _ entries _ => entries
  | .list _ items _ => (items.map fun item =>
      match item with
      | .map _ entries _ => entries
      | item => refusedMerge mark "a mapping" item).reverse.flatten
  | node => refusedMerge mark "a mapping or list of mappings" node

def flattened (mark : Mark) (entries : List (Node × Node)) : List (Node × Node) :=
  let isMerge := fun (key : Node) =>
    match key with
    | .scalar .merge _ _ => true
    | _ => false
  let merged := entries.flatMap fun (key, value) => if isMerge key then mergedEntries mark value else []
  if isRefused merged then merged.filter fun entry => isRefused [entry]
  else merged ++ entries.filter fun (key, _) => !isMerge key

mutual

def Node.settled : Node → Node
  | .list tag items mark => .list tag (settledItems items) mark
  | .map tag entries mark => .map tag (flattened mark (settledEntries entries)) mark
  | node => node

def settledItems : List Node → List Node
  | [] => []
  | node :: rest => node.settled :: settledItems rest

def settledEntries : List (Node × Node) → List (Node × Node)
  | [] => []
  | (key, value) :: rest =>
    let key := match key with
      | .scalar .standard text mark => .scalar .text text mark
      | key => key.settled
    (key, value.settled) :: settledEntries rest

end

/-! ### Values -/

abbrev Faults := List (Nat × Fault)

def isHashable : Node → Bool
  | .list .. | .map .. | .loop _ => false
  | _ => true

def badKey (depth : Nat) (mark : Mark) (key : Node) : Faults :=
  if isHashable key then []
  else [(depth, .broken .values (some ("while constructing a mapping", some mark)) "found unhashable key" key.mark)]

/-- Why a node of another kind is not made into what its tag tells. -/
def mismatch (depth : Nat) (tag : Tag) (node : Node) : Value × Faults :=
  let unexpected := fun (wanted : String) => Fault.broken .values none
    s!"expected a {wanted} node, but found {node.kind}" node.mark
  let unordered := fun (what : String) => Fault.broken .values (some ("while constructing " ++ what, some node.mark))
    s!"expected a sequence, but found {node.kind}" node.mark
  (.null, match tag with
  | .list => [(depth + 1, unexpected "sequence")]
  | .map | .set => [(depth + 1, unexpected "mapping")]
  | .orderedMap => [(depth + 1, unordered "an ordered map")]
  | .pairs => [(depth + 1, unordered "pairs")]
  | .merge | .standard | .other _ =>
    [(depth, .broken .values none s!"could not determine a constructor for the tag {Text.quote tag.uri}" node.mark)]
  | _ => [(depth, unexpected "scalar")])

mutual

def Node.make (depth : Nat) : Node → Value × Faults
  | .scalar tag text mark =>
    match tag.value? text mark with
    | some (.ok v) => (v, [])
    | some (.error fault) => (.null, [(depth, fault)])
    | none => mismatch depth tag (.scalar tag text mark)
  | .list tag items mark =>
    let (vs, faults) := makeItems (depth + 1) items
    match tag with
    | .list | .orderedMap | .pairs => (.list vs, faults)
    | tag => mismatch depth tag (.list tag items mark)
  | .map tag entries mark =>
    let (es, faults) := makeEntries (depth + 1) mark entries
    match tag with
    | .map => (.map (Sequence.lastOf es), faults)
    | .set => (.list ((Sequence.lastOf es).map fun (key, _) => .text key), faults)
    | tag => mismatch depth tag (.map tag entries mark)
  | .loop _ => (.null, [])
  | .broken fault => (.null, [(depth, fault)])

def makeItems (depth : Nat) : List Node → List Value × Faults
  | [] => ([], [])
  | node :: rest =>
    let (v, faults) := node.make depth
    let (vs, more) := makeItems depth rest
    (v :: vs, faults ++ more)

def makeEntries (depth : Nat) (mark : Mark) : List (Node × Node) → List (String × Value) × Faults
  | [] => ([], [])
  | (key, value) :: rest =>
    let (k, keyFaults) := key.make depth
    let (v, faults) := value.make depth
    let (es, more) := makeEntries depth mark rest
    ((k.shown, v) :: es, keyFaults ++ badKey depth mark key ++ faults ++ more)

end

def firstFault (faults : Faults) : Option Fault :=
  ((faults.mergeSort fun a b => a.1 ≤ b.1).head?).map (·.2)

def Node.value (node : Node) : Except Fault Value :=
  match node.settled.make 0 with
  | (v, faults) =>
    match firstFault faults with
    | some fault => throw fault
    | none => pure v

def parse (origin : Origin) (text : String) : Outcome Value :=
  Except.mapError (Fault.failure origin) do
    match ← Node.ofText text with
    | some node => node.value
    | none => return .null

def ofText (text : String) : Outcome Value := parse (.ofText text) text

def ofFile (path text : String) : Outcome Value := parse (.ofFile path) text

def render (v : Value) : String := Printer.render v

end WarehouseMigration.Yaml
