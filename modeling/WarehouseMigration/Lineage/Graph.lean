import WarehouseMigration.Failure
import WarehouseMigration.Sequence
import WarehouseMigration.Text.LetterCase
import WarehouseMigration.Value.Show

/-!
# Lineage graphs

A lineage graph tells which tables are made from which.  Names are compared in small letters.  The name `none` stands
for a table that is not known, and never becomes a node by an edge.
-/

namespace WarehouseMigration.Lineage

/-- A table with the tables made from it and those it is made from. -/
structure Node where
  children : List String := []
  parents : List String := []

/-- A lineage graph: its nodes by name, in the order in which they were made. -/
structure Graph where
  nodes : List (String × Node) := []

namespace Graph

variable (g : Graph)

def find? (name : String) : Option Node := g.nodes.lookup name

def has (name : String) : Bool := (g.find? name).isSome

/-- Adds a node without edges.  A name that is spelled just like a node's changes nothing; any other spelling makes
the node anew. -/
def addNode (name : Option String) : Graph :=
  match name with
  | none => g
  | some name => if g.has name || name == "none" then g else ⟨Sequence.put (Text.lower name) {} g.nodes⟩

def update (name : String) (change : Node → Node) : Graph :=
  ⟨g.nodes.map fun (key, node) => if key == name then (key, change node) else (key, node)⟩

def unknown : Option String → Failure
  | some name => .noKey name
  | none => .noEntry "None"

/-- Adds an edge between two names in small letters, whose nodes have been made if they can be. -/
def connect (parent : Option String) (child : String) : Graph × Outcome Unit :=
  match parent with
  | none => (g, .error (unknown none))
  | some name =>
    if !g.has name then (g, .error (unknown parent))
    else
      let g := g.update name fun node => { node with children := node.children ++ [child] }
      if !g.has child then (g, .error (unknown (some child)))
      else (g.update child fun node => { node with parents := node.parents ++ [name] }, .ok ())

/-- Adds an edge from a parent to a child.  Nodes that are missing are made first; the edge fails if one of its ends
has no node.  What was done before the failure stays. -/
def addEdge (parent child : Option String) : Graph × Outcome Unit :=
  let parent := parent.map Text.lower
  let child := child.map Text.lower
  let g := (g.addNode parent).addNode child
  match child with
  | none => (g, .ok ())
  | some child => g.connect parent child

def parents (g : Graph) (name : String) : List String := ((g.find? (Text.lower name)).map (·.parents)).getD []

def children (g : Graph) (name : String) : List String := ((g.find? (Text.lower name)).map (·.children)).getD []

def isRoot (name : String) : Bool := (g.parents name).isEmpty

/-! ### Search by levels

A search goes through a queue of tables, each with its distance from the table where the search began.  It keeps no
record of the tables that it has met, so a table may be visited many times; it ends since it does not go beyond a level.
-/

def width : Nat := g.nodes.foldr (fun entry most => max entry.2.children.length most) 0

/-- The visits that follow from one entry of a queue if no table has more than `width` children and all that is more
than `steps` steps farther is left out. -/
def visits (width : Nat) : Nat → Nat
  | 0 => 1
  | steps + 1 => 1 + width * visits width steps

/-- The visits that follow from all entries of a queue. -/
def pending (g : Graph) (level : Int) : List (String × Nat) → Nat
  | [] => 0
  | (_, distance) :: queue => visits g.width (level + 1 - distance).toNat + g.pending level queue

theorem length_children_le (g : Graph) (name : String) : (g.children name).length ≤ g.width := by
  unfold children find? width
  induction g.nodes with
  | nil => simp
  | cons entry entries ih =>
    obtain ⟨key, node⟩ := entry
    rw [List.lookup_cons, List.foldr_cons]
    split
    · exact Nat.le_max_left ..
    · exact Nat.le_trans ih (Nat.le_max_right ..)

theorem pending_append (g : Graph) (level : Int) (queue others : List (String × Nat)) :
    g.pending level (queue ++ others) = g.pending level queue + g.pending level others := by
  induction queue with
  | nil => simp [pending]
  | cons entry queue ih =>
    rw [List.cons_append, pending, pending, ih]
    omega

theorem pending_map (g : Graph) (level : Int) (distance : Nat) (names : List String) :
    g.pending level (names.map (·, distance)) = names.length * visits g.width (level + 1 - distance).toNat := by
  induction names with
  | nil => simp [pending]
  | cons name names ih =>
    rw [List.map_cons, pending, ih, List.length_cons, Nat.add_mul, Nat.one_mul, Nat.add_comm]

/-- A visit takes one entry out of the queue, and what its children bring was counted with it. -/
theorem pending_visit (g : Graph) {level : Int} {distance : Nat} (h : ¬ level < distance) (name : String)
    (queue : List (String × Nat)) :
    g.pending level (queue ++ (g.children name).map (·, distance + 1)) <
      g.pending level ((name, distance) :: queue) := by
  have hsteps : (level + 1 - distance).toNat = (level + 1 - (distance + 1 : Nat)).toNat + 1 := by omega
  have hle := Nat.mul_le_mul_right (visits g.width (level + 1 - (distance + 1 : Nat)).toNat) (g.length_children_le name)
  rw [pending_append, pending_map, pending, hsteps, visits]
  omega

/-- The tables at a level among those that a search still visits, added to those that it has found.  The children of
every table that is visited must have nodes. -/
def search (g : Graph) (level : Int) (found : List String) : List (String × Nat) → Outcome (List String)
  | [] => pure found
  | (name, distance) :: queue =>
    if level < distance then pure found
    else
      match (g.children name).find? fun child => !g.has child with
      | some child => throw (unknown (some child))
      | none =>
        g.search level (if level = distance then found.insert name else found)
          (queue ++ (g.children name).map (·, distance + 1))
termination_by queue => g.pending level queue
decreasing_by exact g.pending_visit ‹_› name queue

def walk (name : String) (level : Int) : Outcome (List String) := g.search level [] [(name, 0)]

def rootsAt (level : Int) : Outcome (List String) := do
  let found ← (g.nodes.filter fun (name, _) => g.isRoot name).mapM fun (name, _) => g.walk name level
  return found.flatten.eraseDups.mergeSort

def shown (g : Graph) : String :=
  (Value.map (g.nodes.map fun (name, node) => (name, .text s!"Node({name}, {(toValue node.children).shown})"))).shown

def flowchart (g : Graph) : String :=
  "flowchart TD\n" ++ String.join (g.nodes.map fun (name, node) =>
    if node.parents.isEmpty then s!"    {Text.capitalize name}\n"
    else String.join (node.parents.map fun parent => s!"    {Text.capitalize name} --> {Text.capitalize parent}\n"))

instance : ToValue Graph := ⟨fun g => .list (g.nodes.map fun (name, node) => .list [name, node.children, node.parents])⟩

end Graph

end WarehouseMigration.Lineage
