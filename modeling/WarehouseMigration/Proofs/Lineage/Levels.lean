import WarehouseMigration.Proofs.Lineage.Edges

/-!
# The levels of a lineage graph

The tables at a level are found by a search through a queue.  Cycles are not recognised, and a table may be in the queue
many times.  The queue is still in order: first come tables at one distance, then tables one step farther, so that
going through the first ones leaves just their children behind the others (`search_row`).  Row by row, the search comes
to the level that it looks for and ends in front of the next one (`search_rows`).

Whatever is added to a graph, as long as every addition succeeds, all children have nodes (`Built.sound`).  So the
search of such a graph never fails, and it finds exactly the tables at the end of a walk with as many steps as the level
says (`levels_hold_walks`).
-/

namespace WarehouseMigration.Lineage

open Text (lower lower_lower)

namespace Graph

/-- A graph that was made from the empty one by additions that all succeeded. -/
inductive Built : Graph → Prop where
  | empty : Built {}
  | node {g : Graph} (h : Built g) (name : Option String) : Built (g.addNode name)
  | edge {g : Graph} (h : Built g) (parent child : Option String) (hok : (g.addEdge parent child).2 = .ok ()) :
      Built (g.addEdge parent child).1

/-- A step from a table to one that is made from it, as the node of the first one notes it. -/
def Child (g : Graph) (parent child : String) : Prop := ∃ node, g.find? parent = some node ∧ child ∈ node.children

/-- A walk with a number of steps, each from a table to one that is made from it. -/
inductive Walk (g : Graph) : Nat → String → String → Prop where
  | here (name : String) : Walk g 0 name name
  | step {steps : Nat} {parent child table : String} (hchild : g.Child parent child)
      (hwalk : Walk g steps child table) : Walk g (steps + 1) parent table

variable {g : Graph} {name table : String} {names : List String} {level : Int}

/-! ### What additions keep -/

/-- Names are in small letters, and all children have nodes. -/
structure Sound (g : Graph) : Prop where
  lowered : g.Lowered
  closed {parent child : String} (h : g.Child parent child) : g.has child = true

private theorem Sound.addNode (h : g.Sound) (name : Option String) : (g.addNode name).Sound := by
  cases name with
  | none => exact h
  | some name =>
    by_cases hname : name = "none"
    · have hsame : g.addNode (some name) = g := by simp [Graph.addNode, hname]
      rw [hsame]
      exact h
    · refine ⟨h.lowered.addNode hname, ?_⟩
      rintro parent child ⟨node, hnode, hmem⟩
      apply has_addNode_of_has _ hname
      rw [find?_addNode hname] at hnode
      split at hnode
      · exact h.closed ⟨node, hnode, hmem⟩
      · split at hnode
        · -- the new node has no children
          cases hnode
          cases hmem
        · exact h.closed ⟨node, hnode, hmem⟩

private theorem Sound.update (h : g.Sound) {change : Node → Node}
    (hchange : ∀ node, ∀ child ∈ (change node).children, child ∈ node.children ∨ g.has child = true) (name : String) :
    (g.update name change).Sound := by
  refine ⟨fun key hkey => h.lowered key (by rwa [has_update] at hkey), ?_⟩
  rintro parent child ⟨node, hnode, hmem⟩
  rw [has_update]
  rw [find?_update] at hnode
  split at hnode
  · obtain ⟨former, hformer, rfl⟩ := Option.map_eq_some_iff.1 hnode
    rcases hchange former child hmem with hold | hnew
    · exact h.closed ⟨former, hformer, hold⟩
    · exact hnew
  · exact h.closed ⟨node, hnode, hmem⟩

/-- An edge that succeeds is one between nodes. -/
private theorem exists_of_connect {parent : Option String} {child : String}
    (hok : (g.connect parent child).2 = .ok ()) :
    ∃ name, parent = some name ∧ g.has name = true ∧ g.has child = true := by
  cases parent with
  | none => cases hok
  | some name =>
    simp only [connect] at hok
    split at hok
    · cases hok
    case isFalse hname =>
      split at hok
      · cases hok
      case isFalse hchild =>
        rw [has_update] at hchild
        exact ⟨name, rfl, by simpa using hname, by simpa using hchild⟩

private theorem Sound.connect (h : g.Sound) {parent : Option String} {child : String}
    (hok : (g.connect parent child).2 = .ok ()) : (g.connect parent child).1.Sound := by
  obtain ⟨name, rfl, hname, hchild⟩ := exists_of_connect hok
  rw [connect_eq hname hchild]
  dsimp only
  apply Sound.update
  · apply Sound.update h
    intro node other hother
    rcases List.mem_append.1 hother with hold | hnew
    · exact .inl hold
    · rw [List.mem_singleton.1 hnew]
      exact .inr hchild
  · exact fun node other hother => .inl hother

private theorem Sound.addEdge (h : g.Sound) {parent child : Option String} (hok : (g.addEdge parent child).2 = .ok ()) :
    (g.addEdge parent child).1.Sound := by
  have hnodes := (h.addNode (parent.map lower)).addNode (child.map lower)
  cases child with
  | none => exact hnodes
  | some child => exact hnodes.connect hok

/-- In a graph that was built, all children have nodes. -/
theorem Built.sound (h : Built g) : g.Sound := by
  induction h with
  | empty =>
    refine ⟨fun name hname => ?_, ?_⟩
    · cases hname
    · rintro parent child ⟨node, hnode, -⟩
      cases hnode
  | node _ name ih => exact ih.addNode name
  | edge _ parent child hok ih => exact ih.addEdge hok

private theorem mem_children {child : String} : child ∈ g.children name ↔ g.Child (lower name) child := by
  unfold children Child
  cases g.find? (lower name) <;> simp

private theorem Sound.mem_children_iff (h : g.Sound) (hname : g.has name = true) {child : String} :
    child ∈ g.children name ↔ g.Child name child := by
  rw [mem_children, h.lowered name hname]

/-! ### The search -/

/-- Some tables added to those that were found, each once. -/
def gathered (found names : List String) : List String := names.foldl (fun all name => all.insert name) found

private theorem mem_gathered {found : List String} : table ∈ gathered found names ↔ table ∈ found ∨ table ∈ names := by
  induction names generalizing found with
  | nil => simp [gathered]
  | cons name names ih =>
    rw [gathered, List.foldl_cons, ← gathered, ih, List.mem_insert_iff, List.mem_cons]
    tauto

private theorem nodup_gathered {found : List String} (h : found.Nodup) : (gathered found names).Nodup := by
  induction names generalizing found with
  | nil => exact h
  | cons name names ih => exact ih h.insert

/-- The tables a number of steps below some tables, as often as there are ways to them. -/
def row (g : Graph) : Nat → List String → List String
  | 0, names => names
  | steps + 1, names => g.row steps (names.flatMap g.children)

variable {distance : Nat}

private theorem Sound.search_cons (h : g.Sound) (hle : distance ≤ level) (found : List String)
    (queue : List (String × Nat)) : g.search level found ((name, distance) :: queue) =
      g.search level (if level = distance then found.insert name else found)
        (queue ++ (g.children name).map (·, distance + 1)) := by
  have hnodes : ((g.children name).find? fun child => !g.has child) = none := by
    rw [List.find?_eq_none]
    intro child hchild
    simp [h.closed (mem_children.1 hchild)]
  rw [search, if_neg (by omega), hnodes]

/-- The queue holds tables at one distance, then tables one step farther.  Once the first ones have been visited, it
holds the others, and behind them the children of those visited. -/
theorem Sound.search_row (h : g.Sound) (hle : distance ≤ level) (found names others : List String) :
    g.search level found (names.map (·, distance) ++ others.map (·, distance + 1)) =
      g.search level (if level = distance then gathered found names else found)
        ((others ++ names.flatMap g.children).map (·, distance + 1)) := by
  induction names generalizing found others with
  | nil => simp [gathered]
  | cons name names ih =>
    rw [List.map_cons, List.cons_append, h.search_cons hle, List.append_assoc, ← List.map_append, ih,
      List.flatMap_cons, List.append_assoc]
    split <;> rfl

private theorem Sound.search_single_row (h : g.Sound) (hle : distance ≤ level) (found names : List String) :
    g.search level found (names.map (·, distance)) =
      g.search level (if level = distance then gathered found names else found)
        ((names.flatMap g.children).map (·, distance + 1)) := by
  have hrow := h.search_row hle found names []
  rwa [List.map_nil, List.append_nil, List.nil_append] at hrow

/-- A search ends in front of the tables that are too far away. -/
private theorem search_of_lt (hlt : level < distance) (found names : List String) :
    g.search level found (names.map (·, distance)) = .ok found := by
  cases names with
  | nil =>
    rw [List.map_nil, search]
    rfl
  | cons name names =>
    rw [List.map_cons, search, if_pos hlt]
    rfl

/-- A search finds one row of neighbours after the other. -/
theorem Sound.search_rows (h : g.Sound) (steps distance : Nat) (found names : List String) :
    g.search (distance + steps : Nat) found (names.map (·, distance)) = .ok (gathered found (g.row steps names)) := by
  induction steps generalizing distance names with
  | zero =>
    rw [h.search_single_row (by omega), if_pos (by omega), search_of_lt (by omega)]
    rfl
  | succ steps ih =>
    have hlevel : distance + (steps + 1) = distance + 1 + steps := by omega
    rw [h.search_single_row (by omega), if_neg (by omega), hlevel, ih (distance + 1)]
    rfl

/-- The tables at a level below a table. -/
def levelOf (g : Graph) (name : String) : Int → List String
  | .ofNat steps => gathered [] (g.row steps [name])
  | .negSucc _ => []

private theorem Sound.walk_eq (h : g.Sound) (name : String) (level : Int) : g.walk name level = .ok
    (g.levelOf name level) := by
  cases level with
  | ofNat steps =>
    have hrows := h.search_rows steps 0 [] [name]
    rwa [Nat.zero_add] at hrows
  | negSucc below =>
    have hbefore : Int.negSucc below < (0 : Nat) := Int.negSucc_lt_zero below
    exact search_of_lt hbefore [] [name]

private theorem nodup_levelOf (g : Graph) (name : String) (level : Int) : (g.levelOf name level).Nodup := by
  cases level with
  | ofNat steps => exact nodup_gathered List.nodup_nil
  | negSucc below => exact List.nodup_nil

/-! ### Rows and walks -/

private theorem walk_zero_iff : g.Walk 0 name table ↔ name = table := by
  constructor
  · rintro ⟨⟩
    rfl
  · rintro rfl
    exact .here name

private theorem walk_succ_iff {steps : Nat} :
    g.Walk (steps + 1) name table ↔ ∃ child, g.Child name child ∧ g.Walk steps child table := by
  constructor
  · rintro (_ | ⟨hchild, hwalk⟩)
    exact ⟨_, hchild, hwalk⟩
  · rintro ⟨child, hchild, hwalk⟩
    exact .step hchild hwalk

private theorem Sound.mem_row (h : g.Sound) (hnames : ∀ name ∈ names, g.has name = true) {steps : Nat} :
    table ∈ g.row steps names ↔ ∃ name ∈ names, g.Walk steps name table := by
  induction steps generalizing names with
  | zero => simp [row, walk_zero_iff]
  | succ steps ih =>
    have hchildren : ∀ child ∈ names.flatMap g.children, g.has child = true := by
      intro child hchild
      obtain ⟨name, -, hmem⟩ := List.mem_flatMap.1 hchild
      exact h.closed (mem_children.1 hmem)
    rw [row, ih hchildren]
    simp only [walk_succ_iff, List.mem_flatMap]
    constructor
    · rintro ⟨child, ⟨name, hname, hchild⟩, hwalk⟩
      exact ⟨name, hname, child, (h.mem_children_iff (hnames name hname)).1 hchild, hwalk⟩
    · rintro ⟨name, hname, child, hchild, hwalk⟩
      exact ⟨child, ⟨name, hname, (h.mem_children_iff (hnames name hname)).2 hchild⟩, hwalk⟩

private theorem Sound.mem_levelOf (h : g.Sound) (hname : g.has name = true) :
    table ∈ g.levelOf name level ↔ ∃ steps : Nat, level = steps ∧ g.Walk steps name table := by
  cases level with
  | ofNat steps =>
    have hrow : table ∈ g.row steps [name] ↔ ∃ other ∈ [name], g.Walk steps other table :=
      h.mem_row (by simpa using hname)
    rw [levelOf, mem_gathered, hrow]
    constructor
    · rintro (hnone | ⟨other, hother, hwalk⟩)
      · cases hnone
      · rw [List.mem_singleton.1 hother] at hwalk
        exact ⟨steps, rfl, hwalk⟩
    · rintro ⟨other, hother, hwalk⟩
      cases hother
      exact .inr ⟨name, List.mem_singleton_self name, hwalk⟩
  | negSucc below =>
    constructor
    · intro hnone
      cases hnone
    · rintro ⟨steps, hlevel, -⟩
      cases hlevel

/-! ### Below the roots -/

private theorem Sound.rootsAt_eq (h : g.Sound) (level : Int) : g.rootsAt level =
      .ok (((g.nodes.filter fun e => g.isRoot e.1).flatMap fun e => g.levelOf e.1 level).eraseDups.mergeSort) := by
  have hwalks : (fun e : String × Node => g.walk e.1 level) = fun e => pure (g.levelOf e.1 level) :=
    funext fun e => h.walk_eq e.1 level
  rw [List.flatMap_def]
  change (g.nodes.filter fun e => g.isRoot e.1).mapM (fun e : String × Node => g.walk e.1 level) >>=
    (fun found => pure found.flatten.eraseDups.mergeSort) = _
  rw [hwalks, List.mapM_pure]
  rfl

private theorem isRoot_iff (hlower : lower name = name) {node : Node} (hnode : g.find? name = some node) :
    g.isRoot name = true ↔ node.parents = [] := by
  simp [isRoot, parents, hlower, hnode]

private theorem mem_nodes_iff_has : (∃ node, (name, node) ∈ g.nodes) ↔ g.has name = true := by
  rw [has, find?, Sequence.isSome_lookup_iff]
  simp

private theorem Sound.mem_roots (h : g.Sound) (holds : String → Prop) :
    (∃ e ∈ g.nodes.filter fun e => g.isRoot e.1, holds e.1) ↔
      ∃ root node, g.find? root = some node ∧ node.parents = [] ∧ holds root := by
  constructor
  · rintro ⟨⟨root, other⟩, hmem, hholds⟩
    obtain ⟨hentry, hroot⟩ := List.mem_filter.1 hmem
    have hhas := mem_nodes_iff_has.1 ⟨other, hentry⟩
    obtain ⟨node, hnode⟩ := Option.isSome_iff_exists.1 hhas
    exact ⟨root, node, hnode, (isRoot_iff (h.lowered root hhas) hnode).1 hroot, hholds⟩
  · rintro ⟨root, node, hnode, hparents, hholds⟩
    have hhas : g.has root = true := Option.isSome_iff_exists.2 ⟨node, hnode⟩
    obtain ⟨other, hentry⟩ := mem_nodes_iff_has.2 hhas
    have hroot := (isRoot_iff (h.lowered root hhas) hnode).2 hparents
    exact ⟨(root, other), List.mem_filter.2 ⟨hentry, hroot⟩, hholds⟩

/-- In a graph that was made by additions that all succeeded, the search for a level below a table succeeds and finds
exactly the tables at the end of a walk with that number of steps, each once.  The tables at a level below the roots
are those at the end of a walk from a node without parents. -/
theorem levels_hold_walks (h : Built g) (level : Int) :
    (∀ name, g.has name = true → ∃ found, g.walk name level = .ok found ∧ found.Nodup ∧
      ∀ table, table ∈ found ↔ ∃ steps : Nat, level = steps ∧ g.Walk steps name table) ∧
    ∃ found, g.rootsAt level = .ok found ∧ found.Nodup ∧
      ∀ table, table ∈ found ↔ ∃ root node, g.find? root = some node ∧ node.parents = [] ∧
        ∃ steps : Nat, level = steps ∧ g.Walk steps root table := by
  have hsound := h.sound
  refine ⟨fun name hname => ?_, ?_⟩
  · exact ⟨_, hsound.walk_eq name level, nodup_levelOf g name level, fun table => hsound.mem_levelOf hname⟩
  · refine ⟨_, hsound.rootsAt_eq level, List.nodup_mergeSort.2 (Sequence.nodup_eraseDups _), fun table => ?_⟩
    rw [List.mem_mergeSort, List.mem_eraseDups, List.mem_flatMap, hsound.mem_roots (table ∈ g.levelOf · level)]
    constructor
    · rintro ⟨root, node, hnode, hparents, htable⟩
      have hhas : g.has root = true := Option.isSome_iff_exists.2 ⟨node, hnode⟩
      exact ⟨root, node, hnode, hparents, (hsound.mem_levelOf hhas).1 htable⟩
    · rintro ⟨root, node, hnode, hparents, hwalk⟩
      have hhas : g.has root = true := Option.isSome_iff_exists.2 ⟨node, hnode⟩
      exact ⟨root, node, hnode, hparents, (hsound.mem_levelOf hhas).2 hwalk⟩

def looped : Graph :=
  [("Orders", "totals"), ("TOTALS", "report"), ("report", "Totals"), ("Report", "report")].foldl
    (fun g e => (g.addEdge (some e.1) (some e.2)).1) {}

private theorem built_looped : Built looped :=
  (((Built.empty.edge _ _ rfl).edge _ _ rfl).edge _ _ rfl).edge _ _ rfl

theorem levels_hold_walks_looped :
    Built looped ∧ ∃ found, looped.walk "orders" 3 = .ok found ∧ "totals" ∈ found ∧ "report" ∈ found := by
  refine ⟨built_looped, ?_⟩
  obtain ⟨found, hwalk, -, hfound⟩ := (levels_hold_walks built_looped 3).1 "orders" (by decide)
  have htotals : looped.Child "orders" "totals" := ⟨_, rfl, by decide⟩
  have hreport : looped.Child "totals" "report" := ⟨_, rfl, by decide⟩
  have hback : looped.Child "report" "totals" := ⟨_, rfl, by decide⟩
  have hloop : looped.Child "report" "report" := ⟨_, rfl, by decide⟩
  refine ⟨found, hwalk, (hfound "totals").2 ⟨3, rfl, ?_⟩, (hfound "report").2 ⟨3, rfl, ?_⟩⟩
  · exact .step htotals (.step hreport (.step hback (.here _)))
  · exact .step htotals (.step hreport (.step hloop (.here _)))

end Graph

end WarehouseMigration.Lineage
