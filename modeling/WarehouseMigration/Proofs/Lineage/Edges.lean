import WarehouseMigration.Lineage.Graph
import WarehouseMigration.Proofs.FileTree.Places
import WarehouseMigration.Proofs.Text.Lowering

/-!
# The edges that a lineage graph keeps

A graph grows by nodes and edges that are added one after another.  An edge is noted twice, with its parent and with
its child, so that both notes of all edges should be there at the end.  A node that is added again loses its notes if
its name is not spelled in small letters, for such a spelling is never found among the nodes.  So all edges are there,
each as often as it was added, if and only if no edge was added before a node at one of its ends was added in another
spelling (`Spares`).

What one addition does to the node of a name is said by `nodeAt_apply`: the node is made anew, or the addition adds its
share to it.
-/

namespace WarehouseMigration.Lineage

open Text (lower lower_lower)

inductive Addition where
  | node (name : String)
  | edge (parent child : String)
deriving DecidableEq

namespace Addition

def Named : Addition → Prop
  | node name => name ≠ "none"
  | edge parent child => lower parent ≠ "none" ∧ lower child ≠ "none"

instance : DecidablePred Named
  | node _ => inferInstanceAs (Decidable (_ ≠ _))
  | edge _ _ => inferInstanceAs (Decidable (_ ∧ _))

def apply (g : Graph) : Addition → Graph
  | node name => g.addNode (some name)
  | edge parent child => (g.addEdge (some parent) (some child)).1

def joins (parent child : String) : Addition → Bool
  | node _ => false
  | edge p c => lower p == lower parent && lower c == lower child

/-- Whether an addition makes the node of a name anew. -/
def renews (name : String) : Addition → Prop
  | node other => lower other ≠ other ∧ lower other = lower name
  | edge _ _ => False

instance (name : String) : DecidablePred (renews name)
  | node _ => inferInstanceAs (Decidable (_ ∧ _))
  | edge _ _ => inferInstanceAs (Decidable False)

/-- Whether an earlier addition is not undone by a later one: the later one does not make the node of an end anew. -/
def Spares (earlier later : Addition) : Prop :=
  match earlier with
  | node _ => True
  | edge parent child => ¬ later.renews parent ∧ ¬ later.renews child

instance : DecidableRel Spares
  | node _, _ => inferInstanceAs (Decidable True)
  | edge _ _, _ => inferInstanceAs (Decidable (_ ∧ _))

def share (name : String) : Addition → Node
  | node _ => {}
  | edge parent child =>
    { children := if lower parent = lower name then [lower child] else []
      parents := if lower child = lower name then [lower parent] else [] }

end Addition

open Addition

namespace Graph

def grown (additions : List Addition) : Graph := additions.foldl Addition.apply {}

/-- The node of a name in any spelling; a name without a node has no edges. -/
def nodeAt (g : Graph) (name : String) : Node := (g.find? (lower name)).getD {}

def Lowered (g : Graph) : Prop := ∀ name, g.has name = true → lower name = name

variable {g : Graph} {name key : String}

private theorem parents_eq_nodeAt (g : Graph) (name : String) : g.parents name = (g.nodeAt name).parents := by
  rw [parents, nodeAt]
  cases g.find? (lower name) <;> rfl

private theorem children_eq_nodeAt (g : Graph) (name : String) : g.children name = (g.nodeAt name).children := by
  rw [children, nodeAt]
  cases g.find? (lower name) <;> rfl

/-! ### Single operations -/

/-- Adding a node adds it under its name in lower case, if it is not there yet. -/
theorem find?_addNode (hname : name ≠ "none") : (g.addNode (some name)).find? key =
    if g.has name then g.find? key else if key = lower name then some {} else g.find? key := by
  simp only [addNode, beq_eq_false_iff_ne.2 hname, Bool.or_false]
  split
  · rfl
  · simp only [find?, Sequence.lookup_put, beq_iff_eq]

/-- An update changes one node. -/
theorem find?_update {change : Node → Node} :
    (g.update name change).find? key = if key = name then (g.find? key).map change else g.find? key := by
  simp only [find?, update]
  induction g.nodes with
  | nil => simp
  | cons entry entries ih =>
    obtain ⟨k, node⟩ := entry
    rw [List.map_cons, List.lookup_cons, ← apply_ite (Prod.mk k)]
    by_cases hkey : key = k
    · subst hkey
      by_cases hname : key = name <;> simp [hname]
    · simp only [List.lookup_cons, beq_false_of_ne hkey]
      exact ih

theorem has_update {change : Node → Node} : (g.update name change).has key = g.has key := by
  simp only [has, find?_update]
  split
  · simp
  · rfl

/-- A name in small letters is a node once it has been added, and nothing else changes. -/
private theorem has_addNode_self (hname : name ≠ "none") (hlower : lower name = name) :
    (g.addNode (some name)).has name = true := by
  rw [has, find?_addNode hname, hlower]
  cases h : g.has name
  · simp
  · simpa [has] using h

theorem has_addNode_of_has (h : g.has key = true) (hname : name ≠ "none") :
    (g.addNode (some name)).has key = true := by
  rw [has, find?_addNode hname]
  split
  · exact h
  · split
    · rfl
    · exact h

private theorem nodeAt_addNode_of_lower (hname : name ≠ "none") (hlower : lower name = name) :
    (g.addNode (some name)).nodeAt key = g.nodeAt key := by
  rw [nodeAt, find?_addNode hname, hlower, nodeAt]
  cases hhas : g.has name
  · have hnone : g.find? name = none := by simpa [has] using hhas
    by_cases hkey : lower key = name
    · simp [hkey, hnone]
    · simp [hkey]
  · rfl

/-- A name in another spelling is not found, so its node is made anew. -/
private theorem nodeAt_addNode_of_not_lower (hg : g.Lowered) (hname : name ≠ "none") (hlower : lower name ≠ name) :
    (g.addNode (some name)).nodeAt key = if lower name = lower key then {} else g.nodeAt key := by
  have hhas : g.has name = false := by
    rw [← Bool.not_eq_true]
    exact fun h => hlower (hg name h)
  rw [nodeAt, find?_addNode hname, hhas, if_neg (by decide), nodeAt]
  by_cases hkey : lower key = lower name
  · simp [hkey]
  · simp [hkey, Ne.symm hkey]

private theorem nodeAt_update {change : Node → Node} (h : g.has name = true) :
    (g.update name change).nodeAt key = if lower key = name then change (g.nodeAt key) else g.nodeAt key := by
  rw [nodeAt, find?_update, nodeAt]
  split
  case isTrue heq =>
    obtain ⟨node, hnode⟩ := Option.isSome_iff_exists.1 h
    simp [heq, hnode]
  case isFalse => rfl

/-- An edge between nodes is noted with both of them. -/
theorem connect_eq {parent child : String} (hparent : g.has parent = true) (hchild : g.has child = true) :
    g.connect (some parent) child =
      ((g.update parent fun node => { node with children := node.children ++ [child] }).update child
        fun node => { node with parents := node.parents ++ [parent] }, .ok ()) := by
  simp [connect, hparent, hchild, has_update]

section Edge

variable {parent child : String} (hparent : lower parent ≠ "none") (hchild : lower child ≠ "none")

include hparent hchild

private theorem has_addNodes : ((g.addNode (some (lower parent))).addNode (some (lower child))).has
    (lower parent) = true ∧ ((g.addNode (some (lower parent))).addNode (some (lower child))).has (lower child) = true :=
  ⟨has_addNode_of_has (has_addNode_self hparent (lower_lower parent)) hchild,
    has_addNode_self hchild (lower_lower child)⟩

private theorem addEdge_eq : g.addEdge (some parent) (some child) =
    ((((g.addNode (some (lower parent))).addNode (some (lower child))).update (lower parent) fun node =>
      { node with children := node.children ++ [lower child] }).update (lower child) fun node =>
        { node with parents := node.parents ++ [lower parent] }, .ok ()) :=
  connect_eq (has_addNodes hparent hchild).1 (has_addNodes hparent hchild).2

private theorem nodeAt_addEdge (name : String) : (g.addEdge (some parent) (some child)).1.nodeAt name =
    ⟨(g.nodeAt name).children ++ ((edge parent child).share name).children,
      (g.nodeAt name).parents ++ ((edge parent child).share name).parents⟩ := by
  obtain ⟨hfirst, hsecond⟩ := has_addNodes (g := g) hparent hchild
  rw [addEdge_eq hparent hchild, nodeAt_update (by rwa [has_update]), nodeAt_update hfirst,
    nodeAt_addNode_of_lower hchild (lower_lower child), nodeAt_addNode_of_lower hparent (lower_lower parent)]
  simp only [share, eq_comm (a := lower name)]
  by_cases hp : lower parent = lower name <;> by_cases hc : lower child = lower name <;> simp [hp, hc]

end Edge

/-! ### One addition -/

/-- Nodes are named in lower case. -/
theorem Lowered.addNode (hg : g.Lowered) (hname : name ≠ "none") : (g.addNode (some name)).Lowered := by
  intro key hkey
  rw [has, find?_addNode hname] at hkey
  split at hkey
  · exact hg key hkey
  · split at hkey
    case isTrue heq => rw [heq, lower_lower]
    case isFalse => exact hg key hkey

private theorem Lowered.apply (hg : g.Lowered) {a : Addition} (ha : a.Named) : (a.apply g).Lowered := by
  cases a with
  | node name => exact hg.addNode ha
  | edge parent child =>
    intro key hkey
    rw [Addition.apply, addEdge_eq ha.1 ha.2, has_update, has_update] at hkey
    exact (hg.addNode ha.1).addNode ha.2 key hkey

/-- An addition begins a node anew, or adds its share to it. -/
theorem nodeAt_apply (hg : g.Lowered) {a : Addition} (ha : a.Named) (name : String) :
    (a.apply g).nodeAt name =
      if a.renews name then {}
      else
        ⟨(g.nodeAt name).children ++ (a.share name).children, (g.nodeAt name).parents ++ (a.share name).parents⟩ := by
  cases a with
  | node other =>
    simp only [Addition.apply, renews, share, List.append_nil]
    by_cases hlower : lower other = other
    · rw [nodeAt_addNode_of_lower ha hlower, if_neg fun h => h.1 hlower]
    · rw [nodeAt_addNode_of_not_lower hg ha hlower]
      simp only [hlower, ne_eq, not_false_eq_true, true_and]
  | edge parent child =>
    rw [if_neg (fun h : (edge parent child).renews name => h)]
    exact nodeAt_addEdge ha.1 ha.2 name

/-! ### Many additions -/

variable {additions : List Addition}

private theorem grown_append (before after : List Addition) :
    grown (before ++ after) = after.foldl Addition.apply (grown before) :=
  List.foldl_append

private theorem lowered_grown (h : ∀ a ∈ additions, a.Named) : (grown additions).Lowered := by
  induction additions using List.reverseRecOn with
  | nil => intro name hname; cases hname
  | append_singleton additions a ih =>
    rw [grown_append]
    exact Lowered.apply (ih fun b hb => h b (by simp [hb])) (h a (by simp))

private theorem share_eq_of_spares {a b : Addition} (hspares : Spares b a) (h : a.renews name) : b.share name = {} := by
  cases b with
  | node other => rfl
  | edge parent child =>
    have hrenews : ∀ {other}, lower other = lower name → a.renews other := by
      intro other heq
      cases a with
      | node third => exact ⟨h.1, h.2.trans heq.symm⟩
      | edge _ _ => exact h
    rw [share, if_neg fun heq => hspares.1 (hrenews heq), if_neg fun heq => hspares.2 (hrenews heq)]

private theorem nodeAt_grown (h : ∀ a ∈ additions, a.Named) (hspares : additions.Pairwise Spares) (name : String) :
    (grown additions).nodeAt name =
      ⟨additions.flatMap fun a => (a.share name).children, additions.flatMap fun a => (a.share name).parents⟩ := by
  induction additions using List.reverseRecOn with
  | nil => rfl
  | append_singleton additions a ih =>
    have hnamed := fun b hb => h b (List.mem_append_left [a] hb)
    obtain ⟨hbefore, -, hlast⟩ := List.pairwise_append.1 hspares
    rw [grown_append, List.foldl_cons, List.foldl_nil, nodeAt_apply (lowered_grown hnamed) (h a (by simp)),
      ih hnamed hbefore]
    split
    case isTrue hrenews =>
      -- the node is made anew, but it had no edges yet
      have hshare : ∀ b ∈ additions ++ [a], b.share name = {} := by
        intro b hb
        rcases List.mem_append.1 hb with hb | hb
        · exact share_eq_of_spares (hlast b hb a (by simp)) hrenews
        · rw [List.mem_singleton.1 hb]
          cases a with
          | node other => rfl
          | edge _ _ => exact hrenews.elim
      rw [List.flatMap_eq_nil_iff.2 fun b hb => by rw [hshare b hb],
        List.flatMap_eq_nil_iff.2 fun b hb => by rw [hshare b hb]]
    case isFalse => simp

/-- Whatever is added, a node gets no more than the shares of the additions. -/
private theorem sublist_nodeAt_foldl (hg : g.Lowered) (h : ∀ a ∈ additions, a.Named) (name : String) :
    ((additions.foldl Addition.apply g).nodeAt name).children.Sublist
        ((g.nodeAt name).children ++ additions.flatMap fun a => (a.share name).children) ∧
      ((additions.foldl Addition.apply g).nodeAt name).parents.Sublist
        ((g.nodeAt name).parents ++ additions.flatMap fun a => (a.share name).parents) := by
  induction additions generalizing g with
  | nil => simp
  | cons a additions ih =>
    have ha := h a List.mem_cons_self
    obtain ⟨hchildren, hparents⟩ := ih (hg.apply ha) fun b hb => h b (List.mem_cons_of_mem a hb)
    rw [nodeAt_apply hg ha] at hchildren hparents
    rw [List.foldl_cons, List.flatMap_cons, List.flatMap_cons, ← List.append_assoc, ← List.append_assoc]
    split at hchildren
    case isTrue hrenews =>
      rw [if_pos hrenews] at hparents
      exact ⟨hchildren.trans (List.sublist_append_right ..), hparents.trans (List.sublist_append_right ..)⟩
    case isFalse hrenews =>
      rw [if_neg hrenews] at hparents
      exact ⟨hchildren, hparents⟩

private theorem count_flatMap_eq {notes : Addition → List String} {key parent child : String}
    (h : ∀ a, (notes a).count key = if joins parent child a then 1 else 0) (additions : List Addition) :
    (additions.flatMap notes).count key = additions.countP (joins parent child) := by
  induction additions with
  | nil => rfl
  | cons a additions ih => rw [List.flatMap_cons, List.count_append, ih, List.countP_cons, h, Nat.add_comm]

private theorem count_share_parents (parent child : String) (additions : List Addition) :
    (additions.flatMap fun a => (a.share child).parents).count (lower parent) =
      additions.countP (joins parent child) := by
  refine count_flatMap_eq (fun a => ?_) additions
  cases a with
  | node name => rfl
  | edge p c => by_cases hc : lower c = lower child <;> simp [share, joins, hc, List.count_singleton]

private theorem count_share_children (parent child : String) (additions : List Addition) :
    (additions.flatMap fun a => (a.share parent).children).count (lower child) =
      additions.countP (joins parent child) := by
  refine count_flatMap_eq (fun a => ?_) additions
  cases a with
  | node name => rfl
  | edge p c => by_cases hp : lower p = lower parent <;> simp [share, joins, hp, List.count_singleton]

/-- An edge that was added before a node at one of its ends was made anew is missing there. -/
private theorem lost_of_renews {before after : List Addition} {a : Addition} {parent child : String}
    (h : ∀ b ∈ before ++ a :: after, b.Named) (hedge : edge parent child ∈ before) :
    (a.renews parent → ((grown (before ++ a :: after)).children parent).count (lower child) <
      (before ++ a :: after).countP (joins parent child)) ∧
    (a.renews child → ((grown (before ++ a :: after)).parents child).count (lower parent) <
      (before ++ a :: after).countP (joins parent child)) := by
  have hbefore := lowered_grown fun b hb => h b (List.mem_append_left _ hb)
  have ha := h a (by simp)
  have hnamed : ∀ b ∈ after, b.Named := fun b hb => h b (by simp [hb])
  have hafter := sublist_nodeAt_foldl (hbefore.apply ha) hnamed
  have hcount : after.countP (joins parent child) < (before ++ a :: after).countP (joins parent child) := by
    have hpos : 0 < before.countP (joins parent child) := List.countP_pos_iff.2 ⟨_, hedge, by simp [joins]⟩
    rw [List.countP_append, List.countP_cons]
    omega
  rw [grown_append, List.foldl_cons, children_eq_nodeAt, parents_eq_nodeAt]
  constructor
  · intro hrenews
    have hle := (hafter parent).1.count_le (lower child)
    rw [nodeAt_apply hbefore ha, if_pos hrenews, List.nil_append, count_share_children] at hle
    omega
  · intro hrenews
    have hle := (hafter child).2.count_le (lower parent)
    rw [nodeAt_apply hbefore ha, if_pos hrenews, List.nil_append, count_share_parents] at hle
    omega

/-- Every addition succeeds.  Both notes of every edge are there, each as often as the edge was added, and no addition
took away what had been noted before, if and only if no edge was added before a node at one of its ends was added in a
spelling with capital letters. -/
theorem edges_kept_iff_spared (h : ∀ a ∈ additions, a.Named) :
    (∀ before parent child, before ++ [edge parent child] <+: additions →
      ((grown before).addEdge (some parent) (some child)).2 = .ok ()) ∧
    (((∀ parent child,
        ((grown additions).parents child).count (lower parent) = additions.countP (joins parent child) ∧
        ((grown additions).children parent).count (lower child) = additions.countP (joins parent child)) ∧
      ∀ before, before <+: additions → ∀ name,
        (grown before).parents name <+: (grown additions).parents name ∧
        (grown before).children name <+: (grown additions).children name) ↔
      additions.Pairwise Spares) := by
  refine ⟨?_, ?_, ?_⟩
  · rintro before parent child ⟨after, rfl⟩
    obtain ⟨hparent, hchild⟩ := h (edge parent child) (by simp)
    rw [addEdge_eq hparent hchild]
  · rintro ⟨hcounts, -⟩
    rw [List.pairwise_iff_forall_sublist]
    intro a b hsub
    obtain ⟨first, second, rfl, hfirst, hsecond⟩ := List.cons_sublist_iff.1 hsub
    obtain ⟨between, after, rfl⟩ := List.append_of_mem (List.singleton_sublist.1 hsecond)
    cases a with
    | node name => trivial
    | edge parent child =>
      rw [← List.append_assoc] at h hcounts
      have hlost := lost_of_renews h (List.mem_append_left between hfirst)
      obtain ⟨hparents, hchildren⟩ := hcounts parent child
      exact ⟨fun hrenews => Nat.ne_of_lt (hlost.1 hrenews) hchildren,
        fun hrenews => Nat.ne_of_lt (hlost.2 hrenews) hparents⟩
  · intro hspares
    constructor
    · intro parent child
      rw [parents_eq_nodeAt, children_eq_nodeAt, nodeAt_grown h hspares, nodeAt_grown h hspares]
      exact ⟨count_share_parents parent child additions, count_share_children parent child additions⟩
    · rintro before ⟨after, rfl⟩ name
      have hbefore := nodeAt_grown (fun a ha => h a (List.mem_append_left after ha))
        (List.pairwise_append.1 hspares).1 name
      rw [parents_eq_nodeAt, parents_eq_nodeAt, children_eq_nodeAt, children_eq_nodeAt, nodeAt_grown h hspares, hbefore,
        List.flatMap_append, List.flatMap_append]
      exact ⟨List.prefix_append .., List.prefix_append ..⟩

/-- Spellings may differ between edges, and a node may be added again in small letters. -/
theorem edges_kept_mixed :
    ((grown [edge "Orders" "TOTALS", node "totals", edge "orders" "Totals"]).parents "totals").count "orders" = 2 :=
  have hnamed : ∀ a ∈ [edge "Orders" "TOTALS", node "totals", edge "orders" "Totals"], a.Named := by decide
  ((edges_kept_iff_spared hnamed).2.2 (by decide)).1 "Orders" "totals" |>.1

/-- The node of a parent that is added again in capital letters loses its child, which still knows its parent. -/
theorem edges_lost_capital :
    (grown [edge "a" "b", node "A"]).children "a" = [] ∧ (grown [edge "a" "b", node "A"]).parents "b" = ["a"] := by
  decide

end Graph

end WarehouseMigration.Lineage
