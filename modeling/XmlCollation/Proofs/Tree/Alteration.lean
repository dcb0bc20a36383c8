import Mathlib.Data.List.Perm.Subperm
import XmlCollation.Proofs.Tree.Structure

/-!
Contract: trees that are changed at one place.

Owns:
- the change of the node that a path leads to, and the nodes on the way there;
- whatever is written of a tree, node by node, is the same before and behind the place of the
  change;
- the positions of a changed tree.

Does not own: what a change does to the node.
-/

namespace XmlCollation.Tree

/-- The tree in which the node that a path leads to is changed. -/
def Node.alterAt (change : Node → Node) : Node → List Nat → Node
  | node, [] => change node
  | node, index :: rest =>
      { node with children := node.children.modify index fun child => child.alterAt change rest }

/-- The nodes on the way that a path leads, both ends included. -/
def Node.alongPath : Node → List Nat → List Node
  | node, [] => [node]
  | node, index :: rest =>
      match node.children[index]? with
      | some child => node :: child.alongPath rest
      | none => [node]

/-! ## Step by step -/

section Step

variable {node child last : Node} {index : Nat} {rest : List Nat}

theorem Node.exists_child_of_at? (reached : node.at? (index :: rest) = some last) :
    ∃ child, node.children[index]? = some child ∧ child.at? rest = some last := by
  rw [Node.at?] at reached
  cases atIndex : node.children[index]? with
  | none =>
      rw [atIndex] at reached
      cases reached
  | some child =>
      rw [atIndex] at reached
      exact ⟨child, rfl, reached⟩

theorem Node.alongPath_cons (atIndex : node.children[index]? = some child) (rest : List Nat) :
    node.alongPath (index :: rest) = node :: child.alongPath rest := by
  rw [Node.alongPath, atIndex]

/-- One step further, one more node is on the way. -/
theorem Node.alongPath_append_singleton {path : List Nat} (reached : node.at? path = some last)
    (atIndex : last.children[index]? = some child) :
    node.alongPath (path ++ [index]) = node.alongPath path ++ [child] := by
  induction path generalizing node with
  | nil =>
      obtain rfl : node = last := Option.some.inj reached
      exact Node.alongPath_cons atIndex []
  | cons step rest inductionHypothesis =>
      obtain ⟨next, atStep, nextReached⟩ := Node.exists_child_of_at? reached
      rw [List.cons_append, Node.alongPath_cons atStep, Node.alongPath_cons atStep,
        inductionHypothesis nextReached, List.cons_append]

theorem Node.alterAt_id (node : Node) (path : List Nat) : node.alterAt id path = node := by
  induction path generalizing node with
  | nil => rfl
  | cons index rest inductionHypothesis =>
      have unchanged : (fun child : Node => child.alterAt id rest) = id :=
        funext inductionHypothesis
      rw [Node.alterAt, unchanged, List.modify_id]
      cases node
      rfl

/-- The siblings around a modified one stay what they are. -/
theorem exists_around_modify {nodes : List Node} (atIndex : nodes[index]? = some child) :
    ∃ before after, ∀ change : Node → Node,
      nodes.modify index change = before ++ change child :: after := by
  obtain ⟨inRange, rfl⟩ := List.getElem?_eq_some_iff.1 atIndex
  exact ⟨_, _, fun change => List.modify_eq_take_cons_drop inRange⟩

/-- A change counts for no more than what it makes of the node at the place. -/
theorem Node.alterAt_congr {path : List Nat} (reached : node.at? path = some last)
    {change change' : Node → Node} (same : change last = change' last) :
    node.alterAt change path = node.alterAt change' path := by
  induction path generalizing node with
  | nil =>
      obtain rfl : node = last := Option.some.inj reached
      exact same
  | cons index rest inductionHypothesis =>
      obtain ⟨child, atIndex, childReached⟩ := Node.exists_child_of_at? reached
      obtain ⟨before, after, siblings⟩ := exists_around_modify atIndex
      rw [Node.alterAt, Node.alterAt, siblings, siblings, inductionHypothesis childReached]

end Step

/-! ## Around the change -/

/-- What is written of a node is what is written of its children, between two parts that the
children have no influence on. -/
structure WritesAround {α : Type} (write front back : Node → List α) : Prop where
  write_eq : ∀ node, write node = front node ++ (node.children.flatMap write ++ back node)
  front_eq : ∀ (node : Node) (children : List Node), front { node with children } = front node
  back_eq : ∀ (node : Node) (children : List Node), back { node with children } = back node

section Around

variable {α : Type} {write front back : Node → List α} {node last : Node} {path : List Nat}

/-- Before and behind the changed node, the same is written whatever the change. -/
theorem WritesAround.exists_around_alterAt (writes : WritesAround write front back)
    (reached : node.at? path = some last) :
    ∃ before after, ∀ change : Node → Node,
      write (node.alterAt change path) = before ++ (write (change last) ++ after) := by
  induction path generalizing node with
  | nil =>
      obtain rfl : node = last := Option.some.inj reached
      exact ⟨[], [], fun change => (List.append_nil _).symm⟩
  | cons index rest inductionHypothesis =>
      obtain ⟨child, atIndex, childReached⟩ := Node.exists_child_of_at? reached
      obtain ⟨before, after, around⟩ := inductionHypothesis childReached
      obtain ⟨earlier, later, siblings⟩ := exists_around_modify atIndex
      refine ⟨front node ++ (earlier.flatMap write ++ before),
        after ++ (later.flatMap write ++ back node), fun change => ?_⟩
      rw [Node.alterAt, writes.write_eq, writes.front_eq, writes.back_eq, siblings,
        List.flatMap_append, List.flatMap_cons, around]
      simp only [List.append_assoc]

end Around

/-! ## Positions -/

theorem writesAround_positions :
    WritesAround Node.positions (fun node => [node.position]) fun _ => [] where
  write_eq node := by
    rw [Node.positions_eq, positionsAll_eq_flatMap, List.append_nil, List.singleton_append]
  front_eq _ _ := rfl
  back_eq _ _ := rfl

/-- Positions are distinct still if the changed node has no others than it had. -/
theorem Node.distinct_alterAt_of_subperm {node last : Node} {path : List Nat}
    (distinct : node.HasDistinctPositions) (reached : node.at? path = some last)
    {change : Node → Node} (noOthers : (change last).positions.Subperm last.positions) :
    (node.alterAt change path).HasDistinctPositions := by
  obtain ⟨before, after, around⟩ := writesAround_positions.exists_around_alterAt reached
  have unchanged := around id
  rw [Node.alterAt_id, id] at unchanged
  have fewer : (node.alterAt change path).positions.Subperm node.positions := by
    rw [around change, unchanged]
    exact (List.Subperm.refl before).append (noOthers.append (.refl after))
  obtain ⟨listed, perm, sublist⟩ := fewer
  exact perm.nodup_iff.1 (sublist.nodup distinct)

/-- Positions are distinct again if the changed node has the positions that it had. -/
theorem Node.distinct_alterAt {node last : Node} {path : List Nat}
    (distinct : node.HasDistinctPositions) (reached : node.at? path = some last)
    {change : Node → Node} (same : (change last).positions = last.positions) :
    (node.alterAt change path).HasDistinctPositions :=
  Node.distinct_alterAt_of_subperm distinct reached (same ▸ .refl _)

end XmlCollation.Tree
