import XmlCollation.Proofs.Tree.Ancestry
import XmlCollation.Tree.Build

/-!
Contract: trees in which positions are addresses.

Owns:
- numbered trees, in which every child stands at the position of its parent followed by its
  index, so that the path to a node can be read off its position;
- the positions of a numbered tree, which are distinct;
- trees built from elements, which are numbered.

Does not own: what is built into the nodes besides their positions.
-/

namespace XmlCollation.Tree

open XmlCollation.Markup

/-! ## Numbered trees -/

/-- Every child stands at the position of its parent, followed by its index. -/
def Node.IsNumbered (node : Node) : Prop :=
  ∀ parent ∈ node.preorder, ∀ (index : Nat) (child : Node),
    parent.children[index]? = some child →
      child.position = parent.position ++ [Int.ofNat index]

section Numbered

variable {node : Node}

/-- A tree is numbered if its first level is, and the trees below are. -/
theorem Node.isNumbered_iff :
    node.IsNumbered ↔ ∀ (index : Nat) (child : Node), node.children[index]? = some child →
      child.position = node.position ++ [Int.ofNat index] ∧ child.IsNumbered := by
  constructor
  · intro numbered index child atIndex
    refine ⟨numbered node node.mem_preorder_self index child atIndex, fun parent inChild => ?_⟩
    exact numbered parent
      (Node.mem_preorder_of_mem_children (List.mem_of_getElem? atIndex) inChild)
  · intro firstLevel parent inTree
    rcases Node.mem_preorder_iff.1 inTree with rfl | ⟨child, member, inChild⟩
    · exact fun index child atIndex => (firstLevel index child atIndex).1
    · obtain ⟨index, atIndex⟩ := List.mem_iff_getElem?.1 member
      exact (firstLevel index child atIndex).2 parent inChild

/-- The positions of a numbered tree begin with that of its root. -/
theorem Node.IsNumbered.prefix_of_mem (numbered : node.IsNumbered) {position : Position}
    (member : position ∈ node.positions) : node.position <+: position := by
  induction node using Node.childInduction with
  | step node inductionHypothesis =>
      rw [Node.positions_eq, List.mem_cons, mem_positionsAll] at member
      rcases member with rfl | ⟨child, childMember, below⟩
      · exact List.prefix_rfl
      · obtain ⟨index, atIndex⟩ := List.mem_iff_getElem?.1 childMember
        obtain ⟨childPosition, childNumbered⟩ := Node.isNumbered_iff.1 numbered index child atIndex
        have begins := inductionHypothesis child childMember childNumbered below
        rw [childPosition] at begins
        exact (List.prefix_append _ _).trans begins

/-- A numbered tree has distinct positions. -/
theorem Node.IsNumbered.hasDistinctPositions (numbered : node.IsNumbered) :
    node.HasDistinctPositions := by
  induction node using Node.childInduction with
  | step node inductionHypothesis =>
      have firstLevel := Node.isNumbered_iff.1 numbered
      rw [Node.HasDistinctPositions, Node.positions_eq, List.nodup_cons]
      constructor
      · intro member
        obtain ⟨child, childMember, below⟩ := mem_positionsAll.1 member
        obtain ⟨index, atIndex⟩ := List.mem_iff_getElem?.1 childMember
        obtain ⟨childPosition, childNumbered⟩ := firstLevel index child atIndex
        have shorter := (childNumbered.prefix_of_mem below).length_le
        rw [childPosition, List.length_append, List.length_singleton] at shorter
        omega
      · rw [positionsAll_eq_flatMap, List.nodup_flatMap]
        constructor
        · intro child member
          obtain ⟨index, atIndex⟩ := List.mem_iff_getElem?.1 member
          exact inductionHypothesis child member (firstLevel index child atIndex).2
        · rw [List.pairwise_iff_getElem]
          intro index index' bound bound' before position below below'
          -- Both positions of siblings begin the same position and have the same length.
          obtain ⟨childPosition, childNumbered⟩ :=
            firstLevel index _ (List.getElem?_eq_getElem bound)
          obtain ⟨otherPosition, otherNumbered⟩ :=
            firstLevel index' _ (List.getElem?_eq_getElem bound')
          have begins := childNumbered.prefix_of_mem below
          have otherBegins := otherNumbered.prefix_of_mem below'
          rw [childPosition] at begins
          rw [otherPosition] at otherBegins
          have same : node.position ++ [Int.ofNat index] = node.position ++ [Int.ofNat index'] :=
            (List.prefix_of_prefix_length_le begins otherBegins (by simp)).eq_of_length (by simp)
          rw [List.append_cancel_left_eq, List.cons.injEq] at same
          have sameIndex : index = index' := Int.ofNat.inj same.1
          omega

end Numbered

/-! ## Trees of elements -/

mutual

theorem nodeOf?_isNumbered : (item : Item) → ∀ {position : Position} {node : Node},
    nodeOf? position item = some node → node.position = position ∧ node.IsNumbered
  | .text _, _, _, built => by cases built
  | .aside _, _, _, built => by cases built
  | .element head items, position, node, built => by
      rw [nodeOf?, Option.some.injEq] at built
      subst built
      refine ⟨rfl, Node.isNumbered_iff.2 fun index child atIndex => ?_⟩
      have below : child.position = position ++ [Int.ofNat (0 + index)] ∧ child.IsNumbered :=
        nodesFrom_isNumbered items atIndex
      rwa [Nat.zero_add] at below

theorem nodesFrom_isNumbered : (items : List Item) →
    ∀ {position : Position} {start index : Nat} {child : Node},
      (nodesFrom position start items)[index]? = some child →
        child.position = position ++ [Int.ofNat (start + index)] ∧ child.IsNumbered
  | [], _, _, _, _, atIndex => by cases atIndex
  | item :: rest, position, start, index, child, atIndex => by
      rw [nodesFrom] at atIndex
      cases built : nodeOf? (position ++ [Int.ofNat start]) item with
      | none =>
          rw [built] at atIndex
          exact nodesFrom_isNumbered rest atIndex
      | some node =>
          rw [built] at atIndex
          cases index with
          | zero =>
              rw [List.getElem?_cons_zero, Option.some.injEq] at atIndex
              subst atIndex
              exact nodeOf?_isNumbered item built
          | succ index =>
              rw [List.getElem?_cons_succ] at atIndex
              have later := nodesFrom_isNumbered rest atIndex
              rwa [Nat.add_assoc, Nat.add_comm 1 index] at later

end

/-- The tree of an element is numbered from the position that it is built at. -/
theorem isNumbered_ofElement (element : Element) (position : Position) :
    (Node.ofElement element position).IsNumbered := by
  refine Node.isNumbered_iff.2 fun index child atIndex => ?_
  have below : child.position = position ++ [Int.ofNat (0 + index)] ∧ child.IsNumbered :=
    nodesFrom_isNumbered element.items atIndex
  rwa [Nat.zero_add] at below

end XmlCollation.Tree
