import Mathlib.Data.List.Nodup
import XmlCollation.Proofs.Tree.Structure

/-!
Contract: which node lies below which.

Owns:
- the nodes at and below a node, and those strictly below it;
- trees with distinct positions, in which a position belongs to one node, a node has
  one parent, and the root has none.

Does not own: the order of nodes in a document.
-/

namespace XmlCollation.Tree

/-! ## At and below a node -/

theorem Node.mem_preorder_iff {node lower : Node} :
    lower ∈ node.preorder ↔ lower = node ∨ ∃ child ∈ node.children, lower ∈ child.preorder := by
  rw [Node.preorder_eq, preorderAll_eq_flatMap, List.mem_cons, List.mem_flatMap]

theorem Node.mem_preorder_self (node : Node) : node ∈ node.preorder :=
  Node.mem_preorder_iff.2 (.inl rfl)

theorem Node.mem_preorder_of_mem_children {node child lower : Node}
    (member : child ∈ node.children) (below : lower ∈ child.preorder) :
    lower ∈ node.preorder :=
  Node.mem_preorder_iff.2 (.inr ⟨child, member, below⟩)

theorem Node.child_mem_preorder {node child : Node} (member : child ∈ node.children) :
    child ∈ node.preorder :=
  Node.mem_preorder_of_mem_children member child.mem_preorder_self

theorem Node.mem_preorder_trans {upper node lower : Node} (upperHalf : node ∈ upper.preorder)
    (lowerHalf : lower ∈ node.preorder) : lower ∈ upper.preorder := by
  induction upper using Node.childInduction with
  | step upper inductionHypothesis =>
      rcases Node.mem_preorder_iff.1 upperHalf with rfl | ⟨child, member, below⟩
      · exact lowerHalf
      · exact Node.mem_preorder_of_mem_children member (inductionHypothesis child member below)

theorem Node.mem_positions_of_mem_preorder {upper node : Node} (below : node ∈ upper.preorder)
    {position : Position} (inNode : position ∈ node.positions) :
    position ∈ upper.positions := by
  obtain ⟨lower, inTree, rfl⟩ := List.mem_map.1 inNode
  exact List.mem_map_of_mem (Node.mem_preorder_trans below inTree)

theorem Node.position_mem_of_mem_preorder {upper node : Node} (below : node ∈ upper.preorder) :
    node.position ∈ upper.positions :=
  List.mem_map_of_mem below

/-- A node lies strictly below another one. -/
def IsBelow (upper lower : Node) : Prop :=
  ∃ child ∈ upper.children, lower ∈ child.preorder

theorem mem_preorder_iff_isBelow {upper lower : Node} :
    lower ∈ upper.preorder ↔ lower = upper ∨ IsBelow upper lower :=
  Node.mem_preorder_iff

theorem isBelow_of_mem_children {upper child : Node} (member : child ∈ upper.children) :
    IsBelow upper child :=
  ⟨child, member, child.mem_preorder_self⟩

/-- What lies strictly below a node is a child of something at or below it. -/
theorem exists_parent_of_isBelow {upper lower : Node} (below : IsBelow upper lower) :
    ∃ parent ∈ upper.preorder, lower ∈ parent.children := by
  induction upper using Node.childInduction with
  | step upper inductionHypothesis =>
      obtain ⟨child, member, inChild⟩ := below
      rcases mem_preorder_iff_isBelow.1 inChild with rfl | belowChild
      · exact ⟨upper, upper.mem_preorder_self, member⟩
      · obtain ⟨parent, parentIn, isChild⟩ := inductionHypothesis child member belowChild
        exact ⟨parent, Node.mem_preorder_of_mem_children member parentIn, isChild⟩

/-! ## Distinct positions -/

section Distinct

variable {root : Node}

/-- A position belongs to one node of the tree. -/
theorem eq_of_position_eq (distinct : root.HasDistinctPositions) {node other : Node}
    (inTree : node ∈ root.preorder) (otherInTree : other ∈ root.preorder)
    (same : node.position = other.position) : node = other :=
  List.inj_on_of_nodup_map distinct inTree otherInTree same

theorem hasDistinctPositions_of_mem_preorder (distinct : root.HasDistinctPositions) {node : Node}
    (inTree : node ∈ root.preorder) : node.HasDistinctPositions := by
  induction root using Node.childInduction with
  | step root inductionHypothesis =>
      rcases Node.mem_preorder_iff.1 inTree with rfl | ⟨child, member, below⟩
      · exact distinct
      · apply inductionHypothesis child member _ below
        exact hasDistinctPositions_of_mem (separate_children distinct) member

/-- Nothing below a node of the tree has the position of the root. -/
theorem root_position_notMem (distinct : root.HasDistinctPositions) {node : Node}
    (inTree : node ∈ root.preorder) : root.position ∉ positionsAll node.children := by
  intro below
  obtain ⟨child, member, inChild⟩ := mem_positionsAll.1 below
  apply position_notMem_children distinct
  rcases Node.mem_preorder_iff.1 inTree with rfl | ⟨top, topMember, inTop⟩
  · exact below
  · refine mem_positionsAll.2 ⟨top, topMember, ?_⟩
    exact Node.mem_positions_of_mem_preorder
      (Node.mem_preorder_trans inTop (Node.child_mem_preorder member)) inChild

theorem root_notMem_children (distinct : root.HasDistinctPositions) {node : Node}
    (inTree : node ∈ root.preorder) : root ∉ node.children := by
  intro member
  exact root_position_notMem distinct inTree
    (mem_positionsAll.2 ⟨root, member, root.position_mem_positions⟩)

/-- The root lies below nothing in its tree. -/
theorem not_isBelow_root (distinct : root.HasDistinctPositions) {upper : Node}
    (inTree : upper ∈ root.preorder) : ¬IsBelow upper root := by
  intro below
  obtain ⟨parent, parentIn, member⟩ := exists_parent_of_isBelow below
  exact root_notMem_children distinct (Node.mem_preorder_trans inTree parentIn) member

/-- Siblings of which some position lies at or below both are one. -/
theorem sibling_unique (distinct : root.HasDistinctPositions) {child other : Node}
    (member : child ∈ root.children) (otherMember : other ∈ root.children) {position : Position}
    (inChild : position ∈ child.positions) (inOther : position ∈ other.positions) :
    child = other := by
  by_contra different
  exact apart_of_mem_ne (separate_children distinct) member otherMember different position inChild
    inOther

/-- No node of the tree is a child of two. -/
theorem parent_unique (distinct : root.HasDistinctPositions) {parent other child : Node}
    (inTree : parent ∈ root.preorder) (otherInTree : other ∈ root.preorder)
    (member : child ∈ parent.children) (otherMember : child ∈ other.children) :
    parent = other := by
  induction root using Node.childInduction with
  | step root inductionHypothesis =>
      have below {upper top : Node} (inTop : upper ∈ top.preorder)
          (childMember : child ∈ upper.children) : child.position ∈ top.positions :=
        Node.position_mem_of_mem_preorder
          (Node.mem_preorder_trans inTop (Node.child_mem_preorder childMember))
      -- A child of the root is not a child of anything below the root.
      have notBelow {top upper : Node} (topMember : top ∈ root.children)
          (inTop : upper ∈ top.preorder) (childMember : child ∈ upper.children)
          (childOfRoot : child ∈ root.children) : False := by
        have same : top = child := sibling_unique distinct topMember childOfRoot
          (below inTop childMember) child.position_mem_positions
        subst same
        exact root_notMem_children (hasDistinctPositions_of_mem (separate_children distinct)
          topMember) inTop childMember
      rcases Node.mem_preorder_iff.1 inTree with rfl | ⟨top, topMember, inTop⟩
      · rcases Node.mem_preorder_iff.1 otherInTree with rfl | ⟨top, topMember, inTop⟩
        · rfl
        · exact (notBelow topMember inTop otherMember member).elim
      · rcases Node.mem_preorder_iff.1 otherInTree with rfl | ⟨otherTop, otherTopMember, inOtherTop⟩
        · exact (notBelow topMember inTop member otherMember).elim
        · have same : top = otherTop := sibling_unique distinct topMember otherTopMember
            (below inTop member) (below inOtherTop otherMember)
          subst same
          exact inductionHypothesis top topMember
            (hasDistinctPositions_of_mem (separate_children distinct) topMember) inTop inOtherTop

/-- What lies strictly above a child lies at or above its parent. -/
theorem parent_mem_preorder (distinct : root.HasDistinctPositions) {upper parent child : Node}
    (upperIn : upper ∈ root.preorder) (parentIn : parent ∈ root.preorder)
    (member : child ∈ parent.children) (below : IsBelow upper child) :
    parent ∈ upper.preorder := by
  obtain ⟨found, foundIn, isChild⟩ := exists_parent_of_isBelow below
  obtain rfl : found = parent :=
    parent_unique distinct (Node.mem_preorder_trans upperIn foundIn) parentIn isChild member
  exact foundIn

end Distinct

end XmlCollation.Tree
