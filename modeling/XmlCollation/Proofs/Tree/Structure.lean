import Mathlib.Data.List.Flatten
import XmlCollation.Tree.Node

/-!
Contract: the shape of trees.

Owns:
- induction over the children of a node;
- the positions of a tree, and trees whose positions are pairwise distinct;
- siblings whose subtrees share no position;
- the node that a path leads to, step by step, and the height above a child.

Does not own: what is recorded under positions.
-/

namespace XmlCollation.Tree

/-! ## Induction -/

/-- What holds of a node whenever it holds of all its children holds of every node. -/
@[elab_as_elim]
theorem Node.childInduction {motive : Node → Prop}
    (step : ∀ node, (∀ child ∈ node.children, motive child) → motive node) :
    ∀ node, motive node
  | ⟨tag, attributes, children, text, position, line⟩ =>
      step _ fun child _member => Node.childInduction step child
termination_by node => sizeOf node
decreasing_by
  have smaller := List.sizeOf_lt_of_mem _member
  simp only [Node.mk.sizeOf_spec]
  simp only at smaller
  omega

/-! ## Traversal -/

theorem Node.preorder_eq (node : Node) :
    node.preorder = node :: preorderAll node.children := by
  cases node
  rw [Node.preorder]

theorem preorderAll_eq_flatMap (nodes : List Node) :
    preorderAll nodes = nodes.flatMap Node.preorder := by
  induction nodes with
  | nil => rfl
  | cons node rest inductionHypothesis =>
      rw [preorderAll, inductionHypothesis, List.flatMap_cons]

theorem Node.height_eq (node : Node) :
    node.height = heightAll node.children := by
  cases node
  rw [Node.height]

theorem height_lt_of_mem {nodes : List Node} {node : Node} (member : node ∈ nodes) :
    node.height < heightAll nodes := by
  induction nodes with
  | nil => simp at member
  | cons head rest inductionHypothesis =>
      rw [heightAll]
      rcases List.mem_cons.1 member with rfl | inRest
      · omega
      · have below := inductionHypothesis inRest
        omega

theorem eq_nil_of_heightAll_eq_zero {nodes : List Node} (flat : heightAll nodes = 0) :
    nodes = [] := by
  cases nodes with
  | nil => rfl
  | cons node rest =>
      have below := height_lt_of_mem (List.mem_cons_self (a := node) (l := rest))
      omega

/-! ## Paths -/

theorem Node.at?_append_singleton (root : Node) (path : List Nat) (index : Nat) :
    root.at? (path ++ [index]) = (root.at? path).bind fun node => node.children[index]? := by
  induction path generalizing root with
  | nil =>
      simp only [List.nil_append, Node.at?, Option.bind_some]
      cases root.children[index]? <;> rfl
  | cons step rest inductionHypothesis =>
      simp only [List.cons_append, Node.at?]
      cases root.children[step]? with
      | none => rfl
      | some child => exact inductionHypothesis child

/-! ## Positions -/

/-- The positions of a node and of everything below it. -/
def Node.positions (node : Node) : List Position :=
  node.preorder.map Node.position

/-- The positions of several trees. -/
def positionsAll (nodes : List Node) : List Position :=
  (preorderAll nodes).map Node.position

/-- No two nodes of the tree have the same position. -/
def Node.HasDistinctPositions (node : Node) : Prop :=
  node.positions.Nodup

instance (node : Node) : Decidable node.HasDistinctPositions := by
  unfold Node.HasDistinctPositions
  infer_instance

theorem Node.positions_eq (node : Node) :
    node.positions = node.position :: positionsAll node.children := by
  rw [Node.positions, Node.preorder_eq, List.map_cons, positionsAll]

theorem positionsAll_eq_flatMap (nodes : List Node) :
    positionsAll nodes = nodes.flatMap Node.positions := by
  rw [positionsAll, preorderAll_eq_flatMap, List.map_flatMap]
  rfl

theorem positionsAll_cons (node : Node) (rest : List Node) :
    positionsAll (node :: rest) = node.positions ++ positionsAll rest := by
  rw [positionsAll_eq_flatMap, positionsAll_eq_flatMap, List.flatMap_cons]

theorem Node.position_mem_positions (node : Node) : node.position ∈ node.positions := by
  rw [Node.positions_eq]
  exact List.mem_cons_self

theorem mem_positionsAll {nodes : List Node} {position : Position} :
    position ∈ positionsAll nodes ↔ ∃ node ∈ nodes, position ∈ node.positions := by
  rw [positionsAll_eq_flatMap, List.mem_flatMap]

theorem Node.mem_positions_of_mem_children {node child : Node}
    (member : child ∈ node.children) {position : Position}
    (below : position ∈ child.positions) :
    position ∈ node.positions := by
  rw [Node.positions_eq]
  exact List.mem_cons_of_mem _ (mem_positionsAll.2 ⟨child, member, below⟩)

/-! ## Siblings -/

/-- Two trees that share no position. -/
def Apart (first second : Node) : Prop :=
  ∀ position ∈ first.positions, position ∉ second.positions

theorem Apart.symm {first second : Node} (apart : Apart first second) : Apart second first :=
  fun position inSecond inFirst => apart position inFirst inSecond

/-- Siblings whose subtrees have pairwise distinct positions altogether. -/
def AreSeparate (nodes : List Node) : Prop :=
  (positionsAll nodes).Nodup

theorem separate_children {node : Node} (distinct : node.HasDistinctPositions) :
    AreSeparate node.children := by
  rw [Node.HasDistinctPositions, Node.positions_eq, List.nodup_cons] at distinct
  exact distinct.2

/-- A node shares its position with nothing below it. -/
theorem position_notMem_children {node : Node} (distinct : node.HasDistinctPositions) :
    node.position ∉ positionsAll node.children := by
  rw [Node.HasDistinctPositions, Node.positions_eq, List.nodup_cons] at distinct
  exact distinct.1

theorem separate_singleton {node : Node} (distinct : node.HasDistinctPositions) :
    AreSeparate [node] := by
  rw [AreSeparate, positionsAll_cons, positionsAll, preorderAll, List.map_nil, List.append_nil]
  exact distinct

theorem separate_cons {node : Node} {rest : List Node} :
    AreSeparate (node :: rest) ↔
      node.HasDistinctPositions ∧ AreSeparate rest ∧ ∀ other ∈ rest, Apart node other := by
  rw [AreSeparate, positionsAll_cons, List.nodup_append, Node.HasDistinctPositions,
    ← AreSeparate]
  refine and_congr_right fun _ => and_congr_right fun _ => ?_
  constructor
  · intro disjoint other member position inNode inOther
    exact disjoint position inNode position (mem_positionsAll.2 ⟨other, member, inOther⟩) rfl
  · rintro apart position inNode other inRest rfl
    obtain ⟨sibling, member, below⟩ := mem_positionsAll.1 inRest
    exact apart sibling member position inNode below

theorem hasDistinctPositions_of_mem {nodes : List Node} (separate : AreSeparate nodes)
    {node : Node} (member : node ∈ nodes) :
    node.HasDistinctPositions := by
  induction nodes with
  | nil => simp at member
  | cons head rest inductionHypothesis =>
      obtain ⟨headDistinct, restSeparate, _⟩ := separate_cons.1 separate
      rcases List.mem_cons.1 member with rfl | inRest
      · exact headDistinct
      · exact inductionHypothesis restSeparate inRest

theorem apart_of_ne {nodes : List Node} (separate : AreSeparate nodes)
    {i j : Nat} {first second : Node}
    (atFirst : nodes[i]? = some first)
    (atSecond : nodes[j]? = some second)
    (different : i ≠ j) :
    Apart first second := by
  have pairwise : nodes.Pairwise Apart := by
    clear atFirst atSecond
    induction nodes with
    | nil => exact .nil
    | cons head rest inductionHypothesis =>
        obtain ⟨_, restSeparate, apart⟩ := separate_cons.1 separate
        exact .cons apart (inductionHypothesis restSeparate)
  obtain ⟨firstBound, firstEq⟩ := List.getElem?_eq_some_iff.1 atFirst
  obtain ⟨secondBound, secondEq⟩ := List.getElem?_eq_some_iff.1 atSecond
  rw [List.pairwise_iff_getElem] at pairwise
  rcases Nat.lt_or_gt_of_ne different with before | after
  · rw [← firstEq, ← secondEq]
    exact pairwise i j firstBound secondBound before
  · rw [← firstEq, ← secondEq]
    exact (pairwise j i secondBound firstBound after).symm

theorem apart_of_mem_ne {nodes : List Node} (separate : AreSeparate nodes)
    {first second : Node} (firstMember : first ∈ nodes) (secondMember : second ∈ nodes)
    (different : first ≠ second) :
    Apart first second := by
  obtain ⟨i, atFirst⟩ := List.mem_iff_getElem?.1 firstMember
  obtain ⟨j, atSecond⟩ := List.mem_iff_getElem?.1 secondMember
  refine apart_of_ne separate atFirst atSecond ?_
  rintro rfl
  rw [atFirst] at atSecond
  exact different (Option.some.inj atSecond)

theorem AreSeparate.sublist {some all : List Node} (sublist : some.Sublist all)
    (separate : AreSeparate all) :
    AreSeparate some := by
  rw [AreSeparate, positionsAll_eq_flatMap] at *
  exact (sublist.flatMap Node.positions).nodup separate

end XmlCollation.Tree
