import XmlCollation.Proofs.Tree.Ancestry

/-!
Contract: the ways that lead from a node down to the nodes below it.

Owns:
- trails, the nodes on the way from a node to one at or below it, which a child of the last
  one prolongs;
- every node of a tree is at the end of a trail, and in a tree with distinct
  positions of one trail only.

Does not own: what is made of a trail.
-/

namespace XmlCollation.Tree

/-- The nodes on the way from a node to one at or below it, both included. -/
inductive Node.LeadsTo : Node → List Node → Node → Prop where
  | here (node : Node) : LeadsTo node [node] node
  | through {node child last : Node} {trail : List Node} (member : child ∈ node.children)
      (rest : LeadsTo child trail last) : LeadsTo node (node :: trail) last

variable {node last : Node} {trail : List Node}

theorem Node.LeadsTo.mem_preorder (leads : node.LeadsTo trail last) : last ∈ node.preorder := by
  induction leads with
  | here node => exact node.mem_preorder_self
  | through member _ inductionHypothesis =>
      exact Node.mem_preorder_of_mem_children member inductionHypothesis

/-- Every node on a trail is in the tree. -/
theorem Node.LeadsTo.mem_preorder_of_mem (leads : node.LeadsTo trail last) {step : Node}
    (member : step ∈ trail) : step ∈ node.preorder := by
  induction leads with
  | here node =>
      rw [List.mem_singleton] at member
      rw [member]
      exact node.mem_preorder_self
  | @through node child _ _ childIn _ inductionHypothesis =>
      rcases List.mem_cons.1 member with rfl | later
      · exact step.mem_preorder_self
      · exact Node.mem_preorder_of_mem_children childIn (inductionHypothesis later)

theorem Node.LeadsTo.last_mem (leads : node.LeadsTo trail last) : last ∈ trail := by
  induction leads with
  | here node => exact List.mem_singleton_self node
  | through _ _ inductionHypothesis => exact List.mem_cons_of_mem _ inductionHypothesis

theorem Node.exists_leadsTo (inTree : last ∈ node.preorder) :
    ∃ trail, node.LeadsTo trail last := by
  induction node using Node.childInduction with
  | step node inductionHypothesis =>
      rcases Node.mem_preorder_iff.1 inTree with rfl | ⟨child, member, below⟩
      · exact ⟨[last], .here last⟩
      · obtain ⟨trail, leads⟩ := inductionHypothesis child member below
        exact ⟨node :: trail, .through member leads⟩

/-- A trail goes on to each child of the node at its end. -/
theorem Node.LeadsTo.append_child (leads : node.LeadsTo trail last) {child : Node}
    (member : child ∈ last.children) : node.LeadsTo (trail ++ [child]) child := by
  induction leads with
  | here node => exact .through member (.here child)
  | through memberAbove _ inductionHypothesis =>
      exact .through memberAbove (inductionHypothesis member)

/-- Nothing below a node leads back to its position. -/
theorem Node.LeadsTo.position_ne (distinct : node.HasDistinctPositions) {child : Node}
    (member : child ∈ node.children) (leads : child.LeadsTo trail last) :
    last.position ≠ node.position := by
  intro same
  apply position_notMem_children distinct
  refine mem_positionsAll.2 ⟨child, member, ?_⟩
  rw [← same]
  exact Node.position_mem_of_mem_preorder leads.mem_preorder

/-- One trail leads to the node at a position. -/
theorem Node.LeadsTo.unique (distinct : node.HasDistinctPositions) {trail' : List Node}
    {last' : Node} (leads : node.LeadsTo trail last) (leads' : node.LeadsTo trail' last')
    (same : last.position = last'.position) : trail = trail' ∧ last = last' := by
  induction leads generalizing trail' with
  | here node =>
      cases leads' with
      | here => exact ⟨rfl, rfl⟩
      | through member rest => exact (rest.position_ne distinct member same.symm).elim
  | @through node child last trail member rest inductionHypothesis =>
      cases leads' with
      | here => exact (rest.position_ne distinct member same).elim
      | @through _ child' _ trail' member' rest' =>
          have sibling : child = child' := by
            refine sibling_unique distinct member member'
              (Node.position_mem_of_mem_preorder rest.mem_preorder) ?_
            rw [same]
            exact Node.position_mem_of_mem_preorder rest'.mem_preorder
          subst sibling
          obtain ⟨sameTrail, sameLast⟩ := inductionHypothesis
            (hasDistinctPositions_of_mem (separate_children distinct) member) rest' same
          exact ⟨congrArg (node :: ·) sameTrail, sameLast⟩

end XmlCollation.Tree
