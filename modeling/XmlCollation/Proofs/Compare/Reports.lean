import XmlCollation.Proofs.Compare.Steps
import XmlCollation.Proofs.Tree.Ancestry

/-!
Contract: which nodes the differences of a tree are about.

Owns:
- reports, which are the differences of a tree together with the nodes that they are about;
- the nodes of which something is reported: those to which the walk gets and that are
  unvisited or have a difference on record.

Does not own: which nodes are visited.
-/

namespace XmlCollation.Compare

open XmlCollation.Tree

/-! ## Differences with their nodes -/

mutual

/-- The differences at and below a node, each with the node that it is about. -/
def Visits.reports (visits : Visits) (side : Side) (above : String) :
    Node → List (Node × Difference)
  | ⟨tag, attributes, children, text, position, line⟩ =>
      let node : Node := ⟨tag, attributes, children, text, position, line⟩
      let signature := above ++ visits.signature node
      match visits.markOf node with
      | .deep => []
      | .unvisited => [(node, presenceDifference side signature)]
      | .shallow =>
          match visits.differenceOf node with
          | some difference => [(node, difference)]
          | none => visits.reportsAll side signature children

/-- The same for several siblings, in order. -/
def Visits.reportsAll (visits : Visits) (side : Side) (above : String) :
    List Node → List (Node × Difference)
  | [] => []
  | node :: rest => visits.reports side above node ++ visits.reportsAll side above rest

end

/-- The reports of a view. -/
def View.reports (view : View) (side : Side) : List (Node × Difference) :=
  view.visits.reports side "" view.root

namespace Visits

theorem reportsAll_eq_flatMap (visits : Visits) (side : Side) (above : String)
    (nodes : List Node) :
    visits.reportsAll side above nodes = nodes.flatMap (visits.reports side above) := by
  induction nodes with
  | nil => rfl
  | cons node rest inductionHypothesis =>
      rw [reportsAll, inductionHypothesis, List.flatMap_cons]

theorem reports_eq (visits : Visits) (side : Side) (above : String) (node : Node) :
    visits.reports side above node =
      match visits.markOf node with
      | .deep => []
      | .unvisited => [(node, presenceDifference side (above ++ visits.signature node))]
      | .shallow =>
          ((visits.differenceOf node).map fun difference => [(node, difference)]).getD
            (visits.reportsAll side (above ++ visits.signature node) node.children) := by
  obtain ⟨tag, attributes, children, text, position, line⟩ := node
  rw [reports]
  cases visits.markOf ⟨tag, attributes, children, text, position, line⟩ with
  | unvisited => rfl
  | deep => rfl
  | shallow =>
      cases visits.differenceOf ⟨tag, attributes, children, text, position, line⟩ <;> rfl

/-- Without their nodes, reports are the differences that are collected. -/
theorem reports_map_snd (visits : Visits) (side : Side) (above : String) (node : Node) :
    (visits.reports side above node).map Prod.snd = visits.differences side above node := by
  induction node using Node.childInduction generalizing above with
  | step node inductionHypothesis =>
      rw [reports_eq, differences_eq]
      cases visits.markOf node with
      | unvisited => rfl
      | deep => rfl
      | shallow =>
          cases visits.differenceOf node with
          | some difference => rfl
          | none =>
              show (visits.reportsAll _ _ node.children).map _ =
                visits.differencesAll _ _ node.children
              rw [reportsAll_eq_flatMap, differencesAll_eq_flatMap, List.map_flatMap]
              exact List.flatMap_congr fun child member =>
                inductionHypothesis child member (above ++ visits.signature node)

/-! ## Reported nodes -/

/-- Something is to be said of the node itself: it is unvisited, or a difference is on
record. -/
def Speaks (visits : Visits) (node : Node) : Prop :=
  visits.markOf node = .unvisited ∨
    visits.markOf node = .shallow ∧ visits.differenceOf node ≠ none

/-- The walk goes on below the node: it is matched shallowly, without a difference on
record. -/
def IsPassed (visits : Visits) (node : Node) : Prop :=
  visits.markOf node = .shallow ∧ visits.differenceOf node = none

/-- The walk gets to the node: it goes on below whatever lies above. -/
def IsOpen (visits : Visits) (root node : Node) : Prop :=
  ∀ upper ∈ root.preorder, IsBelow upper node → visits.IsPassed upper

theorem Speaks.not_isPassed {visits : Visits} {node : Node} (speaks : visits.Speaks node) :
    ¬visits.IsPassed node := by
  rintro ⟨shallow, nothing⟩
  rcases speaks with unvisited | ⟨_, different⟩
  · rw [shallow] at unvisited
    cases unvisited
  · exact different nothing

theorem exists_reports_of_speaks {visits : Visits} {node : Node} (speaks : visits.Speaks node)
    (side : Side) (above : String) :
    ∃ difference, visits.reports side above node = [(node, difference)] := by
  rw [reports_eq]
  rcases speaks with unvisited | ⟨shallow, different⟩
  · rw [unvisited]
    exact ⟨_, rfl⟩
  · obtain ⟨difference, found⟩ := Option.ne_none_iff_exists'.1 different
    rw [shallow, found]
    exact ⟨difference, rfl⟩

theorem reports_of_isPassed {visits : Visits} {node : Node} (passed : visits.IsPassed node)
    (side : Side) (above : String) :
    visits.reports side above node =
      node.children.flatMap (visits.reports side (above ++ visits.signature node)) := by
  rw [reports_eq, passed.1, passed.2]
  exact reportsAll_eq_flatMap _ _ _ _

/-- Of a node that is neither passed nor spoken of, and below it, nothing is reported. -/
theorem reports_eq_nil {visits : Visits} {node : Node} (silent : ¬visits.Speaks node)
    (stops : ¬visits.IsPassed node) (side : Side) (above : String) :
    visits.reports side above node = [] := by
  rw [reports_eq]
  cases mark : visits.markOf node with
  | deep => rfl
  | unvisited => exact (silent (.inl mark)).elim
  | shallow =>
      by_cases nothing : visits.differenceOf node = none
      · exact (stops ⟨mark, nothing⟩).elim
      · exact (silent (.inr ⟨mark, nothing⟩)).elim

theorem isOpen_root (visits : Visits) {root : Node} (distinct : root.HasDistinctPositions) :
    visits.IsOpen root root := by
  intro upper upperIn below
  exact (not_isBelow_root distinct upperIn below).elim

/-- The walk gets to a node below a child if it passes the root and gets there from the
child. -/
theorem isOpen_child_iff {visits : Visits} {root child node : Node}
    (distinct : root.HasDistinctPositions) (member : child ∈ root.children)
    (inChild : node ∈ child.preorder) :
    visits.IsOpen root node ↔ visits.IsPassed root ∧ visits.IsOpen child node := by
  constructor
  · intro isOpen
    refine ⟨isOpen root root.mem_preorder_self ⟨child, member, inChild⟩, ?_⟩
    intro upper upperIn below
    exact isOpen upper (Node.mem_preorder_of_mem_children member upperIn) below
  · rintro ⟨atRoot, isOpen⟩ upper upperIn below
    rcases Node.mem_preorder_iff.1 upperIn with rfl | ⟨other, otherMember, inOther⟩
    · exact atRoot
    · obtain ⟨lower, lowerMember, inLower⟩ := below
      have nodeInOther : node ∈ other.preorder := Node.mem_preorder_trans inOther
        (Node.mem_preorder_of_mem_children lowerMember inLower)
      obtain rfl : other = child := sibling_unique distinct otherMember member
        (Node.position_mem_of_mem_preorder nodeInOther)
        (Node.position_mem_of_mem_preorder inChild)
      exact isOpen upper inOther ⟨lower, lowerMember, inLower⟩

/-- Where the walk stops, it gets to the root alone. -/
theorem eq_root_of_isOpen {visits : Visits} {root node : Node}
    (distinct : root.HasDistinctPositions) (stops : ¬visits.IsPassed root)
    (inTree : node ∈ root.preorder) (isOpen : visits.IsOpen root node) : node = root := by
  rcases Node.mem_preorder_iff.1 inTree with same | ⟨child, member, inChild⟩
  · exact same
  · exact (stops ((isOpen_child_iff distinct member inChild).1 isOpen).1).elim

/-- Reports are about the nodes to which the walk gets and of which something is to be
said. -/
theorem exists_mem_reports_iff (visits : Visits) (side : Side) {root : Node}
    (distinct : root.HasDistinctPositions) (above : String) (node : Node) :
    (∃ difference, (node, difference) ∈ visits.reports side above root) ↔
      node ∈ root.preorder ∧ visits.IsOpen root node ∧ visits.Speaks node := by
  induction root using Node.childInduction generalizing above with
  | step root inductionHypothesis =>
      have inChildren {child : Node} (member : child ∈ root.children) :=
        inductionHypothesis child member
          (hasDistinctPositions_of_mem (separate_children distinct) member)
          (above ++ visits.signature root)
      by_cases passed : visits.IsPassed root
      · rw [reports_of_isPassed passed]
        constructor
        · rintro ⟨difference, reported⟩
          obtain ⟨child, member, reportedBelow⟩ := List.mem_flatMap.1 reported
          obtain ⟨inChild, isOpen, speaks⟩ := (inChildren member).1 ⟨difference, reportedBelow⟩
          exact ⟨Node.mem_preorder_of_mem_children member inChild,
            (isOpen_child_iff distinct member inChild).2 ⟨passed, isOpen⟩, speaks⟩
        · rintro ⟨inTree, isOpen, speaks⟩
          rcases Node.mem_preorder_iff.1 inTree with rfl | ⟨child, member, inChild⟩
          · exact (speaks.not_isPassed passed).elim
          · have isOpenBelow := ((isOpen_child_iff distinct member inChild).1 isOpen).2
            obtain ⟨difference, reported⟩ := (inChildren member).2 ⟨inChild, isOpenBelow, speaks⟩
            exact ⟨difference, List.mem_flatMap.2 ⟨child, member, reported⟩⟩
      · by_cases speaks : visits.Speaks root
        · obtain ⟨difference, reports_eq⟩ := exists_reports_of_speaks speaks side above
          rw [reports_eq]
          constructor
          · rintro ⟨found, reported⟩
            obtain ⟨rfl, _⟩ := Prod.mk.inj (List.mem_singleton.1 reported)
            exact ⟨node.mem_preorder_self, visits.isOpen_root distinct, speaks⟩
          · rintro ⟨inTree, isOpen, _⟩
            rw [eq_root_of_isOpen distinct passed inTree isOpen]
            exact ⟨difference, List.mem_singleton_self _⟩
        · rw [reports_eq_nil speaks passed]
          constructor
          · rintro ⟨difference, reported⟩
            cases reported
          · rintro ⟨inTree, isOpen, nodeSpeaks⟩
            rw [eq_root_of_isOpen distinct passed inTree isOpen] at nodeSpeaks
            exact (speaks nodeSpeaks).elim

end Visits

end XmlCollation.Compare
