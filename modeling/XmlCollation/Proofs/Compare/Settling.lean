import XmlCollation.Proofs.Compare.Steps

/-!
Contract: what settling a pair does.

Owns:
- settled pairs and matched siblings: what was touched, and what is collected there;
- the records of a pair after each step of settling it, by equality of its contents;
- a pair is settled if the descent matches its children.

Does not own: in which order pairs are settled.
-/

namespace XmlCollation.Compare

open XmlCollation.Tree
open XmlCollation.Rules

/-! ## Settled pairs and matched siblings -/

/-- The differences collected at a node are those of the walk over it and its partner. -/
def Collected (start after : Comparison) (policy : Policy) (side : Side) (above : String)
    (node other : Node) : Prop :=
  (after.view side).visits.differences side above node =
    walk policy start.outlook side (sideReport start.config side) above node other

/-- A pair was settled.  The signature above it counts on the first side only, where
recorded differences contain it. -/
structure Settled (start before after : Comparison) (policy : Policy) (above : String)
    (nodes : Side → Node) : Prop where
  continues : start.Continues after
  untouched : ∀ side position, position ∉ (nodes side).positions →
    Untouched before after side position
  collected : ∀ side above', (side = .first → above' = above) →
    Collected start after policy side above' (nodes side) (nodes (otherSide side))

/-- Siblings were matched. -/
structure Matched (start before after : Comparison) (policy : Policy) (above : String)
    (nodes : Side → List Node) : Prop where
  continues : start.Continues after
  untouched : ∀ side position, position ∉ positionsAll (nodes side) →
    Untouched before after side position
  collected : ∀ side above', (side = .first → above' = above) →
    (after.view side).visits.differencesAll side above' (nodes side) =
      walkSiblings policy start.outlook side (sideReport start.config side) above' (nodes side)
        (nodes (otherSide side))

/-! ## One pair -/

theorem sideReport_pair (config : Config) (nodes : Side → Node) (side : Side)
    {signature signature' : String} (same : side = .first → signature' = signature) :
    (sideReport config side).pair signature' (nodes side) (nodes (otherSide side)) =
      (recordedDifference config signature (nodes .first) (nodes .second) side).map
        fun difference => [difference] := by
  cases side with
  | first =>
      rw [same rfl]
      change (if textKey config (nodes .first) = textKey config (nodes .second) then none
        else some [textDifference signature (nodes .first) (nodes .second)]) =
          (textDifference? config signature (nodes .first) (nodes .second)).map _
      unfold textDifference?
      split <;> rfl
  | second => rfl

/-- Two places of the trees that no rule took out. -/
structure IsPair (start : Comparison) (left right : Place) (nodes : Side → Node) : Prop where
  node_eq : ∀ side, bySide left.node right.node side = nodes side
  leftIn : start.first.root.at? left.address.reverse = some left.node
  rightIn : start.second.root.at? right.address.reverse = some right.node
  distinct : ∀ side, (nodes side).HasDistinctPositions
  kept : ∀ side, (start.view side).visits.isSkipped (nodes side) = false

section Pair

variable {start state : Comparison} {policy : Policy} {above : String} {left right : Place}
  {nodes : Side → Node}

theorem IsPair.left_eq (pair : IsPair start left right nodes) : left.node = nodes .first :=
  pair.node_eq .first

theorem IsPair.right_eq (pair : IsPair start left right nodes) : right.node = nodes .second :=
  pair.node_eq .second

theorem IsPair.untouched_markBoth (pair : IsPair start left right nodes) (mark : Mark)
    {side : Side} {position : Position} (elsewhere : (nodes side).position ≠ position) :
    Untouched state (state.markBoth mark left.node right.node) side position := by
  refine Compare.untouched_markBoth state mark ?_
  rw [pair.node_eq]
  exact elsewhere

theorem IsPair.recorded_markBoth (pair : IsPair start left right nodes)
    (prepared : ∀ side, (start.view side).visits.Prepared)
    (fresh : ∀ side, Fresh start state side (nodes side)) (side : Side) :
    ((state.markBoth .shallow left.node right.node).view side).visits.recorded
        (nodes side).position =
      { (start.view side).visits.recorded (nodes side).position with mark := .shallow } := by
  have unvisited : ((start.view side).visits.recorded (nodes side).position).mark =
      .unvisited := by
    have notSkipped := pair.kept side
    rw [Visits.isSkipped] at notSkipped
    rw [(prepared side).mark_eq, notSkipped]
    rfl
  rw [visits_markBoth, pair.node_eq, Visits.recorded_advance, (fresh side).at_node, unvisited]
  simp [Mark.rank]

theorem IsPair.sameContent_eq (pair : IsPair start left right nodes) (side : Side) :
    start.outlook.sameContent side (nodes side) (nodes (otherSide side)) =
      start.outlook.sameContent .first left.node right.node := by
  rw [pair.left_eq, pair.right_eq]
  exact sameContent_side start.outlook nodes side

/-- What the steps before the descent read: whether the contents are equal, through the
caches, which stay sound, and the signature of the place. -/
theorem IsPair.settle_eq (pair : IsPair start left right nodes) (continues : start.Continues state)
    (descend : List Place → List Place → String → Comparison → Comparison) (above : String) :
    ∃ read, start.Continues read ∧
      (∀ side, read.view side = (state.markBoth .shallow left.node right.node).view side) ∧
      state.settle descend above left right =
        if start.outlook.sameContent .first left.node right.node then
          read.markBoth .deep left.node right.node
        else
          descend left.children right.children
            (above ++ start.outlook.signature .first (nodes .first))
            (read.compareTexts (above ++ start.outlook.signature .first (nodes .first)) left.node
              right.node) := by
  have marked : start.Continues (state.markBoth .shallow left.node right.node) :=
    continues.markBoth .shallow left.node right.node
  obtain ⟨equal_eq, readContinues, view_eq⟩ := sameContent_spec marked pair.leftIn pair.rightIn
  have settle_eq : state.settle descend above left right =
      if ((state.markBoth .shallow left.node right.node).sameContent left right).1 then
        ((state.markBoth .shallow left.node right.node).sameContent left right).2.markBoth .deep
          left.node right.node
      else
        descend left.children right.children
          (above ++ ((state.markBoth .shallow left.node right.node).sameContent left
            right).2.first.visits.signature left.node)
          (((state.markBoth .shallow left.node right.node).sameContent left right).2.compareTexts
            (above ++ ((state.markBoth .shallow left.node right.node).sameContent left
              right).2.first.visits.signature left.node) left.node right.node) := rfl
  refine ⟨_, readContinues, view_eq, ?_⟩
  generalize ((state.markBoth .shallow left.node right.node).sameContent left right).2 = read at *
  have readSignature : read.first.visits.signature left.node =
      start.outlook.signature .first (nodes .first) := by
    rw [pair.left_eq]
    exact (readContinues.alike .first).signature_eq (nodes .first)
  rw [settle_eq, equal_eq, readSignature]

/-- A pair of equal content is marked deeply, and nothing else is touched. -/
theorem IsPair.settle_of_equal (pair : IsPair start left right nodes)
    (prepared : ∀ side, (start.view side).visits.Prepared)
    (continues : start.Continues state)
    (fresh : ∀ side, Fresh start state side (nodes side))
    (equal : start.outlook.sameContent .first left.node right.node = true)
    (descend : List Place → List Place → String → Comparison → Comparison) (above : String) :
    start.Continues (state.settle descend above left right) ∧
      (∀ side position, (nodes side).position ≠ position →
        Untouched state (state.settle descend above left right) side position) ∧
      ∀ side, ((state.settle descend above left right).view side).visits.recorded
          (nodes side).position =
        { (start.view side).visits.recorded (nodes side).position with mark := .deep } := by
  obtain ⟨read, readContinues, view_eq, settle_eq⟩ := pair.settle_eq continues descend above
  rw [settle_eq, equal, if_pos rfl]
  refine ⟨readContinues.markBoth .deep left.node right.node, ?_, ?_⟩
  · intro side position elsewhere
    refine Untouched.trans ?_ (pair.untouched_markBoth .deep elsewhere)
    rw [Untouched, view_eq]
    exact pair.untouched_markBoth .shallow elsewhere
  · intro side
    rw [visits_markBoth, pair.node_eq, Visits.recorded_advance, view_eq,
      pair.recorded_markBoth prepared fresh]
    simp [Mark.rank]

theorem IsPair.recorded_compareTexts (pair : IsPair start left right nodes)
    (prepared : ∀ side, (start.view side).visits.Prepared)
    (fresh : ∀ side, Fresh start state side (nodes side))
    {read : Comparison} (continues : start.Continues read)
    (view_eq : ∀ side,
      read.view side = (state.markBoth .shallow left.node right.node).view side)
    (signature : String) (side : Side) :
    ((read.compareTexts signature left.node right.node).view side).visits.recorded
        (nodes side).position =
      { (start.view side).visits.recorded (nodes side).position with
        mark := .shallow
        difference := recordedDifference start.config signature (nodes .first) (nodes .second)
          side } := by
  have marked := pair.recorded_markBoth prepared fresh side
  have nothingYet : ((read.view side).visits.recorded
      (bySide left.node right.node side).position).difference = none := by
    rw [pair.node_eq, view_eq, marked]
    exact (prepared side).difference_eq _
  have recorded := Compare.recorded_compareTexts read signature side nothingYet
  rw [pair.node_eq, view_eq, marked, continues.config] at recorded
  rw [recorded, pair.left_eq, pair.right_eq]

/-- A pair of unequal content is marked, a difference between its texts is recorded, and
the descent goes on with the children. -/
theorem IsPair.settle_of_unequal (pair : IsPair start left right nodes)
    (prepared : ∀ side, (start.view side).visits.Prepared)
    (continues : start.Continues state)
    (fresh : ∀ side, Fresh start state side (nodes side))
    (unequal : start.outlook.sameContent .first left.node right.node = false)
    (descend : List Place → List Place → String → Comparison → Comparison)
    {signature : String}
    (signature_eq : above ++ start.outlook.signature .first (nodes .first) = signature) :
    ∃ compared, start.Continues compared ∧
      (∀ side position, (nodes side).position ≠ position →
        Untouched state compared side position) ∧
      (∀ side, (compared.view side).visits.recorded (nodes side).position =
        { (start.view side).visits.recorded (nodes side).position with
          mark := .shallow
          difference := recordedDifference start.config signature (nodes .first) (nodes .second)
            side }) ∧
      state.settle descend above left right =
        descend left.children right.children signature compared := by
  obtain ⟨read, readContinues, view_eq, settle_eq⟩ := pair.settle_eq continues descend above
  rw [unequal, if_neg Bool.false_ne_true, signature_eq] at settle_eq
  refine ⟨_, readContinues.compareTexts signature left.node right.node, ?_,
    pair.recorded_compareTexts prepared fresh readContinues view_eq signature, settle_eq⟩
  intro side position elsewhere
  refine (show Untouched state read side position from ?_).trans
    (untouched_compareTexts read signature ?_)
  · rw [Untouched, view_eq]
    exact pair.untouched_markBoth .shallow elsewhere
  · rw [pair.node_eq]
    exact elsewhere

/-- What was fresh at a pair is fresh at its children as long as only the pair is touched. -/
theorem IsPair.fresh_children (pair : IsPair start left right nodes) {after : Comparison}
    (fresh : ∀ side, Fresh start state side (nodes side))
    (untouched : ∀ side position, (nodes side).position ≠ position →
      Untouched state after side position)
    (side : Side) {child : Node} (member : child ∈ (nodes side).children) :
    Fresh start after side child := by
  intro position inChild
  have elsewhere : (nodes side).position ≠ position := by
    rintro rfl
    exact position_notMem_children (pair.distinct side)
      (mem_positionsAll.2 ⟨child, member, inChild⟩)
  exact (fresh side position (Node.mem_positions_of_mem_children member inChild)).trans
    (untouched side position elsewhere)

/-- A pair whose texts were compared and whose children are matched is settled. -/
theorem IsPair.settled_matched (pair : IsPair start left right nodes)
    {compared after : Comparison} {signature : String}
    (signature_eq : above ++ start.outlook.signature .first (nodes .first) = signature)
    (untouched : ∀ side position, (nodes side).position ≠ position →
      Untouched state compared side position)
    (recorded : ∀ side, (compared.view side).visits.recorded (nodes side).position =
      { (start.view side).visits.recorded (nodes side).position with
        mark := .shallow
        difference := recordedDifference start.config signature (nodes .first) (nodes .second)
          side })
    (unequal : start.outlook.sameContent .first left.node right.node = false)
    (matched : Matched start compared after policy signature fun side => (nodes side).children) :
    Settled start state after policy above nodes := by
  refine ⟨matched.continues, ?_, ?_⟩
  · intro side position elsewhere
    rw [Node.positions_eq, List.mem_cons, not_or] at elsewhere
    have notHere : (nodes side).position ≠ position := fun same => elsewhere.1 same.symm
    exact (untouched side position notHere).trans (matched.untouched side position elsewhere.2)
  · intro side above' sameAbove
    have record := Eq.trans (matched.untouched side (nodes side).position
      (position_notMem_children (pair.distinct side))) (recorded side)
    have signatures : side = .first →
        above' ++ start.outlook.signature side (nodes side) = signature := by
      rintro rfl
      rw [sameAbove rfl, signature_eq]
    have sameSignature := (matched.continues.alike side).signature_eq (nodes side)
    rw [← visits_outlook start] at sameSignature
    rw [Collected, Visits.differences_eq, Visits.markOf, Visits.differenceOf, record,
      sameSignature, walk_eq, pair.sameContent_eq, unequal, if_neg (by simp),
      sideReport_pair start.config nodes side signatures]
    exact congrArg
      (fun below => ((recordedDifference start.config signature (nodes .first) (nodes .second)
        side).map fun difference => [difference]).getD below)
      (matched.collected side _ signatures)

/-- A pair is settled if the descent matches its children. -/
theorem IsPair.settled (pair : IsPair start left right nodes)
    (prepared : ∀ side, (start.view side).visits.Prepared)
    (continues : start.Continues state)
    (fresh : ∀ side, Fresh start state side (nodes side))
    {descend : List Place → List Place → String → Comparison → Comparison}
    (descends : ∀ before signature, start.Continues before →
      (∀ side, ∀ child ∈ (nodes side).children, Fresh start before side child) →
        Matched start before (descend left.children right.children signature before) policy
          signature fun side => (nodes side).children) :
    Settled start state (state.settle descend above left right) policy above nodes := by
  cases equal : start.outlook.sameContent .first left.node right.node with
  | true =>
      obtain ⟨settled, untouched, recorded⟩ :=
        pair.settle_of_equal prepared continues fresh equal descend above
      refine ⟨settled, ?_, ?_⟩
      · intro side position elsewhere
        apply untouched side position
        rintro rfl
        exact elsewhere (nodes side).position_mem_positions
      · intro side above' _
        have deep : ((state.settle descend above left right).view side).visits.markOf
            (nodes side) = .deep := congrArg Visit.mark (recorded side)
        rw [Collected, Visits.differences_eq, deep, walk_eq, pair.sameContent_eq, equal,
          if_pos rfl]
  | false =>
      obtain ⟨compared, comparedContinues, untouched, recorded, settle_eq⟩ :=
        pair.settle_of_unequal prepared continues fresh equal descend rfl
      rw [settle_eq]
      exact pair.settled_matched rfl untouched recorded equal
        (descends compared _ comparedContinues fun side _ member =>
          pair.fresh_children fresh untouched side member)

end Pair

end XmlCollation.Compare
