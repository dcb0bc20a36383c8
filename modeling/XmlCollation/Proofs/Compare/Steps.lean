import XmlCollation.Proofs.Compare.Stateless
import XmlCollation.Proofs.Rules.Records

/-!
Contract: the steps of matching and collecting, one by one.

Owns:
- states that continue another one: only marks, recorded differences, caches and
  messages have changed, and the caches are sound;
- positions that a step leaves untouched;
- the effect of marking, of reading contents and of comparing texts;
- the differences collected at a node, by its mark, and their dependence on the
  records of its tree alone.

Does not own: how the steps follow each other.
-/

namespace XmlCollation.Compare

open XmlCollation.Tree
open XmlCollation.Rules (otherSide)

/-! ## Sides -/

theorem visits_outlook (state : Comparison) (side : Side) :
    state.outlook.visits side = (state.view side).visits := by
  cases side <;> rfl

/-! ## States that continue a state -/

/-- Nothing is changed but marks, recorded differences, caches and messages, and
the caches are sound. -/
structure Comparison.Continues (start state : Comparison) : Prop where
  config : state.config = start.config
  root : ∀ side, (state.view side).root = (start.view side).root
  trace : state.trace = start.trace
  alike : ∀ side, (state.view side).visits.Alike (start.view side).visits
  caches : state.caches.Sound start.outlook start.first.root start.second.root

/-- The record of a position is the same in both states. -/
def Untouched (before after : Comparison) (side : Side) (position : Position) : Prop :=
  (after.view side).visits.recorded position = (before.view side).visits.recorded position

theorem Untouched.trans {first second third : Comparison} {side : Side} {position : Position}
    (left : Untouched first second side position)
    (right : Untouched second third side position) :
    Untouched first third side position :=
  Eq.trans right left

/-- No record of the tree of a node was touched. -/
def Fresh (before after : Comparison) (side : Side) (node : Node) : Prop :=
  ∀ position ∈ node.positions, Untouched before after side position

theorem Fresh.at_node {before after : Comparison} {side : Side} {node : Node}
    (fresh : Fresh before after side node) : Untouched before after side node.position :=
  fresh _ node.position_mem_positions

/-! ## Records -/

namespace Visits

theorem alike_advance (visits : Visits) (node : Node) (mark : Mark) :
    (visits.advance node mark).Alike visits := by
  constructor
  · intro position
    rw [recorded_advance]
    split <;> rfl
  · intro position name
    rw [recorded_advance]
    split <;> rfl

theorem alike_record (visits : Visits) (node : Node) (difference : Difference) :
    (visits.record node difference).Alike visits := by
  constructor
  · intro position
    rw [record, recorded_alter]
    split <;> rfl
  · intro position name
    rw [record, recorded_alter]
    split <;> rfl

theorem Alike.keys_eq {outlook other : Outlook} {side : Side}
    (sameConfig : outlook.config = other.config)
    (alike : (outlook.visits side).Alike (other.visits side)) (node : Node) :
    outlook.keys side node = other.keys side node := by
  rw [Outlook.keys, Outlook.keys, signatureKey, signatureKey, sameConfig, alike.signature_eq,
    alike.plainContent_eq]

end Visits

/-! ## Marking -/

theorem visits_markBoth (state : Comparison) (mark : Mark) (first second : Node) (side : Side) :
    ((state.markBoth mark first second).view side).visits =
      (state.view side).visits.advance (bySide first second side) mark := by
  cases side <;> rfl

namespace Comparison.Continues

variable {start state : Comparison}

theorem markBoth (continues : start.Continues state) (mark : Mark) (first second : Node) :
    start.Continues (state.markBoth mark first second) := by
  refine ⟨continues.config, ?_, continues.trace, ?_, continues.caches⟩
  · intro side
    rw [← continues.root]
    cases side <;> rfl
  · intro side
    rw [visits_markBoth]
    exact (Visits.alike_advance _ _ mark).trans (continues.alike side)

/-- Marks and recorded differences have no part in keys. -/
theorem outlook_keys_eq (continues : start.Continues state) (side : Side) :
    state.outlook.keys side = start.outlook.keys side := by
  funext node
  have alike := continues.alike side
  rw [← visits_outlook, ← visits_outlook] at alike
  exact alike.keys_eq continues.config node

/-- The caches are sound for the state as it is. -/
theorem sound (continues : start.Continues state) :
    state.caches.Sound state.outlook start.first.root start.second.root :=
  ⟨continues.caches.first.of_alike (continues.alike .first).symm,
    continues.caches.second.of_alike (continues.alike .second).symm⟩

/-- Caches may be replaced by others that are sound for the state. -/
theorem withCaches (continues : start.Continues state) {caches : Caches}
    (sound : caches.Sound state.outlook start.first.root start.second.root) :
    start.Continues { state with caches } :=
  ⟨continues.config, continues.root, continues.trace, continues.alike,
    ⟨sound.first.of_alike (continues.alike .first),
      sound.second.of_alike (continues.alike .second)⟩⟩

end Comparison.Continues

theorem untouched_markBoth (state : Comparison) (mark : Mark) {first second : Node} {side : Side}
    {position : Position} (elsewhere : (bySide first second side).position ≠ position) :
    Untouched state (state.markBoth mark first second) side position := by
  rw [Untouched, visits_markBoth]
  exact Visits.recorded_advance_other _ _ mark elsewhere

/-! ## Reading contents -/

variable {start state : Comparison}

/-- Contents read through the caches are compared as plain contents, and only the
caches change. -/
theorem sameContent_spec (continues : start.Continues state) {left right : Place}
    (leftIn : start.first.root.at? left.address.reverse = some left.node)
    (rightIn : start.second.root.at? right.address.reverse = some right.node) :
    (state.sameContent left right).1 = start.outlook.sameContent .first left.node right.node ∧
      start.Continues (state.sameContent left right).2 ∧
      ∀ side, (state.sameContent left right).2.view side = state.view side := by
  have firstAlike := continues.alike .first
  have secondAlike := continues.alike .second
  have firstRead := Visits.content_sound (continues.caches.first.of_alike firstAlike.symm)
    left.address left.node leftIn
  have secondRead := Visits.content_sound (continues.caches.second.of_alike secondAlike.symm)
    right.address right.node rightIn
  rw [firstAlike.plainContent_eq] at firstRead
  rw [secondAlike.plainContent_eq] at secondRead
  refine ⟨?_, ?_, ?_⟩
  · change (state.config.normalize
        ((state.view .first).visits.content left.address state.caches.first left.node).1 ==
      state.config.normalize
        ((state.view .second).visits.content right.address state.caches.second right.node).1) = _
    rw [firstRead.1, secondRead.1, continues.config]
    rfl
  · refine ⟨continues.config, ?_, continues.trace, ?_, ?_⟩
    · intro side
      rw [← continues.root]
      cases side <;> rfl
    · intro side
      cases side
      · exact firstAlike
      · exact secondAlike
    · exact ⟨firstRead.2.of_alike firstAlike, secondRead.2.of_alike secondAlike⟩
  · intro side
    cases side <;> rfl

/-! ## Comparing texts -/

/-- The difference between the texts of a pair, if there is one. -/
def textDifference? (config : Config) (signature : String) (first second : Node) :
    Option Difference :=
  if textKey config first = textKey config second then none
  else some (textDifference signature first second)

/-- What is recorded about a pair: a difference between texts, on the first node only. -/
def recordedDifference (config : Config) (signature : String) (first second : Node) :
    Side → Option Difference :=
  bySide (textDifference? config signature first second) none

theorem Comparison.Continues.compareTexts (continues : start.Continues state)
    (signature : String) (first second : Node) :
    start.Continues (state.compareTexts signature first second) := by
  unfold Comparison.compareTexts
  split
  · exact continues
  · refine ⟨continues.config, ?_, continues.trace, ?_, continues.caches⟩
    · intro side
      rw [← continues.root]
      cases side <;> rfl
    · intro side
      cases side with
      | first =>
          exact (Visits.alike_record _ first (textDifference signature first second)).trans
            (continues.alike .first)
      | second => exact continues.alike .second

theorem untouched_compareTexts (state : Comparison) (signature : String) {first second : Node}
    {side : Side} {position : Position}
    (elsewhere : (bySide first second side).position ≠ position) :
    Untouched state (state.compareTexts signature first second) side position := by
  unfold Comparison.compareTexts
  split
  · rfl
  · cases side with
    | first => exact Visits.recorded_alter_other _ _ elsewhere
    | second => rfl

/-- Comparing the texts of a pair without a record leaves the difference, if there is one. -/
theorem recorded_compareTexts (state : Comparison) (signature : String) {first second : Node}
    (side : Side)
    (nothingYet :
      ((state.view side).visits.recorded (bySide first second side).position).difference = none) :
    ((state.compareTexts signature first second).view side).visits.recorded
        (bySide first second side).position =
      { (state.view side).visits.recorded (bySide first second side).position with
        difference := recordedDifference state.config signature first second side } := by
  have unchanged :
      { (state.view side).visits.recorded (bySide first second side).position with
        difference := none } =
        (state.view side).visits.recorded (bySide first second side).position := by
    rw [← nothingYet]
  unfold Comparison.compareTexts recordedDifference textDifference?
  split
  · cases side <;> exact unchanged.symm
  · cases side with
    | first => exact Visits.recorded_alter_same _ _ _
    | second => exact unchanged.symm

/-! ## Collecting -/

namespace Visits

theorem differencesAll_eq_flatMap (visits : Visits) (side : Side) (above : String)
    (nodes : List Node) :
    visits.differencesAll side above nodes = nodes.flatMap (visits.differences side above) := by
  induction nodes with
  | nil => rfl
  | cons node rest inductionHypothesis =>
      rw [differencesAll, inductionHypothesis, List.flatMap_cons]

theorem differences_eq (visits : Visits) (side : Side) (above : String) (node : Node) :
    visits.differences side above node =
      match visits.markOf node with
      | .deep => []
      | .unvisited => [presenceDifference side (above ++ visits.signature node)]
      | .shallow =>
          ((visits.differenceOf node).map fun difference => [difference]).getD
            (visits.differencesAll side (above ++ visits.signature node) node.children) := by
  obtain ⟨tag, attributes, children, text, position, line⟩ := node
  rw [differences]
  cases visits.markOf ⟨tag, attributes, children, text, position, line⟩ with
  | unvisited => rfl
  | deep => rfl
  | shallow =>
      cases visits.differenceOf ⟨tag, attributes, children, text, position, line⟩ <;> rfl

/-- The differences at and below a node depend on the records of its tree. -/
theorem differences_congr {visits other : Visits} (side : Side) (above : String) (node : Node)
    (same : ∀ position ∈ node.positions, visits.recorded position = other.recorded position) :
    visits.differences side above node = other.differences side above node := by
  induction node using Node.childInduction generalizing above with
  | step node inductionHypothesis =>
      have atNode := same node.position node.position_mem_positions
      have below (signature : String) :
          visits.differencesAll side signature node.children =
            other.differencesAll side signature node.children := by
        rw [differencesAll_eq_flatMap, differencesAll_eq_flatMap]
        refine List.flatMap_congr fun child member => ?_
        exact inductionHypothesis child member signature fun position inChild =>
          same position (Node.mem_positions_of_mem_children member inChild)
      rw [differences_eq, differences_eq, markOf, markOf, differenceOf, differenceOf, signature,
        signature, excludedOf, excludedOf, atNode, below]

end Visits

end XmlCollation.Compare
