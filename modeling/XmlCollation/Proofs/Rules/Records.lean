import XmlCollation.Proofs.Compare.Content
import XmlCollation.Rules.Apply

/-!
Contract: what rules leave behind.

Owns:
- the effect of one rule on the record of a position, and of a list of rules;
- the records of both trees after the rules of both documents: each tree sees
  all rules, and their order does not matter;
- prepared records: skipped nodes are matched deeply, all others are unvisited,
  and no difference is recorded.

Does not own: which nodes a rule chooses.
-/

namespace XmlCollation.Compare

open XmlCollation.Tree

namespace Visits

/-- Records of trees that rules were applied to and that were not matched yet. -/
structure Prepared (visits : Visits) : Prop where
  mark_eq : ∀ position,
    (visits.recorded position).mark =
      if (visits.recorded position).skipped then .deep else .unvisited
  difference_eq : ∀ position, (visits.recorded position).difference = none

theorem prepared_nil : Prepared [] :=
  ⟨fun _ => rfl, fun _ => rfl⟩

theorem Prepared.isUnvisited_eq {visits : Visits} (prepared : visits.Prepared) (node : Node) :
    visits.isUnvisited node = !visits.isSkipped node := by
  rw [isUnvisited, markOf, prepared.mark_eq, isSkipped]
  cases (visits.recorded node.position).skipped <;> rfl

theorem recorded_alter (change : Visit → Visit) (visits : Visits) (position other : Position) :
    (visits.alter change position).recorded other =
      if position = other then change (visits.recorded other) else visits.recorded other := by
  split
  · rename_i same
    rw [← same, recorded_alter_same]
  · rename_i different
    exact recorded_alter_other change visits different

theorem recorded_advance (visits : Visits) (node : Node) (mark : Mark) (position : Position) :
    (visits.advance node mark).recorded position =
      if node.position = position ∧ (visits.recorded position).mark.rank < mark.rank then
        { visits.recorded position with mark := mark }
      else
        visits.recorded position := by
  unfold advance
  by_cases same : node.position = position
  · subst same
    rw [markOf]
    split
    · rename_i ahead
      simp [recorded_alter_same, ahead]
    · rename_i notAhead
      simp [notAhead]
  · split
    · simp [recorded_alter, same]
    · simp [same]

theorem recorded_skip (visits : Visits) (node : Node) (position : Position) :
    (visits.skip node).recorded position =
      if node.position = position then
        { visits.recorded position with skipped := true, mark := .deep }
      else
        visits.recorded position := by
  rw [skip, recorded_advance, recorded_alter]
  by_cases same : node.position = position
  · cases mark : (visits.recorded position).mark <;> simp [same, Mark.rank]
  · simp [same]

theorem recorded_exclude (visits : Visits) (node : Node) (name : String) (position : Position) :
    (visits.exclude node name).recorded position =
      if node.position = position then
        { visits.recorded position with
          excluded := addName (Text.lowered name) (visits.recorded position).excluded }
      else
        visits.recorded position := by
  rw [exclude, recorded_alter]

end Visits

end XmlCollation.Compare

namespace XmlCollation.Rules

open XmlCollation.Text
open XmlCollation.Tree
open XmlCollation.Compare

/-! ## One rule -/

/-- The rule takes out the node at a position. -/
def Rule.Skips (rule : Rule) (root : Node) (position : Position) : Prop :=
  (∃ node ∈ rule.chosen [] root, node.position = position) ∧
    ∀ name, rule.target ≠ .attributeNamed name

/-- The rule takes out an attribute of the node at a position. -/
def Rule.Excludes (rule : Rule) (root : Node) (position : Position) (name : String) : Prop :=
  (∃ node ∈ rule.chosen [] root, node.position = position) ∧
    ∃ written, rule.target = .attributeNamed written ∧ lowered written = name

theorem skipped_mark (rule : Rule) (visits : Visits) (node : Node) (position : Position) :
    ((rule.mark visits node).recorded position).skipped = true ↔
      (visits.recorded position).skipped = true ∨
        (node.position = position ∧ ∀ name, rule.target ≠ .attributeNamed name) := by
  unfold Rule.mark
  cases target : rule.target <;>
    simp only [Visits.recorded_skip, Visits.recorded_exclude] <;>
    split <;> simp_all

theorem excluded_mark (rule : Rule) (visits : Visits) (node : Node) (position : Position)
    (name : String) :
    name ∈ ((rule.mark visits node).recorded position).excluded ↔
      name ∈ (visits.recorded position).excluded ∨
        (node.position = position ∧
          ∃ written, rule.target = .attributeNamed written ∧ lowered written = name) := by
  unfold Rule.mark
  cases target : rule.target with
  | nodeByText =>
      simp only [Visits.recorded_skip]
      split <;> simp
  | nodeByAttribute written =>
      simp only [Visits.recorded_skip]
      split <;> simp
  | attributeNamed written =>
      simp only [Visits.recorded_exclude]
      split
      · rename_i same
        simp [Visits.mem_addName, same, eq_comm, or_comm]
      · rename_i different
        simp [different]

theorem prepared_mark {visits : Visits} (prepared : visits.Prepared) (rule : Rule) (node : Node) :
    (rule.mark visits node).Prepared := by
  unfold Rule.mark
  constructor <;> intro position <;>
    cases rule.target <;>
    simp only [Visits.recorded_skip, Visits.recorded_exclude] <;>
    split <;> simp [prepared.mark_eq, prepared.difference_eq]

/-! ## Lists of rules -/

/-- The records of a tree after some rules. -/
def markRules (rules : List Rule) (root : Node) (visits : Visits) : Visits :=
  rules.foldl (fun state rule => rule.markAll root state) visits

theorem prepared_markRules {visits : Visits} (prepared : visits.Prepared) (rules : List Rule)
    (root : Node) :
    (markRules rules root visits).Prepared := by
  have onNodes (rule : Rule) (nodes : List Node) (state : Visits) (before : state.Prepared) :
      (nodes.foldl rule.mark state).Prepared := by
    induction nodes generalizing state with
    | nil => exact before
    | cons node rest inductionHypothesis =>
        exact inductionHypothesis _ (prepared_mark before rule node)
  induction rules generalizing visits with
  | nil => exact prepared
  | cons rule rest inductionHypothesis =>
      exact inductionHypothesis (onNodes rule _ visits prepared)

theorem skipped_markAll (rule : Rule) (root : Node) (visits : Visits) (position : Position) :
    ((rule.markAll root visits).recorded position).skipped = true ↔
      (visits.recorded position).skipped = true ∨ rule.Skips root position := by
  rw [Rule.markAll, Rule.Skips]
  induction rule.chosen [] root generalizing visits with
  | nil => simp
  | cons node rest inductionHypothesis =>
      rw [List.foldl_cons, inductionHypothesis, skipped_mark]
      simp only [List.mem_cons, exists_eq_or_imp]
      rw [or_and_right, or_assoc]

theorem excluded_markAll (rule : Rule) (root : Node) (visits : Visits) (position : Position)
    (name : String) :
    name ∈ ((rule.markAll root visits).recorded position).excluded ↔
      name ∈ (visits.recorded position).excluded ∨ rule.Excludes root position name := by
  rw [Rule.markAll, Rule.Excludes]
  induction rule.chosen [] root generalizing visits with
  | nil => simp
  | cons node rest inductionHypothesis =>
      rw [List.foldl_cons, inductionHypothesis, excluded_mark]
      simp only [List.mem_cons, exists_eq_or_imp]
      rw [or_and_right, or_assoc]

theorem skipped_markRules (rules : List Rule) (root : Node) (visits : Visits)
    (position : Position) :
    ((markRules rules root visits).recorded position).skipped = true ↔
      (visits.recorded position).skipped = true ∨ ∃ rule ∈ rules, rule.Skips root position := by
  induction rules generalizing visits with
  | nil => simp [markRules]
  | cons rule rest inductionHypothesis =>
      rw [markRules, List.foldl_cons, ← markRules, inductionHypothesis, skipped_markAll]
      simp only [List.mem_cons, exists_eq_or_imp, or_assoc]

theorem excluded_markRules (rules : List Rule) (root : Node) (visits : Visits)
    (position : Position) (name : String) :
    name ∈ ((markRules rules root visits).recorded position).excluded ↔
      name ∈ (visits.recorded position).excluded ∨
        ∃ rule ∈ rules, rule.Excludes root position name := by
  induction rules generalizing visits with
  | nil => simp [markRules]
  | cons rule rest inductionHypothesis =>
      rw [markRules, List.foldl_cons, ← markRules, inductionHypothesis, excluded_markAll]
      simp only [List.mem_cons, exists_eq_or_imp, or_assoc]

/-- Only which rules there are matters, not their order or number. -/
theorem alike_markRules {rules others : List Rule} (same : ∀ rule, rule ∈ rules ↔ rule ∈ others)
    (root : Node) (visits : Visits) :
    (markRules rules root visits).Alike (markRules others root visits) := by
  constructor
  · intro position
    rw [Bool.eq_iff_iff, skipped_markRules, skipped_markRules]
    simp only [same]
  · intro position name
    rw [excluded_markRules, excluded_markRules]
    simp only [same]

/-! ## Both trees -/

/-- Rules change the records of both trees and the messages, and nothing else. -/
structure SameButRecords (before after : Comparison) : Prop where
  config : after.config = before.config
  root : ∀ side, (after.view side).root = (before.view side).root
  caches : after.caches = before.caches
  trace : after.trace = before.trace

theorem SameButRecords.trans {first second third : Comparison}
    (left : SameButRecords first second) (right : SameButRecords second third) :
    SameButRecords first third :=
  ⟨right.config.trans left.config, fun side => (right.root side).trans (left.root side),
    right.caches.trans left.caches, right.trace.trans left.trace⟩

theorem sameButRecords_applyFrom (rule : Rule) (side : Side) (comparison : Comparison) :
    SameButRecords comparison (rule.applyFrom side comparison) := by
  cases side <;> exact ⟨rfl, fun walked => by cases walked <;> rfl, rfl, rfl⟩

theorem visits_applyFrom (rule : Rule) (side walked : Side) (comparison : Comparison) :
    ((rule.applyFrom side comparison).view walked).visits =
      rule.markAll (comparison.view walked).root (comparison.view walked).visits := by
  cases side <;> cases walked <;> rfl

theorem foldl_applyFrom (rules : List Rule) (side : Side) (comparison : Comparison) :
    SameButRecords comparison (rules.foldl (fun state rule => rule.applyFrom side state) comparison)
      ∧ ∀ walked,
        ((rules.foldl (fun state rule => rule.applyFrom side state) comparison).view walked).visits =
          markRules rules (comparison.view walked).root (comparison.view walked).visits := by
  induction rules generalizing comparison with
  | nil => exact ⟨⟨rfl, fun _ => rfl, rfl, rfl⟩, fun _ => rfl⟩
  | cons rule rest inductionHypothesis =>
      have one := sameButRecords_applyFrom rule side comparison
      obtain ⟨same, visits⟩ := inductionHypothesis (rule.applyFrom side comparison)
      refine ⟨one.trans same, fun walked => ?_⟩
      rw [List.foldl_cons, visits, one.root, visits_applyFrom]
      rfl

/-- Each tree sees the rules of both documents, those of the first document first. -/
theorem applyRules_records (firstRules secondRules : List Rule) (comparison : Comparison) :
    SameButRecords comparison (applyRules firstRules secondRules comparison) ∧
      ∀ side, ((applyRules firstRules secondRules comparison).view side).visits =
        markRules (firstRules ++ secondRules) (comparison.view side).root
          (comparison.view side).visits := by
  obtain ⟨sameFirst, visitsFirst⟩ := foldl_applyFrom firstRules .first comparison
  obtain ⟨sameSecond, visitsSecond⟩ := foldl_applyFrom secondRules .second
    (firstRules.foldl (fun state rule => rule.applyFrom .first state) comparison)
  refine ⟨sameFirst.trans sameSecond, fun side => ?_⟩
  rw [applyRules, visitsSecond, sameFirst.root, visitsFirst, markRules, markRules, markRules,
    List.foldl_append]

end XmlCollation.Rules
