import XmlCollation.Compare.Comparison
import XmlCollation.Rules.Rule

/-!
Contract: rules applied to the trees of a comparison.

Owns:
- the marks that a rule leaves on the nodes it chooses;
- the application of the rules of both documents to both trees, each rule to the
  tree of its own document first, with a message about what it touched.

Does not own: the choice of nodes.
-/

namespace XmlCollation.Rules

open XmlCollation.Tree
open XmlCollation.Compare

/-- Records on a chosen node what the rule takes out. -/
def Rule.mark (rule : Rule) (visits : Visits) (node : Node) : Visits :=
  match rule.target with
  | .nodeByText | .nodeByAttribute _ => visits.skip node
  | .attributeNamed name => visits.exclude node name

/-- The records after a rule was applied to a tree. -/
def Rule.markAll (rule : Rule) (root : Node) (visits : Visits) : Visits :=
  (rule.chosen [] root).foldl rule.mark visits

/-- Applies a rule to one tree, and counts the nodes it touched. -/
def Rule.applyTo (rule : Rule) (side : Side) (comparison : Comparison) : Nat × Comparison :=
  let root := (comparison.view side).root
  ((rule.chosen [] root).length, comparison.updateVisits side (rule.markAll root))

def sideName : Side → String
  | .first => "first"
  | .second => "second"

def otherSide : Side → Side
  | .first => .second
  | .second => .first

/-- Applies a rule of one document to both trees. -/
def Rule.applyFrom (rule : Rule) (side : Side) (comparison : Comparison) : Comparison :=
  let (own, applied) := rule.applyTo side comparison
  let (foreign, appliedToBoth) := rule.applyTo (otherSide side) applied
  appliedToBoth.say .debug
    ("Rule " ++ rule.declared.shown ++ " of the " ++ sideName side ++ " snapshot touched "
      ++ toString (own + foreign) ++ " node(s)")

/-- Applies the rules of the first document, then those of the second. -/
def applyRules (firstRules secondRules : List Rule) (comparison : Comparison) : Comparison :=
  secondRules.foldl (fun state rule => rule.applyFrom .second state)
    (firstRules.foldl (fun state rule => rule.applyFrom .first state) comparison)

end XmlCollation.Rules
