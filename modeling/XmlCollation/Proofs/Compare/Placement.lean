import XmlCollation.Proofs.Compare.Deletion

/-!
Contract: positions and lines have no part in what is found.

Owns:
- trees of which all positions and lines are left out, with the signatures and contents of the
  trees as they are;
- comparisons without rules of trees whose positions are distinct: whichever these are, the same
  is found.

Does not own: rules, which choose nodes by their places.
-/

namespace XmlCollation.Tree

mutual

/-- The tree with no positions and no lines. -/
def Node.unplaced : Node → Node
  | ⟨tag, attributes, children, text, _, _⟩ =>
      ⟨tag, attributes, unplacedAll children, text, [], none⟩

def unplacedAll : List Node → List Node
  | [] => []
  | node :: rest => node.unplaced :: unplacedAll rest

end

theorem unplacedAll_eq (nodes : List Node) : unplacedAll nodes = nodes.map Node.unplaced := by
  induction nodes with
  | nil => rfl
  | cons node rest inductionHypothesis => rw [unplacedAll, inductionHypothesis, List.map_cons]

theorem Node.unplaced_eq (node : Node) :
    node.unplaced =
      ⟨node.tag, node.attributes, node.children.map Node.unplaced, node.text, [], none⟩ := by
  cases node
  rw [Node.unplaced, unplacedAll_eq]

theorem Node.unplaced_children (node : Node) :
    node.unplaced.children = node.children.map Node.unplaced := by
  rw [Node.unplaced_eq]

theorem Node.unplaced_text (node : Node) : node.unplaced.text = node.text := by
  rw [Node.unplaced_eq]

end XmlCollation.Tree

namespace XmlCollation.Compare

open XmlCollation.Tree
open XmlCollation.Rules (otherSide)

/-! ## What comparisons look at -/

section Unplaced

variable {config : Config} {policy : Policy}

theorem signature_unplaced (node : Node) :
    Visits.signature [] node.unplaced = Visits.signature [] node := by
  rw [Node.unplaced_eq]
  rfl

theorem plainContent_unplaced (node : Node) :
    Visits.plainContent [] node.unplaced = Visits.plainContent [] node := by
  induction node using Node.childInduction with
  | step node inductionHypothesis =>
      have children : Visits.plainContentAll [] node.unplaced.children =
          Visits.plainContentAll [] node.children := by
        rw [← String.toList_inj, Visits.plainContentAll_toList, Visits.plainContentAll_toList,
          Visits.kept_nothing, Visits.kept_nothing, Node.unplaced_children, List.flatMap_map]
        refine List.flatMap_congr fun child member => ?_
        rw [inductionHypothesis child member]
      have tag : node.unplaced.tag = node.tag := by rw [Node.unplaced_eq]
      rw [Visits.plainContent_eq, Visits.plainContent_eq, children, Visits.wrap, Visits.wrap,
        signature_unplaced, Node.unplaced_text, tag]

theorem images_unplaced (config : Config) :
    (bareOutlook config).Images (bareOutlook config) (fun _ => Node.unplaced)
      fun _ => List.map Node.unplaced where
  children _ := Node.unplaced_children
  kept side nodes := by
    rw [bareKept, bareKept]
  keys side node := by
    rw [Outlook.keys, Outlook.keys, bareVisits, Visits.signatureKey, Visits.signatureKey,
      signature_unplaced, plainContent_unplaced]
  signature side node := by
    rw [Outlook.signature, Outlook.signature, bareVisits, signature_unplaced]

/-! ## What is found -/

theorem sideDifferences_unplaced (offered : policy.Offered) (roots : Side → Node) (side : Side) :
    sideDifferences policy (bareOutlook config) (fun walked => (roots walked).unplaced) side =
      sideDifferences policy (bareOutlook config) roots side := by
  refine walkSiblings_carried_same ((images_unplaced config).carries offered
    (bareOutlook_prepared config) (bareOutlook_prepared config) side) ?_ (fun _ => rfl) ""
    [roots side] [roots (otherSide side)]
  intro signature node other
  exact sideReport_pair_congr config side signature node.unplaced_text other.unplaced_text

/-- Trees that differ in nothing but positions and lines are as good as each other to a comparison
without rules. -/
theorem findings_congr_unplaced (offered : policy.Offered) {first second first' second' : Node}
    (distinct : first.HasDistinctPositions ∧ second.HasDistinctPositions)
    (distinct' : first'.HasDistinctPositions ∧ second'.HasDistinctPositions)
    (sameFirst : first.unplaced = first'.unplaced)
    (sameSecond : second.unplaced = second'.unplaced) :
    findings config policy [] [] first second = findings config policy [] [] first' second' := by
  have sides (side : Side) :
      sideDifferences policy (bareOutlook config) (bySide first second) side =
        sideDifferences policy (bareOutlook config) (bySide first' second') side := by
    rw [← sideDifferences_unplaced offered, ← sideDifferences_unplaced offered (bySide first' _)]
    refine congrArg (sideDifferences policy (bareOutlook config) · side) (funext fun walked => ?_)
    cases walked with
    | first => exact sameFirst
    | second => exact sameSecond
  rw [findings_eq_sides offered distinct.1 distinct.2, findings_eq_sides offered distinct'.1
    distinct'.2, ruledOutlook_nil, ruledOutlook_nil, sides, sides]

end Unplaced

end XmlCollation.Compare
