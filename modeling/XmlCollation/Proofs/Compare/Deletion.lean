import XmlCollation.Proofs.Compare.Refinement
import XmlCollation.Proofs.Compare.Transport

/-!
Contract: what rules take out might as well not be there.

Owns:
- trees without the subtrees and attributes that were taken out;
- the same signatures, contents, partners and walks on the tree that is left, with
  nothing recorded about it;
- comparisons by rules as comparisons without rules of the trees that are left, and
  comparisons with a skipped root.

Does not own: which nodes rules choose.
-/

namespace XmlCollation.Compare

open XmlCollation.Text
open XmlCollation.Tree
open XmlCollation.Rules

/-! ## Trees that are left -/

namespace Visits

mutual

/-- The tree of a node without what was taken out below it and on it. -/
def pruned (visits : Visits) : Node → Node
  | ⟨tag, attributes, children, text, position, line⟩ =>
      ⟨tag,
        attributes.filter fun entry =>
          !(visits.excludedOf ⟨tag, attributes, children, text, position, line⟩).contains
            (lowered entry.1),
        visits.prunedAll children, text, position, line⟩

/-- The trees of several nodes, without those that were taken out. -/
def prunedAll (visits : Visits) : List Node → List Node
  | [] => []
  | node :: rest =>
      if visits.isSkipped node then visits.prunedAll rest
      else visits.pruned node :: visits.prunedAll rest

end

variable (visits : Visits)

theorem prunedAll_eq (nodes : List Node) :
    visits.prunedAll nodes = (visits.kept nodes).map visits.pruned := by
  induction nodes with
  | nil => rfl
  | cons node rest inductionHypothesis =>
      rw [prunedAll, inductionHypothesis]
      cases skipped : visits.isSkipped node <;> simp [kept, skipped]

theorem pruned_children (node : Node) :
    (visits.pruned node).children = (visits.kept node.children).map visits.pruned := by
  cases node
  rw [← prunedAll_eq, pruned]

theorem pruned_text (node : Node) : (visits.pruned node).text = node.text := by
  cases node
  rw [pruned]

theorem pruned_tag (node : Node) : (visits.pruned node).tag = node.tag := by
  cases node
  rw [pruned]

theorem pruned_position (node : Node) : (visits.pruned node).position = node.position := by
  cases node
  rw [pruned]

theorem pruned_attributes (node : Node) :
    (visits.pruned node).attributes =
      node.attributes.filter fun entry => !(visits.excludedOf node).contains (lowered entry.1) := by
  cases node
  rw [pruned]

theorem positions_pruned (node : Node) :
    (visits.pruned node).positions.Sublist node.positions := by
  induction node using Node.childInduction with
  | step node inductionHypothesis =>
      rw [Node.positions_eq, Node.positions_eq, pruned_position]
      refine List.Sublist.cons_cons _ ?_
      rw [positionsAll_eq_flatMap, positionsAll_eq_flatMap, pruned_children, List.flatMap_map]
      refine List.Sublist.trans (List.Sublist.flatMap_right _ fun child member => ?_)
        (List.filter_sublist.flatMap Node.positions)
      exact inductionHypothesis child (mem_kept.1 member).1

theorem distinct_pruned {node : Node} (distinct : node.HasDistinctPositions) :
    (visits.pruned node).HasDistinctPositions :=
  (visits.positions_pruned node).nodup distinct

/-! ## Signatures and contents -/

theorem signature_pruned (node : Node) :
    signature [] (visits.pruned node) = visits.signature node := by
  have nothingExcluded : excludedOf [] (visits.pruned node) = [] := rfl
  have allCount (entries : List (String × String)) :
      (entries.filter fun entry => !([] : List String).contains (lowered entry.1)) = entries :=
    List.filter_eq_self.2 fun _ _ => rfl
  rw [signature, signature, nothingExcluded, signatureWith, signatureWith, countedAttributes,
    countedAttributes, pruned_tag, allCount, pruned_attributes]

theorem kept_nothing (nodes : List Node) : kept [] nodes = nodes :=
  List.filter_eq_self.2 fun _ _ => rfl

theorem plainContent_pruned (node : Node) :
    plainContent [] (visits.pruned node) = visits.plainContent node := by
  induction node using Node.childInduction with
  | step node inductionHypothesis =>
      have children : plainContentAll [] (visits.pruned node).children =
          visits.plainContentAll node.children := by
        rw [← String.toList_inj, plainContentAll_toList, plainContentAll_toList, kept_nothing,
          pruned_children, List.flatMap_map]
        refine List.flatMap_congr fun child member => ?_
        rw [inductionHypothesis child (mem_kept.1 member).1]
      rw [plainContent_eq, plainContent_eq, wrap, wrap, signature_pruned, pruned_text, pruned_tag,
        children]

end Visits

/-! ## Partners and walks -/

/-- What a comparison without rules sees. -/
def bareOutlook (config : Config) : Outlook :=
  ⟨config, [], []⟩

theorem bareOutlook_prepared (config : Config) : (bareOutlook config).Prepared := by
  intro side
  cases side <;> exact Visits.prepared_nil

section Pruned

variable {policy : Policy} {outlook : Outlook}

/-- The tree of a node of a side without what was taken out. -/
def Outlook.pruned (outlook : Outlook) (side : Side) (node : Node) : Node :=
  (outlook.visits side).pruned node

/-- The kept ones among siblings, without what was taken out of them. -/
def Outlook.prunedAll (outlook : Outlook) (side : Side) (nodes : List Node) : List Node :=
  (outlook.kept side nodes).map (outlook.pruned side)

theorem pruned_children (side : Side) (node : Node) :
    (outlook.pruned side node).children = outlook.prunedAll side node.children :=
  (outlook.visits side).pruned_children node

theorem bareVisits (config : Config) (side : Side) : (bareOutlook config).visits side = [] := by
  cases side <;> rfl

theorem bareKept (config : Config) (side : Side) (nodes : List Node) :
    (bareOutlook config).kept side nodes = nodes := by
  rw [Outlook.kept, bareVisits, Visits.kept_nothing]

theorem keys_pruned (side : Side) (node : Node) :
    (bareOutlook outlook.config).keys side (outlook.pruned side node) = outlook.keys side node := by
  rw [Outlook.keys, Outlook.keys, bareVisits, Visits.signatureKey, Visits.signatureKey,
    Outlook.pruned, Visits.signature_pruned, Visits.plainContent_pruned]
  rfl

/-- Nothing of what comparisons look at is lost. -/
theorem images_pruned (outlook : Outlook) :
    outlook.Images (bareOutlook outlook.config) outlook.pruned outlook.prunedAll where
  children := pruned_children
  kept side _ := bareKept outlook.config side _
  keys := keys_pruned
  signature side node := by
    rw [Outlook.signature, bareVisits]
    exact Visits.signature_pruned _ node

theorem walkSiblings_pruned (offered : policy.Offered) (prepared : outlook.Prepared)
    (side : Side) (above : String) (nodes others : List Node) :
    walkSiblings policy (bareOutlook outlook.config) side (sideReport outlook.config side) above
        (outlook.prunedAll side nodes) (outlook.prunedAll (otherSide side) others) =
      walkSiblings policy outlook side (sideReport outlook.config side) above nodes others := by
  refine walkSiblings_carried_same ((images_pruned outlook).carries offered prepared
    (bareOutlook_prepared outlook.config) side) ?_ (fun _ => rfl) above nodes others
  intro signature node other
  exact sideReport_pair_congr outlook.config side signature
    ((outlook.visits side).pruned_text node) ((outlook.visits (otherSide side)).pruned_text other)

end Pruned

/-! ## Comparisons -/

section Comparisons

variable {config : Config} {policy : Policy} {firstRules secondRules : List Rule}
  {first second : Node}

theorem prunedAll_root {outlook : Outlook} {side : Side} {root : Node}
    (kept : (outlook.visits side).isSkipped root = false) :
    outlook.prunedAll side [root] = [outlook.pruned side root] := by
  rw [Outlook.prunedAll, Outlook.kept, Visits.kept]
  simp [kept]

theorem kept_root_skipped {outlook : Outlook} {side : Side} {root : Node}
    (skipped : (outlook.visits side).isSkipped root = true) :
    outlook.kept side [root] = [] := by
  rw [Outlook.kept, Visits.kept]
  simp [skipped]

/-- A root that is kept, opposite to one that is skipped, has no partner. -/
theorem sideDifferences_alone {outlook : Outlook} {roots : Side → Node} {side : Side}
    (kept : (outlook.visits side).isSkipped (roots side) = false)
    (skipped : (outlook.visits (otherSide side)).isSkipped (roots (otherSide side)) = true) :
    sideDifferences policy outlook roots side =
      [presenceDifference side (outlook.signature side (roots side))] := by
  have keptRoot : outlook.kept side [roots side] = [roots side] := by
    rw [Outlook.kept, Visits.kept]
    simp [kept]
  have nobody : policy.partner? outlook side [roots side] [roots (otherSide side)] 0 = none := by
    rw [Policy.partner?, kept_root_skipped skipped]
    exact Option.bind_eq_none_iff.2 fun _ _ => List.getElem?_nil
  rw [sideDifferences, walkSiblings_eq, keptRoot, List.zipIdx_singleton, List.flatMap_singleton,
    nobody, walkSibling, sideReport_lone, String.empty_append]

theorem sideDifferences_skipped {outlook : Outlook} {roots : Side → Node} {side : Side}
    (skipped : (outlook.visits side).isSkipped (roots side) = true) :
    sideDifferences policy outlook roots side = [] := by
  rw [sideDifferences, walkSiblings_eq, kept_root_skipped skipped]
  rfl

/-- Roots that are kept are left, and the differences of what is left are the same. -/
theorem sideDifferences_pruned {outlook : Outlook} (offered : policy.Offered)
    (prepared : outlook.Prepared) {roots : Side → Node}
    (kept : ∀ side, (outlook.visits side).isSkipped (roots side) = false) (side : Side) :
    sideDifferences policy (bareOutlook outlook.config)
        (fun walked => outlook.pruned walked (roots walked)) side =
      sideDifferences policy outlook roots side := by
  have left := walkSiblings_pruned offered prepared side "" [roots side] [roots (otherSide side)]
  rw [prunedAll_root (kept side), prunedAll_root (kept (otherSide side))] at left
  exact left

/-- The trees that rules leave. -/
def remaining (config : Config) (firstRules secondRules : List Rule) (first second : Node)
    (side : Side) : Node :=
  (ruledOutlook config firstRules secondRules first second).pruned side (bySide first second side)

theorem ruledOutlook_nil (config : Config) (first second : Node) :
    ruledOutlook config [] [] first second = bareOutlook config :=
  ruledOutlook_eq config [] [] first second

/-- A comparison by rules that keep the roots is one without rules of the trees that are
left.  If the rules take out both roots, nothing is found, and if they take out one, all
that is found is the presence of the other. -/
theorem findings_skipped_eq_deleted (offered : policy.Offered)
    (firstDistinct : first.HasDistinctPositions) (secondDistinct : second.HasDistinctPositions) :
    ((∀ side, rootSkipped config firstRules secondRules first second side = false) →
        findings config policy firstRules secondRules first second =
          findings config policy [] []
            (remaining config firstRules secondRules first second .first)
            (remaining config firstRules secondRules first second .second)) ∧
      ((∀ side, rootSkipped config firstRules secondRules first second side = true) →
        findings config policy firstRules secondRules first second = []) ∧
      ∀ side, rootSkipped config firstRules secondRules first second side = false →
        rootSkipped config firstRules secondRules first second (otherSide side) = true →
          findings config policy firstRules secondRules first second =
            [presenceDifference side
              ((ruledOutlook config firstRules secondRules first second).signature side
                (bySide first second side))] := by
  have prepared := ruledOutlook_prepared config firstRules secondRules first second
  have sameConfig : (ruledOutlook config firstRules secondRules first second).config = config := by
    rw [ruledOutlook_eq]
  rw [findings_eq_sides offered firstDistinct secondDistinct]
  unfold rootSkipped remaining
  generalize ruledOutlook config firstRules secondRules first second = outlook at *
  refine ⟨?_, ?_, ?_⟩
  · intro kept
    have firstLeft : (outlook.pruned .first first).HasDistinctPositions :=
      Visits.distinct_pruned outlook.first firstDistinct
    have secondLeft : (outlook.pruned .second second).HasDistinctPositions :=
      Visits.distinct_pruned outlook.second secondDistinct
    have left : findings config policy [] [] (outlook.pruned .first first)
        (outlook.pruned .second second) = _ := findings_eq_sides offered firstLeft secondLeft
    refine Eq.trans ?_ left.symm
    rw [ruledOutlook_nil, ← sameConfig, ← sideDifferences_pruned offered prepared kept,
      ← sideDifferences_pruned offered prepared kept]
    rfl
  · intro skipped
    rw [sideDifferences_skipped (skipped .first), sideDifferences_skipped (skipped .second)]
    rfl
  · intro side kept skipped
    have alone : sideDifferences policy outlook (bySide first second) side = _ :=
      sideDifferences_alone kept skipped
    have nothing : sideDifferences policy outlook (bySide first second) (otherSide side) = _ :=
      sideDifferences_skipped skipped
    cases side with
    | first => exact congrArg₂ (· ++ ·) alone nothing
    | second => exact congrArg₂ (· ++ ·) nothing alone

end Comparisons

/-- The rule that skips the nodes of a selector. -/
def skipping (selector : String) : List Rule :=
  (Rule.check { selector := selector }).toOption.toList

/-- `<log><at/><line/></log>`, the texts as given. -/
def logAt (time text : String) : Node :=
  ⟨"log", [], [⟨"at", [], [], time, [0], none⟩, ⟨"line", [], [], text, [1], none⟩], "", [], none⟩

theorem findings_skipping_time :
    findings .standard Policy.greedy (skipping "at") [] (logAt "1" "x") (logAt "2" "y") =
        findings .standard Policy.greedy [] []
          (remaining .standard (skipping "at") [] (logAt "1" "x") (logAt "2" "y") .first)
          (remaining .standard (skipping "at") [] (logAt "1" "x") (logAt "2" "y") .second) ∧
      findings .standard Policy.greedy (skipping "log") [] (logAt "1" "x") (logAt "2" "y") = [] ∧
      findings .standard Policy.greedy (skipping "log") [] (logAt "1" "x")
          ⟨"at", [], [], "2", [], none⟩ =
        [presenceDifference .second
          ((ruledOutlook .standard (skipping "log") [] (logAt "1" "x")
            ⟨"at", [], [], "2", [], none⟩).signature .second ⟨"at", [], [], "2", [], none⟩)] := by
  refine ⟨(findings_skipped_eq_deleted .greedy (by decide) (by decide)).1 ?_,
    (findings_skipped_eq_deleted .greedy (by decide) (by decide)).2.1 ?_,
    (findings_skipped_eq_deleted .greedy (by decide) (by decide)).2.2 .second ?_ ?_⟩
  · intro side
    cases side <;> decide +kernel
  · intro side
    cases side <;> decide +kernel
  · decide +kernel
  · decide +kernel

end XmlCollation.Compare
