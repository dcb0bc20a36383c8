import XmlCollation.Proofs.Compare.Equivalence
import XmlCollation.Proofs.Rules.Parallel

/-!
Contract: rules that take out elements whatever they hold.

Owns:
- such rules as they are declared, and the records that one of them leaves besides those of
  other rules: nothing but the elements that its selector picks is taken out in addition;
- agreement of nodes, which is kept where both trees lose the elements that one selector
  picks;
- greedy comparisons: one more rule of this kind, of either document, creates no difference.

Does not own: optimal comparisons, and rules that look at values.
-/

namespace XmlCollation.Compare

open XmlCollation.Text
open XmlCollation.Tree
open XmlCollation.Markup
open XmlCollation.Rules

/-! ## Rules for elements -/

/-- A rule that takes out every element that its selector picks. -/
structure IsSweeping (rule : Rule) : Prop where
  target : rule.target = .nodeByText
  condition : rule.condition = .always

/-- A rule for elements is such a rule if neither an attribute nor a value is declared. -/
theorem isSweeping_of_check {declared : Declared} {rule : Rule}
    (checked : Rule.check declared = .ok rule) (effect : declared.effect = .node)
    (attributeName : declared.attributeName = none) (value : declared.value = none) :
    IsSweeping rule := by
  obtain ⟨target, condition⟩ := parts_of_check checked
  refine ⟨?_, condition_of_no_value value condition⟩
  rw [Declared.target, effect, attributeName] at target
  exact (Except.ok.inj target).symm

/-- Records that take out what others do and, besides, the elements that a selector picks. -/
structure Omits (selector : Selector) (root : Node) (visits omitting : Visits) : Prop where
  skipped : ∀ node ∈ root.preorder,
    (omitting.isSkipped node = true ↔ visits.isSkipped node = true ∨ selector.Picks root node)
  signature : ∀ node, omitting.signature node = visits.signature node

theorem omits_markRules {root : Node} (distinct : root.HasDistinctPositions) {rule : Rule}
    (sweeping : IsSweeping rule) {rules more : List Rule}
    (added : ∀ other, other ∈ more ↔ other = rule ∨ other ∈ rules) :
    Omits rule.selector root (markRules rules root []) (markRules more root []) := by
  have notAttribute (name : String) : rule.target ≠ .attributeNamed name := by
    rw [sweeping.target]
    exact Target.noConfusion
  constructor
  · intro node inTree
    obtain ⟨trail, leads⟩ := Node.exists_leadsTo inTree
    have accepted : rule.accepts node = true := by
      rw [Rule.accepts, sweeping.target, sweeping.condition]
      rfl
    have skips : rule.Skips root node.position ↔ rule.selector.Picks root node := by
      rw [Rule.Skips, exists_chosen_iff distinct leads, Selector.picks_iff distinct leads]
      exact (and_iff_left notAttribute).trans (and_iff_left accepted)
    rw [Visits.isSkipped, Visits.isSkipped, skipped_markRules, skipped_markRules]
    simp only [Visits.recorded_nil, Bool.false_eq_true, false_or, added, or_and_right,
      exists_or, exists_eq_left, skips]
    exact or_comm
  · intro node
    refine Visits.signatureWith_congr (fun name => ?_) node
    have excludesNothing : ¬rule.Excludes root node.position name := by
      rintro ⟨_, written, isTarget, _⟩
      exact notAttribute written isTarget
    rw [Visits.excludedOf, Visits.excludedOf, excluded_markRules, excluded_markRules]
    simp only [added, or_and_right, exists_or, exists_eq_left, excludesNothing, false_or]

/-! ## Agreement -/

section Agreement

variable {outlook omitted : Outlook} {selector : Selector} {first second : Node}

/-- Outlooks of one configuration, under one of which both trees lose the elements that a
selector picks in addition. -/
structure Outlook.Omits (selector : Selector) (first second : Node) (outlook omitted : Outlook) :
    Prop where
  config : omitted.config = outlook.config
  records : ∀ side, Compare.Omits selector (bySide first second side) (outlook.visits side)
    (omitted.visits side)

theorem Outlook.Omits.signature_eq (omits : outlook.Omits selector first second omitted)
    (side : Side) (node : Node) :
    (omitted.keys side node).signature = (outlook.keys side node).signature := by
  rw [Outlook.keys, Outlook.keys, Visits.signatureKey, Visits.signatureKey,
    (omits.records side).signature, omits.config]

/-- The children of one key that are left are those of the children of this key that were
not taken out. -/
theorem Outlook.Omits.ofKey_eq (omits : outlook.Omits selector first second omitted)
    {side : Side} {node : Node} (inTree : node ∈ (bySide first second side).preorder)
    (key : String) :
    omitted.ofKey side key node.children =
      (outlook.ofKey side key node.children).filter fun child =>
        !(omitted.visits side).isSkipped child := by
  rw [Outlook.ofKey, Outlook.ofKey, Outlook.kept, Outlook.kept, Visits.kept, Visits.kept,
    List.filter_filter, List.filter_filter, List.filter_filter]
  refine List.filter_congr fun child member => ?_
  have skipped := (omits.records side).skipped child
    (Node.mem_preorder_trans inTree (Node.child_mem_preorder member))
  rw [omits.signature_eq]
  cases before : (outlook.visits side).isSkipped child with
  | true => simp [skipped.2 (.inl before)]
  | false => simp [Bool.and_comm]

/-- Parallel nodes of one tag that both were kept are taken out together. -/
theorem Outlook.Omits.isSkipped_eq (omits : outlook.Omits selector first second omitted)
    (firstDistinct : first.HasDistinctPositions) (secondDistinct : second.HasDistinctPositions)
    {node other : Node} (parallel : Parallel first second node other)
    (sameTag : lowerTag node = lowerTag other) (kept : outlook.first.isSkipped node = false)
    (otherKept : outlook.second.isSkipped other = false) :
    omitted.first.isSkipped node = omitted.second.isSkipped other := by
  have lost : omitted.first.isSkipped node = true ↔
      outlook.first.isSkipped node = true ∨ selector.Picks first node :=
    (omits.records .first).skipped node parallel.mem_preorder.1
  have otherLost : omitted.second.isSkipped other = true ↔
      outlook.second.isSkipped other = true ∨ selector.Picks second other :=
    (omits.records .second).skipped other parallel.mem_preorder.2
  rw [Bool.eq_iff_iff, lost, otherLost, kept, otherKept,
    parallel.picks_iff firstDistinct secondDistinct sameTag]

/-- Nodes that agree still agree where both trees lose what one selector picks: of the
children that agree rank by rank, both are lost or neither. -/
theorem agrees_of_omits (omits : outlook.Omits selector first second omitted)
    (firstDistinct : first.HasDistinctPositions) (secondDistinct : second.HasDistinctPositions)
    {node other : Node} (agrees : Agrees outlook node other)
    (parallel : Parallel first second node other) (parsed : HasParsedNames node)
    (otherParsed : HasParsedNames other) : Agrees omitted node other := by
  induction agrees with
  | @intro node other signature text length _ inductionHypothesis =>
      have sameTag : lowerTag node = lowerTag other :=
        lowerTag_eq_of_signature parsed otherParsed signature
      refine .of_forall₂ ?_ ?_ fun key => ?_
      · rw [omits.signature_eq, omits.signature_eq, signature]
      · rw [omits.config, text]
      · rw [omits.ofKey_eq parallel.mem_preorder.1, omits.ofKey_eq parallel.mem_preorder.2]
        -- Children of one rank are parallel, so that the selector picks both or neither.
        have ranked : List.Forall₂
            (fun child partner => Agrees omitted child partner ∧
              omitted.first.isSkipped child = omitted.second.isSkipped partner)
            (outlook.ofKey .first key node.children) (outlook.ofKey .second key other.children) := by
          refine forall₂_of_getElem? (length key) fun rank child partner atChild atPartner => ?_
          have childMember := List.mem_filter.1 (List.mem_of_getElem? atChild)
          have partnerMember := List.mem_filter.1 (List.mem_of_getElem? atPartner)
          have childIn := Visits.mem_kept.1 childMember.1
          have partnerIn := Visits.mem_kept.1 partnerMember.1
          have childParsed := hasParsedNames_of_mem_children parsed childIn.1
          have partnerParsed := hasParsedNames_of_mem_children otherParsed partnerIn.1
          have below := parallel.below sameTag childIn.1 partnerIn.1
          have sameKey := (beq_iff_eq.1 childMember.2).trans (beq_iff_eq.1 partnerMember.2).symm
          exact ⟨inductionHypothesis key rank child partner atChild atPartner below childParsed
              partnerParsed,
            omits.isSkipped_eq firstDistinct secondDistinct below
              (lowerTag_eq_of_signature childParsed partnerParsed sameKey) childIn.2 partnerIn.2⟩
        refine (forall₂_filter ranked ?_).imp fun _ _ => And.left
        intro child _ partner _ here
        exact congrArg (!·) here.2

end Agreement

/-! ## Comparisons -/

section Comparisons

variable {config : Config} {firstRules secondRules : List Rule} {first second : ReadTree}

/-- Where a greedy comparison finds nothing, it finds nothing with one more rule of this
kind. -/
theorem foundEqual_of_added {rule : Rule} (sweeping : IsSweeping rule)
    {moreFirst moreSecond : List Rule}
    (added : ∀ other, other ∈ moreFirst ++ moreSecond ↔
      other = rule ∨ other ∈ firstRules ++ secondRules)
    (equal : FoundEqual config Policy.greedy firstRules secondRules first second) :
    FoundEqual config Policy.greedy moreFirst moreSecond first second := by
  have records (tree : ReadTree) : Omits rule.selector tree.root
      (tree.visits firstRules secondRules) (tree.visits moreFirst moreSecond) :=
    omits_markRules tree.distinct sweeping added
  have omits : Outlook.Omits rule.selector first.root second.root
      ⟨config, first.visits firstRules secondRules, second.visits firstRules secondRules⟩
      ⟨config, first.visits moreFirst moreSecond, second.visits moreFirst moreSecond⟩ := by
    refine ⟨rfl, fun side => ?_⟩
    cases side with
    | first => exact records first
    | second => exact records second
  have skipped (tree : ReadTree) : tree.IsSkipped moreFirst moreSecond ↔
      tree.IsSkipped firstRules secondRules ∨ rule.selector.Picks tree.root tree.root :=
    (records tree).skipped tree.root tree.root.mem_preorder_self
  rw [foundEqual_iff .greedy] at equal ⊢
  rcases equal with bothSkipped | ⟨bothKept, silent⟩
  · exact .inl ⟨(skipped first).2 (.inl bothSkipped.1), (skipped second).2 (.inl bothSkipped.2)⟩
  · have agrees := silentWith_greedy_iff.1 silent
    have parallel := parallel_roots first.root second.root
    have picks := parallel.picks_iff first.distinct second.distinct
      (lowerTag_eq_of_signature first.parsed second.parsed silent.1) rule.selector
    by_cases picked : rule.selector.Picks first.root first.root
    · exact .inl ⟨(skipped first).2 (.inr picked), (skipped second).2 (.inr (picks.1 picked))⟩
    · refine .inr ⟨⟨?_, ?_⟩, silentWith_greedy_iff.2 ?_⟩
      · rw [skipped first]
        exact not_or_intro bothKept.1 picked
      · rw [skipped second, ← picks]
        exact not_or_intro bothKept.2 picked
      · exact agrees_of_omits omits first.distinct second.distinct agrees parallel first.parsed
          second.parsed

/-- One more rule that takes out elements whatever they hold, of either document, creates no
difference in a greedy comparison. -/
theorem foundEqual_with_skipping_rule {declared : Declared} {rule : Rule}
    (checked : Rule.check declared = .ok rule) (effect : declared.effect = .node)
    (attributeName : declared.attributeName = none) (value : declared.value = none)
    (equal : FoundEqual config Policy.greedy firstRules secondRules first second) :
    FoundEqual config Policy.greedy (firstRules ++ [rule]) secondRules first second ∧
      FoundEqual config Policy.greedy firstRules (secondRules ++ [rule]) first second := by
  have sweeping := isSweeping_of_check checked effect attributeName value
  constructor
  · refine foundEqual_of_added sweeping (fun other => ?_) equal
    simp only [List.mem_append, List.mem_singleton]
    tauto
  · refine foundEqual_of_added sweeping (fun other => ?_) equal
    simp only [List.mem_append, List.mem_singleton]
    tauto

/-- The elements named `p` inside of elements named `i`. -/
def innerPart : Declared :=
  { selector := "i/p" }

def innerPartRule : Rule :=
  ⟨innerPart, ⟨["i", "p"], false⟩, .nodeByText, .always⟩

theorem foundEqual_lists_without_inner_part :
    Rule.check innerPart = .ok innerPartRule ∧
      FoundEqual .standard Policy.greedy [] [] closedList openedList ∧
      FoundEqual .standard Policy.greedy [innerPartRule] [] closedList openedList ∧
      FoundEqual .standard Policy.greedy [] [innerPartRule] closedList openedList := by
  have checked : Rule.check innerPart = .ok innerPartRule := by decide +kernel
  have equal : FoundEqual .standard Policy.greedy [] [] closedList openedList := by
    decide +kernel
  have still := foundEqual_with_skipping_rule checked (by decide) (by decide) (by decide) equal
  rw [List.nil_append] at still
  exact ⟨checked, equal, still⟩

end Comparisons

end XmlCollation.Compare
