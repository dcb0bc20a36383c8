import XmlCollation.Proofs.Compare.Relaxation
import XmlCollation.Proofs.Rules.Parallel

/-!
Contract: rules that leave an attribute out whatever its value.

Owns:
- such rules as they are declared, and the records that one of them leaves besides those of
  other rules: the nodes that its selector picks lose the attributes of its name, and nothing
  else changes;
- comparisons with one more rule of this kind, which are coarser, and documents between which
  such a rule lets differences appear.

Does not own: rules that look at values.
-/

namespace XmlCollation.Compare

open XmlCollation.Text
open XmlCollation.Tree
open XmlCollation.Markup
open XmlCollation.Rules

/-! ## Rules for attributes -/

/-- A rule that leaves the attributes of a name out on every node that its selector picks. -/
structure IsExcluding (name : String) (rule : Rule) : Prop where
  target : ∃ written, rule.target = .attributeNamed written ∧ lowered written = name
  condition : rule.condition = .always

/-- A rule for attributes is such a rule if no value is declared. -/
theorem isExcluding_of_check {declared : Declared} {rule : Rule}
    (checked : Rule.check declared = .ok rule) (effect : declared.effect = .attribute)
    (value : declared.value = none) : ∃ name, IsExcluding name rule := by
  obtain ⟨target, condition⟩ := parts_of_check checked
  rw [Declared.target, effect] at target
  cases given : declared.attributeName with
  | none =>
      rw [given] at target
      cases target
  | some written =>
      refine ⟨lowered written, ⟨written, ?_, rfl⟩, condition_of_no_value value condition⟩
      rw [given] at target
      by_cases empty : written.isEmpty = true
      · simp [empty] at target
      · simp only [empty, Bool.false_eq_true, ↓reduceIte, Except.ok.injEq] at target
        exact target.symm

/-- Records that take out what others do and, besides, the attributes of a name on the nodes
that a selector picks. -/
structure Excludes (selector : Selector) (name : String) (root : Node)
    (visits excluding : Visits) : Prop where
  skipped : ∀ node, excluding.isSkipped node = visits.isSkipped node
  picked : ∀ node ∈ root.preorder, selector.Picks root node →
    countedAttributes (excluding.excludedOf node) node =
      (countedAttributes (visits.excludedOf node) node).filter fun entry => lowered entry.1 != name
  others : ∀ node ∈ root.preorder, ¬selector.Picks root node →
    countedAttributes (excluding.excludedOf node) node =
      countedAttributes (visits.excludedOf node) node

/-- One more rule of this kind excludes its name on the nodes that its selector picks and that
have an attribute of this name. -/
theorem mem_excludedOf_added {root : Node} (distinct : root.HasDistinctPositions) {rule : Rule}
    {name : String} (excluding : IsExcluding name rule) {rules more : List Rule}
    (added : ∀ other, other ∈ more ↔ other = rule ∨ other ∈ rules) {node : Node}
    (inTree : node ∈ root.preorder) (entryName : String) :
    entryName ∈ (markRules more root []).excludedOf node ↔
      (rule.selector.Picks root node ∧ (∃ entry ∈ node.attributes, lowered entry.1 = name) ∧
          name = entryName) ∨
        entryName ∈ (markRules rules root []).excludedOf node := by
  obtain ⟨⟨written, target, named⟩, condition⟩ := excluding
  obtain ⟨trail, leads⟩ := Node.exists_leadsTo inTree
  have asked : rule.accepts node = (node.get? written).isSome := by
    rw [Rule.accepts, target, condition]
    show (node.get? written).any Condition.always.holds = (node.get? written).isSome
    cases node.get? written <;> rfl
  have accepted : rule.accepts node = true ↔ ∃ entry ∈ node.attributes, lowered entry.1 = name := by
    rw [asked, Node.get?, Option.isSome_map, List.find?_isSome, named]
    simp only [beq_iff_eq]
  have taken : rule.Excludes root node.position entryName ↔
      rule.selector.Picks root node ∧ (∃ entry ∈ node.attributes, lowered entry.1 = name) ∧
        name = entryName := by
    rw [Rule.Excludes, exists_chosen_iff distinct leads, rule.selector.picks_iff distinct leads,
      accepted, and_assoc, target]
    simp only [Target.attributeNamed.injEq, exists_eq_left', named]
  rw [Visits.excludedOf, Visits.excludedOf, excluded_markRules, excluded_markRules, ← taken]
  simp only [Visits.recorded_nil, List.not_mem_nil, false_or, added, or_and_right, exists_or,
    exists_eq_left]

theorem excludes_markRules {root : Node} (distinct : root.HasDistinctPositions) {rule : Rule}
    {name : String} (excluding : IsExcluding name rule) {rules more : List Rule}
    (added : ∀ other, other ∈ more ↔ other = rule ∨ other ∈ rules) :
    Excludes rule.selector name root (markRules rules root []) (markRules more root []) := by
  refine ⟨?_, ?_, ?_⟩
  · intro node
    obtain ⟨written, target, _⟩ := excluding.target
    have skipsNothing : ¬rule.Skips root node.position := fun skips => skips.2 written target
    rw [Bool.eq_iff_iff, Visits.isSkipped, Visits.isSkipped, skipped_markRules, skipped_markRules]
    simp only [added, or_and_right, exists_or, exists_eq_left, skipsNothing, false_or]
  · intro node inTree picked
    rw [countedAttributes, countedAttributes, ← sortAttributes_filter, List.filter_filter]
    refine congrArg sortAttributes (List.filter_congr fun entry inNode => ?_)
    have counts : lowered entry.1 ∈ (markRules more root []).excludedOf node ↔
        name = lowered entry.1 ∨ lowered entry.1 ∈ (markRules rules root []).excludedOf node := by
      rw [mem_excludedOf_added distinct excluding added inTree]
      exact or_congr_left ⟨fun taken => taken.2.2,
        fun same => ⟨picked, ⟨entry, inNode, same.symm⟩, same⟩⟩
    rw [Bool.eq_iff_iff]
    simp only [Bool.not_eq_true', List.contains_eq_mem, decide_eq_false_iff_not, counts, not_or,
      Bool.and_eq_true, bne_iff_ne, ne_eq]
    exact and_congr_left fun _ => not_congr eq_comm
  · intro node inTree notPicked
    refine Visits.countedAttributes_congr (fun entryName => ?_) node
    rw [mem_excludedOf_added distinct excluding added inTree]
    exact or_iff_right fun taken => notPicked taken.1

/-! ## Signatures -/

section Signatures

variable {config : Config} {visits visits' excluding excluding' : Visits} {selector : Selector}
  {name : String} {first second node other : Node}

/-- Attributes that are shown alike are still shown alike without those of a name. -/
theorem shown_filter_eq {entries others : List (String × String)}
    (same : entries.map (shownAttribute config) = others.map (shownAttribute config)) :
    (entries.filter fun entry => lowered entry.1 != name).map (shownAttribute config) =
      (others.filter fun entry => lowered entry.1 != name).map (shownAttribute config) := by
  rw [← List.forall₂_eq_eq_eq, List.forall₂_map_left_iff, List.forall₂_map_right_iff] at same ⊢
  refine forall₂_filter same fun entry _ entry' _ shown => ?_
  have sameName := config.lower_eq_of_fold_eq (congrArg Prod.fst shown)
  rw [lowered, lowered, sameName]

/-- Parallel nodes of one signature still have one when both trees lose the attributes of a name
on the nodes that a selector picks. -/
theorem signature_eq_of_excludes (firstDistinct : first.HasDistinctPositions)
    (secondDistinct : second.HasDistinctPositions)
    (excludes : Excludes selector name first visits excluding)
    (excludes' : Excludes selector name second visits' excluding')
    (parallel : Parallel first second node other) (parsed : HasParsedNames node)
    (otherParsed : HasParsedNames other)
    (signature : visits.signatureKey config node = visits'.signatureKey config other) :
    excluding.signatureKey config node = excluding'.signatureKey config other := by
  have sameTag := lowerTag_eq_of_signature parsed otherParsed signature
  have picks := parallel.picks_iff firstDistinct secondDistinct sameTag selector
  rw [signatureKey_eq_iff, fold_tagInside_eq_iff config (parsed_at_node parsed)
    (parsed_at_node otherParsed)] at signature ⊢
  refine ⟨signature.1, ?_⟩
  by_cases picked : selector.Picks first node
  · rw [excludes.picked node parallel.mem_preorder.1 picked,
      excludes'.picked other parallel.mem_preorder.2 (picks.1 picked)]
    exact shown_filter_eq signature.2
  · rw [excludes.others node parallel.mem_preorder.1 picked,
      excludes'.others other parallel.mem_preorder.2 fun picked' => picked (picks.2 picked')]
    exact signature.2

/-- A comparison in which both trees lose the attributes of a name on the nodes that a selector
picks is coarser than one in which they do not. -/
theorem coarsens_of_excludes (config : Config) (firstDistinct : first.HasDistinctPositions)
    (secondDistinct : second.HasDistinctPositions)
    (excludes : Excludes selector name first visits excluding)
    (excludes' : Excludes selector name second visits' excluding') :
    Outlook.Coarsens
      (fun node other => Parallel first second node other ∧ HasParsedNames node ∧
        HasParsedNames other)
      ⟨config, visits, visits'⟩ ⟨config, excluding, excluding'⟩ where
  parsed isLevel := isLevel.2
  kept side nodes := by
    refine List.filter_congr fun node _ => congrArg (!·) ?_
    cases side with
    | first => exact excludes.skipped node
    | second => exact excludes'.skipped node
  fold equal := equal
  signature := by
    rintro node other ⟨parallel, parsed, otherParsed⟩ signature
    exact signature_eq_of_excludes firstDistinct secondDistinct excludes excludes' parallel parsed
      otherParsed signature
  below := by
    rintro node other ⟨parallel, parsed, otherParsed⟩ signature child childIn partner partnerIn
    exact ⟨parallel.below (lowerTag_eq_of_signature parsed otherParsed signature) childIn partnerIn,
      hasParsedNames_of_mem_children parsed childIn,
      hasParsedNames_of_mem_children otherParsed partnerIn⟩

end Signatures

/-! ## Comparisons -/

section Comparisons

variable {config : Config} {firstRules secondRules : List Rule} {first second : ReadTree}

/-- One more rule that leaves out an attribute whatever its value lets no difference appear, if
siblings that it makes equal in signature are not confused: in greedy mode, if those of them
that trade partners agree with one another, and in optimal mode, if nothing becomes
ambiguous where the verdicts on siblings change. -/
theorem foundEqual_with_excluding_rule {declared : Declared} {rule : Rule}
    (checked : Rule.check declared = .ok rule) (effect : declared.effect = .attribute)
    (value : declared.value = none) :
    (FoundEqual config Policy.greedy firstRules secondRules first second →
      (ruledOutlook config firstRules secondRules first.root second.root).TradesAlike
        (ruledOutlook config (firstRules ++ [rule]) secondRules first.root second.root) first.root
          second.root →
      FoundEqual config Policy.greedy (firstRules ++ [rule]) secondRules first second) ∧
    ∀ solve : Solver Rat, solve.IsExact →
      FoundEqual config (Policy.optimalWith solve) firstRules secondRules first second →
        (ruledOutlook config firstRules secondRules first.root second.root).IsHarmless
          (ruledOutlook config (firstRules ++ [rule]) secondRules first.root second.root) first.root
            second.root →
        FoundEqual config (Policy.optimalWith solve) (firstRules ++ [rule]) secondRules first
          second := by
  obtain ⟨name, excluding⟩ := isExcluding_of_check checked effect value
  have added : ∀ other, other ∈ firstRules ++ [rule] ++ secondRules ↔
      other = rule ∨ other ∈ firstRules ++ secondRules := by
    intro other
    simp only [List.mem_append, List.mem_singleton]
    tauto
  have coarsens := coarsens_of_excludes config first.distinct second.distinct
    (excludes_markRules first.distinct excluding added)
    (excludes_markRules second.distinct excluding added)
  have isLevel : Parallel first.root second.root first.root second.root ∧
      HasParsedNames first.root ∧ HasParsedNames second.root :=
    ⟨parallel_roots first.root second.root, first.parsed, second.parsed⟩
  rw [← ruledOutlook_eq, ← ruledOutlook_eq] at coarsens
  constructor
  · intro equal trades
    exact foundEqual_greedy_of_coarsens coarsens isLevel equal trades
  · intro solve exact equal harmless
    exact foundEqual_optimal_of_coarsens coarsens isLevel exact equal harmless

/-- The attributes named `a` of elements named `i`. -/
def anyNumber : Declared :=
  { selector := "i", effect := .attribute, attributeName := some "a" }

def anyNumberRule : Rule :=
  ⟨anyNumber, ⟨["i"], false⟩, .attributeNamed "a", .always⟩

/-- A list of elements named `i` of empty elements, numbered by their attributes. -/
def numberedList (items : List (String × List String)) : Node :=
  ⟨"r", [], items.zipIdx.map fun entry =>
    { elementOf "i" entry.2 entry.1.2 with attributes := [("a", entry.1.1)] }, "", [], none⟩

/-- `<r><i a="1"/><i a="2"/></r>` -/
def numbersUp : ReadTree where
  root := numberedList [("1", []), ("2", [])]
  distinct := by decide
  parsed := by decide +kernel

/-- `<r><i a="2"/><i a="1"/></r>` -/
def numbersDown : ReadTree where
  root := numberedList [("2", []), ("1", [])]
  distinct := by decide
  parsed := by decide +kernel

/-- The empty elements are paired crosswise by their numbers, and agree without them. -/
theorem foundEqual_numbers_excluded :
    Rule.check anyNumber = .ok anyNumberRule ∧
      FoundEqual .standard Policy.greedy [anyNumberRule] [] numbersUp numbersDown ∧
      FoundEqual .standard (Policy.optimalWith Assignment.exhaustive) [anyNumberRule] [] numbersUp
        numbersDown := by
  have checked : Rule.check anyNumber = .ok anyNumberRule := by decide +kernel
  have excluding := @foundEqual_with_excluding_rule .standard [] [] numbersUp numbersDown anyNumber
    anyNumberRule checked (by decide) (by decide)
  rw [List.nil_append] at excluding
  obtain ⟨greedy, optimal⟩ := excluding
  refine ⟨checked, ?_, ?_⟩
  · refine greedy (by decide +kernel) (tradesAlike_of_alike numbersUp.parsed ?_ _)
    decide +kernel
  · refine optimal Assignment.exhaustive exhaustive_isExact (by decide +kernel)
      (.unambiguous (isUnambiguous_of_sameContent ?_))
    decide +kernel

/-- `<r><i a="1"><p/><q/></i><i a="2"><s/><t/></i></r>` -/
def numberedListsUp : ReadTree where
  root := numberedList [("1", ["p", "q"]), ("2", ["s", "t"])]
  distinct := by decide
  parsed := by decide +kernel

/-- `<r><i a="2"><t/><s/></i><i a="1"><q/><p/></i></r>` -/
def numberedListsDown : ReadTree where
  root := numberedList [("2", ["t", "s"]), ("1", ["q", "p"])]
  distinct := by decide
  parsed := by decide +kernel

/-- Without their numbers, each of the two inner lists is joined to the other one's partner. -/
theorem not_foundEqual_numbers_excluded :
    Rule.check anyNumber = .ok anyNumberRule ∧
    (FoundEqual .standard Policy.greedy [] [] numberedListsUp numberedListsDown ∧
      ¬FoundEqual .standard Policy.greedy [anyNumberRule] [] numberedListsUp
        numberedListsDown) ∧
    Assignment.exhaustive.IsExact ∧
      FoundEqual .standard (Policy.optimalWith Assignment.exhaustive) [] [] numberedListsUp
        numberedListsDown ∧
      ¬FoundEqual .standard (Policy.optimalWith Assignment.exhaustive) [anyNumberRule] []
        numberedListsUp numberedListsDown := by
  refine ⟨?_, ⟨?_, ?_⟩, exhaustive_isExact, ?_, ?_⟩
  · decide +kernel
  · decide +kernel
  · decide +kernel
  · decide +kernel
  · decide +kernel

end Comparisons

end XmlCollation.Compare
