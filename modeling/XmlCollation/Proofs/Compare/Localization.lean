import XmlCollation.Proofs.Compare.Correspondence
import XmlCollation.Proofs.Compare.Reports

/-!
Contract: where the differences below unequal texts are reported.

Owns:
- pairs, by the pairing of kept siblings from the roots downwards, which are the pairs
  that matching settles;
- the reports of a comparison, which make up its trace;
- what is reported below a pair of unequal texts: nothing in the first tree, and in the
  second tree nothing if and only if every kept child of an unequal pair has a partner.

Does not own: how reports are worded.
-/

namespace XmlCollation.Compare

open XmlCollation.Tree
open XmlCollation.Rules (Rule applyRules applyRules_records)

/-! ## Pairs -/

/-- The policy pairs two of the kept ones among siblings. -/
def Policy.Pairs (policy : Policy) (outlook : Outlook) (siblings : Side → List Node)
    (nodes : Side → Node) : Prop :=
  ∃ pair ∈ policy.keptPairing outlook siblings, ∀ side,
    (outlook.kept side (siblings side))[pairIndex pair side]? = some (nodes side)

/-- Pairs of nodes, from the roots downwards: below a pair of equal content there is none. -/
inductive Paired (policy : Policy) (outlook : Outlook) (roots : Side → Node) :
    (Side → Node) → Prop where
  | top {nodes : Side → Node} (pairs : policy.Pairs outlook (fun side => [roots side]) nodes) :
      Paired policy outlook roots nodes
  | child {uppers nodes : Side → Node} (upper : Paired policy outlook roots uppers)
      (unequal : outlook.sameContent .first (uppers .first) (uppers .second) = false)
      (pairs : policy.Pairs outlook (fun side => (uppers side).children) nodes) :
      Paired policy outlook roots nodes

/-- Every kept child of a pair of unequal content, at or below a node of the second tree, has
a partner. -/
def HasPartnersBelow (policy : Policy) (outlook : Outlook) (roots : Side → Node) (node : Node) :
    Prop :=
  ∀ uppers, Paired policy outlook roots uppers → uppers .second ∈ node.preorder →
    outlook.sameContent .first (uppers .first) (uppers .second) = false →
      ∀ child ∈ outlook.kept .second (uppers .second).children,
        ∃ nodes, Paired policy outlook roots nodes ∧ nodes .second = child

section Pairs

variable {start after : Comparison} {policy : Policy} {choice : Choice}
  {tops entries : List Settlement}

/-- Settlements of siblings are pairs of kept ones, and the other way round. -/
theorem Policy.Settles.pairs_iff (pairing : choice.IsPairing) (follows : policy.Follows choice)
    (prepared : ∀ side, (start.view side).visits.Prepared) {above : String}
    {siblings : Side → List Node} (settles : policy.Settles start above siblings tops)
    (nodes : Side → Node) :
    policy.Pairs start.outlook siblings nodes ↔ ∃ top ∈ tops, top.node = nodes := by
  obtain ⟨_, ⟨state, lefts, rights, continues, level, rfl⟩, given, covered⟩ := settles
  have pairs_eq := (pair_fresh follows prepared continues level).1
  -- The indexes of a pair among the kept siblings and among all of them lead to its nodes.
  have settled_of {pair : Nat × Nat} {pairNodes : Side → Node} {top : Settlement}
      (atPair : ∀ side,
        (start.outlook.kept side (siblings side))[pairIndex pair side]? = some (pairNodes side))
      (isAt : top.IsAt start.outlook above siblings
        (siblingIndex (unvisited (state.view .first).visits lefts) pair.1,
          siblingIndex (unvisited (state.view .second).visits rights) pair.2)) :
      top.node = pairNodes := by
    obtain ⟨left, right, atLeft, atRight, isPair⟩ := exists_places_of_pair prepared level atPair
    funext side
    have atSide := isAt.at_pair side
    rw [level.nodes_eq, List.getElem?_map] at atSide
    rw [← isPair.node_eq]
    cases side with
    | first =>
        have atNode := congrArg (Option.map Place.node) atLeft
        exact (Option.some.inj (atNode.symm.trans atSide)).symm
    | second =>
        have atNode := congrArg (Option.map Place.node) atRight
        exact (Option.some.inj (atNode.symm.trans atSide)).symm
  constructor
  · rintro ⟨pair, member, atPair⟩
    obtain ⟨top, topMember, isAt⟩ := given _ (by
      rw [pairs_eq]
      exact List.mem_map_of_mem member)
    exact ⟨top, topMember, settled_of atPair isAt⟩
  · rintro ⟨top, topMember, rfl⟩
    obtain ⟨_, member, isAt⟩ := covered top topMember
    rw [pairs_eq] at member
    obtain ⟨pair, pairMember, rfl⟩ := List.mem_map.1 member
    obtain ⟨pairNodes, atPair, _⟩ :=
      exists_nodes_of_pair pairing follows (prepared_outlook prepared) pairMember
    rw [settled_of atPair isAt]
    exact ⟨pair, pairMember, atPair⟩

/-- The pairs of nodes are the entries of the journal. -/
theorem TreeJournal.paired_iff (journal : TreeJournal start after policy tops entries)
    (offered : policy.Offered) (nodes : Side → Node) :
    Paired policy start.outlook (fun side => (start.view side).root) nodes ↔
      ∃ entry ∈ entries, entry.node = nodes := by
  obtain ⟨choice, pairing, follows⟩ := offered.choice
  have prepared := journal.ready.prepared
  constructor
  · intro paired
    induction paired with
    | top pairs =>
        obtain ⟨top, topMember, rfl⟩ :=
          (journal.settles.pairs_iff pairing follows prepared _).1 pairs
        exact ⟨top, journal.tops_subset topMember, rfl⟩
    | child _ unequal pairs inductionHypothesis =>
        obtain ⟨entry, member, rfl⟩ := inductionHypothesis
        obtain ⟨children, settles, included⟩ := journal.closed entry member unequal
        obtain ⟨child, childMember, rfl⟩ := (settles.pairs_iff pairing follows prepared _).1 pairs
        exact ⟨child, included childMember, rfl⟩
  · rintro ⟨entry, member, rfl⟩
    induction journal.grown entry member with
    | top topMember =>
        exact .top ((journal.settles.pairs_iff pairing follows prepared _).2 ⟨_, topMember, rfl⟩)
    | child _ parentMember unequal settles given inductionHypothesis =>
        exact .child (inductionHypothesis parentMember) unequal
          ((settles.pairs_iff pairing follows prepared _).2 ⟨_, given, rfl⟩)

end Pairs

/-! ## Below an entry -/

section Below

variable {start after : Comparison} {policy : Policy} {tops entries : List Settlement}
  {entry : Settlement}

/-- Whatever lies strictly above a node of an entry is a node of an entry of unequal
content. -/
theorem TreeJournal.exists_above (journal : TreeJournal start after policy tops entries)
    (member : entry ∈ entries) {side : Side} {upper : Node}
    (upperIn : upper ∈ (start.view side).root.preorder) (below : IsBelow upper (entry.node side)) :
    ∃ other ∈ entries, other.node side = upper ∧ other.isEqual start.outlook = false := by
  have distinct := journal.ready.distinct side
  induction journal.grown entry member with
  | top topMember =>
      rw [journal.top_eq topMember side] at below
      exact (not_isBelow_root distinct upperIn below).elim
  | @child parent entry _ _ parentMember unequal settles given inductionHypothesis =>
      have parentIn := parent_mem_preorder distinct upperIn (journal.inTree parentMember side)
        (settles.mem given side) below
      rcases mem_preorder_iff_isBelow.1 parentIn with same | belowUpper
      · exact ⟨parent, parentMember, same, unequal⟩
      · exact inductionHypothesis parentMember belowUpper

/-- Reports are about the nodes to which the walk gets and of which something is to be said. -/
theorem TreeJournal.reported_iff (journal : TreeJournal start after policy tops entries)
    (side : Side) (node : Node) :
    (∃ difference, (node, difference) ∈ (after.view side).reports side) ↔
      node ∈ (start.view side).root.preorder ∧
        (after.view side).visits.IsOpen (start.view side).root node ∧
        (after.view side).visits.Speaks node := by
  rw [View.reports, journal.continues.root]
  exact (after.view side).visits.exists_mem_reports_iff side (journal.ready.distinct side) "" node

/-- Of a node of the second tree, in which no difference is recorded, something is to be said
if and only if it is unvisited. -/
theorem TreeJournal.second_speaks_iff (journal : TreeJournal start after policy tops entries)
    (node : Node) :
    after.second.visits.Speaks node ↔ after.second.visits.isUnvisited node = true := by
  rw [Visits.isUnvisited, beq_iff_eq]
  constructor
  · rintro (unvisited | ⟨_, different⟩)
    · exact unvisited
    · exact (different (journal.second_silent node.position)).elim
  · exact .inl

/-- In the second tree the walk goes on below every entry of unequal content. -/
theorem TreeJournal.second_isPassed (journal : TreeJournal start after policy tops entries)
    (member : entry ∈ entries) (unequal : entry.isEqual start.outlook = false) :
    after.second.visits.IsPassed (entry.node .second) := by
  refine ⟨?_, journal.second_silent _⟩
  have mark_eq := journal.mark_eq member .second
  rwa [unequal, if_neg Bool.false_ne_true] at mark_eq

/-- In the second tree the walk gets to every child of an entry of unequal content. -/
theorem TreeJournal.isOpen_child (journal : TreeJournal start after policy tops entries)
    (member : entry ∈ entries) (unequal : entry.isEqual start.outlook = false) {child : Node}
    (childMember : child ∈ entry.children .second) :
    after.second.visits.IsOpen start.second.root child := by
  intro upper upperIn below
  have entryIn := parent_mem_preorder (journal.ready.distinct .second) upperIn
    (journal.inTree member .second) childMember below
  rcases mem_preorder_iff_isBelow.1 entryIn with rfl | belowUpper
  · exact journal.second_isPassed member unequal
  · obtain ⟨other, otherMember, rfl, otherUnequal⟩ :=
      journal.exists_above member upperIn belowUpper
    exact journal.second_isPassed otherMember otherUnequal

/-- A kept child of an entry of unequal content is reported of the second tree, or it belongs
to an entry. -/
theorem TreeJournal.reported_or_settled (journal : TreeJournal start after policy tops entries)
    (member : entry ∈ entries) (unequal : entry.isEqual start.outlook = false) {child : Node}
    (childMember : child ∈ start.outlook.kept .second (entry.children .second)) :
    (∃ difference, (child, difference) ∈ after.second.reports .second) ∨
      ∃ other ∈ entries, other.node .second = child := by
  rw [Outlook.kept, visits_outlook, Visits.mem_kept] at childMember
  cases isUnvisited : after.second.visits.isUnvisited child with
  | false =>
      obtain ⟨other, otherMember, same, _⟩ :=
        journal.exists_child_entry member childMember.1 childMember.2 isUnvisited
      exact .inr ⟨other, otherMember, same⟩
  | true =>
      have childIn := Node.mem_preorder_trans (journal.inTree member .second)
        (Node.child_mem_preorder childMember.1)
      exact .inl ((journal.reported_iff .second child).2
        ⟨childIn, journal.isOpen_child member unequal childMember.1,
          (journal.second_speaks_iff child).2 isUnvisited⟩)

/-- What is reported below a node of the second tree is a kept child of an entry of unequal
content, and belongs to no entry. -/
theorem TreeJournal.exists_parent_of_reported
    (journal : TreeJournal start after policy tops entries) {node lower : Node}
    (inTree : node ∈ start.second.root.preorder) (below : IsBelow node lower)
    (reported : ∃ difference, (lower, difference) ∈ after.second.reports .second) :
    (∃ entry ∈ entries, entry.node .second ∈ node.preorder ∧
        entry.isEqual start.outlook = false ∧
        lower ∈ start.outlook.kept .second (entry.children .second)) ∧
      ∀ other ∈ entries, other.node .second ≠ lower := by
  obtain ⟨_, isOpen, speaks⟩ := (journal.reported_iff .second lower).1 reported
  have isUnvisited := (journal.second_speaks_iff lower).1 speaks
  constructor
  · obtain ⟨parent, parentIn, isChild⟩ := exists_parent_of_isBelow below
    have parentInTree := Node.mem_preorder_trans inTree parentIn
    have passed := isOpen parent parentInTree (isBelow_of_mem_children isChild)
    obtain ⟨entry, member, rfl, unequal⟩ :=
      journal.exists_entry_of_shallow .second parentInTree passed.1
    have kept : start.second.visits.isSkipped lower = false := by
      apply journal.kept_of_mark .second
      show after.second.visits.markOf lower ≠ .deep
      rw [beq_iff_eq.1 isUnvisited]
      decide
    refine ⟨entry, member, parentIn, unequal, ?_⟩
    rw [Outlook.kept, visits_outlook]
    exact Visits.mem_kept.2 ⟨isChild, kept⟩
  · rintro other otherMember rfl
    have visited : after.second.visits.isUnvisited (other.node .second) = false :=
      journal.isUnvisited_eq otherMember .second
    rw [isUnvisited] at visited
    cases visited

/-- Nothing is reported below a node of the second tree if and only if all that was kept
there has partners. -/
theorem TreeJournal.second_reports_iff (journal : TreeJournal start after policy tops entries)
    (offered : policy.Offered) {node : Node} (inTree : node ∈ start.second.root.preorder) :
    (∀ report ∈ after.second.reports .second, ¬IsBelow node report.1) ↔
      HasPartnersBelow policy start.outlook (fun side => (start.view side).root) node := by
  have paired_iff := journal.paired_iff offered
  constructor
  · intro nothing uppers paired inNode unequal child childMember
    obtain ⟨entry, member, rfl⟩ := (paired_iff uppers).1 paired
    rcases journal.reported_or_settled member unequal childMember with
      ⟨difference, reported⟩ | ⟨other, otherMember, same⟩
    · obtain ⟨isChild, _⟩ := Visits.mem_kept.1 childMember
      have below : IsBelow node child := by
        rcases mem_preorder_iff_isBelow.1 inNode with same | ⟨top, topMember, inTop⟩
        · rw [← same]
          exact isBelow_of_mem_children isChild
        · exact ⟨top, topMember, Node.mem_preorder_trans inTop (Node.child_mem_preorder isChild)⟩
      exact (nothing _ reported below).elim
    · exact ⟨other.node, (paired_iff _).2 ⟨other, otherMember, rfl⟩, same⟩
  · rintro partners ⟨lower, difference⟩ reported below
    obtain ⟨⟨entry, member, inNode, unequal, isKept⟩, unsettled⟩ :=
      journal.exists_parent_of_reported inTree below ⟨difference, reported⟩
    obtain ⟨nodes, paired, same⟩ := partners entry.node
      ((paired_iff _).2 ⟨entry, member, rfl⟩) inNode unequal lower isKept
    obtain ⟨other, otherMember, rfl⟩ := (paired_iff nodes).1 paired
    exact unsettled other otherMember same

/-- Nothing is reported below a node of which something is reported in the same tree. -/
theorem TreeJournal.silent_below_reported (journal : TreeJournal start after policy tops entries)
    {side : Side} {node : Node} {difference : Difference}
    (reported : (node, difference) ∈ (after.view side).reports side) :
    ∀ report ∈ (after.view side).reports side, ¬IsBelow node report.1 := by
  obtain ⟨inTree, _, speaks⟩ := (journal.reported_iff side node).1 ⟨difference, reported⟩
  rintro ⟨lower, found⟩ lowerReported below
  obtain ⟨_, isOpen, _⟩ := (journal.reported_iff side lower).1 ⟨found, lowerReported⟩
  exact speaks.not_isPassed (isOpen node inTree below)

end Below

/-! ## Whole comparisons -/

section Whole

variable (config : Config) (policy : Policy) (firstRules secondRules : List Rule)
  (first second : Node)

/-- What a comparison reports of the tree of a side. -/
def comparisonReports (side : Side) : List (Node × Difference) :=
  (((applyRules firstRules secondRules
    (Comparison.start config first second {})).matchTrees policy).view side).reports side

variable {config policy firstRules secondRules first second}

theorem exists_journal_of_offered (offered : policy.Offered)
    (firstDistinct : first.HasDistinctPositions) (secondDistinct : second.HasDistinctPositions) :
    ∃ tops entries,
      TreeJournal (applyRules firstRules secondRules (Comparison.start config first second {}))
        ((applyRules firstRules secondRules
          (Comparison.start config first second {})).matchTrees policy) policy tops entries :=
  exists_treeJournal offered.isLawful (isReady_applyRules firstDistinct secondDistinct {})

/-- The reports of both trees, without their nodes, are what a comparison finds. -/
theorem findings_eq_reports (offered : policy.Offered)
    (firstDistinct : first.HasDistinctPositions) (secondDistinct : second.HasDistinctPositions) :
    findings config policy firstRules secondRules first second =
      (comparisonReports config policy firstRules secondRules first second .first ++
        comparisonReports config policy firstRules secondRules first second .second).map
          Prod.snd := by
  obtain ⟨_, _, journal⟩ := @exists_journal_of_offered config policy firstRules secondRules first
    second offered firstDistinct secondDistinct
  have sameTrace := (applyRules_records firstRules secondRules
    (Comparison.start config first second {})).1.trace
  rw [List.map_append, comparisonReports, comparisonReports, View.reports, View.reports,
    Visits.reports_map_snd, Visits.reports_map_snd]
  show (Comparison.collectBoth _).trace.differences = _
  rw [differences_collectBoth, journal.continues.trace, sameTrace]
  rfl

/-- What a comparison finds is made up of reports. Below a pair of unequal texts that are
reported, nothing is reported of the first tree, and nothing of the second one if and only if
all that was kept there has partners. -/
theorem reports_below_unequal_texts (offered : policy.Offered)
    (firstDistinct : first.HasDistinctPositions) (secondDistinct : second.HasDistinctPositions) :
    findings config policy firstRules secondRules first second =
        (comparisonReports config policy firstRules secondRules first second .first ++
          comparisonReports config policy firstRules secondRules first second .second).map
            Prod.snd ∧
      ∀ (nodes : Side → Node) (signature : String),
        Paired policy (ruledOutlook config firstRules secondRules first second)
            (bySide first second) nodes →
          (nodes .first, textDifference signature (nodes .first) (nodes .second)) ∈
              comparisonReports config policy firstRules secondRules first second .first →
            (∀ report ∈ comparisonReports config policy firstRules secondRules first second .first,
                ¬IsBelow (nodes .first) report.1) ∧
              ((∀ report ∈ comparisonReports config policy firstRules secondRules first second
                    .second, ¬IsBelow (nodes .second) report.1) ↔
                HasPartnersBelow policy (ruledOutlook config firstRules secondRules first second)
                  (bySide first second) (nodes .second)) := by
  refine ⟨findings_eq_reports offered firstDistinct secondDistinct, ?_⟩
  obtain ⟨_, entries, journal⟩ := @exists_journal_of_offered config policy firstRules secondRules
    first second offered firstDistinct secondDistinct
  have sameRoot := (applyRules_records firstRules secondRules
    (Comparison.start config first second {})).1.root
  rw [ruledOutlook]
  unfold comparisonReports
  generalize applyRules firstRules secondRules (Comparison.start config first second {}) =
    ruled at *
  have roots_eq : bySide first second = fun side => (ruled.view side).root := by
    funext side
    rw [sameRoot]
    cases side <;> rfl
  rw [roots_eq]
  intro nodes signature paired reported
  obtain ⟨entry, member, rfl⟩ := (journal.paired_iff offered nodes).1 paired
  exact ⟨journal.silent_below_reported reported,
    journal.second_reports_iff offered (journal.inTree member .second)⟩

end Whole

/-- The child of the second tree is reported, although the texts of the roots differ. -/
theorem not_silent_below_unequal_texts :
    withoutChild.HasDistinctPositions ∧ withChild.HasDistinctPositions ∧
      ¬∀ (nodes : Side → Node) (signature : String),
        Paired Policy.greedy (ruledOutlook .standard [] [] withoutChild withChild)
            (bySide withoutChild withChild) nodes →
          (nodes .first, textDifference signature (nodes .first) (nodes .second)) ∈
              comparisonReports .standard Policy.greedy [] [] withoutChild withChild .first →
            ∀ side, ∀ report ∈ comparisonReports .standard Policy.greedy [] [] withoutChild
              withChild side, ¬IsBelow (nodes side) report.1 := by
  refine ⟨by decide, by decide, ?_⟩
  intro silent
  have paired : Paired Policy.greedy (ruledOutlook .standard [] [] withoutChild withChild)
      (bySide withoutChild withChild) (bySide withoutChild withChild) :=
    .top ⟨(0, 0), by decide +kernel, fun side => by cases side <;> decide +kernel⟩
  have child : (⟨"x", [], [], "", [0], none⟩ : Node) ∈ withChild.children := by decide
  have unreported := silent _ "<r>" paired (by decide +kernel) .second
    (⟨"x", [], [], "", [0], none⟩, presenceDifference .second "<r><x>") (by decide +kernel)
  exact unreported (isBelow_of_mem_children child)

/-- The texts of `<a>1</a>` and `<a>2</a>`, which have no children, are reported, and nothing
below. -/
theorem silent_below_earlier_later :
    ((⟨"a", [], [], "1", [0], none⟩ : Node), textDifference "<r><a>"
        ⟨"a", [], [], "1", [0], none⟩ ⟨"a", [], [], "2", [0], none⟩) ∈
        comparisonReports .standard Policy.greedy [] [] earlierEntries laterEntries .first ∧
      ∀ side, ∀ report ∈ comparisonReports .standard Policy.greedy [] [] earlierEntries
        laterEntries side, ¬IsBelow (bySide (⟨"a", [], [], "1", [0], none⟩ : Node)
          ⟨"a", [], [], "2", [0], none⟩ side) report.1 := by
  have roots : Paired Policy.greedy (ruledOutlook .standard [] [] earlierEntries laterEntries)
      (bySide earlierEntries laterEntries) (bySide earlierEntries laterEntries) :=
    .top ⟨(0, 0), by decide +kernel, fun side => by cases side <;> decide +kernel⟩
  have paired : Paired Policy.greedy (ruledOutlook .standard [] [] earlierEntries laterEntries)
      (bySide earlierEntries laterEntries)
      (bySide ⟨"a", [], [], "1", [0], none⟩ ⟨"a", [], [], "2", [0], none⟩) :=
    .child roots (by decide +kernel)
      ⟨(0, 0), by decide +kernel, fun side => by cases side <;> decide +kernel⟩
  have reported : ((⟨"a", [], [], "1", [0], none⟩ : Node), textDifference "<r><a>"
      ⟨"a", [], [], "1", [0], none⟩ ⟨"a", [], [], "2", [0], none⟩) ∈
      comparisonReports .standard Policy.greedy [] [] earlierEntries laterEntries .first := by
    decide +kernel
  obtain ⟨firstSilent, secondSilent⟩ := (@reports_below_unequal_texts .standard Policy.greedy
    [] [] earlierEntries laterEntries .greedy (by decide) (by decide)).2 _ _ paired reported
  refine ⟨reported, ?_⟩
  intro side
  cases side with
  | first => exact firstSilent
  | second =>
      apply secondSilent.2
      intro uppers _ inNode _ child childMember
      have isLeaf : uppers .second = ⟨"a", [], [], "2", [0], none⟩ := List.mem_singleton.1 inNode
      rw [isLeaf] at childMember
      cases childMember

end XmlCollation.Compare
