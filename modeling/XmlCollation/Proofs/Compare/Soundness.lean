import XmlCollation.Proofs.Compare.Augmenting
import XmlCollation.Proofs.Compare.Correspondence
import XmlCollation.Proofs.Compare.Serialization

/-!
Contract: what an empty trace says about two documents.

Owns:
- the nodes that count: neither they nor anything above them was taken out;
- nodes that correspond, from the roots downwards: by the pairs that were settled, and
  in document order below pairs of equal content;
- if a comparison by a lawful policy finds nothing, all nodes that count correspond, one
  to one, with equal keys of signatures and texts.

Does not own: whether the siblings come in the same order.
-/

namespace XmlCollation.Compare

open XmlCollation.Tree
open XmlCollation.Markup
open XmlCollation.Rules (Rule applyRules applyRules_records)

/-! ## Nodes that count -/

/-- A node of the tree, such that neither it nor anything above it was taken out. -/
def Outlook.Counts (outlook : Outlook) (side : Side) (root node : Node) : Prop :=
  node ∈ root.preorder ∧ ∀ upper ∈ root.preorder, node ∈ upper.preorder →
    (outlook.visits side).isSkipped upper = false

/-- A bijection between the nodes that count which preserves the root, parents, and the
keys of signatures and texts. -/
structure IsCorrespondence (outlook : Outlook) (first second : Node)
    (partner : {node // outlook.Counts .first first node} ≃
      {node // outlook.Counts .second second node}) : Prop where
  roots : ArePartners partner (bySide first second)
  parents : ∀ nodes uppers, ArePartners partner nodes → ArePartners partner uppers →
    (nodes .first ∈ (uppers .first).children ↔ nodes .second ∈ (uppers .second).children)
  signatures : ∀ nodes, ArePartners partner nodes →
    (outlook.keys .first (nodes .first)).signature =
      (outlook.keys .second (nodes .second)).signature
  texts : ∀ nodes, ArePartners partner nodes →
    textKey outlook.config (nodes .first) = textKey outlook.config (nodes .second)

/-! ## Silent nodes -/

section Silent

variable {visits : Visits} {side : Side} {above : String} {node : Node}

theorem isUnvisited_of_silent (silent : visits.differences side above node = []) :
    visits.isUnvisited node = false := by
  rw [Visits.differences_eq] at silent
  rw [Visits.isUnvisited]
  cases mark : visits.markOf node with
  | unvisited => simp [mark] at silent
  | shallow => rfl
  | deep => rfl

/-- Below a shallow mark, silence goes down to the children. -/
theorem parts_of_silent (silent : visits.differences side above node = [])
    (shallow : visits.markOf node = .shallow) :
    visits.differenceOf node = none ∧
      ∀ child ∈ node.children,
        visits.differences side (above ++ visits.signature node) child = [] := by
  rw [Visits.differences_eq, shallow] at silent
  cases difference : visits.differenceOf node with
  | some found => simp [difference] at silent
  | none =>
      refine ⟨rfl, ?_⟩
      rwa [difference, Option.map_none, Option.getD_none, Visits.differencesAll_eq_flatMap,
        List.flatMap_eq_nil_iff] at silent

end Silent

/-! ## Corresponding nodes -/

/-- Two nodes below a pair correspond: at the same place among the kept children if the
contents of the pair are equal, and by an entry otherwise. -/
inductive Descends (start : Comparison) (entries : List Settlement) (uppers : Side → Node) :
    (Side → Node) → Prop where
  | copied {nodes : Side → Node} {index : Nat}
      (equal : start.outlook.sameContent .first (uppers .first) (uppers .second) = true)
      (at_index : ∀ side,
        (start.outlook.kept side (uppers side).children)[index]? = some (nodes side)) :
      Descends start entries uppers nodes
  | settled {entry : Settlement}
      (unequal : start.outlook.sameContent .first (uppers .first) (uppers .second) = false)
      (member : entry ∈ entries) (members : ∀ side, entry.node side ∈ (uppers side).children) :
      Descends start entries uppers entry.node

/-- The roots correspond, and whatever descends from corresponding nodes. -/
inductive Corresponds (start : Comparison) (entries : List Settlement) :
    (Side → Node) → Prop where
  | roots : Corresponds start entries fun side => (start.view side).root
  | child {uppers nodes : Side → Node} (upper : Corresponds start entries uppers)
      (descends : Descends start entries uppers nodes) : Corresponds start entries nodes

theorem Descends.mem {start : Comparison} {entries : List Settlement} {uppers nodes : Side → Node}
    (descends : Descends start entries uppers nodes) (side : Side) :
    nodes side ∈ (uppers side).children := by
  cases descends with
  | copied _ at_index => exact (Visits.mem_kept.1 (List.mem_of_getElem? (at_index side))).1
  | settled _ _ members => exact members side

section Corresponding

variable {start after : Comparison} {policy : Policy} {tops entries : List Settlement}
  {uppers nodes : Side → Node}

theorem Corresponds.inTree (corresponds : Corresponds start entries nodes) (side : Side) :
    nodes side ∈ (start.view side).root.preorder := by
  induction corresponds with
  | roots => exact Node.mem_preorder_self _
  | child _ descends inductionHypothesis =>
      exact Node.mem_preorder_trans inductionHypothesis (Node.child_mem_preorder (descends.mem side))

/-- A node below a pair corresponds to one node at most. -/
theorem Descends.unique (journal : TreeJournal start after policy tops entries)
    (upper : Corresponds start entries uppers) (descends : Descends start entries uppers nodes)
    {others : Side → Node} (otherDescends : Descends start entries uppers others) {side : Side}
    (same : nodes side = others side) : nodes = others := by
  have separate : AreSeparate (uppers side).children := separate_children
    (hasDistinctPositions_of_mem_preorder (journal.ready.distinct side) (upper.inTree side))
  cases descends with
  | @copied nodes index equal atIndex =>
      cases otherDescends with
      | @copied others index' _ atIndex' =>
          obtain rfl : index = index' := by
            by_contra different
            have apart := apart_of_ne (separate.sublist List.filter_sublist) (atIndex side)
              (atIndex' side) different
            rw [same] at apart
            exact apart _ (others side).position_mem_positions (others side).position_mem_positions
          funext walked
          exact Option.some.inj ((atIndex walked).symm.trans (atIndex' walked))
      | settled unequal _ _ =>
          rw [equal] at unequal
          cases unequal
  | settled unequal member _ =>
      cases otherDescends with
      | copied equal _ =>
          rw [equal] at unequal
          cases unequal
      | settled _ otherMember _ => rw [journal.eq_of_node_eq member otherMember same]

/-- No node corresponds to two. -/
theorem Corresponds.unique (journal : TreeJournal start after policy tops entries)
    (corresponds : Corresponds start entries nodes) {others : Side → Node}
    (otherCorresponds : Corresponds start entries others) {side : Side}
    (same : nodes side = others side) : nodes = others := by
  have distinct := journal.ready.distinct side
  have notRoot {uppers nodes : Side → Node} (upper : Corresponds start entries uppers)
      (descends : Descends start entries uppers nodes)
      (atRoot : (start.view side).root = nodes side) : False := by
    apply root_notMem_children distinct (upper.inTree side)
    rw [atRoot]
    exact descends.mem side
  induction corresponds generalizing others with
  | roots =>
      cases otherCorresponds with
      | roots => rfl
      | child otherUpper otherDescends => exact (notRoot otherUpper otherDescends same).elim
  | @child uppers nodes upper descends inductionHypothesis =>
      cases otherCorresponds with
      | roots => exact (notRoot upper descends same.symm).elim
      | @child others' _ otherUpper otherDescends =>
          have sameUpper : uppers side = others' side := by
            apply parent_unique distinct (upper.inTree side) (otherUpper.inTree side)
              (descends.mem side)
            rw [same]
            exact otherDescends.mem side
          obtain rfl := inductionHypothesis otherUpper sameUpper
          exact descends.unique journal upper otherDescends same

/-- Corresponding nodes have corresponding parents. -/
theorem Corresponds.mem_children (journal : TreeJournal start after policy tops entries)
    (corresponds : Corresponds start entries nodes) (upper : Corresponds start entries uppers)
    (side : Side) (member : nodes side ∈ (uppers side).children) (walked : Side) :
    nodes walked ∈ (uppers walked).children := by
  cases corresponds with
  | roots =>
      exact (root_notMem_children (journal.ready.distinct side) (upper.inTree side) member).elim
  | @child others _ other descends =>
      have same : others side = uppers side := parent_unique (journal.ready.distinct side)
        (other.inTree side) (upper.inTree side) (descends.mem side) member
      obtain rfl := other.unique journal upper same
      exact descends.mem walked

/-! ## Nothing was found -/

/-- The contents of the nodes are equal, or they are those of an entry of which nothing is
reported. -/
def IsSettled (start after : Comparison) (entries : List Settlement) (nodes : Side → Node) :
    Prop :=
  start.outlook.sameContent .first (nodes .first) (nodes .second) = true ∨
    (∃ entry ∈ entries, entry.node = nodes) ∧
      ∀ side, ∃ above, (after.view side).visits.differences side above (nodes side) = []

/-- Neither node of an entry of unequal content and without reports has a difference, and
nothing is reported of their children. -/
theorem TreeJournal.parts_of_silent {entry : Settlement}
    (journal : TreeJournal start after policy tops entries) (member : entry ∈ entries)
    (unequal : entry.isEqual start.outlook = false)
    (silent : ∀ side, ∃ above,
      (after.view side).visits.differences side above (entry.node side) = []) (side : Side) :
    (after.view side).visits.differenceOf (entry.node side) = none ∧
      ∀ child ∈ (entry.node side).children, ∃ above,
        (after.view side).visits.differences side above child = [] := by
  obtain ⟨above, nothing⟩ := silent side
  have shallow : (after.view side).visits.markOf (entry.node side) = .shallow := by
    rw [journal.mark_eq member, unequal, if_neg Bool.false_ne_true]
  obtain ⟨noDifference, below⟩ := Compare.parts_of_silent nothing shallow
  exact ⟨noDifference, fun child childMember => ⟨_, below child childMember⟩⟩

theorem hasParsedNames_of_mem_preorder {root node : Node} (parsed : HasParsedNames root)
    (inTree : node ∈ root.preorder) : HasParsedNames node :=
  fun lower below => parsed lower (Node.mem_preorder_trans inTree below)

section Settled

variable (journal : TreeJournal start after policy tops entries)
  (parsed : ∀ side, HasParsedNames (start.view side).root)
  (rootsSettled : IsSettled start after entries fun side => (start.view side).root)

include parsed in
theorem Corresponds.parts_of_sameContent (corresponds : Corresponds start entries nodes)
    (equal : start.outlook.sameContent .first (nodes .first) (nodes .second) = true) :
    (start.outlook.keys .first (nodes .first)).signature =
        (start.outlook.keys .second (nodes .second)).signature ∧
      textKey start.outlook.config (nodes .first) = textKey start.outlook.config (nodes .second) ∧
      List.Forall₂ (fun child child' => start.outlook.sameContent .first child child' = true)
        (start.outlook.kept .first (nodes .first).children)
        (start.outlook.kept .second (nodes .second).children) :=
  Compare.parts_of_sameContent
    (hasParsedNames_of_mem_preorder (parsed .first) (corresponds.inTree .first))
    (hasParsedNames_of_mem_preorder (parsed .second) (corresponds.inTree .second)) equal

include journal parsed rootsSettled in
/-- If nothing is reported of the roots, nothing is reported of what corresponds. -/
theorem Corresponds.isSettled (corresponds : Corresponds start entries nodes) :
    IsSettled start after entries nodes := by
  induction corresponds with
  | roots => exact rootsSettled
  | @child uppers nodes upper descends inductionHypothesis =>
      cases descends with
      | @copied nodes index equal atIndex =>
          have pairwise := (upper.parts_of_sameContent parsed equal).2.2
          obtain ⟨inRange, first_eq⟩ := List.getElem?_eq_some_iff.1 (atIndex .first)
          obtain ⟨inRange', second_eq⟩ := List.getElem?_eq_some_iff.1 (atIndex .second)
          have sameHere := pairwise.get inRange inRange'
          rw [List.get_eq_getElem, List.get_eq_getElem, first_eq, second_eq] at sameHere
          exact .inl sameHere
      | settled unequal member members =>
          refine .inr ⟨⟨_, member, rfl⟩, ?_⟩
          rcases inductionHypothesis with equal | ⟨⟨entry, entryMember, rfl⟩, silent⟩
          · rw [equal] at unequal
            cases unequal
          · intro side
            exact (journal.parts_of_silent entryMember unequal silent side).2 _ (members side)

include journal parsed rootsSettled in
theorem Corresponds.sameKeys (corresponds : Corresponds start entries nodes) :
    (start.outlook.keys .first (nodes .first)).signature =
        (start.outlook.keys .second (nodes .second)).signature ∧
      textKey start.outlook.config (nodes .first) =
        textKey start.outlook.config (nodes .second) := by
  cases equal : start.outlook.sameContent .first (nodes .first) (nodes .second) with
  | true =>
      obtain ⟨signature, text, _⟩ := corresponds.parts_of_sameContent parsed equal
      exact ⟨signature, text⟩
  | false =>
      rcases corresponds.isSettled journal parsed rootsSettled with
        isEqual | ⟨⟨entry, member, rfl⟩, silent⟩
      · rw [equal] at isEqual
        cases isEqual
      · refine ⟨(journal.kept_and_signature member).2, ?_⟩
        have noDifference := (journal.parts_of_silent member equal silent .first).1
        have difference_eq := journal.differenceOf_eq member .first
        rw [noDifference, Settlement.isEqual, equal, if_neg Bool.false_ne_true, recordedDifference,
          bySide, textDifference?] at difference_eq
        show textKey start.config (entry.node .first) = textKey start.config (entry.node .second)
        by_contra different
        rw [if_neg different] at difference_eq
        cases difference_eq

include journal parsed rootsSettled in
/-- Every kept child of corresponding nodes corresponds to one. -/
theorem Corresponds.exists_below (upper : Corresponds start entries uppers) {side : Side}
    {child : Node} (childMember : child ∈ (uppers side).children)
    (kept : (start.view side).visits.isSkipped child = false) :
    ∃ nodes, Descends start entries uppers nodes ∧ nodes side = child := by
  cases equal : start.outlook.sameContent .first (uppers .first) (uppers .second) with
  | true =>
      have lengths := (upper.parts_of_sameContent parsed equal).2.2.length_eq
      have inKept : child ∈ start.outlook.kept side (uppers side).children := by
        rw [Outlook.kept, visits_outlook]
        exact Visits.mem_kept.2 ⟨childMember, kept⟩
      obtain ⟨index, atIndex⟩ := List.mem_iff_getElem?.1 inKept
      have inRange := (List.getElem?_eq_some_iff.1 atIndex).1
      have exists_at (walked : Side) :
          ∃ node, (start.outlook.kept walked (uppers walked).children)[index]? = some node := by
        refine ⟨_, List.getElem?_eq_getElem ?_⟩
        cases side <;> cases walked <;> omega
      choose nodes atNodes using exists_at
      refine ⟨nodes, .copied equal atNodes, ?_⟩
      exact Option.some.inj ((atNodes side).symm.trans atIndex)
  | false =>
      rcases upper.isSettled journal parsed rootsSettled with
        isEqual | ⟨⟨entry, member, rfl⟩, silent⟩
      · rw [equal] at isEqual
        cases isEqual
      · obtain ⟨above, nothing⟩ := (journal.parts_of_silent member equal silent side).2 _ childMember
        obtain ⟨other, otherMember, rfl, members⟩ := journal.exists_child_entry member childMember
          kept (isUnvisited_of_silent nothing)
        exact ⟨other.node, .settled equal otherMember members, rfl⟩

include journal in
/-- Neither a corresponding node nor anything above it was taken out. -/
theorem Corresponds.counts (rootsKept : ∀ side,
      (start.view side).visits.isSkipped (start.view side).root = false)
    (corresponds : Corresponds start entries nodes) (side : Side) :
    start.outlook.Counts side (start.view side).root (nodes side) := by
  refine ⟨corresponds.inTree side, ?_⟩
  rw [visits_outlook]
  induction corresponds with
  | roots =>
      intro upper upperIn below
      rcases mem_preorder_iff_isBelow.1 below with same | belowUpper
      · rw [← same]
        exact rootsKept side
      · exact (not_isBelow_root (journal.ready.distinct side) upperIn belowUpper).elim
  | @child uppers nodes upper descends inductionHypothesis =>
      intro above aboveIn below
      rcases mem_preorder_iff_isBelow.1 below with same | belowAbove
      · rw [← same]
        cases descends with
        | copied _ atIndex =>
            have inKept := List.mem_of_getElem? (atIndex side)
            rw [Outlook.kept, visits_outlook] at inKept
            exact (Visits.mem_kept.1 inKept).2
        | settled _ member _ => exact (journal.kept_and_signature member).1 side
      · exact inductionHypothesis above aboveIn (parent_mem_preorder (journal.ready.distinct side)
          aboveIn (upper.inTree side) (descends.mem side) belowAbove)

include journal parsed rootsSettled in
/-- Every node that counts, at or below a corresponding one, corresponds to one. -/
theorem Corresponds.exists_of_counts {side : Side} {upper node : Node}
    (covered : ∃ nodes, Corresponds start entries nodes ∧ nodes side = upper)
    (counts : start.outlook.Counts side (start.view side).root node)
    (below : node ∈ upper.preorder) :
    ∃ nodes, Corresponds start entries nodes ∧ nodes side = node := by
  induction upper using Node.childInduction with
  | step upper inductionHypothesis =>
      rcases Node.mem_preorder_iff.1 below with rfl | ⟨child, childMember, inChild⟩
      · exact covered
      · obtain ⟨nodes, corresponds, rfl⟩ := covered
        have childIn := Node.mem_preorder_trans (corresponds.inTree side)
          (Node.child_mem_preorder childMember)
        have kept := counts.2 child childIn inChild
        rw [visits_outlook] at kept
        obtain ⟨others, descends, same⟩ := corresponds.exists_below journal parsed rootsSettled
          childMember kept
        exact inductionHypothesis child childMember ⟨others, .child corresponds descends, same⟩
          inChild

include journal parsed rootsSettled in
theorem TreeJournal.exists_isCorrespondence (rootsKept : ∀ side,
      (start.view side).visits.isSkipped (start.view side).root = false) :
    ∃ partner, IsCorrespondence start.outlook start.first.root start.second.root partner := by
  have covers (side : Side) (node : Node) :
      start.outlook.Counts side (start.view side).root node ↔
        ∃ nodes, Corresponds start entries nodes ∧ nodes side = node := by
    constructor
    · intro counts
      exact Corresponds.exists_of_counts journal parsed rootsSettled ⟨_, .roots, rfl⟩ counts
        counts.1
    · rintro ⟨nodes, corresponds, rfl⟩
      exact corresponds.counts journal rootsKept side
  obtain ⟨partner, partners_iff⟩ := exists_bijection covers fun side _ _ corresponds other same =>
    corresponds.unique journal other same
  refine ⟨partner, ?_, ?_, ?_, ?_⟩
  · refine (partners_iff _).2 ?_
    have isRoots : bySide start.first.root start.second.root =
        fun side => (start.view side).root := by
      funext side
      cases side <;> rfl
    rw [isRoots]
    exact .roots
  · intro nodes uppers partners upperPartners
    have corresponds := (partners_iff nodes).1 partners
    have upper := (partners_iff uppers).1 upperPartners
    exact ⟨fun member => corresponds.mem_children journal upper .first member .second,
      fun member => corresponds.mem_children journal upper .second member .first⟩
  · intro nodes partners
    exact (((partners_iff nodes).1 partners).sameKeys journal parsed rootsSettled).1
  · intro nodes partners
    exact (((partners_iff nodes).1 partners).sameKeys journal parsed rootsSettled).2

end Settled

/-- If nothing is reported of the roots, and one of them was kept, both were, and they are
those of an entry. -/
theorem TreeJournal.roots_settled (journal : TreeJournal start after policy tops entries)
    (silent : ∀ side, (after.view side).visits.differences side "" (start.view side).root = [])
    {side : Side} (kept : (start.view side).visits.isSkipped (start.view side).root = false) :
    (∀ walked, (start.view walked).visits.isSkipped (start.view walked).root = false) ∧
      IsSettled start after entries fun walked => (start.view walked).root := by
  obtain ⟨entry, member, atRoot⟩ := journal.exists_entry side (Node.mem_preorder_self _) kept
    (isUnvisited_of_silent (silent side))
  have isTop := journal.atRoots member side atRoot
  refine ⟨?_, .inr ⟨⟨entry, member, funext isTop⟩, fun walked => ⟨"", silent walked⟩⟩⟩
  intro walked
  rw [← isTop walked]
  exact (journal.kept_and_signature member).1 walked

end Corresponding

/-! ## Whole comparisons -/

section Whole

variable {config : Config} {policy : Policy} {firstRules secondRules : List Rule}
  {first second : Node}

/-- If a comparison by a lawful policy finds nothing, and the rules do not take out both
roots, all nodes that count correspond, one to one. -/
theorem exists_correspondence_of_findings_eq_nil (allowed : policy.Offered ∨ policy.IsLawful)
    (firstDistinct : first.HasDistinctPositions) (secondDistinct : second.HasDistinctPositions)
    (firstParsed : HasParsedNames first) (secondParsed : HasParsedNames second)
    (nothing : findings config policy firstRules secondRules first second = [])
    (notSkipped : ¬∀ side, rootSkipped config firstRules secondRules first second side = true) :
    ∃ partner, IsCorrespondence (ruledOutlook config firstRules secondRules first second) first
      second partner := by
  have lawful : policy.IsLawful := allowed.elim Policy.Offered.isLawful id
  have ready := @isReady_applyRules config firstRules secondRules first second firstDistinct
    secondDistinct {}
  have sameRoot := (applyRules_records firstRules secondRules
    (Comparison.start config first second {})).1.root
  have findings_eq : findings config policy firstRules secondRules first second =
      ((applyRules firstRules secondRules
        (Comparison.start config first second {})).matchTrees policy).collectBoth.trace.differences :=
    rfl
  rw [findings_eq, differences_collectBoth, List.append_eq_nil_iff, List.append_eq_nil_iff]
    at nothing
  rw [ruledOutlook]
  simp only [rootSkipped, ruledOutlook, visits_outlook] at notSkipped
  generalize applyRules firstRules secondRules (Comparison.start config first second {}) =
    ruled at *
  obtain ⟨tops, entries, journal⟩ := exists_treeJournal lawful ready
  have isFirst : ruled.first.root = first := sameRoot .first
  have isSecond : ruled.second.root = second := sameRoot .second
  have roots_eq (side : Side) : (ruled.view side).root = bySide first second side := by
    cases side with
    | first => exact isFirst
    | second => exact isSecond
  have silent (side : Side) : ((ruled.matchTrees policy).view side).visits.differences side ""
      (ruled.view side).root = [] := by
    rw [← journal.continues.root]
    cases side with
    | first => exact nothing.1.2
    | second => exact nothing.2
  have parsed (side : Side) : HasParsedNames (ruled.view side).root := by
    rw [roots_eq]
    cases side with
    | first => exact firstParsed
    | second => exact secondParsed
  obtain ⟨side, kept⟩ := not_forall.1 notSkipped
  rw [← roots_eq, Bool.not_eq_true] at kept
  obtain ⟨rootsKept, rootsSettled⟩ := journal.roots_settled silent kept
  have found := journal.exists_isCorrespondence parsed rootsSettled rootsKept
  rwa [isFirst, isSecond] at found

end Whole

/-- `<r><a>…</a><a>…</a></r>`. -/
def twoEntries (first second : String) : Node :=
  ⟨"r", [], [⟨"a", [], [], first, [0], none⟩, ⟨"a", [], [], second, [1], none⟩], "", [], none⟩

/-- At least cost, nothing is found of the same elements in another order. -/
theorem exists_correspondence_twoEntries :
    ∃ partner, IsCorrespondence
      (ruledOutlook .standard [] [] (twoEntries "x" "y") (twoEntries "Y" " x "))
      (twoEntries "x" "y") (twoEntries "Y" " x ") partner :=
  exists_correspondence_of_findings_eq_nil
    (.inl (.optimal (Assignment.shortestPaths : Solver Rat) Assignment.shortestPaths_assignsOnce))
    (by decide) (by decide) (by decide +kernel) (by decide +kernel) (by decide +kernel)
    fun skipped => absurd (skipped .first) (by decide +kernel)

end XmlCollation.Compare
