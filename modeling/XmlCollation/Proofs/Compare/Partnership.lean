import XmlCollation.Proofs.Compare.Correspondence
import XmlCollation.Proofs.Compare.Maximal

/-!
Contract: what a matching leaves behind.

Owns:
- matchings: bijections between the visited nodes of both trees, with what holds of
  partners, of their parents and of their unvisited children;
- matching two trees by first come, first served, or at least cost by an exact solver,
  leaves a matching behind.

Does not own: which differences are collected afterwards.
-/

namespace XmlCollation.Compare

open XmlCollation.Tree
open XmlCollation.Rules (Rule applyRules otherSide)

/-! ## Matchings -/

/-- A node of the tree that was visited and that no rule took out. -/
def View.IsMatched (view : View) (node : Node) : Prop :=
  node ∈ view.root.preorder ∧ view.visits.isSkipped node = false ∧
    view.visits.isUnvisited node = false

/-- A bijection between the visited nodes of two trees, as matching leaves it behind. -/
structure IsMatching (ruled matched : Comparison)
    (partner : {node // (matched.view .first).IsMatched node} ≃
      {node // (matched.view .second).IsMatched node}) : Prop where
  /-- Roots belong to roots alone. -/
  roots : ∀ nodes, ArePartners partner nodes →
    (nodes .first = matched.first.root ↔ nodes .second = matched.second.root)
  /-- What lies above one of two partners has a partner above the other one, and both are
  matched shallowly. -/
  parents : ∀ nodes, ArePartners partner nodes →
    ∀ side, ∀ upper ∈ (matched.view side).root.preorder, nodes side ∈ upper.children →
      ∃ uppers, ArePartners partner uppers ∧ uppers side = upper ∧
        ∀ walked, nodes walked ∈ (uppers walked).children ∧
          (matched.view walked).visits.markOf (uppers walked) = .shallow
  signatures : ∀ nodes, ArePartners partner nodes →
    (matched.outlook.keys .first (nodes .first)).signature =
      (matched.outlook.keys .second (nodes .second)).signature
  /-- Partners are matched deeply if their contents have one key, and shallowly otherwise. -/
  marks : ∀ nodes, ArePartners partner nodes → ∀ side,
    (matched.view side).visits.markOf (nodes side) =
      if (matched.outlook.keys .first (nodes .first)).content =
        (matched.outlook.keys .second (nodes .second)).content then .deep else .shallow
  /-- A difference is recorded between unequal texts of partners that are matched shallowly. -/
  differences : ∀ nodes, ArePartners partner nodes →
    ((matched.first.visits.differenceOf (nodes .first)).isSome = true ↔
      (∀ side, (matched.view side).visits.markOf (nodes side) = .shallow) ∧
        textKey matched.config (nodes .first) ≠ textKey matched.config (nodes .second))
  /-- No difference is recorded in the second tree. -/
  silent : ∀ position, (matched.second.visits.recorded position).difference = none
  /-- Unvisited children of partners have different signature keys. -/
  maximal : ∀ nodes, ArePartners partner nodes →
    (∀ side, (matched.view side).visits.markOf (nodes side) = .shallow) →
      ∀ children : Side → Node, (∀ side, children side ∈ (nodes side).children) →
        (∀ side, (matched.view side).visits.isUnvisited (children side) = true) →
          (matched.outlook.keys .first (children .first)).signature ≠
            (matched.outlook.keys .second (children .second)).signature
  /-- What the rules took out, and nothing else, is still out, matched deeply. -/
  skipped : ∀ side node,
    (matched.view side).visits.isSkipped node = (ruled.view side).visits.isSkipped node ∧
      ((matched.view side).visits.isSkipped node = true →
        (matched.view side).visits.markOf node = .deep ∧
          (matched.view side).visits.differenceOf node = none)

/-! ## Unvisited children -/

/-- Of two kept siblings of equal signature keys, a maximal policy settles one at least. -/
theorem Policy.Settles.exists_settled {policy : Policy} {start : Comparison} {above : String}
    {nodes : Side → List Node} {tops : List Settlement} (maximal : policy.IsMaximal)
    (prepared : ∀ side, (start.view side).visits.Prepared)
    (settles : policy.Settles start above nodes tops) {children : Side → Node}
    (members : ∀ side, children side ∈ nodes side)
    (kept : ∀ side, (start.view side).visits.isSkipped (children side) = false)
    (signature : (start.outlook.keys .first (children .first)).signature =
      (start.outlook.keys .second (children .second)).signature) :
    ∃ top ∈ tops, ∃ side, top.node side = children side := by
  obtain ⟨pairs, ⟨state, lefts, rights, continues, level, rfl⟩, given, _⟩ := settles
  have exists_place (side : Side) :
      ∃ (index : Nat) (place : Place), (bySide lefts rights side)[index]? = some place ∧
        place.node = children side := by
    have member := members side
    rw [level.nodes_eq] at member
    obtain ⟨place, inPlaces, node_eq⟩ := List.mem_map.1 member
    obtain ⟨index, atIndex⟩ := List.mem_iff_getElem?.1 inPlaces
    exact ⟨index, place, atIndex, node_eq⟩
  choose indexOf placeOf atPlace node_eq using exists_place
  have unvisited (side : Side) :
      (state.view side).visits.isUnvisited (placeOf side).node = true := by
    have freshHere := (level.fresh side _ (members side)).at_node
    rw [node_eq, Visits.isUnvisited, Visits.markOf, freshHere, ← Visits.markOf,
      ← Visits.isUnvisited, (prepared side).isUnvisited_eq, kept]
    rfl
  have mayPair : state.outlook.MayPair (placeOf .first) (placeOf .second) := by
    refine ⟨unvisited .first, unvisited .second, ?_⟩
    show (state.outlook.keys .first (placeOf .first).node).signature =
      (state.outlook.keys .second (placeOf .second).node).signature
    rw [continues.outlook_keys_eq, continues.outlook_keys_eq, node_eq, node_eq, signature]
  -- The settlement of a pair has the node at the index of the pair.
  have settled (side : Side) {pair : Nat × Nat}
      (member : pair ∈ (policy.pair state.outlook lefts rights state.caches).1)
      (atIndex : pairIndex pair side = indexOf side) :
      ∃ top ∈ tops, ∃ side, top.node side = children side := by
    obtain ⟨top, topMember, isAt⟩ := given pair member
    refine ⟨top, topMember, side, ?_⟩
    have atPair := isAt.at_pair side
    rw [level.nodes_eq, List.getElem?_map, atIndex, atPlace, Option.map_some, node_eq] at atPair
    exact (Option.some.inj atPair).symm
  rcases maximal (level.surveys continues) (atPlace .first) (atPlace .second) mayPair with
    inRows | inColumns
  · obtain ⟨pair, member, atIndex⟩ := List.mem_map.1 inRows
    exact settled .first member atIndex
  · obtain ⟨pair, member, atIndex⟩ := List.mem_map.1 inColumns
    exact settled .second member atIndex

/-! ## What a journal leaves behind -/

namespace TreeJournal

variable {start after : Comparison} {policy : Policy} {tops entries : List Settlement}
  {entry : Settlement}

/-- The nodes of entries are the matched ones. -/
theorem isMatched_iff (journal : TreeJournal start after policy tops entries) (side : Side)
    (node : Node) :
    (after.view side).IsMatched node ↔
      ∃ nodes, (∃ entry ∈ entries, entry.node = nodes) ∧ nodes side = node := by
  rw [View.IsMatched, journal.continues.root, journal.isSkipped_eq]
  constructor
  · rintro ⟨inTree, kept, visited⟩
    obtain ⟨entry, member, same⟩ := journal.exists_entry side inTree kept visited
    exact ⟨entry.node, ⟨entry, member, rfl⟩, same⟩
  · rintro ⟨_, ⟨entry, member, rfl⟩, rfl⟩
    exact ⟨journal.inTree member side, (journal.kept_and_signature member).1 side,
      journal.isUnvisited_eq member side⟩

theorem isEqual_iff (journal : TreeJournal start after policy tops entries)
    (entry : Settlement) :
    entry.isEqual start.outlook = true ↔
      (after.outlook.keys .first (entry.node .first)).content =
        (after.outlook.keys .second (entry.node .second)).content := by
  rw [journal.keys_eq, journal.keys_eq, Settlement.isEqual, Outlook.sameContent, beq_iff_eq,
    otherSide]

theorem differenceOf_isSome_iff (journal : TreeJournal start after policy tops entries)
    (member : entry ∈ entries) :
    (after.first.visits.differenceOf (entry.node .first)).isSome = true ↔
      entry.isEqual start.outlook = false ∧
        textKey start.config (entry.node .first) ≠ textKey start.config (entry.node .second) := by
  have difference_eq := journal.differenceOf_eq member .first
  rw [Comparison.view] at difference_eq
  rw [difference_eq, recordedDifference, bySide, textDifference?]
  cases entry.isEqual start.outlook with
  | true => simp
  | false => by_cases sameText :
      textKey start.config (entry.node .first) = textKey start.config (entry.node .second) <;>
    simp [sameText]

/-- The unvisited children of an entry of unequal content have different signature keys. -/
theorem signature_ne (journal : TreeJournal start after policy tops entries)
    (maximal : policy.IsMaximal) (member : entry ∈ entries)
    (unequal : entry.isEqual start.outlook = false) {children : Side → Node}
    (members : ∀ side, children side ∈ entry.children side)
    (unvisited : ∀ side, (after.view side).visits.isUnvisited (children side) = true) :
    (after.outlook.keys .first (children .first)).signature ≠
      (after.outlook.keys .second (children .second)).signature := by
  intro signature
  rw [journal.keys_eq, journal.keys_eq] at signature
  have kept (side : Side) : (start.view side).visits.isSkipped (children side) = false := by
    apply journal.kept_of_mark
    rw [beq_iff_eq.1 (unvisited side)]
    decide
  obtain ⟨below, settles, included⟩ := journal.closed entry member unequal
  obtain ⟨top, topMember, side, same⟩ :=
    settles.exists_settled maximal journal.ready.prepared members kept signature
  have visited := journal.isUnvisited_eq (included topMember) side
  rw [same, unvisited side] at visited
  cases visited

/-- A journal of a maximal policy leaves a matching behind. -/
theorem exists_isMatching (journal : TreeJournal start after policy tops entries)
    (maximal : policy.IsMaximal) :
    ∃ partner : {node // (after.view .first).IsMatched node} ≃
        {node // (after.view .second).IsMatched node}, IsMatching start after partner := by
  obtain ⟨partner, partners_iff⟩ := exists_bijection journal.isMatched_iff (by
    rintro side _ _ ⟨entry, member, rfl⟩ ⟨other, otherMember, rfl⟩ same
    rw [journal.eq_of_node_eq member otherMember same])
  have exists_entry {nodes : Side → Node} (partners : ArePartners partner nodes) :
      ∃ entry ∈ entries, entry.node = nodes := (partners_iff nodes).1 partners
  refine ⟨partner, ?_, ?_, ?_, ?_, ?_, journal.second_silent, ?_, ?_⟩
  · intro nodes partners
    obtain ⟨entry, member, rfl⟩ := exists_entry partners
    have firstRoot : after.first.root = start.first.root := journal.continues.root .first
    have secondRoot : after.second.root = start.second.root := journal.continues.root .second
    rw [firstRoot, secondRoot]
    constructor
    · intro atRoot
      exact journal.atRoots member .first atRoot .second
    · intro atRoot
      exact journal.atRoots member .second atRoot .first
  · intro nodes partners side upper upperIn below
    obtain ⟨entry, member, rfl⟩ := exists_entry partners
    rw [journal.continues.root] at upperIn
    obtain ⟨parent, parentMember, rfl, unequal, children⟩ :=
      journal.exists_parent member upperIn below
    refine ⟨parent.node, (partners_iff _).2 ⟨parent, parentMember, rfl⟩, rfl, ?_⟩
    intro walked
    refine ⟨children walked, ?_⟩
    rw [journal.mark_eq parentMember, unequal, if_neg Bool.false_ne_true]
  · intro nodes partners
    obtain ⟨entry, member, rfl⟩ := exists_entry partners
    rw [journal.keys_eq, journal.keys_eq]
    exact (journal.kept_and_signature member).2
  · intro nodes partners side
    obtain ⟨entry, member, rfl⟩ := exists_entry partners
    rw [journal.mark_eq member]
    exact if_congr (journal.isEqual_iff entry) rfl rfl
  · intro nodes partners
    obtain ⟨entry, member, rfl⟩ := exists_entry partners
    rw [journal.differenceOf_isSome_iff member, journal.continues.config]
    refine and_congr_left fun _ => ⟨?_, fun shallow => journal.isEqual_of_shallow member .first
      (shallow .first)⟩
    intro unequal side
    rw [journal.mark_eq member, unequal, if_neg Bool.false_ne_true]
  · intro nodes partners shallow children members unvisited
    obtain ⟨entry, member, rfl⟩ := exists_entry partners
    exact journal.signature_ne maximal member
      (journal.isEqual_of_shallow member .first (shallow .first)) members unvisited
  · intro side node
    refine ⟨journal.isSkipped_eq side node, ?_⟩
    intro skipped
    rw [journal.isSkipped_eq] at skipped
    refine ⟨journal.mark_of_skipped skipped, ?_⟩
    rw [Visits.differenceOf, journal.recorded_of_skipped skipped]
    exact (journal.ready.prepared side).difference_eq node.position

end TreeJournal

/-! ## Whole matchings -/

variable {config : Config} {firstRules secondRules : List Rule} {first second : Node}
  {policy : Policy}

/-- Matching two trees to which rules were applied leaves a matching behind. -/
theorem exists_matching_matchTrees (exact : policy.IsExact)
    (firstDistinct : first.HasDistinctPositions) (secondDistinct : second.HasDistinctPositions)
    (trace : Trace) :
    ∃ partner,
      IsMatching (applyRules firstRules secondRules (Comparison.start config first second trace))
        ((applyRules firstRules secondRules
          (Comparison.start config first second trace)).matchTrees policy) partner := by
  have ready := @isReady_applyRules config firstRules secondRules first second firstDistinct
    secondDistinct trace
  obtain ⟨tops, entries, journal⟩ := exists_treeJournal exact.offered.isLawful ready
  exact journal.exists_isMatching exact.isMaximal

/-- `<r><a>…</a>…</r>`, with one element for each text. -/
def listing (texts : List String) : Node :=
  ⟨"r", [], texts.zipIdx.map fun entry => ⟨"a", [], [], entry.1, [entry.2], none⟩, "", [], none⟩

/-- `<r><a>1</a><a>2</a></r>` and `<r><a>2</a><a>3</a></r>`. -/
def listings : Comparison :=
  applyRules [] [] (Comparison.start .standard (listing ["1", "2"]) (listing ["2", "3"]) {})

/-- At least cost, the equal elements are partners, and so are the two that are left. -/
theorem exists_matching_listings :
    (∃ partner, IsMatching listings
        (listings.matchTrees (Policy.optimalWith Assignment.exhaustive)) partner) ∧
      (listings.matchTrees (Policy.optimalWith Assignment.exhaustive)).first.records.map
          (fun record => record.2.mark) = [.shallow, .shallow, .deep] ∧
      (listings.matchTrees (Policy.optimalWith Assignment.exhaustive)).second.records.map
          (fun record => record.2.mark) = [.shallow, .deep, .shallow] := by
  refine ⟨?_, by decide +kernel, by decide +kernel⟩
  exact @exists_matching_matchTrees .standard [] [] (listing ["1", "2"]) (listing ["2", "3"]) _
    (.optimal Assignment.exhaustive exhaustive_isExact) (by decide) (by decide) {}

end XmlCollation.Compare
