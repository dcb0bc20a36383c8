import XmlCollation.Proofs.Compare.Lawful
import XmlCollation.Proofs.Compare.Refinement
import XmlCollation.Proofs.Tree.Ancestry

/-!
Contract: the pairs that a matching settles, kept as a journal beside the records.

Owns:
- settlements, what they leave on record, and the settlements that a policy gives to
  siblings;
- journals: their entries grow from top ones, no node is in two of them, and the records
  are those from before but for what the entries leave;
- journals of one pair, of pairs settled one after the other, of all levels, and of both
  trees, for every lawful policy.

Does not own: what follows from a journal about the marks or the trace.
-/

namespace XmlCollation.Compare

open XmlCollation.Tree

/-! ## Settlements -/

/-- A pair that is settled, with the signature of its place. -/
structure Settlement where
  signature : String
  node : Side → Node

namespace Settlement

/-- The contents of the pair are equal to a comparison. -/
def isEqual (settlement : Settlement) (outlook : Outlook) : Bool :=
  outlook.sameContent .first (settlement.node .first) (settlement.node .second)

def position (settlement : Settlement) (side : Side) : Position :=
  (settlement.node side).position

def children (settlement : Settlement) (side : Side) : List Node :=
  (settlement.node side).children

/-- What settling a pair leaves on record about its node of a side. -/
def stamp (settlement : Settlement) (outlook : Outlook) (side : Side) (before : Visit) : Visit :=
  if settlement.isEqual outlook then { before with mark := .deep }
  else
    { before with
      mark := .shallow
      difference := recordedDifference outlook.config settlement.signature
        (settlement.node .first) (settlement.node .second) side }

/-- The settlement of a pair of siblings below a place. -/
structure IsAt (settlement : Settlement) (outlook : Outlook) (above : String)
    (nodes : Side → List Node) (pair : Nat × Nat) : Prop where
  signature_eq : settlement.signature = above ++ outlook.signature .first (settlement.node .first)
  at_pair : ∀ side, (nodes side)[pairIndex pair side]? = some (settlement.node side)

theorem IsAt.mem {settlement : Settlement} {outlook : Outlook} {above : String}
    {nodes : Side → List Node} {pair : Nat × Nat}
    (isAt : settlement.IsAt outlook above nodes pair) (side : Side) :
    settlement.node side ∈ nodes side :=
  List.mem_of_getElem? (isAt.at_pair side)

end Settlement

/-- The policy gives these pairs to siblings, in a state that has not touched them. -/
def Policy.Gives (policy : Policy) (start : Comparison) (nodes : Side → List Node)
    (pairs : List (Nat × Nat)) : Prop :=
  ∃ state lefts rights, start.Continues state ∧ AreLevel start state lefts rights nodes ∧
    (policy.pair state.outlook lefts rights state.caches).1 = pairs

/-- The settlements of the pairs that the policy gives to siblings below a place. -/
def Policy.Settles (policy : Policy) (start : Comparison) (above : String)
    (nodes : Side → List Node) (tops : List Settlement) : Prop :=
  ∃ pairs, policy.Gives start nodes pairs ∧
    (∀ pair ∈ pairs, ∃ top ∈ tops, top.IsAt start.outlook above nodes pair) ∧
      ∀ top ∈ tops, ∃ pair ∈ pairs, top.IsAt start.outlook above nodes pair

theorem Policy.Settles.mem {policy : Policy} {start : Comparison} {above : String}
    {nodes : Side → List Node} {tops : List Settlement}
    (settles : policy.Settles start above nodes tops) {top : Settlement} (member : top ∈ tops)
    (side : Side) : top.node side ∈ nodes side := by
  obtain ⟨_, _, _, covered⟩ := settles
  obtain ⟨pair, _, isAt⟩ := covered top member
  exact isAt.mem side

/-! ## Journals -/

/-- An entry is a top one, or a pair that the policy gave to the children of an entry
whose contents are unequal. -/
inductive Grown (start : Comparison) (policy : Policy) (tops entries : List Settlement) :
    Settlement → Prop where
  | top {entry : Settlement} (member : entry ∈ tops) : Grown start policy tops entries entry
  | child {parent entry : Settlement} {children : List Settlement}
      (grown : Grown start policy tops entries parent) (member : parent ∈ entries)
      (unequal : parent.isEqual start.outlook = false)
      (settles : policy.Settles start parent.signature parent.children children)
      (given : entry ∈ children) : Grown start policy tops entries entry

theorem Grown.mono {start : Comparison} {policy : Policy}
    {tops entries tops' entries' : List Settlement} (moreTops : tops ⊆ tops')
    (moreEntries : entries ⊆ entries') {entry : Settlement}
    (grown : Grown start policy tops entries entry) :
    Grown start policy tops' entries' entry := by
  induction grown with
  | top member => exact .top (moreTops member)
  | child _ member unequal settles given inductionHypothesis =>
      exact .child inductionHypothesis (moreEntries member) unequal settles given

/-- What was settled between two states, from top settlements downwards: of each entry of
unequal content, the pairs given to its children are entries too. -/
structure Journal (start before after : Comparison) (policy : Policy)
    (tops entries : List Settlement) : Prop where
  tops_subset : tops ⊆ entries
  grown : ∀ entry ∈ entries, Grown start policy tops entries entry
  closed : ∀ parent ∈ entries, parent.isEqual start.outlook = false →
    ∃ children, policy.Settles start parent.signature parent.children children ∧
      children ⊆ entries
  within : ∀ entry ∈ entries, ∀ side, ∃ top ∈ tops,
    entry.node side ∈ (top.node side).preorder
  once : ∀ side, (entries.map fun entry => entry.position side).Nodup
  recorded : ∀ entry ∈ entries, ∀ side,
    (after.view side).visits.recorded (entry.position side) =
      entry.stamp start.outlook side ((start.view side).visits.recorded (entry.position side))
  untouched : ∀ side position, (∀ entry ∈ entries, entry.position side ≠ position) →
    Untouched before after side position

section Journals

variable {start before after : Comparison} {policy : Policy} {tops entries : List Settlement}

theorem Journal.nil (start state : Comparison) (policy : Policy) :
    Journal start state state policy [] [] :=
  ⟨by simp, by simp, by simp, by simp, by simp, by simp, fun _ _ _ => rfl⟩

/-- A journal may begin earlier, if nothing was touched until then. -/
theorem Journal.from_earlier {earlier : Comparison}
    (journal : Journal start before after policy tops entries)
    (same : ∀ side position, Untouched earlier before side position) :
    Journal start earlier after policy tops entries :=
  { journal with
    untouched := fun side position elsewhere =>
      (same side position).trans (journal.untouched side position elsewhere) }

/-- Nothing is touched apart from the trees of the top settlements. -/
theorem Journal.untouched_of_apart (journal : Journal start before after policy tops entries)
    {side : Side} {position : Position}
    (elsewhere : ∀ top ∈ tops, position ∉ (top.node side).positions) :
    Untouched before after side position := by
  apply journal.untouched side position
  rintro entry member rfl
  obtain ⟨top, topMember, inTop⟩ := journal.within entry member side
  exact elsewhere top topMember (Node.position_mem_of_mem_preorder inTop)

/-- Journals of trees that share no position, one after the other. -/
theorem Journal.append {middle : Comparison} {tops' entries' : List Settlement}
    (journal : Journal start before middle policy tops entries)
    (journal' : Journal start middle after policy tops' entries')
    (apart : ∀ top ∈ tops, ∀ top' ∈ tops', ∀ side, Apart (top.node side) (top'.node side)) :
    Journal start before after policy (tops ++ tops') (entries ++ entries') := by
  have inTops {entry : Settlement} (member : entry ∈ entries) (side : Side) :
      ∃ top ∈ tops, entry.position side ∈ (top.node side).positions := by
    obtain ⟨top, topMember, inTop⟩ := journal.within entry member side
    exact ⟨top, topMember, Node.position_mem_of_mem_preorder inTop⟩
  have inTops' {entry : Settlement} (member : entry ∈ entries') (side : Side) :
      ∃ top ∈ tops', entry.position side ∈ (top.node side).positions := by
    obtain ⟨top, topMember, inTop⟩ := journal'.within entry member side
    exact ⟨top, topMember, Node.position_mem_of_mem_preorder inTop⟩
  have different {entry entry' : Settlement} (member : entry ∈ entries)
      (member' : entry' ∈ entries') (side : Side) : entry'.position side ≠ entry.position side := by
    intro same
    obtain ⟨top, topMember, inTop⟩ := inTops member side
    obtain ⟨top', topMember', inTop'⟩ := inTops' member' side
    exact apart top topMember top' topMember' side _ inTop (same ▸ inTop')
  refine ⟨?_, ?_, ?_, ?_, ?_, ?_, ?_⟩
  · exact List.append_subset.2 ⟨List.subset_append_of_subset_left _ journal.tops_subset,
      List.subset_append_of_subset_right _ journal'.tops_subset⟩
  · intro entry member
    rcases List.mem_append.1 member with inFirst | inSecond
    · exact (journal.grown entry inFirst).mono (List.subset_append_left _ _)
        (List.subset_append_left _ _)
    · exact (journal'.grown entry inSecond).mono (List.subset_append_right _ _)
        (List.subset_append_right _ _)
  · intro parent member unequal
    rcases List.mem_append.1 member with inFirst | inSecond
    · obtain ⟨children, settles, included⟩ := journal.closed parent inFirst unequal
      exact ⟨children, settles, List.subset_append_of_subset_left _ included⟩
    · obtain ⟨children, settles, included⟩ := journal'.closed parent inSecond unequal
      exact ⟨children, settles, List.subset_append_of_subset_right _ included⟩
  · intro entry member side
    rcases List.mem_append.1 member with inFirst | inSecond
    · obtain ⟨top, topMember, inTop⟩ := journal.within entry inFirst side
      exact ⟨top, List.mem_append_left _ topMember, inTop⟩
    · obtain ⟨top, topMember, inTop⟩ := journal'.within entry inSecond side
      exact ⟨top, List.mem_append_right _ topMember, inTop⟩
  · intro side
    rw [List.map_append, List.nodup_append]
    refine ⟨journal.once side, journal'.once side, ?_⟩
    intro position inFirst other inSecond
    obtain ⟨entry, member, rfl⟩ := List.mem_map.1 inFirst
    obtain ⟨entry', member', rfl⟩ := List.mem_map.1 inSecond
    exact (different member member' side).symm
  · intro entry member side
    rcases List.mem_append.1 member with inFirst | inSecond
    · rw [journal'.untouched side (entry.position side) fun entry' member' =>
        different inFirst member' side]
      exact journal.recorded entry inFirst side
    · exact journal'.recorded entry inSecond side
  · intro side position elsewhere
    exact (journal.untouched side position fun entry member =>
      elsewhere entry (List.mem_append_left _ member)).trans
        (journal'.untouched side position fun entry member =>
          elsewhere entry (List.mem_append_right _ member))

/-- The journal of a pair of equal content, below which nothing is settled. -/
theorem Journal.of_equal {entry : Settlement} (equal : entry.isEqual start.outlook = true)
    (untouched : ∀ side position, entry.position side ≠ position →
      Untouched before after side position)
    (recorded : ∀ side, (after.view side).visits.recorded (entry.position side) =
      { (start.view side).visits.recorded (entry.position side) with mark := .deep }) :
    Journal start before after policy [entry] [entry] := by
  refine ⟨List.Subset.refl _, ?_, ?_, ?_, ?_, ?_, ?_⟩
  · intro other member
    exact .top member
  · intro parent member unequal
    rw [List.mem_singleton.1 member, equal] at unequal
    cases unequal
  · intro other member side
    exact ⟨other, member, other.node side |>.mem_preorder_self⟩
  · intro side
    exact List.nodup_singleton _
  · intro other member side
    rw [List.mem_singleton.1 member, Settlement.stamp, equal, if_pos rfl]
    exact recorded side
  · intro side position elsewhere
    exact untouched side position (elsewhere entry (List.mem_singleton_self entry))

/-- The journal of a pair of unequal content, made of the pair and of the journal of its
children. -/
theorem Journal.of_unequal {compared : Comparison} {entry : Settlement}
    (distinct : ∀ side, (entry.node side).HasDistinctPositions)
    (unequal : entry.isEqual start.outlook = false)
    (untouched : ∀ side position, entry.position side ≠ position →
      Untouched before compared side position)
    (recorded : ∀ side, (compared.view side).visits.recorded (entry.position side) =
      entry.stamp start.outlook side ((start.view side).visits.recorded (entry.position side)))
    (settles : policy.Settles start entry.signature entry.children tops)
    (journal : Journal start compared after policy tops entries) :
    Journal start before after policy [entry] (entry :: entries) := by
  have inEntry {other : Settlement} (member : other ∈ entries) (side : Side) :
      IsBelow (entry.node side) (other.node side) := by
    obtain ⟨top, topMember, inTop⟩ := journal.within other member side
    exact ⟨top.node side, settles.mem topMember side, inTop⟩
  have different {other : Settlement} (member : other ∈ entries) (side : Side) :
      other.position side ≠ entry.position side := by
    intro same
    obtain ⟨child, childMember, inChild⟩ := inEntry member side
    apply position_notMem_children (distinct side)
    rw [← Settlement.position, ← same]
    exact mem_positionsAll.2 ⟨child, childMember, Node.position_mem_of_mem_preorder inChild⟩
  refine ⟨by simp, ?_, ?_, ?_, ?_, ?_, ?_⟩
  · intro other member
    have ofEntry : Grown start policy [entry] (entry :: entries) entry :=
      .top (List.mem_singleton_self entry)
    rcases List.mem_cons.1 member with rfl | inEntries
    · exact ofEntry
    · have grown := journal.grown other inEntries
      induction grown with
      | top topMember => exact .child ofEntry List.mem_cons_self unequal settles topMember
      | child _ parentMember parentUnequal parentSettles given inductionHypothesis =>
          exact .child
            (inductionHypothesis (List.mem_cons_of_mem _ parentMember) parentMember)
            (List.mem_cons_of_mem _ parentMember) parentUnequal parentSettles given
  · intro parent member parentUnequal
    rcases List.mem_cons.1 member with rfl | inEntries
    · exact ⟨tops, settles, List.subset_cons_of_subset _ journal.tops_subset⟩
    · obtain ⟨children, childrenSettled, included⟩ :=
        journal.closed parent inEntries parentUnequal
      exact ⟨children, childrenSettled, List.subset_cons_of_subset _ included⟩
  · intro other member side
    refine ⟨entry, List.mem_singleton_self entry, mem_preorder_iff_isBelow.2 ?_⟩
    rcases List.mem_cons.1 member with rfl | inEntries
    · exact .inl rfl
    · exact .inr (inEntry inEntries side)
  · intro side
    rw [List.map_cons, List.nodup_cons]
    refine ⟨?_, journal.once side⟩
    intro again
    obtain ⟨other, member, same⟩ := List.mem_map.1 again
    exact different member side same
  · intro other member side
    rcases List.mem_cons.1 member with rfl | inEntries
    · rw [journal.untouched side _ fun below belowMember => different belowMember side]
      exact recorded side
    · exact journal.recorded other inEntries side
  · intro side position elsewhere
    exact (untouched side position (elsewhere entry List.mem_cons_self)).trans
      (journal.untouched side position fun other member =>
        elsewhere other (List.mem_cons_of_mem _ member))

end Journals

/-! ## One level -/

section Level

variable {start state : Comparison} {policy : Policy} {lefts rights : List Place}
  {nodes : Side → List Node}

theorem AreLevel.surveys (level : AreLevel start state lefts rights nodes)
    (continues : start.Continues state) :
    state.outlook.Surveys start.first.root start.second.root lefts rights state.caches :=
  ⟨level.leftsIn, level.rightsIn, continues.sound⟩

/-- What a lawful policy pairs are kept siblings of equal signature keys. -/
theorem exists_isPair_of_mem (lawful : policy.IsLawful)
    (prepared : ∀ side, (start.view side).visits.Prepared) (continues : start.Continues state)
    (level : AreLevel start state lefts rights nodes) {pair : Nat × Nat}
    (member : pair ∈ (policy.pair state.outlook lefts rights state.caches).1) :
    ∃ (left right : Place) (pairNodes : Side → Node),
      lefts[pair.1]? = some left ∧ rights[pair.2]? = some right ∧
        IsPair start left right pairNodes ∧
        (∀ side, (nodes side)[pairIndex pair side]? = some (pairNodes side)) ∧
        (start.outlook.keys .first (pairNodes .first)).signature =
          (start.outlook.keys .second (pairNodes .second)).signature := by
  obtain ⟨left, right, atLeft, atRight, mayPair⟩ :=
    lawful.valid (level.surveys continues) pair member
  have atPair (side : Side) :
      (nodes side)[pairIndex pair side]? = some (bySide left.node right.node side) := by
    rw [level.nodes_eq, List.getElem?_map]
    cases side with
    | first => exact congrArg (Option.map Place.node) atLeft
    | second => exact congrArg (Option.map Place.node) atRight
  have unvisited (side : Side) :
      (state.view side).visits.isUnvisited (bySide left.node right.node side) = true := by
    cases side with
    | first => exact mayPair.firstUnvisited
    | second => exact mayPair.secondUnvisited
  refine ⟨left, right, bySide left.node right.node, atLeft, atRight, ?_, atPair, ?_⟩
  · refine ⟨fun _ => rfl, level.leftsIn left (List.mem_of_getElem? atLeft),
      level.rightsIn right (List.mem_of_getElem? atRight), ?_, ?_⟩
    · intro side
      exact hasDistinctPositions_of_mem (level.separate side) (List.mem_of_getElem? (atPair side))
    · intro side
      have freshHere := (level.fresh side _ (List.mem_of_getElem? (atPair side))).at_node
      have atStart := unvisited side
      rw [Visits.isUnvisited, Visits.markOf, freshHere, ← Visits.markOf, ← Visits.isUnvisited,
        (prepared side).isUnvisited_eq, Bool.not_eq_true'] at atStart
      exact atStart
  · have signature := mayPair.signature
    have firstSignature := (continues.alike .first).signature_eq left.node
    have secondSignature := (continues.alike .second).signature_eq right.node
    have sameConfig : state.outlook.config = start.outlook.config := continues.config
    simp only [Visits.signatureKey, sameConfig] at signature
    show start.outlook.config.normalize (start.first.visits.signature left.node) =
      start.outlook.config.normalize (start.second.visits.signature right.node)
    exact (congrArg _ firstSignature).symm.trans (signature.trans (congrArg _ secondSignature))

/-- What is settled are kept nodes of equal signature keys. -/
theorem Policy.Settles.kept_and_signature (lawful : policy.IsLawful)
    (prepared : ∀ side, (start.view side).visits.Prepared) {above : String}
    {tops : List Settlement} (settles : policy.Settles start above nodes tops) {top : Settlement}
    (member : top ∈ tops) :
    (∀ side, (start.view side).visits.isSkipped (top.node side) = false) ∧
      (start.outlook.keys .first (top.node .first)).signature =
        (start.outlook.keys .second (top.node .second)).signature := by
  obtain ⟨pairs, ⟨state, lefts, rights, continues, level, rfl⟩, _, covered⟩ := settles
  obtain ⟨pair, pairMember, isAt⟩ := covered top member
  obtain ⟨_, _, pairNodes, _, _, isPair, atPair, signature⟩ :=
    exists_isPair_of_mem lawful prepared continues level pairMember
  obtain rfl : top.node = pairNodes :=
    funext fun side => Option.some.inj ((isAt.at_pair side).symm.trans (atPair side))
  exact ⟨isPair.kept, signature⟩

/-- Pairs are settled one after the other, and their journals are joined. -/
theorem foldl_journal (separate : ∀ side, AreSeparate (nodes side)) {above : String}
    (step : Comparison → Nat × Nat → Comparison) (pairs : List (Nat × Nat))
    (settles : ∀ pair ∈ pairs, ∃ top : Settlement, top.IsAt start.outlook above nodes pair ∧
      ∀ current, start.Continues current → (∀ side, Fresh start current side (top.node side)) →
        start.Continues (step current pair) ∧
          ∃ entries, Journal start current (step current pair) policy [top] entries)
    (once : ∀ side, (pairs.map fun pair => pairIndex pair side).Nodup)
    {state : Comparison} (continues : start.Continues state)
    (fresh : ∀ side, ∀ node ∈ nodes side, (∃ pair ∈ pairs,
      (nodes side)[pairIndex pair side]? = some node) → Fresh start state side node) :
    start.Continues (pairs.foldl step state) ∧
      ∃ tops entries,
        (∀ pair ∈ pairs, ∃ top ∈ tops, top.IsAt start.outlook above nodes pair) ∧
          (∀ top ∈ tops, ∃ pair ∈ pairs, top.IsAt start.outlook above nodes pair) ∧
            Journal start state (pairs.foldl step state) policy tops entries := by
  induction pairs generalizing state with
  | nil => exact ⟨continues, [], [], by simp, by simp, Journal.nil start state policy⟩
  | cons pair rest inductionHypothesis =>
      obtain ⟨top, isAt, settle⟩ := settles pair List.mem_cons_self
      obtain ⟨stepContinues, entries, journal⟩ := settle state continues fun side =>
        fresh side _ (isAt.mem side) ⟨pair, List.mem_cons_self, isAt.at_pair side⟩
      -- The trees of later pairs share nothing with those of this pair.
      have apart {later : Nat × Nat} (member : later ∈ rest) (side : Side) {node : Node}
          (atLater : (nodes side)[pairIndex later side]? = some node) :
          Apart (top.node side) node := by
        have onceHere := once side
        rw [List.map_cons, List.nodup_cons] at onceHere
        apply apart_of_ne (separate side) (isAt.at_pair side) atLater
        intro same
        exact onceHere.1 (List.mem_map.2 ⟨later, member, same.symm⟩)
      obtain ⟨finalContinues, tops, others, given, covered, others_journal⟩ :=
        inductionHypothesis
          (fun later member => settles later (List.mem_cons_of_mem _ member))
          (fun side => by
            have onceHere := once side
            rw [List.map_cons, List.nodup_cons] at onceHere
            exact onceHere.2)
          stepContinues
          (fun side node member ⟨later, laterMember, atLater⟩ position inNode => by
            have freshBefore := fresh side node member
              ⟨later, List.mem_cons_of_mem _ laterMember, atLater⟩ position inNode
            refine freshBefore.trans (journal.untouched_of_apart ?_)
            intro other otherMember
            rw [List.mem_singleton.1 otherMember]
            exact (apart laterMember side atLater).symm position inNode)
      refine ⟨finalContinues, top :: tops, entries ++ others, ?_, ?_, ?_⟩
      · intro chosen member
        rcases List.mem_cons.1 member with rfl | inRest
        · exact ⟨top, List.mem_cons_self, isAt⟩
        · obtain ⟨other, otherMember, otherAt⟩ := given chosen inRest
          exact ⟨other, List.mem_cons_of_mem _ otherMember, otherAt⟩
      · intro other member
        rcases List.mem_cons.1 member with rfl | inTops
        · exact ⟨pair, List.mem_cons_self, isAt⟩
        · obtain ⟨chosen, chosenMember, otherAt⟩ := covered other inTops
          exact ⟨chosen, List.mem_cons_of_mem _ chosenMember, otherAt⟩
      · refine journal.append others_journal ?_
        intro first firstMember other otherMember side
        obtain ⟨chosen, chosenMember, otherAt⟩ := covered other otherMember
        rw [List.mem_singleton.1 firstMember]
        exact apart chosenMember side (otherAt.at_pair side)

end Level

/-! ## All levels -/

section Levels

variable {start : Comparison} {policy : Policy}

/-- The descent keeps a journal of siblings that span at most so many levels. -/
def LogsTo (start : Comparison) (policy : Policy) (depth : Nat) : Prop :=
  ∀ (lefts rights : List Place) (nodes : Side → List Node) (above : String) (state : Comparison),
    start.Continues state → AreLevel start state lefts rights nodes →
      heightAll (nodes .first) ≤ depth →
        start.Continues (state.matchSiblings policy depth lefts rights above) ∧
          ∃ tops entries, policy.Settles start above nodes tops ∧
            Journal start state (state.matchSiblings policy depth lefts rights above) policy tops
              entries

/-- Settling a pair keeps a journal, if the descent keeps one of its children. -/
theorem IsPair.journal {left right : Place} {pairNodes : Side → Node}
    (pair : IsPair start left right pairNodes)
    (prepared : ∀ side, (start.view side).visits.Prepared) {depth : Nat}
    (below : LogsTo start policy depth) (shallow : (pairNodes .first).height ≤ depth)
    {current : Comparison} (continues : start.Continues current)
    (fresh : ∀ side, Fresh start current side (pairNodes side)) (above : String) :
    start.Continues
        (current.settle (Comparison.matchSiblings policy depth) above left right) ∧
      ∃ entries, Journal start current
        (current.settle (Comparison.matchSiblings policy depth) above left right) policy
        [⟨above ++ start.outlook.signature .first (pairNodes .first), pairNodes⟩] entries := by
  have isEqual_eq : Settlement.isEqual
      ⟨above ++ start.outlook.signature .first (pairNodes .first), pairNodes⟩ start.outlook =
        start.outlook.sameContent .first left.node right.node := by
    rw [pair.left_eq, pair.right_eq]
    rfl
  cases equal : start.outlook.sameContent .first left.node right.node with
  | true =>
      obtain ⟨settled, untouched, recorded⟩ := pair.settle_of_equal prepared continues fresh equal
        (Comparison.matchSiblings policy depth) above
      exact ⟨settled, _, Journal.of_equal (isEqual_eq.trans equal) untouched recorded⟩
  | false =>
      obtain ⟨compared, comparedContinues, untouched, recorded, settle_eq⟩ :=
        pair.settle_of_unequal prepared continues fresh equal
          (Comparison.matchSiblings policy depth) rfl
      have childNodes (side : Side) : (pairNodes side).children =
          (bySide left.children right.children side).map Place.node := by
        rw [← pair.node_eq]
        cases side <;> exact (placesFrom_map_node _ 0 _).symm
      have level : AreLevel start compared left.children right.children
          fun side => (pairNodes side).children :=
        ⟨childNodes, Place.children_areIn pair.leftIn, Place.children_areIn pair.rightIn,
          fun side => separate_children (pair.distinct side),
          fun side _ member => pair.fresh_children fresh untouched side member⟩
      rw [Node.height_eq] at shallow
      obtain ⟨finalContinues, tops, entries, settles, journal⟩ :=
        below _ _ _ _ compared comparedContinues level shallow
      rw [settle_eq]
      refine ⟨finalContinues, _, Journal.of_unequal pair.distinct (isEqual_eq.trans equal)
        untouched ?_ settles journal⟩
      intro side
      rw [Settlement.stamp, isEqual_eq, equal]
      exact recorded side

theorem logsTo_succ (lawful : policy.IsLawful)
    (prepared : ∀ side, (start.view side).visits.Prepared) {depth : Nat}
    (below : LogsTo start policy depth) : LogsTo start policy (depth + 1) := by
  intro lefts rights nodes above state continues level shallow
  have surveys := level.surveys continues
  have level_eq : state.matchSiblings policy (depth + 1) lefts rights above =
      (policy.pair state.outlook lefts rights state.caches).1.foldl
        (Comparison.settleAt policy depth above lefts rights)
        { state with caches := (policy.pair state.outlook lefts rights state.caches).2 } := rfl
  have paired : start.Continues
      { state with caches := (policy.pair state.outlook lefts rights state.caches).2 } :=
    continues.withCaches (lawful.sound surveys)
  obtain ⟨finalContinues, tops, entries, given, covered, journal⟩ :=
    foldl_journal level.separate (Comparison.settleAt policy depth above lefts rights)
      (policy.pair state.outlook lefts rights state.caches).1
      (fun pair member => by
        obtain ⟨left, right, pairNodes, atLeft, atRight, isPair, atPair, _⟩ :=
          exists_isPair_of_mem lawful prepared continues level member
        have lower : (pairNodes .first).height ≤ depth := by
          have shorter := height_lt_of_mem (List.mem_of_getElem? (atPair .first))
          omega
        refine ⟨⟨above ++ start.outlook.signature .first (pairNodes .first), pairNodes⟩,
          ⟨rfl, atPair⟩, ?_⟩
        intro current currentContinues fresh
        rw [Comparison.settleAt_eq atLeft atRight]
        exact isPair.journal prepared below lower currentContinues fresh above)
      (lawful.once surveys) paired (fun side node member _ => level.fresh side node member)
  rw [level_eq]
  exact ⟨finalContinues, tops, entries,
    ⟨_, ⟨state, lefts, rights, continues, level, rfl⟩, given, covered⟩,
    journal.from_earlier fun side _ => by cases side <;> rfl⟩

/-- The descent of a lawful policy keeps a journal, however deep it goes. -/
theorem matchSiblings_logs (lawful : policy.IsLawful)
    (prepared : ∀ side, (start.view side).visits.Prepared) (depth : Nat) :
    LogsTo start policy depth := by
  induction depth with
  | zero =>
      intro lefts rights nodes above state continues level shallow
      have nothing : nodes .first = [] := eq_nil_of_heightAll_eq_zero (by omega)
      have noPairs : (policy.pair state.outlook lefts rights state.caches).1 = [] := by
        refine List.eq_nil_iff_forall_not_mem.2 fun pair member => ?_
        obtain ⟨_, _, _, _, _, _, atPair, _⟩ :=
          exists_isPair_of_mem lawful prepared continues level member
        have atFirst := atPair .first
        rw [nothing] at atFirst
        simp at atFirst
      exact ⟨continues, [], [], ⟨[], ⟨state, lefts, rights, continues, level, noPairs⟩, by simp,
        by simp⟩, Journal.nil start state policy⟩
  | succ depth inductionHypothesis => exact logsTo_succ lawful prepared inductionHypothesis

end Levels

/-! ## Both trees -/

/-- A journal of two trees, from their roots downwards. -/
structure TreeJournal (start after : Comparison) (policy : Policy)
    (tops entries : List Settlement) : Prop
    extends Journal start start after policy tops entries where
  ready : start.IsReady
  lawful : policy.IsLawful
  continues : start.Continues after
  settles : policy.Settles start "" (fun side => [(start.view side).root]) tops

/-- Matching two trees by a lawful policy keeps a journal. -/
theorem exists_treeJournal {start : Comparison} {policy : Policy} (lawful : policy.IsLawful)
    (ready : start.IsReady) :
    ∃ tops entries, TreeJournal start (start.matchTrees policy) policy tops entries := by
  obtain ⟨continues, tops, entries, settles, journal⟩ :=
    matchSiblings_logs lawful ready.prepared (start.first.root.height + 1) _ _ _ "" start
      ready.continues ready.areLevel (heightAll_root start)
  exact ⟨tops, entries, { journal with ready, lawful, continues, settles }⟩

end XmlCollation.Compare
