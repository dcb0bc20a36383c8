import XmlCollation.Proofs.Compare.LeastCost
import XmlCollation.Proofs.Compare.Partners
import XmlCollation.Proofs.Compare.Settling

/-!
Contract: comparisons find what the stateless walks find.

Owns:
- the pairs of one level, settled one after the other, each leaving the trees of
  the others alone;
- all levels, by induction on the depth;
- the trace of a whole comparison.

Does not own: which differences walks find.
-/

namespace XmlCollation.Compare

open XmlCollation.Tree
open XmlCollation.Rules

/-! ## One level -/

section Level

variable {start : Comparison} {policy : Policy} {above : String} {nodes : Side → List Node}

/-- Pairs are settled one after the other.  Each step touches the trees of its own
pair alone, so that later pairs are still fresh, and what was collected at earlier
ones stays. -/
theorem foldl_settled (separate : ∀ side, AreSeparate (nodes side))
    (step : Comparison → Nat × Nat → Comparison) (pairs : List (Nat × Nat))
    (settles : ∀ pair ∈ pairs, ∃ pairNodes : Side → Node,
      (∀ side, (nodes side)[pairIndex pair side]? = some (pairNodes side)) ∧
        ∀ state, start.Continues state → (∀ side, Fresh start state side (pairNodes side)) →
          Settled start state (step state pair) policy above pairNodes)
    (once : ∀ side, (pairs.map fun pair => pairIndex pair side).Nodup)
    {state : Comparison} (continues : start.Continues state)
    (fresh : ∀ pair ∈ pairs, ∀ side node, (nodes side)[pairIndex pair side]? = some node →
      Fresh start state side node) :
    start.Continues (pairs.foldl step state) ∧
      (∀ side position,
        (∀ pair ∈ pairs, ∀ node, (nodes side)[pairIndex pair side]? = some node →
          position ∉ node.positions) →
        Untouched state (pairs.foldl step state) side position) ∧
      ∀ pair ∈ pairs, ∀ side above', (side = .first → above' = above) → ∀ node other,
        (nodes side)[pairIndex pair side]? = some node →
        (nodes (otherSide side))[pairIndex pair (otherSide side)]? = some other →
          Collected start (pairs.foldl step state) policy side above' node other := by
  induction pairs generalizing state with
  | nil => exact ⟨continues, fun _ _ _ => rfl, by simp⟩
  | cons pair rest inductionHypothesis =>
      obtain ⟨pairNodes, atPair, settle⟩ := settles pair (by simp)
      have settled := settle state continues fun side =>
        fresh pair (by simp) side (pairNodes side) (atPair side)
      -- The trees of later pairs share nothing with those of this pair.
      have apart (later : Nat × Nat) (member : later ∈ rest) (side : Side) (node : Node)
          (atLater : (nodes side)[pairIndex later side]? = some node) :
          Apart node (pairNodes side) := by
        have onceHere := once side
        rw [List.map_cons, List.nodup_cons] at onceHere
        refine apart_of_ne (separate side) atLater (atPair side) ?_
        intro same
        exact onceHere.1 (List.mem_map.2 ⟨later, member, same⟩)
      obtain ⟨finalContinues, untouched, collected⟩ := inductionHypothesis
        (fun later member => settles later (by simp [member]))
        (fun side => by
          have onceHere := once side
          rw [List.map_cons, List.nodup_cons] at onceHere
          exact onceHere.2)
        settled.continues
        (fun later member side node atLater position inNode =>
          (fresh later (by simp [member]) side node atLater position inNode).trans
            (settled.untouched side position (apart later member side node atLater position inNode)))
      refine ⟨finalContinues, ?_, ?_⟩
      · intro side position elsewhere
        refine (settled.untouched side position
          (elsewhere pair (by simp) _ (atPair side))).trans ?_
        exact untouched side position fun later member => elsewhere later (by simp [member])
      · intro chosen member side above' sameAbove node other atNode atOther
        rcases List.mem_cons.1 member with rfl | inRest
        · have nodeHere : node = pairNodes side := Option.some.inj (atNode.symm.trans (atPair side))
          have otherHere : other = pairNodes (otherSide side) :=
            Option.some.inj (atOther.symm.trans (atPair (otherSide side)))
          rw [nodeHere, otherHere, Collected, List.foldl_cons,
            Visits.differences_congr side above' (pairNodes side) fun position inNode =>
              untouched side position fun later laterMember laterNode atLater inLater =>
                apart later laterMember side laterNode atLater position inLater inNode]
          exact settled.collected side above' sameAbove
        · exact collected chosen inRest side above' sameAbove node other atNode atOther

/-- The differences collected at siblings, the skipped ones marked deeply. -/
theorem differencesAll_kept {visits base : Visits} (prepared : base.Prepared)
    (side : Side) (above : String) (siblings : List Node)
    (skipped : ∀ node ∈ siblings, base.isSkipped node = true →
      visits.recorded node.position = base.recorded node.position) :
    visits.differencesAll side above siblings =
      (base.kept siblings).flatMap (visits.differences side above) := by
  induction siblings with
  | nil => rfl
  | cons node rest inductionHypothesis =>
      have below := inductionHypothesis fun other member => skipped other (by simp [member])
      rw [Visits.differencesAll, below]
      cases isSkipped : base.isSkipped node with
      | false => simp [Visits.kept, isSkipped]
      | true =>
          have deep : visits.markOf node = .deep := by
            rw [Visits.markOf, skipped node (by simp) isSkipped, prepared.mark_eq,
              ← Visits.isSkipped, isSkipped]
            rfl
          rw [Visits.differences_eq, deep]
          simp [Visits.kept, isSkipped]

theorem differences_untouched {visits base : Visits} (prepared : base.Prepared) (side : Side)
    (above : String) {node : Node} (kept : base.isSkipped node = false)
    (untouched : visits.recorded node.position = base.recorded node.position) :
    visits.differences side above node =
      [presenceDifference side (above ++ base.signature node)] := by
  have unvisited : visits.markOf node = .unvisited := by
    rw [Visits.markOf, untouched, prepared.mark_eq, ← Visits.isSkipped, kept]
    rfl
  rw [Visits.differences_eq, unvisited, Visits.signature, Visits.excludedOf, untouched]
  rfl

/-- Siblings are matched once their pairs are settled. -/
theorem matched_of_settled (prepared : ∀ side, (start.view side).visits.Prepared)
    (separate : ∀ side, AreSeparate (nodes side))
    (inRange : ∀ pair ∈ policy.keptPairing start.outlook nodes, ∀ side,
      ∃ node, (start.outlook.kept side (nodes side))[pairIndex pair side]? = some node)
    {before after : Comparison} (continues : start.Continues after)
    (fresh : ∀ side, ∀ node ∈ nodes side, Fresh start before side node)
    (untouched : ∀ side position,
      (∀ pair ∈ policy.keptPairing start.outlook nodes, ∀ node,
        (start.outlook.kept side (nodes side))[pairIndex pair side]? = some node →
          position ∉ node.positions) →
      Untouched before after side position)
    (collected : ∀ pair ∈ policy.keptPairing start.outlook nodes, ∀ side above',
      (side = .first → above' = above) → ∀ node other,
        (start.outlook.kept side (nodes side))[pairIndex pair side]? = some node →
        (start.outlook.kept (otherSide side) (nodes (otherSide side)))[pairIndex pair
          (otherSide side)]? = some other →
          Collected start after policy side above' node other) :
    Matched start before after policy above nodes := by
  have keptSublist (side : Side) : (start.outlook.kept side (nodes side)).Sublist (nodes side) :=
    List.filter_sublist
  refine ⟨continues, ?_, ?_⟩
  · intro side position elsewhere
    refine untouched side position ?_
    intro pair _ node atNode inNode
    have member := (keptSublist side).subset (List.mem_of_getElem? atNode)
    exact elsewhere (mem_positionsAll.2 ⟨node, member, inNode⟩)
  · intro side above' sameAbove
    -- A sibling that is in no pair is as it was at the start.
    have atStart (node : Node) (member : node ∈ nodes side)
        (unpaired : ∀ pair ∈ policy.keptPairing start.outlook nodes, ∀ other,
          (start.outlook.kept side (nodes side))[pairIndex pair side]? = some other →
            Apart node other) :
        Untouched start after side node.position := by
      refine (fresh side node member).at_node.trans (untouched side node.position ?_)
      intro pair pairMember other atOther
      exact unpaired pair pairMember other atOther _ node.position_mem_positions
    have skipped (node : Node) (member : node ∈ nodes side)
        (isSkipped : (start.view side).visits.isSkipped node = true) :
        (after.view side).visits.recorded node.position =
          (start.view side).visits.recorded node.position := by
      refine atStart node member ?_
      intro pair _ other atOther
      have otherMember := List.mem_of_getElem? atOther
      refine apart_of_mem_ne (separate side) member ((keptSublist side).subset otherMember) ?_
      rintro rfl
      rw [Outlook.kept, visits_outlook, Visits.mem_kept] at otherMember
      rw [isSkipped] at otherMember
      exact absurd otherMember.2 (by simp)
    rw [differencesAll_kept (prepared side) side above' _ skipped,
      walkSiblings_eq, ← visits_outlook start, ← Outlook.kept]
    conv => lhs; rw [← List.zipIdx_map_fst 0 (start.outlook.kept side (nodes side))]
    rw [List.flatMap_map]
    refine List.flatMap_congr ?_
    rintro ⟨node, index⟩ member
    have atIndex : (start.outlook.kept side (nodes side))[index]? = some node :=
      List.mem_zipIdx_iff_getElem?.1 member
    cases partner : policy.partner? start.outlook side (nodes side) (nodes (otherSide side))
        index with
    | some other =>
        obtain ⟨pair, pairMember, rfl, atOther⟩ := exists_pair_of_partner partner
        exact collected pair pairMember side above' sameAbove node other atIndex atOther
    | none =>
        have unpaired := pairIndex_ne_of_no_partner inRange partner
        have keptMember := List.mem_of_getElem? atIndex
        have asAtStart := atStart node ((keptSublist side).subset keptMember)
          fun pair pairMember other atOther =>
            (apart_of_ne ((separate side).sublist (keptSublist side)) atOther atIndex
              (unpaired pair pairMember)).symm
        have kept : (start.view side).visits.isSkipped node = false := by
          rw [Outlook.kept, visits_outlook, Visits.mem_kept] at keptMember
          exact keptMember.2
        rw [walkSibling, sideReport_lone, Outlook.signature, visits_outlook]
        exact differences_untouched (prepared side) side above' kept asAtStart

end Level

/-! ## Unvisited siblings -/

theorem prepared_outlook {start : Comparison}
    (prepared : ∀ side, (start.view side).visits.Prepared) : start.outlook.Prepared := by
  intro side
  rw [visits_outlook]
  exact prepared side

section Unvisited

variable {start state : Comparison}

theorem unvisited_fresh (prepared : ∀ side, (start.view side).visits.Prepared) {side : Side}
    {places : List Place}
    (fresh : ∀ node ∈ places.map Place.node, Fresh start state side node) :
    (unvisited (state.view side).visits places).map (fun entry => entry.2.node) =
      start.outlook.kept side (places.map Place.node) := by
  rw [unvisited_map_node, Outlook.kept, Visits.kept, visits_outlook]
  refine List.filter_congr ?_
  intro node member
  rw [← (prepared side).isUnvisited_eq, Visits.isUnvisited, Visits.isUnvisited, Visits.markOf,
    Visits.markOf, (fresh node member).at_node]

theorem unvisitedKeys_fresh (prepared : ∀ side, (start.view side).visits.Prepared)
    (continues : start.Continues state) {side : Side} {places : List Place}
    (fresh : ∀ node ∈ places.map Place.node, Fresh start state side node) :
    state.outlook.unvisitedKeys side places =
      (start.outlook.kept side (places.map Place.node)).map (start.outlook.keys side) := by
  rw [← unvisited_fresh prepared fresh, Outlook.unvisitedKeys, visits_outlook, List.map_map,
    continues.outlook_keys_eq]
  rfl

theorem exists_place_of_kept (prepared : ∀ side, (start.view side).visits.Prepared) {side : Side}
    {places : List Place}
    (fresh : ∀ node ∈ places.map Place.node, Fresh start state side node)
    {index : Nat} {node : Node}
    (atIndex : (start.outlook.kept side (places.map Place.node))[index]? = some node) :
    ∃ place, places[siblingIndex (unvisited (state.view side).visits places) index]? = some place ∧
      place.node = node := by
  rw [← unvisited_fresh prepared fresh, List.getElem?_map, Option.map_eq_some_iff] at atIndex
  obtain ⟨entry, atEntry, node_eq⟩ := atIndex
  refine ⟨entry.2, ?_, node_eq⟩
  rw [siblingIndex_eq atEntry]
  exact getElem?_of_mem_unvisited (List.mem_of_getElem? atEntry)

end Unvisited

/-! ## All levels -/

section Levels

variable {start : Comparison} {policy : Policy} {choice : Choice} {nodes : Side → List Node}

/-- Settles the places at the indexes of a pair. -/
def Comparison.settleAt (policy : Policy) (depth : Nat) (above : String)
    (lefts rights : List Place) (state : Comparison) (pair : Nat × Nat) : Comparison :=
  match lefts[pair.1]?, rights[pair.2]? with
  | some left, some right =>
      state.settle (Comparison.matchSiblings policy depth) above left right
  | _, _ => state

theorem Comparison.settleAt_eq {lefts rights : List Place} {pair : Nat × Nat}
    {left right : Place} (atLeft : lefts[pair.1]? = some left)
    (atRight : rights[pair.2]? = some right) (policy : Policy) (depth : Nat) (above : String)
    (state : Comparison) :
    state.settleAt policy depth above lefts rights pair =
      state.settle (Comparison.matchSiblings policy depth) above left right := by
  simp only [Comparison.settleAt, atLeft, atRight]

/-- Siblings of both trees, in a state that has touched nothing at or below them. -/
structure AreLevel (start state : Comparison) (lefts rights : List Place)
    (nodes : Side → List Node) : Prop where
  nodes_eq : ∀ side, nodes side = (bySide lefts rights side).map Place.node
  leftsIn : Place.AreIn lefts start.first.root
  rightsIn : Place.AreIn rights start.second.root
  separate : ∀ side, AreSeparate (nodes side)
  fresh : ∀ side, ∀ node ∈ nodes side, Fresh start state side node

/-- The policy pairs the kept siblings, whatever the cache holds by now. -/
theorem pair_fresh (follows : policy.Follows choice)
    (prepared : ∀ side, (start.view side).visits.Prepared)
    {state : Comparison} (continues : start.Continues state) {lefts rights : List Place}
    (level : AreLevel start state lefts rights nodes) :
    (policy.pair state.outlook lefts rights state.caches).1 =
        (policy.keptPairing start.outlook nodes).map (fun pair =>
          (siblingIndex (unvisited (state.view .first).visits lefts) pair.1,
            siblingIndex (unvisited (state.view .second).visits rights) pair.2)) ∧
      start.Continues
        { state with caches := (policy.pair state.outlook lefts rights state.caches).2 } := by
  have paired := follows.pair_eq state.outlook _ _ lefts rights state.caches level.leftsIn
    level.rightsIn continues.sound
  have firstFresh : ∀ node ∈ lefts.map Place.node, Fresh start state .first node := by
    have firstNodes := level.fresh .first
    rwa [level.nodes_eq] at firstNodes
  have secondFresh : ∀ node ∈ rights.map Place.node, Fresh start state .second node := by
    have secondNodes := level.fresh .second
    rwa [level.nodes_eq] at secondNodes
  have preparedOutlook := prepared_outlook prepared
  constructor
  · rw [paired.1, unvisitedKeys_fresh prepared continues firstFresh,
      unvisitedKeys_fresh prepared continues secondFresh, keptPairing_eq follows preparedOutlook,
      level.nodes_eq, level.nodes_eq]
    rfl
  · exact continues.withCaches paired.2

theorem exists_places_of_pair (prepared : ∀ side, (start.view side).visits.Prepared)
    {state : Comparison} {lefts rights : List Place}
    (level : AreLevel start state lefts rights nodes)
    {pair : Nat × Nat} {pairNodes : Side → Node}
    (atPair : ∀ side,
      (start.outlook.kept side (nodes side))[pairIndex pair side]? = some (pairNodes side)) :
    ∃ left right,
      lefts[siblingIndex (unvisited (state.view .first).visits lefts) pair.1]? = some left ∧
        rights[siblingIndex (unvisited (state.view .second).visits rights) pair.2]? =
          some right ∧
        IsPair start left right pairNodes := by
  have firstFresh := level.fresh .first
  have secondFresh := level.fresh .second
  have atFirst := atPair .first
  have atSecond := atPair .second
  rw [level.nodes_eq] at firstFresh secondFresh atFirst atSecond
  obtain ⟨left, atLeft, leftNode⟩ := exists_place_of_kept prepared firstFresh atFirst
  obtain ⟨right, atRight, rightNode⟩ := exists_place_of_kept prepared secondFresh atSecond
  refine ⟨left, right, atLeft, atRight, ?_, level.leftsIn left (List.mem_of_getElem? atLeft),
    level.rightsIn right (List.mem_of_getElem? atRight), ?_, ?_⟩
  · intro side
    cases side with
    | first => exact leftNode
    | second => exact rightNode
  · intro side
    have member := (List.mem_filter.1 (List.mem_of_getElem? (atPair side))).1
    exact hasDistinctPositions_of_mem (level.separate side) member
  · intro side
    have member := List.mem_of_getElem? (atPair side)
    rw [Outlook.kept, visits_outlook, Visits.mem_kept] at member
    exact member.2

theorem exists_kept_of_pair (pairing : choice.IsPairing) (follows : policy.Follows choice)
    (prepared : ∀ side, (start.view side).visits.Prepared) (pair : Nat × Nat)
    (member : pair ∈ policy.keptPairing start.outlook nodes) (side : Side) :
    ∃ node, (start.outlook.kept side (nodes side))[pairIndex pair side]? = some node := by
  obtain ⟨pairNodes, atPair, _⟩ :=
    exists_nodes_of_pair pairing follows (prepared_outlook prepared) member
  exact ⟨pairNodes side, atPair side⟩

/-- The descent matches siblings that span at most so many levels. -/
def MatchesTo (start : Comparison) (policy : Policy) (depth : Nat) : Prop :=
  ∀ (lefts rights : List Place) (nodes : Side → List Node) (above : String) (state : Comparison),
    start.Continues state → AreLevel start state lefts rights nodes →
      heightAll (nodes .first) ≤ depth →
        Matched start state (state.matchSiblings policy depth lefts rights above) policy above nodes

/-- A pair of one level is settled, by way of the levels below. -/
theorem exists_settled_pair (pairing : choice.IsPairing) (follows : policy.Follows choice)
    (prepared : ∀ side, (start.view side).visits.Prepared) {depth : Nat}
    (below : MatchesTo start policy depth) {state : Comparison} {lefts rights : List Place}
    (level : AreLevel start state lefts rights nodes) (shallow : heightAll (nodes .first) ≤ depth + 1)
    (above : String) {pair : Nat × Nat} (member : pair ∈ policy.keptPairing start.outlook nodes) :
    ∃ pairNodes : Side → Node,
      (∀ side,
        (start.outlook.kept side (nodes side))[pairIndex pair side]? = some (pairNodes side)) ∧
        ∀ current, start.Continues current → (∀ side, Fresh start current side (pairNodes side)) →
          Settled start current
            (current.settleAt policy depth above lefts rights
              (siblingIndex (unvisited (state.view .first).visits lefts) pair.1,
                siblingIndex (unvisited (state.view .second).visits rights) pair.2))
            policy above pairNodes := by
  obtain ⟨pairNodes, atPair, _⟩ :=
    exists_nodes_of_pair pairing follows (prepared_outlook prepared) member
  obtain ⟨left, right, atLeft, atRight, isPair⟩ := exists_places_of_pair prepared level atPair
  refine ⟨pairNodes, atPair, ?_⟩
  intro current continues fresh
  rw [Comparison.settleAt_eq atLeft atRight]
  refine isPair.settled prepared continues fresh ?_
  intro before signature beforeContinues childrenFresh
  have childNodes (side : Side) : (pairNodes side).children =
      (bySide left.children right.children side).map Place.node := by
    rw [← isPair.node_eq]
    cases side <;> exact (placesFrom_map_node _ 0 _).symm
  have childLevel : AreLevel start before left.children right.children
      fun side => (pairNodes side).children :=
    ⟨childNodes, Place.children_areIn isPair.leftIn, Place.children_areIn isPair.rightIn,
      fun side => separate_children (isPair.distinct side), childrenFresh⟩
  have lower : heightAll (pairNodes .first).children ≤ depth := by
    have inNodes := (List.mem_filter.1 (List.mem_of_getElem? (atPair .first))).1
    have shorter := height_lt_of_mem inNodes
    rw [Node.height_eq] at shorter
    omega
  exact below _ _ _ signature before beforeContinues childLevel lower

theorem matchesTo_succ (pairing : choice.IsPairing) (follows : policy.Follows choice)
    (prepared : ∀ side, (start.view side).visits.Prepared) {depth : Nat}
    (below : MatchesTo start policy depth) :
    MatchesTo start policy (depth + 1) := by
  intro lefts rights nodes above state continues level shallow
  obtain ⟨pairs_eq, paired⟩ := pair_fresh follows prepared continues level
  have level_eq : state.matchSiblings policy (depth + 1) lefts rights above =
      (policy.pair state.outlook lefts rights state.caches).1.foldl
        (Comparison.settleAt policy depth above lefts rights)
        { state with caches := (policy.pair state.outlook lefts rights state.caches).2 } := rfl
  rw [level_eq, pairs_eq, List.foldl_map]
  have keptSeparate (side : Side) : AreSeparate (start.outlook.kept side (nodes side)) :=
    (level.separate side).sublist List.filter_sublist
  have keptFresh (pair : Nat × Nat) (_ : pair ∈ policy.keptPairing start.outlook nodes)
      (side : Side) (node : Node)
      (atIndex : (start.outlook.kept side (nodes side))[pairIndex pair side]? = some node) :
      Fresh start state side node :=
    level.fresh side node (List.mem_filter.1 (List.mem_of_getElem? atIndex)).1
  obtain ⟨finalContinues, untouched, collected⟩ :=
    foldl_settled keptSeparate _ _
      (fun _ member => exists_settled_pair pairing follows prepared below level shallow above member)
      (keptPairing_nodup pairing follows (prepared_outlook prepared) nodes) paired keptFresh
  exact matched_of_settled prepared level.separate (exists_kept_of_pair pairing follows prepared)
    finalContinues level.fresh untouched collected

/-- Siblings are matched down to any depth. -/
theorem matchSiblings_matched (pairing : choice.IsPairing) (follows : policy.Follows choice)
    (prepared : ∀ side, (start.view side).visits.Prepared) (depth : Nat) :
    MatchesTo start policy depth := by
  induction depth with
  | zero =>
      intro lefts rights nodes above state continues level shallow
      have nothing : nodes .first = [] := eq_nil_of_heightAll_eq_zero (by omega)
      have inRange := @exists_kept_of_pair start policy choice nodes pairing follows prepared
      refine matched_of_settled prepared level.separate inRange continues level.fresh
        (fun _ _ _ => rfl) ?_
      intro pair member
      obtain ⟨node, atIndex⟩ := inRange pair member .first
      simp [nothing, Outlook.kept, Visits.kept] at atIndex
  | succ depth inductionHypothesis =>
      exact matchesTo_succ pairing follows prepared inductionHypothesis

end Levels

/-! ## Whole comparisons -/

/-- Two trees with distinct positions that were not matched yet. -/
structure Comparison.IsReady (start : Comparison) : Prop where
  prepared : ∀ side, (start.view side).visits.Prepared
  sound : start.caches.Sound start.outlook start.first.root start.second.root
  distinct : ∀ side, (start.view side).root.HasDistinctPositions

section Ready

variable {start : Comparison}

theorem Comparison.IsReady.continues (ready : start.IsReady) : start.Continues start :=
  ⟨rfl, fun _ => rfl, rfl, fun _ => Visits.Alike.refl _, ready.sound⟩

/-- The roots are siblings above which there is nothing. -/
theorem Comparison.IsReady.areLevel (ready : start.IsReady) :
    AreLevel start start [.root start.first.root] [.root start.second.root]
      fun side => [(start.view side).root] := by
  refine ⟨?_, ?_, ?_, ?_, fun _ _ _ _ _ => rfl⟩
  · intro side
    cases side <;> rfl
  · simp [Place.AreIn, Place.root, Node.at?]
  · simp [Place.AreIn, Place.root, Node.at?]
  · intro side
    exact separate_singleton (ready.distinct side)

theorem heightAll_root (start : Comparison) :
    heightAll [(start.view .first).root] ≤ start.first.root.height + 1 := by
  show heightAll [start.first.root] ≤ start.first.root.height + 1
  simp [heightAll]

end Ready

theorem differences_collectBoth (matched : Comparison) :
    matched.collectBoth.trace.differences =
      matched.trace.differences ++ matched.first.differences .first ++
        matched.second.differences .second :=
  rfl

section Whole

variable {policy : Policy}

/-- From trees that were not matched yet, matching and collecting add to the trace
what the walks over both trees find. -/
theorem trace_collectBoth (offered : policy.Offered) {start : Comparison} (ready : start.IsReady) :
    (start.matchTrees policy).collectBoth.trace =
      { start.trace with
        differences := start.trace.differences ++
          (firstDifferences policy start.outlook start.first.root start.second.root ++
            secondDifferences policy start.outlook start.first.root start.second.root) } := by
  obtain ⟨choice, pairing, follows⟩ := offered.choice
  have matched : Matched start start (start.matchTrees policy) policy ""
      (fun side => [(start.view side).root]) :=
    matchSiblings_matched pairing follows ready.prepared (start.first.root.height + 1) _ _ _ ""
      start ready.continues ready.areLevel (heightAll_root start)
  have found (side : Side) :
      ((start.matchTrees policy).view side).differences side =
        walkSiblings policy start.outlook side (sideReport start.config side) ""
          [(start.view side).root] [(start.view (otherSide side)).root] := by
    rw [← matched.collected side "" (fun _ => rfl), Visits.differencesAll,
      Visits.differencesAll, List.append_nil, View.differences, matched.continues.root]
  have foundFirst := found .first
  have foundSecond := found .second
  simp only [Comparison.view, otherSide] at foundFirst foundSecond
  rw [firstDifferences, secondDifferences, ← List.append_assoc]
  have collected : (start.matchTrees policy).collectBoth.trace =
      { (start.matchTrees policy).trace with
        differences := (start.matchTrees policy).trace.differences ++
          (start.matchTrees policy).first.differences .first ++
          (start.matchTrees policy).second.differences .second } := rfl
  rw [collected, foundFirst, foundSecond, matched.continues.trace]
  rfl

variable {config : Config} {firstRules secondRules : List Rule} {first second : Node}

theorem outlook_applyRules (trace : Trace) :
    (applyRules firstRules secondRules (Comparison.start config first second trace)).outlook =
      ⟨config, markRules (firstRules ++ secondRules) first [],
        markRules (firstRules ++ secondRules) second []⟩ := by
  obtain ⟨same, visits⟩ := applyRules_records firstRules secondRules
    (Comparison.start config first second trace)
  have firstVisits := visits .first
  have secondVisits := visits .second
  have sameConfig := same.config
  rw [Comparison.outlook, sameConfig]
  exact congrArg₂ (Outlook.mk config) firstVisits secondVisits

theorem ruledOutlook_eq (config : Config) (firstRules secondRules : List Rule)
    (first second : Node) :
    ruledOutlook config firstRules secondRules first second =
      ⟨config, markRules (firstRules ++ secondRules) first [],
        markRules (firstRules ++ secondRules) second []⟩ :=
  outlook_applyRules {}

theorem ruledOutlook_prepared (config : Config) (firstRules secondRules : List Rule)
    (first second : Node) :
    (ruledOutlook config firstRules secondRules first second).Prepared := by
  intro side
  rw [ruledOutlook_eq]
  cases side with
  | first => exact prepared_markRules Visits.prepared_nil _ first
  | second => exact prepared_markRules Visits.prepared_nil _ second

/-- Rules leave two trees with distinct positions ready for matching. -/
theorem isReady_applyRules (firstDistinct : first.HasDistinctPositions)
    (secondDistinct : second.HasDistinctPositions) (trace : Trace) :
    (applyRules firstRules secondRules (Comparison.start config first second trace)).IsReady := by
  obtain ⟨same, _⟩ := applyRules_records firstRules secondRules
    (Comparison.start config first second trace)
  have outlook_eq := (@outlook_applyRules config firstRules secondRules first second trace).trans
    (ruledOutlook_eq config firstRules secondRules first second).symm
  refine ⟨?_, ?_, ?_⟩
  · intro side
    rw [← visits_outlook, outlook_eq]
    exact ruledOutlook_prepared config firstRules secondRules first second side
  · rw [same.caches]
    exact ⟨ContentCache.sound_empty _, ContentCache.sound_empty _⟩
  · intro side
    rw [same.root]
    cases side with
    | first => exact firstDistinct
    | second => exact secondDistinct

theorem trace_run (offered : policy.Offered)
    (firstDistinct : first.HasDistinctPositions) (secondDistinct : second.HasDistinctPositions)
    (trace : Trace) :
    ((Comparison.start config first second trace).run policy firstRules secondRules).trace =
      { trace with
        differences := trace.differences ++
          (firstDifferences policy (ruledOutlook config firstRules secondRules first second)
              first second ++
            secondDifferences policy (ruledOutlook config firstRules secondRules first second)
              first second) } := by
  obtain ⟨same, _⟩ := applyRules_records firstRules secondRules
    (Comparison.start config first second trace)
  have outlook_eq := (@outlook_applyRules config firstRules secondRules first second trace).trans
    (ruledOutlook_eq config firstRules secondRules first second).symm
  have ready := @isReady_applyRules config firstRules secondRules first second firstDistinct
    secondDistinct trace
  have run_eq : (Comparison.start config first second trace).run policy firstRules secondRules =
      ((applyRules firstRules secondRules
        (Comparison.start config first second trace)).matchTrees policy).collectBoth := rfl
  rw [run_eq]
  generalize applyRules firstRules secondRules (Comparison.start config first second trace) =
    ruled at *
  have firstRoot : ruled.first.root = first := same.root .first
  have secondRoot : ruled.second.root = second := same.root .second
  rw [trace_collectBoth offered ready, outlook_eq, firstRoot, secondRoot, same.trace]
  rfl

theorem findings_eq (offered : policy.Offered)
    (firstDistinct : first.HasDistinctPositions) (secondDistinct : second.HasDistinctPositions) :
    findings config policy firstRules secondRules first second =
      firstDifferences policy (ruledOutlook config firstRules secondRules first second)
          first second ++
        secondDifferences policy (ruledOutlook config firstRules secondRules first second)
          first second := by
  rw [findings, compareTrees, trace_run offered firstDistinct secondDistinct]
  exact List.nil_append _

theorem findings_eq_sides (offered : policy.Offered)
    (firstDistinct : first.HasDistinctPositions) (secondDistinct : second.HasDistinctPositions) :
    findings config policy firstRules secondRules first second =
      sideDifferences policy (ruledOutlook config firstRules secondRules first second)
          (bySide first second) .first ++
        sideDifferences policy (ruledOutlook config firstRules secondRules first second)
          (bySide first second) .second :=
  findings_eq offered firstDistinct secondDistinct

/-- A comparison of two trees, with its marks, caches and recorded differences, adds to
the trace exactly the differences of the stateless walks over both trees. -/
theorem compareTrees_refines_walks (offered : policy.Offered)
    (firstDistinct : first.HasDistinctPositions) (secondDistinct : second.HasDistinctPositions)
    (trace : Trace) :
    (compareTrees config policy firstRules secondRules first second trace).trace =
      { trace with
        differences := trace.differences ++
          (firstDifferences policy (ruledOutlook config firstRules secondRules first second)
              first second ++
            secondDifferences policy (ruledOutlook config firstRules secondRules first second)
              first second) } := by
  rw [compareTrees]
  exact trace_run offered firstDistinct secondDistinct trace

end Whole

/-- `<r><a>1</a><b/></r>`. -/
def earlierEntries : Node :=
  ⟨"r", [], [⟨"a", [], [], "1", [0], none⟩, ⟨"b", [], [], "", [1], none⟩], "", [], none⟩

/-- `<r><a>2</a></r>`. -/
def laterEntries : Node :=
  ⟨"r", [], [⟨"a", [], [], "2", [0], none⟩], "", [], none⟩

/-- `<r>1</r>`. -/
def withoutChild : Node :=
  ⟨"r", [], [], "1", [], none⟩

/-- `<r>2<x/></r>`. -/
def withChild : Node :=
  ⟨"r", [], [⟨"x", [], [], "", [0], none⟩], "2", [], none⟩

theorem compareTrees_earlier_later :
    (compareTrees .standard Policy.greedy [] [] earlierEntries laterEntries {}).trace.differences =
        firstDifferences Policy.greedy
            (ruledOutlook .standard [] [] earlierEntries laterEntries)
            earlierEntries laterEntries ++
          secondDifferences Policy.greedy
            (ruledOutlook .standard [] [] earlierEntries laterEntries)
            earlierEntries laterEntries ∧
      firstDifferences Policy.greedy (ruledOutlook .standard [] [] earlierEntries laterEntries)
          earlierEntries laterEntries =
        [⟨"Text of XML node <r><a>", "1", "2"⟩, ⟨"Presence of XML node <r><b>", "YES", "NO"⟩] := by
  have refines := congrArg Trace.differences (@compareTrees_refines_walks Policy.greedy .standard
    [] [] earlierEntries laterEntries .greedy (by decide) (by decide) {})
  exact ⟨refines.trans (List.nil_append _), by decide +kernel⟩

end XmlCollation.Compare
