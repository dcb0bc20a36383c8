import XmlCollation.Proofs.Compare.Coarsening
import XmlCollation.Proofs.Compare.Silence

/-!
Contract: greedy comparisons that see less, and siblings that trade partners.

Owns:
- the greedy pairs of the children of two nodes, in which all children are if the nodes agree;
- trades: under a coarser outlook a child takes the partner that a sibling has under a finer
  one;
- agreement under a coarser outlook, if siblings that trade partners agree with one another.

Does not own: what makes an outlook coarser.
-/

namespace XmlCollation.Compare

open XmlCollation.Tree
open XmlCollation.Markup

/-! ## Greedy pairs -/

section Pairs

variable {outlook : Outlook} {node other : Node}

/-- The greedy pairs of the kept children of two nodes. -/
def Outlook.greedyPairs (outlook : Outlook) (node other : Node) : List (Nat × Nat) :=
  greedyChoice (outlook.childKeys .first node) (outlook.childKeys .second other)

/-- The kept children that a pair of indexes stands for. -/
structure Outlook.AreAt (outlook : Outlook) (node other : Node) (pair : Nat × Nat)
    (child partner : Node) : Prop where
  first : (outlook.kept .first node.children)[pair.1]? = some child
  second : (outlook.kept .second other.children)[pair.2]? = some partner

/-- Children are in a greedy pair if they have one key and one rank. -/
theorem mem_greedyPairs_iff {pair : Nat × Nat} :
    pair ∈ outlook.greedyPairs node other ↔ ∃ (key : String) (rank : Nat) (child partner : Node),
      (outlook.ranked .first key node.children)[rank]? = some (child, pair.1) ∧
        (outlook.ranked .second key other.children)[rank]? = some (partner, pair.2) := by
  let siblings : Side → List Node := fun side => (bySide node other side).children
  refine (@mem_greedyChoice outlook siblings pair).trans ?_
  refine exists_congr fun key => exists_congr fun rank => ⟨fun both => ?_, ?_⟩
  · obtain ⟨child, atChild⟩ := both .first
    obtain ⟨partner, atPartner⟩ := both .second
    exact ⟨child, partner, atChild, atPartner⟩
  · rintro ⟨child, partner, atChild, atPartner⟩ side
    cases side with
    | first => exact ⟨child, atChild⟩
    | second => exact ⟨partner, atPartner⟩

/-- The children of a greedy pair have one key and one rank. -/
theorem exists_areAt {pair : Nat × Nat} (inPairs : pair ∈ outlook.greedyPairs node other) :
    ∃ (key : String) (rank : Nat) (child partner : Node),
      outlook.AreAt node other pair child partner ∧
        (outlook.ofKey .first key node.children)[rank]? = some child ∧
        (outlook.ofKey .second key other.children)[rank]? = some partner := by
  obtain ⟨key, rank, child, partner, atChild, atPartner⟩ := mem_greedyPairs_iff.1 inPairs
  refine ⟨key, rank, child, partner, ⟨?_, ?_⟩, ?_, ?_⟩
  · exact (mem_ranked.1 (List.mem_of_getElem? atChild)).1
  · exact (mem_ranked.1 (List.mem_of_getElem? atPartner)).1
  · exact (ofKey_getElem? rank).trans (congrArg (Option.map Prod.fst) atChild)
  · exact (ofKey_getElem? rank).trans (congrArg (Option.map Prod.fst) atPartner)

/-- Children of one key and one rank are in a greedy pair. -/
theorem exists_greedyPair {key : String} {rank : Nat} {child partner : Node}
    (atChild : (outlook.ofKey .first key node.children)[rank]? = some child)
    (atPartner : (outlook.ofKey .second key other.children)[rank]? = some partner) :
    ∃ pair ∈ outlook.greedyPairs node other, outlook.AreAt node other pair child partner := by
  rw [ofKey_getElem?, Option.map_eq_some_iff] at atChild atPartner
  obtain ⟨⟨_, index⟩, inRanked, rfl⟩ := atChild
  obtain ⟨⟨_, index'⟩, inRanked', rfl⟩ := atPartner
  exact ⟨(index, index'), mem_greedyPairs_iff.2 ⟨key, rank, _, _, inRanked, inRanked'⟩,
    (mem_ranked.1 (List.mem_of_getElem? inRanked)).1,
    (mem_ranked.1 (List.mem_of_getElem? inRanked')).1⟩

theorem isBalanced_childKeys_iff :
    IsBalanced (outlook.childKeys .first node) (outlook.childKeys .second other) ↔
      ∀ key, (outlook.ofKey .first key node.children).length =
        (outlook.ofKey .second key other.children).length := by
  refine forall_congr' fun key => ?_
  rw [Outlook.childKeys, Outlook.childKeys, List.countP_map, List.countP_map,
    List.countP_eq_length_filter, List.countP_eq_length_filter]
  rfl

theorem Agrees.isBalanced (agrees : Agrees outlook node other) :
    IsBalanced (outlook.childKeys .first node) (outlook.childKeys .second other) := by
  cases agrees with
  | intro _ _ length _ => exact isBalanced_childKeys_iff.2 length

/-- The kept children of two nodes in greedy pairs. -/
def Outlook.pairedChildren (outlook : Outlook) (node other : Node) : List (Node × Node) :=
  (outlook.greedyPairs node other).map fun pair =>
    ((outlook.kept .first node.children).getD pair.1 default,
      (outlook.kept .second other.children).getD pair.2 default)

theorem exists_areAt_of_mem {children : Node × Node}
    (member : children ∈ outlook.pairedChildren node other) :
    ∃ pair ∈ outlook.greedyPairs node other,
      outlook.AreAt node other pair children.1 children.2 := by
  obtain ⟨pair, inPairs, rfl⟩ := List.mem_map.1 member
  obtain ⟨_, _, child, partner, areAt, _, _⟩ := exists_areAt inPairs
  refine ⟨pair, inPairs, ?_⟩
  rw [List.getD_eq_getElem?_getD, List.getD_eq_getElem?_getD, areAt.first, areAt.second]
  exact areAt

theorem Agrees.pairedChildren_fst (agrees : Agrees outlook node other) :
    ((outlook.pairedChildren node other).map Prod.fst).Perm
      (outlook.kept .first node.children) := by
  have everyRow := (greedyChoice_isMaximal.rows_perm greedyChoice_isPairing agrees.isBalanced).map
    fun index => (outlook.kept .first node.children).getD index default
  rw [Outlook.childKeys, List.length_map, map_getD_range, List.map_map] at everyRow
  rw [Outlook.pairedChildren, List.map_map]
  exact everyRow

theorem Agrees.pairedChildren_snd (agrees : Agrees outlook node other) :
    ((outlook.pairedChildren node other).map Prod.snd).Perm
      (outlook.kept .second other.children) := by
  have everyColumn := (greedyChoice_isMaximal.columns_perm greedyChoice_isPairing
    agrees.isBalanced).map fun index => (outlook.kept .second other.children).getD index default
  rw [List.map_map] at everyColumn
  rw [Outlook.pairedChildren, List.map_map]
  conv at everyColumn => rhs; rw [Outlook.childKeys, List.length_map, map_getD_range]
  exact everyColumn

/-- If nodes agree, every kept child of the second one has a partner. -/
theorem Agrees.exists_greedyPair_snd (agrees : Agrees outlook node other) {index : Nat}
    {partner : Node} (atIndex : (outlook.kept .second other.children)[index]? = some partner) :
    ∃ pair ∈ outlook.greedyPairs node other, pair.2 = index ∧
      ∃ child, outlook.AreAt node other pair child partner := by
  have inRange : index ∈ List.range (outlook.childKeys .second other).length := by
    rw [List.mem_range, Outlook.childKeys, List.length_map]
    exact (List.getElem?_eq_some_iff.1 atIndex).1
  have inColumns := (greedyChoice_isMaximal.columns_perm greedyChoice_isPairing
    agrees.isBalanced).mem_iff.2 inRange
  obtain ⟨pair, inPairs, rfl⟩ := List.mem_map.1 inColumns
  obtain ⟨_, _, child, found, areAt, _, _⟩ := exists_areAt inPairs
  obtain rfl : found = partner := Option.some.inj (areAt.second.symm.trans atIndex)
  exact ⟨pair, inPairs, rfl, child, areAt⟩

end Pairs

/-! ## Trades -/

/-- Under a coarse outlook a child takes the partner that a sibling, which has its signature
now, has under a fine one. -/
structure Outlook.TakesPartner (fine coarse : Outlook) (node other child sibling : Node) :
    Prop where
  signature : (coarse.keys .first child).signature = (coarse.keys .first sibling).signature
  partner : ∃ pair ∈ coarse.greedyPairs node other, ∃ pair' ∈ fine.greedyPairs node other,
    pair.2 = pair'.2 ∧ ∃ partner, coarse.AreAt node other pair child partner ∧
      fine.AreAt node other pair' sibling partner

/-- Wherever greedy comparisons under a fine outlook come down to two nodes that have no equal
contents under a coarse one, a child takes the partner of a sibling under the coarse outlook
only if the two agree with one another under it. -/
inductive Outlook.TradesAlike (fine coarse : Outlook) : Node → Node → Prop where
  | same {node other : Node} (equal : coarse.sameContent .first node other = true) :
      TradesAlike fine coarse node other
  | intro {node other : Node}
      (traded : ∀ child sibling, fine.TakesPartner coarse node other child sibling →
        Agrees ⟨coarse.config, coarse.first, coarse.first⟩ child sibling)
      (below : ∀ pair ∈ fine.greedyPairs node other, ∀ child partner,
        fine.AreAt node other pair child partner → TradesAlike fine coarse child partner) :
      TradesAlike fine coarse node other

/-- Only siblings that agree trade partners if those that have one signature under the coarse
outlook have equal contents under it. -/
theorem tradesAlike_of_alike {fine coarse : Outlook} {node : Node} (parsed : HasParsedNames node)
    (alike : ∀ upper ∈ node.preorder, ∀ child ∈ upper.children, ∀ sibling ∈ upper.children,
      (coarse.keys .first child).signature = (coarse.keys .first sibling).signature →
        (coarse.keys .first child).content = (coarse.keys .first sibling).content)
    (other : Node) : fine.TradesAlike coarse node other := by
  have inside {outlook : Outlook} {node other child partner : Node} {pair : Nat × Nat}
      (areAt : outlook.AreAt node other pair child partner) : child ∈ node.children :=
    (Visits.mem_kept.1 (List.mem_of_getElem? areAt.first)).1
  induction node using Node.childInduction generalizing other with
  | step node inductionHypothesis =>
      refine .intro ?_ ?_
      · rintro child sibling ⟨signature, _, _, _, _, _, partner, here, there⟩
        have sameContent : Outlook.sameContent ⟨coarse.config, coarse.first, coarse.first⟩ .first
            child sibling = true :=
          beq_iff_eq.2 (alike node node.mem_preorder_self child (inside here) sibling
            (inside there) signature)
        exact agrees_of_sameContent (hasParsedNames_of_mem_children parsed (inside here))
          (hasParsedNames_of_mem_children parsed (inside there)) sameContent
      · intro pair _ child partner here
        refine inductionHypothesis child (inside here)
          (hasParsedNames_of_mem_children parsed (inside here)) (fun upper below => ?_) partner
        exact alike upper (Node.mem_preorder_of_mem_children (inside here) below)

section Trades

variable {level : Node → Node → Prop} {fine coarse : Outlook} {node other : Node}

/-- Signatures are balanced under the coarse outlook if it gives the children of each fine pair
one signature. -/
theorem Agrees.isBalanced_of_pairs (agrees : Agrees fine node other)
    (kept : ∀ side nodes, coarse.kept side nodes = fine.kept side nodes)
    (signature : ∀ children ∈ fine.pairedChildren node other,
      (coarse.keys .first children.1).signature = (coarse.keys .second children.2).signature) :
    IsBalanced (coarse.childKeys .first node) (coarse.childKeys .second other) := by
  intro key
  rw [Outlook.childKeys, Outlook.childKeys, List.countP_map, List.countP_map, kept, kept]
  refine countP_eq_of_pairs agrees.pairedChildren_fst agrees.pairedChildren_snd
    fun children member => ?_
  rw [Function.comp_apply, Function.comp_apply, signature children member]

/-- Nodes that agree under a fine outlook agree under a coarse one if the children of each fine
pair do, and siblings that trade partners: a child agrees with the sibling whose partner it
takes, and this sibling with its partner. -/
theorem Agrees.of_trades (agrees : Agrees fine node other)
    (kept : ∀ side nodes, coarse.kept side nodes = fine.kept side nodes)
    (signature : (coarse.keys .first node).signature = (coarse.keys .second other).signature)
    (text : textKey coarse.config node = textKey coarse.config other)
    (meet : ∀ pair ∈ fine.greedyPairs node other, ∀ child partner,
      fine.AreAt node other pair child partner →
        (coarse.keys .first child).signature = (coarse.keys .second partner).signature ∧
          Agrees coarse child partner)
    (traded : ∀ child sibling, fine.TakesPartner coarse node other child sibling →
      Agrees ⟨coarse.config, coarse.first, coarse.first⟩ child sibling) :
    Agrees coarse node other := by
  have balanced : IsBalanced (coarse.childKeys .first node) (coarse.childKeys .second other) := by
    refine agrees.isBalanced_of_pairs kept fun children member => ?_
    obtain ⟨pair, inPairs, areAt⟩ := exists_areAt_of_mem member
    exact (meet pair inPairs _ _ areAt).1
  refine .intro signature text (isBalanced_childKeys_iff.1 balanced) ?_
  intro key rank child partner atChild atPartner
  obtain ⟨pair, inPairs, areAt⟩ := exists_greedyPair atChild atPartner
  have atSecond := areAt.second
  rw [kept] at atSecond
  obtain ⟨pair', inPairs', sameIndex, sibling, there⟩ := agrees.exists_greedyPair_snd atSecond
  obtain ⟨sameSignature, siblingAgrees⟩ := meet pair' inPairs' sibling partner there
  have childKey := beq_iff_eq.1 (List.mem_filter.1 (List.mem_of_getElem? atChild)).2
  have partnerKey := beq_iff_eq.1 (List.mem_filter.1 (List.mem_of_getElem? atPartner)).2
  have takes : fine.TakesPartner coarse node other child sibling :=
    ⟨(childKey.trans partnerKey.symm).trans sameSignature.symm, pair, inPairs, pair', inPairs',
      sameIndex.symm, partner, areAt, there⟩
  exact (traded child sibling takes).trans siblingAgrees

/-- Nodes on one level that agree still agree, if siblings that trade partners agree. -/
theorem Outlook.Coarsens.agrees (coarsens : fine.Coarsens level coarse)
    (agrees : Agrees fine node other) (isLevel : level node other)
    (trades : fine.TradesAlike coarse node other) : Agrees coarse node other := by
  induction agrees with
  | @intro node other signature text length children inductionHypothesis =>
      have agrees : Agrees fine node other := .intro signature text length children
      cases trades with
      | same equal =>
          obtain ⟨parsed, otherParsed⟩ := coarsens.parsed isLevel
          exact agrees_of_sameContent parsed otherParsed equal
      | intro traded below =>
          refine agrees.of_trades coarsens.kept (coarsens.signature isLevel signature)
            (coarsens.textKey_eq text) ?_ traded
          intro pair inPairs child partner areAt
          obtain ⟨key, rank, _, _, found, atChild, atPartner⟩ := exists_areAt inPairs
          obtain rfl := Option.some.inj (areAt.first.symm.trans found.first)
          obtain rfl := Option.some.inj (areAt.second.symm.trans found.second)
          have childMember := List.mem_filter.1 (List.mem_of_getElem? atChild)
          have partnerMember := List.mem_filter.1 (List.mem_of_getElem? atPartner)
          have sameKey := (beq_iff_eq.1 childMember.2).trans (beq_iff_eq.1 partnerMember.2).symm
          have lower := coarsens.below isLevel signature _ (Visits.mem_kept.1 childMember.1).1 _
            (Visits.mem_kept.1 partnerMember.1).1
          exact ⟨coarsens.signature lower sameKey, inductionHypothesis key rank _ _ atChild
            atPartner lower (below pair inPairs _ _ areAt)⟩

end Trades

end XmlCollation.Compare
