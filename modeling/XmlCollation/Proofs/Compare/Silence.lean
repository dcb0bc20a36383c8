import XmlCollation.Proofs.Compare.Balance
import XmlCollation.Proofs.Compare.Resemblance
import XmlCollation.Proofs.Tree.Ancestry

/-!
Contract: what silent walks say about trees, whatever the policy.

Owns:
- pairs of indexes that cover all siblings, as pairs of nodes, and the pairs that kept
  siblings are in if nothing is reported of them;
- soundness: nodes of equal signature resemble each other if the walks over them are
  silent;
- completeness: walks over nodes that resemble each other are silent, if siblings for which
  no partner of equal content is left resemble one another.

Does not own: the agreement by ranks that the greedy policy looks for.
-/

namespace XmlCollation.Compare

open XmlCollation.Tree
open XmlCollation.Markup
open XmlCollation.Rules (Rule otherSide)

variable {policy : Policy} {choice : Choice} {outlook : Outlook}

/-! ## Siblings -/

/-- The kept siblings of a side, as indexes lead to them. -/
theorem map_getD_range (nodes : List Node) :
    (List.range nodes.length).map (fun index => nodes.getD index default) = nodes := by
  refine List.ext_getElem (by simp) fun index inRange _ => ?_
  simp only [List.length_map, List.length_range] at inRange
  simp [inRange]

/-- If every kept sibling is in a pair of indexes, then these are pairs of nodes in which
all of them occur. -/
theorem exists_nodePairs (pairing : choice.IsPairing) (follows : policy.Follows choice)
    (prepared : outlook.Prepared) (siblings : Side → List Node)
    (covered : ∀ side index node, (outlook.kept side (siblings side))[index]? = some node →
      index ∈ (policy.keptPairing outlook siblings).map fun pair => pairIndex pair side) :
    ∃ pairs : List (Node × Node),
      (pairs.map Prod.fst).Perm (outlook.kept .first (siblings .first)) ∧
        (pairs.map Prod.snd).Perm (outlook.kept .second (siblings .second)) ∧
        ∀ nodes ∈ pairs, ∃ pair ∈ policy.keptPairing outlook siblings, ∀ side,
          (outlook.kept side (siblings side))[pairIndex pair side]? =
            some (bySide nodes.1 nodes.2 side) := by
  let nodeAt (side : Side) (pair : Nat × Nat) : Node :=
    (outlook.kept side (siblings side)).getD (pairIndex pair side) default
  have indexes (side : Side) :
      ((policy.keptPairing outlook siblings).map fun pair => pairIndex pair side).Perm
        (List.range (outlook.kept side (siblings side)).length) := by
    refine (List.perm_ext_iff_of_nodup
      (keptPairing_nodup pairing follows prepared siblings side) List.nodup_range).2 fun index => ?_
    rw [List.mem_range]
    constructor
    · intro member
      obtain ⟨pair, inPairs, rfl⟩ := List.mem_map.1 member
      obtain ⟨nodes, atPair, _⟩ := exists_nodes_of_pair pairing follows prepared inPairs
      exact (List.getElem?_eq_some_iff.1 (atPair side)).1
    · intro inRange
      exact covered side index _ (List.getElem?_eq_getElem inRange)
  have arranged (side : Side) :
      ((policy.keptPairing outlook siblings).map (nodeAt side)).Perm
        (outlook.kept side (siblings side)) := by
    have mapped := (indexes side).map fun index =>
      (outlook.kept side (siblings side)).getD index default
    rwa [map_getD_range, List.map_map] at mapped
  refine ⟨(policy.keptPairing outlook siblings).map fun pair =>
    (nodeAt .first pair, nodeAt .second pair), ?_, ?_, ?_⟩
  · rw [List.map_map]
    exact arranged .first
  · rw [List.map_map]
    exact arranged .second
  · intro nodes member
    obtain ⟨pair, inPairs, rfl⟩ := List.mem_map.1 member
    obtain ⟨found, atPair, _⟩ := exists_nodes_of_pair pairing follows prepared inPairs
    have isFound (side : Side) : nodeAt side pair = found side := by
      show (outlook.kept side (siblings side)).getD (pairIndex pair side) default = found side
      rw [List.getD_eq_getElem?_getD, atPair side, Option.getD_some]
    refine ⟨pair, inPairs, fun side => ?_⟩
    rw [atPair side]
    cases side with
    | first => exact congrArg some (isFound .first).symm
    | second => exact congrArg some (isFound .second).symm

/-- If nothing is reported of siblings, each kept one has a partner, and nothing is reported of
the pair. -/
theorem exists_silent_partner {siblings : Side → List Node} {side : Side}
    (silent : ∃ above, walkSiblings policy outlook side (sideReport outlook.config side) above
      (siblings side) (siblings (otherSide side)) = []) :
    ∃ above, ∀ (index : Nat) (node : Node), (outlook.kept side (siblings side))[index]? = some node →
      ∃ partner, policy.partner? outlook side (siblings side) (siblings (otherSide side)) index =
          some partner ∧
        walk policy outlook side (sideReport outlook.config side) above node partner = [] := by
  obtain ⟨above, nothing⟩ := silent
  exact ⟨above, (walkSiblings_silent_iff _ _ _ (sideReport_lone_ne_nil outlook.config side) _ _
    _).1 nothing⟩

/-- If nothing is reported of the siblings of either side, nothing is reported of a pair. -/
theorem silent_of_pair (pairing : choice.IsPairing) (follows : policy.Follows choice)
    (prepared : outlook.Prepared) {siblings : Side → List Node}
    (silent : ∀ side, ∃ above, walkSiblings policy outlook side (sideReport outlook.config side)
      above (siblings side) (siblings (otherSide side)) = [])
    {pair : Nat × Nat} (inPairs : pair ∈ policy.keptPairing outlook siblings) {found : Side → Node}
    (atFound : ∀ side, (outlook.kept side (siblings side))[pairIndex pair side]? =
      some (found side)) (side : Side) :
    ∃ above, walk policy outlook side (sideReport outlook.config side) above (found side)
      (found (otherSide side)) = [] := by
  obtain ⟨above, below⟩ := exists_silent_partner (silent side)
  obtain ⟨partner, isPartner, nothing⟩ := below _ _ (atFound side)
  have isOther := partner_of_pair (keptPairing_nodup pairing follows prepared siblings side)
    inPairs (atFound (otherSide side))
  obtain rfl := Option.some.inj (isPartner.symm.trans isOther)
  exact ⟨above, nothing⟩

/-- If nothing is reported of the siblings of either side, each kept one is in a pair of kept
siblings of equal signature, and nothing is reported of the pair. -/
theorem exists_silent_pair (pairing : choice.IsPairing) (follows : policy.Follows choice)
    (prepared : outlook.Prepared) {siblings : Side → List Node}
    (silent : ∀ side, ∃ above, walkSiblings policy outlook side (sideReport outlook.config side)
      above (siblings side) (siblings (otherSide side)) = [])
    {side : Side} {index : Nat} {node : Node}
    (atIndex : (outlook.kept side (siblings side))[index]? = some node) :
    ∃ found : Side → Node, found side = node ∧
      policy.partner? outlook side (siblings side) (siblings (otherSide side)) index =
        some (found (otherSide side)) ∧
      (∀ walked, found walked ∈ outlook.kept walked (siblings walked)) ∧
      (outlook.keys .first (found .first)).signature =
        (outlook.keys .second (found .second)).signature ∧
      ∀ walked, ∃ above, walk policy outlook walked (sideReport outlook.config walked) above
        (found walked) (found (otherSide walked)) = [] := by
  obtain ⟨_, partners⟩ := exists_silent_partner (silent side)
  obtain ⟨partner, isPartner, _⟩ := partners index node atIndex
  obtain ⟨pair, inPairs, rfl, atOther⟩ := exists_pair_of_partner isPartner
  obtain ⟨found, atFound, sameSignature⟩ := exists_nodes_of_pair pairing follows prepared inPairs
  obtain rfl : found side = node := Option.some.inj ((atFound side).symm.trans atIndex)
  obtain rfl : found (otherSide side) = partner :=
    Option.some.inj ((atFound (otherSide side)).symm.trans atOther)
  exact ⟨found, rfl, isPartner, fun walked => List.mem_of_getElem? (atFound walked), sameSignature,
    silent_of_pair pairing follows prepared silent inPairs atFound⟩

/-- If nothing is reported of the siblings of either side, they are all in pairs of equal
signatures of which nothing is reported. -/
theorem exists_silentPairs (pairing : choice.IsPairing) (follows : policy.Follows choice)
    (prepared : outlook.Prepared) (siblings : Side → List Node)
    (silent : ∀ side, ∃ above, walkSiblings policy outlook side (sideReport outlook.config side)
      above (siblings side) (siblings (otherSide side)) = []) :
    ∃ pairs : List (Node × Node),
      (pairs.map Prod.fst).Perm (outlook.kept .first (siblings .first)) ∧
        (pairs.map Prod.snd).Perm (outlook.kept .second (siblings .second)) ∧
        ∀ nodes ∈ pairs,
          (outlook.keys .first nodes.1).signature = (outlook.keys .second nodes.2).signature ∧
            ∀ side, ∃ above, walk policy outlook side (sideReport outlook.config side) above
              (bySide nodes.1 nodes.2 side) (bySide nodes.1 nodes.2 (otherSide side)) = [] := by
  obtain ⟨pairs, firsts, seconds, indexed⟩ :=
    exists_nodePairs pairing follows prepared siblings (by
      intro side index node atIndex
      obtain ⟨above, below⟩ := exists_silent_partner (silent side)
      obtain ⟨partner, found, _⟩ := below index node atIndex
      obtain ⟨pair, inPairs, isIndex, _⟩ := exists_pair_of_partner found
      exact List.mem_map.2 ⟨pair, inPairs, isIndex⟩)
  refine ⟨pairs, firsts, seconds, fun nodes member => ?_⟩
  obtain ⟨pair, inPairs, atPair⟩ := indexed nodes member
  refine ⟨?_, silent_of_pair pairing follows prepared silent inPairs atPair⟩
  obtain ⟨found, atFound, sameSignature⟩ := exists_nodes_of_pair pairing follows prepared inPairs
  have isFound (side : Side) : bySide nodes.1 nodes.2 side = found side :=
    Option.some.inj ((atPair side).symm.trans (atFound side))
  rwa [← isFound, ← isFound] at sameSignature

/-! ## Soundness -/

/-- Nodes of equal signature resemble each other if nothing is reported of them. -/
theorem resembles_of_silent (pairing : choice.IsPairing) (follows : policy.Follows choice)
    (prepared : outlook.Prepared) {node other : Node} (parsed : HasParsedNames node)
    (otherParsed : HasParsedNames other)
    (signature : (outlook.keys .first node).signature = (outlook.keys .second other).signature)
    (silent : ∀ side, ∃ above, walk policy outlook side (sideReport outlook.config side) above
      (bySide node other side) (bySide node other (otherSide side)) = []) :
    Resembles outlook.config outlook.first outlook.second node other := by
  induction node using Node.childInduction generalizing other with
  | step node inductionHypothesis =>
      cases equal : outlook.sameContent .first node other with
      | true => exact resembles_of_sameContent parsed otherParsed equal
      | false =>
          obtain ⟨text, below⟩ := children_of_silent equal silent
          obtain ⟨pairs, firsts, seconds, parts⟩ := exists_silentPairs pairing follows prepared
            (fun side => (bySide node other side).children) below
          refine .intro signature text pairs firsts seconds fun pair member => ?_
          have inNode : pair.1 ∈ node.children :=
            (Visits.mem_kept.1 (firsts.mem_iff.1 (List.mem_map_of_mem member))).1
          have inOther : pair.2 ∈ other.children :=
            (Visits.mem_kept.1 (seconds.mem_iff.1 (List.mem_map_of_mem member))).1
          exact inductionHypothesis pair.1 inNode (hasParsedNames_of_mem_children parsed inNode)
            (hasParsedNames_of_mem_children otherParsed inOther) (parts pair member).1
            (parts pair member).2

/-! ## Completeness -/

/-- The keys of the kept children of a node of a side. -/
def Outlook.childKeys (outlook : Outlook) (side : Side) (node : Node) : List SiblingKeys :=
  (outlook.kept side node.children).map (outlook.keys side)

/-- The keys of a child of a node of the first side are more frequent among its children
than among those of a node of the second side. -/
def Outlook.IsSurplus (outlook : Outlook) (node other child : Node) : Prop :=
  (outlook.childKeys .second other).count (outlook.keys .first child) <
    (outlook.childKeys .first node).count (outlook.keys .first child)

/-- The nodes of two trees that a walk may come upon as a pair: the ones at the top, and
below a pair of unequal content all kept children that resemble each other. -/
inductive Outlook.Meets (outlook : Outlook) (first second : Node) : Node → Node → Prop where
  | top : Meets outlook first second first second
  | inside {node other child partner : Node} (above : Meets outlook first second node other)
      (unequal : outlook.sameContent .first node other = false)
      (childIn : child ∈ outlook.kept .first node.children)
      (partnerIn : partner ∈ outlook.kept .second other.children)
      (resembles : Resembles outlook.config outlook.first outlook.second child partner) :
      Meets outlook first second child partner

theorem Outlook.Meets.trans {first second node other lower lowerOther : Node}
    (upperHalf : outlook.Meets first second node other)
    (lowerHalf : outlook.Meets node other lower lowerOther) :
    outlook.Meets first second lower lowerOther := by
  induction lowerHalf with
  | top => exact upperHalf
  | inside _ unequal childIn partnerIn resembles inductionHypothesis =>
      exact .inside inductionHypothesis unequal childIn partnerIn resembles

theorem Outlook.Meets.mem_preorder {first second node other : Node}
    (meets : outlook.Meets first second node other) : node ∈ first.preorder := by
  induction meets with
  | top => exact first.mem_preorder_self
  | inside _ _ childIn _ _ inductionHypothesis =>
      exact Node.mem_preorder_trans inductionHypothesis
        (Node.child_mem_preorder (Visits.mem_kept.1 childIn).1)

/-- Wherever two nodes of unequal content meet that resemble each other, the children of the
first one that have one signature and for which no partner of equal content is left resemble
one another. -/
def Outlook.IsUnambiguous (outlook : Outlook) (first second : Node) : Prop :=
  ∀ node other, outlook.Meets first second node other →
    Resembles outlook.config outlook.first outlook.second node other →
      outlook.sameContent .first node other = false →
        ∀ child ∈ outlook.kept .first node.children,
          ∀ sibling ∈ outlook.kept .first node.children,
            (outlook.keys .first child).signature = (outlook.keys .first sibling).signature →
              outlook.IsSurplus node other child → outlook.IsSurplus node other sibling →
                Resembles outlook.config outlook.first outlook.first child sibling

theorem Outlook.IsUnambiguous.of_meets {first second node other : Node}
    (unambiguous : outlook.IsUnambiguous first second)
    (meets : outlook.Meets first second node other) : outlook.IsUnambiguous node other :=
  fun lower lowerOther below => unambiguous lower lowerOther (meets.trans below)

/-- Nothing is ambiguous if siblings of one signature do not occur. -/
theorem isUnambiguous_of_unique {first second : Node}
    (unique : ∀ node ∈ first.preorder, ∀ child ∈ outlook.kept .first node.children,
      ∀ sibling ∈ outlook.kept .first node.children,
        (outlook.keys .first child).signature = (outlook.keys .first sibling).signature →
          child = sibling) :
    outlook.IsUnambiguous first second := by
  intro node other meets _ _ child childIn sibling siblingIn signature _ _
  obtain rfl := unique node meets.mem_preorder child childIn sibling siblingIn signature
  exact .refl _ _ child

/-- Kinds that pairs preserve are as frequent on both sides. -/
theorem countP_eq_of_pairs {pairs : List (Node × Node)} {nodes others : List Node}
    {kind kind' : Node → Bool} (firsts : (pairs.map Prod.fst).Perm nodes)
    (seconds : (pairs.map Prod.snd).Perm others)
    (same : ∀ pair ∈ pairs, kind pair.1 = kind' pair.2) :
    nodes.countP kind = others.countP kind' := by
  rw [← firsts.countP_eq, ← seconds.countP_eq, List.countP_map, List.countP_map]
  refine List.countP_congr fun pair member => ?_
  rw [Function.comp_apply, Function.comp_apply, same pair member]

theorem getElem?_childKeys {side : Side} {node child : Node} {index : Nat}
    (atIndex : (outlook.kept side node.children)[index]? = some child) :
    (outlook.childKeys side node)[index]? = some (outlook.keys side child) := by
  rw [Outlook.childKeys, List.getElem?_map, atIndex, Option.map_some]

theorem Resembles.isBalanced {node other : Node}
    (resembles : Resembles outlook.config outlook.first outlook.second node other) :
    IsBalanced (outlook.childKeys .first node) (outlook.childKeys .second other) := by
  cases resembles with
  | intro _ _ pairs firsts seconds children =>
      intro signature
      rw [Outlook.childKeys, Outlook.childKeys, List.countP_map, List.countP_map]
      refine countP_eq_of_pairs firsts seconds fun pair member => ?_
      exact congrArg (· == signature) (children pair member).signature

section Complete

variable {node other child partner : Node} {pair : Nat × Nat}

/-! ### Pairs of a choice -/

theorem exists_partner_of_pair (pairing : choice.IsPairing)
    (inPairs : pair ∈ choice (outlook.childKeys .first node) (outlook.childKeys .second other)) :
    ∃ partner, (outlook.kept .second other.children)[pair.2]? = some partner := by
  obtain ⟨_, column, _, atColumn, _⟩ := pairing.sameSignature _ _ pair inPairs
  rw [Outlook.childKeys, List.getElem?_map, Option.map_eq_some_iff] at atColumn
  obtain ⟨partner, atPartner, _⟩ := atColumn
  exact ⟨partner, atPartner⟩

theorem signature_eq_of_pair (pairing : choice.IsPairing)
    (inPairs : pair ∈ choice (outlook.childKeys .first node) (outlook.childKeys .second other))
    (atChild : (outlook.kept .first node.children)[pair.1]? = some child)
    (atPartner : (outlook.kept .second other.children)[pair.2]? = some partner) :
    (outlook.keys .first child).signature = (outlook.keys .second partner).signature := by
  obtain ⟨row, column, atRow, atColumn, same⟩ := pairing.sameSignature _ _ pair inPairs
  rw [getElem?_childKeys atChild, Option.some.injEq] at atRow
  rw [getElem?_childKeys atPartner, Option.some.injEq] at atColumn
  rw [atRow, atColumn, same]

/-- A child whose partner has other content is one for which no partner of equal content is
left. -/
theorem isSurplus_of_pair (pairing : choice.IsPairing) (prefersEqual : choice.PrefersEqual)
    (inPairs : pair ∈ choice (outlook.childKeys .first node) (outlook.childKeys .second other))
    (atChild : (outlook.kept .first node.children)[pair.1]? = some child)
    (atPartner : (outlook.kept .second other.children)[pair.2]? = some partner)
    (unequal : outlook.keys .first child ≠ outlook.keys .second partner) :
    outlook.IsSurplus node other child := by
  refine prefersEqual.count_lt pairing (getElem?_childKeys atChild) ?_
  intro pair' inPairs' sameRow equal
  obtain rfl : pair' = pair :=
    List.inj_on_of_nodup_map (pairing.rows_nodup _ _) inPairs' inPairs sameRow
  rw [getElem?_childKeys atPartner, Option.some.injEq] at equal
  exact unequal equal.symm

/-- The keys of the partner are more frequent on its own side then, too. -/
theorem count_lt_of_pair (pairing : choice.IsPairing) (prefersEqual : choice.PrefersEqual)
    (inPairs : pair ∈ choice (outlook.childKeys .first node) (outlook.childKeys .second other))
    (atChild : (outlook.kept .first node.children)[pair.1]? = some child)
    (atPartner : (outlook.kept .second other.children)[pair.2]? = some partner)
    (unequal : outlook.keys .first child ≠ outlook.keys .second partner) :
    (outlook.childKeys .first node).count (outlook.keys .second partner) <
      (outlook.childKeys .second other).count (outlook.keys .second partner) := by
  refine prefersEqual.count_lt_of_column pairing (getElem?_childKeys atPartner) ?_
  intro pair' inPairs' sameColumn equal
  obtain rfl : pair' = pair :=
    List.inj_on_of_nodup_map (pairing.columns_nodup _ _) inPairs' inPairs sameColumn
  rw [getElem?_childKeys atChild, Option.some.injEq] at equal
  exact unequal equal

/-- Kept children of equal keys resemble each other. -/
theorem resembles_of_keys_eq (parsed : HasParsedNames node) (otherParsed : HasParsedNames other)
    (childIn : child ∈ outlook.kept .first node.children)
    (partnerIn : partner ∈ outlook.kept .second other.children)
    (equal : outlook.keys .first child = outlook.keys .second partner) :
    Resembles outlook.config outlook.first outlook.second child partner :=
  resembles_of_sameContent (hasParsedNames_of_kept parsed childIn)
    (hasParsedNames_of_kept otherParsed partnerIn) (sameContent_of_keys_eq equal)

/-! ### Unlike siblings -/

/-- A node of a side with the signature of a node of the first side, which it does not
resemble. -/
def Outlook.IsUnlike (outlook : Outlook) (child : Node) (side : Side) (sibling : Node) : Prop :=
  (outlook.keys side sibling).signature = (outlook.keys .first child).signature ∧
    ¬Resembles outlook.config outlook.first (outlook.visits side) child sibling

open scoped Classical in
/-- Nodes that resemble each other have equally many children that are unlike a given one. -/
theorem Resembles.countP_isUnlike
    (resembles : Resembles outlook.config outlook.first outlook.second node other)
    (child : Node) :
    (outlook.kept .first node.children).countP
        (fun sibling => decide (outlook.IsUnlike child .first sibling)) =
      (outlook.kept .second other.children).countP
        fun sibling => decide (outlook.IsUnlike child .second sibling) := by
  cases resembles with
  | intro _ _ pairs firsts seconds children =>
      refine countP_eq_of_pairs firsts seconds fun nodes member => ?_
      have here := children nodes member
      refine decide_eq_decide.2 (and_congr ?_ (not_congr ⟨fun like => like.trans here,
        fun like => like.trans here.symm⟩))
      exact iff_of_eq (congrArg (· = (outlook.keys .first child).signature) here.signature)

/-- The partner of a sibling that is unlike a child is unlike it as well: it is like the
sibling if their contents are equal, and else no partner of equal content is left for
either of both children, which therefore resemble one another. -/
theorem Outlook.IsUnlike.of_pair {sibling : Node} (pairing : choice.IsPairing)
    (prefersEqual : choice.PrefersEqual) (parsed : HasParsedNames node)
    (otherParsed : HasParsedNames other)
    (resembles : Resembles outlook.config outlook.first outlook.second node other)
    (unequal : outlook.sameContent .first node other = false)
    (unambiguous : outlook.IsUnambiguous node other)
    (childIn : child ∈ outlook.kept .first node.children)
    (surplus : outlook.IsSurplus node other child)
    (inPairs : pair ∈ choice (outlook.childKeys .first node) (outlook.childKeys .second other))
    (atSibling : (outlook.kept .first node.children)[pair.1]? = some sibling)
    (atPartner : (outlook.kept .second other.children)[pair.2]? = some partner)
    (unlike : outlook.IsUnlike child .first sibling) :
    outlook.IsUnlike child .second partner := by
  obtain ⟨sameSignature, siblingUnlike⟩ := unlike
  have signature := signature_eq_of_pair pairing inPairs atSibling atPartner
  refine ⟨signature.symm.trans sameSignature, fun like => siblingUnlike ?_⟩
  have siblingIn := List.mem_of_getElem? atSibling
  by_cases equal : outlook.keys .first sibling = outlook.keys .second partner
  · exact like.trans (resembles_of_keys_eq parsed otherParsed siblingIn
      (List.mem_of_getElem? atPartner) equal).symm
  · exact unambiguous node other .top resembles unequal child childIn sibling siblingIn
      sameSignature.symm surplus
      (isSurplus_of_pair pairing prefersEqual inPairs atSibling atPartner equal)

/-- Below nodes that resemble each other, pairs resemble each other again.  If one did not,
its second node would be unlike its first one and so would be the partners of all siblings
that are, but there are only as many of those as of these. -/
theorem resembles_of_pair (pairing : choice.IsPairing) (maximal : choice.IsMaximal)
    (prefersEqual : choice.PrefersEqual) (parsed : HasParsedNames node)
    (otherParsed : HasParsedNames other)
    (resembles : Resembles outlook.config outlook.first outlook.second node other)
    (unequal : outlook.sameContent .first node other = false)
    (unambiguous : outlook.IsUnambiguous node other)
    (inPairs : pair ∈ choice (outlook.childKeys .first node) (outlook.childKeys .second other))
    (atChild : (outlook.kept .first node.children)[pair.1]? = some child)
    (atPartner : (outlook.kept .second other.children)[pair.2]? = some partner) :
    Resembles outlook.config outlook.first outlook.second child partner := by
  by_contra unlike
  have childIn := List.mem_of_getElem? atChild
  have otherKeys : outlook.keys .first child ≠ outlook.keys .second partner := fun equal =>
    unlike (resembles_of_keys_eq parsed otherParsed childIn (List.mem_of_getElem? atPartner) equal)
  have surplus := isSurplus_of_pair pairing prefersEqual inPairs atChild atPartner otherKeys
  have signature := signature_eq_of_pair pairing inPairs atChild atPartner
  classical
  refine absurd (resembles.countP_isUnlike child) (Nat.ne_of_lt ?_)
  refine countP_lt_countP (pairing.columns_nodup (outlook.childKeys .first node)
    (outlook.childKeys .second other)) atPartner (decide_eq_true ⟨signature.symm, unlike⟩) ?_
  intro index sibling atSibling isUnlike
  have siblingUnlike : outlook.IsUnlike child .first sibling := of_decide_eq_true isUnlike
  obtain ⟨pair', inPairs', rfl⟩ := List.mem_map.1
    (maximal.row_mem pairing resembles.isBalanced (getElem?_childKeys atSibling))
  obtain ⟨partner', atPartner'⟩ := exists_partner_of_pair pairing inPairs'
  refine ⟨pair', inPairs', rfl, ?_, mem_indexesWhere.2 ⟨partner', atPartner', ?_⟩⟩
  · intro sameColumn
    obtain rfl : pair' = pair :=
      List.inj_on_of_nodup_map (pairing.columns_nodup _ _) inPairs' inPairs sameColumn
    obtain rfl := Option.some.inj (atChild.symm.trans atSibling)
    exact siblingUnlike.2 (.refl _ _ child)
  · exact decide_eq_true (siblingUnlike.of_pair pairing prefersEqual parsed otherParsed resembles
      unequal unambiguous childIn surplus inPairs' atSibling atPartner')

/-- Each kept child of a side is in a pair, if each signature is as frequent on both sides. -/
theorem exists_pair_of_balanced (pairing : choice.IsPairing) (maximal : choice.IsMaximal)
    (follows : policy.Follows choice) (prepared : outlook.Prepared)
    (balanced : IsBalanced (outlook.childKeys .first node) (outlook.childKeys .second other))
    {side : Side} {index : Nat} {child : Node}
    (atIndex : (outlook.kept side (bySide node other side).children)[index]? = some child) :
    ∃ pair ∈ choice (outlook.childKeys .first node) (outlook.childKeys .second other),
      ∃ found : Side → Node, found side = child ∧
        (∀ walked, (outlook.kept walked (bySide node other walked).children)[pairIndex pair
          walked]? = some (found walked)) ∧
        policy.partner? outlook side (bySide node other side).children
          (bySide node other (otherSide side)).children index = some (found (otherSide side)) := by
  let siblings : Side → List Node := fun walked => (bySide node other walked).children
  have pairing_eq : policy.keptPairing outlook siblings =
      choice (outlook.childKeys .first node) (outlook.childKeys .second other) :=
    keptPairing_eq follows prepared siblings
  have paired : index ∈ (policy.keptPairing outlook siblings).map
      fun pair => pairIndex pair side := by
    rw [pairing_eq]
    cases side with
    | first => exact maximal.row_mem pairing balanced (getElem?_childKeys atIndex)
    | second => exact maximal.column_mem pairing balanced (getElem?_childKeys atIndex)
  obtain ⟨pair, inPairs, rfl⟩ := List.mem_map.1 paired
  obtain ⟨found, atFound, _⟩ := exists_nodes_of_pair pairing follows prepared inPairs
  exact ⟨pair, pairing_eq ▸ inPairs, found, Option.some.inj ((atFound side).symm.trans atIndex),
    atFound, partner_of_pair (keptPairing_nodup pairing follows prepared siblings side) inPairs
      (atFound (otherSide side))⟩

/-- Nothing is reported of nodes of equal texts, among the children of which each signature is as
frequent on both sides, if nothing is reported of any two children in a pair. -/
theorem silent_of_balanced (pairing : choice.IsPairing) (maximal : choice.IsMaximal)
    (follows : policy.Follows choice) (prepared : outlook.Prepared) {side : Side}
    (unequal : outlook.sameContent side (bySide node other side)
      (bySide node other (otherSide side)) = false)
    (text : textKey outlook.config node = textKey outlook.config other)
    (balanced : IsBalanced (outlook.childKeys .first node) (outlook.childKeys .second other))
    (below : ∀ pair ∈ choice (outlook.childKeys .first node) (outlook.childKeys .second other),
      ∀ child partner, (outlook.kept .first node.children)[pair.1]? = some child →
        (outlook.kept .second other.children)[pair.2]? = some partner → ∀ above,
          walk policy outlook side (sideReport outlook.config side) above
            (bySide child partner side) (bySide child partner (otherSide side)) = [])
    (above : String) :
    walk policy outlook side (sideReport outlook.config side) above (bySide node other side)
      (bySide node other (otherSide side)) = [] := by
  rw [walk_of_unequal (bySide node other) unequal text]
  refine (walkSiblings_silent_iff _ _ _ (sideReport_lone_ne_nil outlook.config side) _ _
    _).2 fun index child atIndex => ?_
  obtain ⟨pair, inPairs, found, rfl, atFound, partner⟩ :=
    exists_pair_of_balanced pairing maximal follows prepared balanced atIndex
  refine ⟨found (otherSide side), partner, ?_⟩
  have silent := below pair inPairs (found .first) (found .second) (atFound .first)
    (atFound .second) (above ++ outlook.signature side (bySide node other side))
  cases side with
  | first => exact silent
  | second => exact silent

/-- Nothing is reported of nodes that resemble each other, if no pair is ambiguous. -/
theorem silent_of_resembles (pairing : choice.IsPairing) (maximal : choice.IsMaximal)
    (prefersEqual : choice.PrefersEqual) (follows : policy.Follows choice)
    (prepared : outlook.Prepared) (parsed : HasParsedNames node)
    (otherParsed : HasParsedNames other)
    (resembles : Resembles outlook.config outlook.first outlook.second node other)
    (unambiguous : outlook.IsUnambiguous node other) (side : Side) (above : String) :
    walk policy outlook side (sideReport outlook.config side) above (bySide node other side)
      (bySide node other (otherSide side)) = [] := by
  induction node using Node.childInduction generalizing other above with
  | step node inductionHypothesis =>
      cases equal : outlook.sameContent side (bySide node other side)
          (bySide node other (otherSide side)) with
      | true => rw [walk_eq, equal, if_pos rfl]
      | false =>
          have text : textKey outlook.config node = textKey outlook.config other := by
            cases resembles
            assumption
          have unequal : outlook.sameContent .first node other = false :=
            (sameContent_side outlook (bySide node other) side).symm.trans equal
          refine silent_of_balanced pairing maximal follows prepared equal text
            resembles.isBalanced ?_ above
          intro pair inPairs child partner atChild atPartner
          have childIn := List.mem_of_getElem? atChild
          have partnerIn := List.mem_of_getElem? atPartner
          have like := resembles_of_pair pairing maximal prefersEqual parsed otherParsed resembles
            unequal unambiguous inPairs atChild atPartner
          exact inductionHypothesis child (Visits.mem_kept.1 childIn).1
            (hasParsedNames_of_kept parsed childIn) (hasParsedNames_of_kept otherParsed partnerIn)
            like (unambiguous.of_meets (.inside .top unequal childIn partnerIn like))

end Complete

end XmlCollation.Compare
