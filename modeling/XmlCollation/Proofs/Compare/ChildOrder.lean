import XmlCollation.Proofs.Compare.Descent
import XmlCollation.Proofs.Compare.Equivalence
import XmlCollation.Proofs.Compare.Placement

/-!
Contract: documents that differ in the order of the children of one node.

Owns:
- nodes that differ by one child: all other children have the same keys on both sides, and the
  two that are left differ by one child again, or not at all;
- comparisons by least cost report nothing of such nodes: where siblings have unequal partners,
  these have the keys of the two that are left;
- trees in which the children of one node are put in another order, their names and positions:
  they differ by one child, at the root and all the way down.

Does not own: changes of order at several places, after which siblings may be confused.
-/

namespace XmlCollation.Compare

open XmlCollation.Tree
open XmlCollation.Markup
open XmlCollation.Rules (otherSide)

/-! ## Differing by one child -/

/-- Nodes of equal content, or nodes whose children, but for one on either side, have the same
keys, and of which these two children differ by one again. -/
inductive DiffersByOne (outlook : Outlook) : Node → Node → Prop where
  | same {node other : Node} (equal : outlook.sameContent .first node other = true) :
      DiffersByOne outlook node other
  | inside {node other child partner : Node} (common : List SiblingKeys)
      (signature : (outlook.keys .first node).signature = (outlook.keys .second other).signature)
      (text : textKey outlook.config node = textKey outlook.config other)
      (childIn : child ∈ outlook.kept .first node.children)
      (partnerIn : partner ∈ outlook.kept .second other.children)
      (firstKeys : (outlook.childKeys .first node).Perm (outlook.keys .first child :: common))
      (secondKeys : (outlook.childKeys .second other).Perm
        (outlook.keys .second partner :: common))
      (differs : DiffersByOne outlook child partner) : DiffersByOne outlook node other

section Keys

variable {outlook : Outlook} {node other : Node} {keys keys' common : List SiblingKeys}
  {own foreign key : SiblingKeys}

theorem DiffersByOne.signature_eq (differs : DiffersByOne outlook node other)
    (parsed : HasParsedNames node) (otherParsed : HasParsedNames other) :
    (outlook.keys .first node).signature = (outlook.keys .second other).signature := by
  cases differs with
  | same equal => exact (parts_of_sameContent parsed otherParsed equal).1
  | inside _ signature => exact signature

/-- Nodes of a side with equal keys have equal texts, and children of equal keys. -/
theorem parts_of_keys_eq {side : Side} (parsed : HasParsedNames node)
    (otherParsed : HasParsedNames other)
    (equal : outlook.keys side node = outlook.keys side other) :
    textKey outlook.config node = textKey outlook.config other ∧
      outlook.childKeys side node = outlook.childKeys side other := by
  -- Both nodes are looked at as ones of opposite sides that have the records of this side.
  let mirrored : Outlook := ⟨outlook.config, outlook.visits side, outlook.visits side⟩
  have sameContent : mirrored.sameContent .first node other = true := sameContent_of_keys_eq equal
  obtain ⟨_, text, children⟩ := parts_of_sameContent parsed otherParsed sameContent
  refine ⟨text, ?_⟩
  rw [Outlook.childKeys, Outlook.childKeys, ← List.forall₂_eq_eq_eq, List.forall₂_map_left_iff,
    List.forall₂_map_right_iff]
  refine forall₂_imp_of_mem children fun child childIn partner partnerIn same => ?_
  have signature := (parts_of_sameContent (hasParsedNames_of_kept parsed childIn)
    (hasParsedNames_of_kept otherParsed partnerIn) same).1
  have content := beq_iff_eq.1 same
  exact SiblingKeys.mk.injEq .. ▸ ⟨signature, content⟩

/-- Of lists that are the same but for one entry each, only this entry can be more frequent in
the first one. -/
theorem eq_of_count_lt (perm : keys.Perm (own :: common)) (perm' : keys'.Perm (foreign :: common))
    (fewer : keys'.count key < keys.count key) : key = own := by
  by_contra different
  rw [perm.count_eq, perm'.count_eq, List.count_cons_of_ne (Ne.symm different)] at fewer
  exact absurd fewer (Nat.not_lt.2 List.count_le_count_cons)

theorem isBalanced_of_perm (perm : keys.Perm (own :: common))
    (perm' : keys'.Perm (foreign :: common)) (signature : own.signature = foreign.signature) :
    IsBalanced keys keys' := by
  intro shared
  rw [perm.countP_eq, perm'.countP_eq, List.countP_cons, List.countP_cons, signature]

theorem exists_kept_of_childKeys_eq {side : Side} {node' child : Node}
    (equal : outlook.childKeys side node' = outlook.childKeys side node)
    (childIn : child ∈ outlook.kept side node.children) :
    ∃ child' ∈ outlook.kept side node'.children,
      outlook.keys side child' = outlook.keys side child := by
  refine List.mem_map.1 ?_
  rw [← Outlook.childKeys, equal]
  exact List.mem_map_of_mem childIn

/-! ## The same keys, the same difference -/

/-- Whether nodes differ by one child is seen from their keys. -/
theorem DiffersByOne.of_keys_eq {node' other' : Node} (differs : DiffersByOne outlook node other)
    (parsed : HasParsedNames node ∧ HasParsedNames other)
    (parsed' : HasParsedNames node' ∧ HasParsedNames other')
    (sameNode : outlook.keys .first node' = outlook.keys .first node)
    (sameOther : outlook.keys .second other' = outlook.keys .second other) :
    DiffersByOne outlook node' other' := by
  induction differs generalizing node' other' with
  | same equal =>
      refine .same ?_
      rw [Outlook.sameContent, sameNode, show otherSide .first = Side.second from rfl, sameOther]
      exact equal
  | inside common signature text childIn partnerIn firstKeys secondKeys _ inductionHypothesis =>
      obtain ⟨nodeText, nodeKeys⟩ := parts_of_keys_eq parsed'.1 parsed.1 sameNode
      obtain ⟨otherText, otherKeys⟩ := parts_of_keys_eq parsed'.2 parsed.2 sameOther
      obtain ⟨child', childIn', sameChild⟩ := exists_kept_of_childKeys_eq nodeKeys childIn
      obtain ⟨partner', partnerIn', samePartner⟩ := exists_kept_of_childKeys_eq otherKeys partnerIn
      refine .inside common ?_ ?_ childIn' partnerIn' ?_ ?_ (inductionHypothesis
        ⟨hasParsedNames_of_kept parsed.1 childIn, hasParsedNames_of_kept parsed.2 partnerIn⟩
        ⟨hasParsedNames_of_kept parsed'.1 childIn', hasParsedNames_of_kept parsed'.2 partnerIn'⟩
        sameChild samePartner)
      · rw [sameNode, sameOther, signature]
      · rw [nodeText, otherText, text]
      · rw [nodeKeys, sameChild]
        exact firstKeys
      · rw [otherKeys, samePartner]
        exact secondKeys

end Keys

/-! ## Nothing is reported -/

section Silent

variable {outlook : Outlook} {policy : Policy} {choice : Choice} {node other : Node}

/-- Any two children in a pair differ by one if the two do that are left.  Of unequal keys, they
have the keys of these two, be they the same nodes or siblings that happen to be equal to them. -/
theorem DiffersByOne.of_pair {child partner sibling counterpart : Node} {common : List SiblingKeys}
    {pair : Nat × Nat} (differs : DiffersByOne outlook child partner)
    (pairing : choice.IsPairing) (prefersEqual : choice.PrefersEqual)
    (parsed : HasParsedNames node ∧ HasParsedNames other)
    (childIn : child ∈ outlook.kept .first node.children)
    (partnerIn : partner ∈ outlook.kept .second other.children)
    (firstKeys : (outlook.childKeys .first node).Perm (outlook.keys .first child :: common))
    (secondKeys : (outlook.childKeys .second other).Perm (outlook.keys .second partner :: common))
    (inPairs : pair ∈ choice (outlook.childKeys .first node) (outlook.childKeys .second other))
    (atSibling : (outlook.kept .first node.children)[pair.1]? = some sibling)
    (atCounterpart : (outlook.kept .second other.children)[pair.2]? = some counterpart) :
    DiffersByOne outlook sibling counterpart := by
  by_cases sameKeys : outlook.keys .first sibling = outlook.keys .second counterpart
  · exact .same (sameContent_of_keys_eq sameKeys)
  · have isOwn := eq_of_count_lt firstKeys secondKeys
      (isSurplus_of_pair pairing prefersEqual inPairs atSibling atCounterpart sameKeys)
    have isForeign := eq_of_count_lt secondKeys firstKeys
      (count_lt_of_pair pairing prefersEqual inPairs atSibling atCounterpart sameKeys)
    exact differs.of_keys_eq
      ⟨hasParsedNames_of_kept parsed.1 childIn, hasParsedNames_of_kept parsed.2 partnerIn⟩
      ⟨hasParsedNames_of_kept parsed.1 (List.mem_of_getElem? atSibling),
        hasParsedNames_of_kept parsed.2 (List.mem_of_getElem? atCounterpart)⟩ isOwn isForeign

/-- Nothing is reported of nodes that differ by one child. -/
theorem DiffersByOne.silent (pairing : choice.IsPairing) (maximal : choice.IsMaximal)
    (prefersEqual : choice.PrefersEqual) (follows : policy.Follows choice)
    (prepared : outlook.Prepared) (parsed : HasParsedNames node ∧ HasParsedNames other)
    (differs : DiffersByOne outlook node other) (side : Side) (above : String) :
    walk policy outlook side (sideReport outlook.config side) above (bySide node other side)
      (bySide node other (otherSide side)) = [] := by
  induction node using Node.childInduction generalizing other above with
  | step node inductionHypothesis =>
      cases equal : outlook.sameContent side (bySide node other side)
          (bySide node other (otherSide side)) with
      | true => rw [walk_eq, equal, if_pos rfl]
      | false =>
          cases differs with
          | same sameContent =>
              have unequal : outlook.sameContent .first node other = false :=
                (sameContent_side outlook (bySide node other) side).symm.trans equal
              rw [sameContent] at unequal
              cases unequal
          | inside common _ text childIn partnerIn firstKeys secondKeys differs =>
              have signature := differs.signature_eq (hasParsedNames_of_kept parsed.1 childIn)
                (hasParsedNames_of_kept parsed.2 partnerIn)
              refine silent_of_balanced pairing maximal follows prepared equal text
                (isBalanced_of_perm firstKeys secondKeys signature) ?_ above
              intro pair inPairs sibling counterpart atSibling atCounterpart
              have siblingIn := List.mem_of_getElem? atSibling
              have counterpartIn := List.mem_of_getElem? atCounterpart
              exact inductionHypothesis sibling (Visits.mem_kept.1 siblingIn).1
                ⟨hasParsedNames_of_kept parsed.1 siblingIn,
                  hasParsedNames_of_kept parsed.2 counterpartIn⟩
                (differs.of_pair pairing prefersEqual parsed childIn partnerIn firstKeys secondKeys
                  inPairs atSibling atCounterpart)

end Silent

/-! ## Children in another order -/

/-- The node with other children. -/
def withChildren (children : List Node) (node : Node) : Node :=
  { node with children }

theorem withChildren_self (node : Node) : withChildren node.children node = node := by
  cases node
  rfl

theorem positions_withChildren {children : List Node} {node : Node}
    (perm : children.Perm node.children) :
    (withChildren children node).positions.Perm node.positions := by
  rw [Node.positions_eq, Node.positions_eq, positionsAll_eq_flatMap, positionsAll_eq_flatMap]
  exact (perm.flatMap_right Node.positions).cons node.position

section Orders

variable {config : Config} {node last : Node} {path : List Nat} {orders : Side → List Node}

theorem hasParsedNames_alterAt (parsed : HasParsedNames node) (reached : node.at? path = some last)
    {change : Node → Node} (changed : HasParsedNames last → HasParsedNames (change last)) :
    HasParsedNames (node.alterAt change path) := by
  induction path generalizing node with
  | nil =>
      obtain rfl : node = last := Option.some.inj reached
      exact changed parsed
  | cons index rest inductionHypothesis =>
      obtain ⟨child, atIndex, childReached⟩ := Node.exists_child_of_at? reached
      obtain ⟨before, after, siblings⟩ := exists_around_modify atIndex
      have children : node.children = before ++ child :: after :=
        (List.modify_id index node.children).symm.trans (siblings id)
      have below {sibling : Node} (member : sibling ∈ before ++ child :: after) :=
        hasParsedNames_of_mem_children parsed (children ▸ member)
      refine hasParsedNames_of_children parsed fun sibling member => ?_
      rw [siblings, List.mem_append, List.mem_cons] at member
      rcases member with inBefore | rfl | inAfter
      · exact below (List.mem_append_left _ inBefore)
      · exact inductionHypothesis (below (by simp)) childReached
      · exact below (by simp [inAfter])

theorem bareKeys_side (side : Side) (node : Node) :
    (bareOutlook config).keys side node = (bareOutlook config).keys .first node := by
  rw [Outlook.keys, Outlook.keys, bareVisits, bareVisits]

theorem bareChildKeys (side : Side) (node : Node) :
    (bareOutlook config).childKeys side node =
      node.children.map ((bareOutlook config).keys .first) := by
  rw [Outlook.childKeys, bareKept]
  exact List.map_congr_left fun child _ => bareKeys_side side child

/-- Nodes with the same children but for one differ by one child if these do. -/
theorem differsByOne_around (children : Side → List Node) (nodes : Side → Node) (rest : List Node)
    (around : ∀ side, (children side).Perm (nodes side :: rest))
    (differs : DiffersByOne (bareOutlook config) (nodes .first) (nodes .second)) :
    DiffersByOne (bareOutlook config) (withChildren (children .first) node)
      (withChildren (children .second) node) := by
  have keys (side : Side) :
      ((bareOutlook config).childKeys side (withChildren (children side) node)).Perm
        ((bareOutlook config).keys side (nodes side) ::
          rest.map ((bareOutlook config).keys .first)) := by
    rw [bareChildKeys, bareKeys_side]
    exact (around side).map _
  have isChild (side : Side) : nodes side ∈ (bareOutlook config).kept side (children side) := by
    rw [bareKept]
    exact (around side).mem_iff.2 List.mem_cons_self
  refine .inside _ ?_ rfl (isChild .first) (isChild .second) (keys .first) (keys .second) differs
  rw [bareKeys_signature, bareKeys_signature]
  rfl

/-- A node with its children in two orders. -/
theorem differsByOne_withChildren (perm : (orders .first).Perm (orders .second)) :
    DiffersByOne (bareOutlook config) (withChildren (orders .first) node)
      (withChildren (orders .second) node) := by
  have same (node : Node) : DiffersByOne (bareOutlook config) node node :=
    .same (sameContent_bare_iff.2 rfl)
  cases ordered : orders .second with
  | nil =>
      have empty : orders .first = [] := List.perm_nil.1 (ordered ▸ perm)
      rw [empty]
      exact same _
  | cons child rest =>
      rw [← ordered]
      refine differsByOne_around orders (fun _ => child) rest (fun side => ?_) (same child)
      cases side with
      | first => exact ordered ▸ perm
      | second => exact .of_eq ordered

/-- A tree with the children of a node in two orders. -/
theorem differsByOne_alterAt (reached : node.at? path = some last)
    (perm : (orders .first).Perm (orders .second)) :
    DiffersByOne (bareOutlook config) (node.alterAt (withChildren (orders .first)) path)
      (node.alterAt (withChildren (orders .second)) path) := by
  induction path generalizing node with
  | nil => exact differsByOne_withChildren perm
  | cons index rest inductionHypothesis =>
      obtain ⟨child, atIndex, childReached⟩ := Node.exists_child_of_at? reached
      obtain ⟨before, after, siblings⟩ := exists_around_modify atIndex
      refine differsByOne_around (fun side => node.children.modify index
          fun sibling => sibling.alterAt (withChildren (orders side)) rest)
        (fun side => child.alterAt (withChildren (orders side)) rest) (before ++ after)
        (fun side => ?_) (inductionHypothesis childReached)
      rw [siblings]
      exact List.perm_middle

/-- Nothing is found of a tree with the children of a node in two orders. -/
theorem findings_orders {solve : Solver Rat} (exact : solve.IsExact) (tree : ReadTree)
    (reached : tree.root.at? path = some last) (orders : Side → List Node)
    (perm : ∀ side, (orders side).Perm last.children) :
    findings config (Policy.optimalWith solve) [] []
      (tree.root.alterAt (withChildren (orders .first)) path)
      (tree.root.alterAt (withChildren (orders .second)) path) = [] := by
  let roots : Side → Node := fun side => tree.root.alterAt (withChildren (orders side)) path
  have distinct (side : Side) : (roots side).HasDistinctPositions :=
    Node.distinct_alterAt_of_subperm tree.distinct reached
      (positions_withChildren (perm side)).subperm
  have parsed (side : Side) : HasParsedNames (roots side) :=
    hasParsedNames_alterAt tree.parsed reached fun lastParsed =>
      hasParsedNames_of_children lastParsed fun child member =>
        hasParsedNames_of_mem_children lastParsed ((perm side).mem_iff.1 member)
  have differs : DiffersByOne (bareOutlook config) (roots .first) (roots .second) :=
    differsByOne_alterAt reached ((perm .first).trans (perm .second).symm)
  have pairing := optimalChoice_isPairing exact.assignsOnce
  have maximal := optimalChoice_isMaximal exact
  have follows := optimalWith_follows solve
  have prepared := bareOutlook_prepared config
  have silent (side : Side) : sideDifferences (Policy.optimalWith solve) (bareOutlook config)
      (bySide (roots .first) (roots .second)) side = [] := by
    refine (roots_silent_iff pairing maximal follows prepared).2 (.inr ⟨?_, ?_, ?_⟩) side
    · intro side
      rw [bareVisits]
      rfl
    · exact differs.signature_eq (parsed .first) (parsed .second)
    · exact fun side => differs.silent pairing maximal (optimalChoice_prefersEqual exact) follows
        prepared ⟨parsed .first, parsed .second⟩ side ""
  rw [findings_eq_sides (.optimal solve exact.assignsOnce) (distinct .first) (distinct .second),
    ruledOutlook_nil, silent, silent, List.append_nil]

/-- If the children of one node are put in another order, a comparison by least cost without
rules finds nothing, whatever the positions, and even if siblings on the way to the node have
the signature and the content that is sought or given there. -/
theorem findings_reordered {solve : Solver Rat} (exact : solve.IsExact) (tree : ReadTree)
    (reached : tree.root.at? path = some last) {reordered : List Node}
    (perm : reordered.Perm last.children) {other : Node} (distinct : other.HasDistinctPositions)
    (isOther : other.unplaced = (tree.root.alterAt (withChildren reordered) path).unplaced) :
    findings config (Policy.optimalWith solve) [] [] tree.root other = [] ∧
      findings config (Policy.optimalWith solve) [] [] other tree.root = [] := by
  have alteredDistinct : (tree.root.alterAt (withChildren reordered) path).HasDistinctPositions :=
    Node.distinct_alterAt_of_subperm tree.distinct reached (positions_withChildren perm).subperm
  have unaltered : tree.root.alterAt (withChildren last.children) path = tree.root :=
    (Node.alterAt_congr reached (withChildren_self last)).trans (tree.root.alterAt_id path)
  have offered := Policy.Offered.optimal solve exact.assignsOnce
  have forward : findings config (Policy.optimalWith solve) [] []
      (tree.root.alterAt (withChildren last.children) path)
      (tree.root.alterAt (withChildren reordered) path) = [] :=
    findings_orders exact tree reached (bySide last.children reordered) fun side => by
      cases side
      exacts [.refl _, perm]
  have backward : findings config (Policy.optimalWith solve) [] []
      (tree.root.alterAt (withChildren reordered) path)
      (tree.root.alterAt (withChildren last.children) path) = [] :=
    findings_orders exact tree reached (bySide reordered last.children) fun side => by
      cases side
      exacts [perm, .refl _]
  rw [unaltered] at forward backward
  constructor
  · exact (findings_congr_unplaced offered ⟨tree.distinct, distinct⟩
      ⟨tree.distinct, alteredDistinct⟩ rfl isOther).trans forward
  · exact (findings_congr_unplaced offered ⟨distinct, tree.distinct⟩
      ⟨alteredDistinct, tree.distinct⟩ isOther rfl).trans backward

end Orders

/-- `<r><i><p/><q/></i><i><q/><p/></i><i><p/><q/></i></r>` -/
def repeatedLists : ReadTree where
  root := listOf [("i", ["p", "q"]), ("i", ["q", "p"]), ("i", ["p", "q"])]
  distinct := by decide
  parsed := by decide +kernel

/-- `<r><i><q/><p/></i><i><q/><p/></i><i><p/><q/></i></r>`: the first list is equal to the second
one now. -/
def repeatedListsTurned : Node :=
  listOf [("i", ["q", "p"]), ("i", ["q", "p"]), ("i", ["p", "q"])]

theorem findings_repeatedListsTurned :
    repeatedListsTurned.unplaced =
        (repeatedLists.root.alterAt (withChildren (elementOf "i" 0 ["p", "q"]).children.reverse)
          [0]).unplaced ∧
      findings .standard (Policy.optimalWith Assignment.exhaustive) [] [] repeatedLists.root
        repeatedListsTurned = [] ∧
      findings .standard (Policy.optimalWith Assignment.exhaustive) [] [] repeatedListsTurned
        repeatedLists.root = [] := by
  have turned : repeatedListsTurned.unplaced =
      (repeatedLists.root.alterAt (withChildren (elementOf "i" 0 ["p", "q"]).children.reverse)
        [0]).unplaced := by
    decide +kernel
  have reached : repeatedLists.root.at? [0] = some (elementOf "i" 0 ["p", "q"]) := rfl
  exact ⟨turned, findings_reordered exhaustive_isExact repeatedLists reached
    (List.reverse_perm _) (by decide) turned⟩

end XmlCollation.Compare
