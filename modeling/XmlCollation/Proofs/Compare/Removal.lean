import XmlCollation.Proofs.Compare.Descent
import XmlCollation.Proofs.Compare.Placement

/-!
Contract: documents of which one lacks a subtree of the other.

Owns:
- nodes without one of their children, their positions and their contents;
- greedily paired siblings of which one is missing on the other side: if it is the last one of
  its signature, it alone has no partner;
- what a greedy comparison without rules finds of two such documents: the presence of the root
  of the subtree, under the signatures on the way from the root of the document to it.

Does not own: a missing sibling with later ones of its signature, whose partners move up.
-/

namespace XmlCollation.Compare

open XmlCollation.Tree
open XmlCollation.Rules (otherSide)

/-! ## Without a child -/

/-- The node without the child at an index, and without all that is below this child. -/
def dropChild (index : Nat) (node : Node) : Node :=
  { node with children := node.children.eraseIdx index }

section Dropped

variable {config : Config} {node child : Node} {index : Nat}

theorem positions_dropChild (index : Nat) (node : Node) :
    (dropChild index node).positions.Subperm node.positions := by
  have fewer : (node.children.eraseIdx index).Sublist node.children := List.eraseIdx_sublist _ _
  rw [Node.positions_eq, Node.positions_eq, positionsAll_eq_flatMap, positionsAll_eq_flatMap]
  exact ((fewer.flatMap Node.positions).cons_cons _).subperm

theorem dropChild_children (index : Nat) (node : Node) :
    (dropChild index node).children =
      node.children.take index ++ node.children.drop (index + 1) :=
  List.eraseIdx_eq_take_drop_succ _ _

theorem children_eq_around (atIndex : node.children[index]? = some child) :
    node.children = node.children.take index ++ child :: node.children.drop (index + 1) := by
  obtain ⟨inRange, rfl⟩ := List.getElem?_eq_some_iff.1 atIndex
  rw [← List.drop_eq_getElem_cons, List.take_append_drop]

/-- A child takes up some of the content. -/
theorem sameContent_dropChild (atIndex : node.children[index]? = some child) :
    (bareOutlook config).sameContent .first node (dropChild index node) = false := by
  by_contra same
  have writes := writesAround_foldedContent config
  rw [Bool.not_eq_false, sameContent_bare_iff, writes.write_eq node,
    writes.write_eq (dropChild index node), dropChild_children] at same
  have behindFronts := List.append_cancel_right (List.append_cancel_left same)
  have written := (congrArg (List.flatMap (foldedContent config []))
    (children_eq_around atIndex)).symm.trans behindFronts
  rw [List.flatMap_append, List.flatMap_append, List.flatMap_cons] at written
  have nothing : foldedContent config [] child = [] :=
    List.append_left_eq_self.1 (List.append_cancel_left written)
  rw [foldedContent_eq] at nothing
  cases nothing

end Dropped

/-! ## Siblings with one more on a side -/

section Extra

variable {β : Type} {config : Config} {before after : List Node} {extra node : Node} {index : Nat}

theorem ofKey_bare (config : Config) (side : Side) (key : String) (nodes : List Node) :
    (bareOutlook config).ofKey side key nodes =
      nodes.filter fun node => config.normalize (Visits.signature [] node) == key := by
  rw [Outlook.ofKey, bareKept]
  simp only [bareKeys_signature]

theorem ranked_bare (config : Config) (side : Side) (key : String) (nodes : List Node) :
    (bareOutlook config).ranked side key nodes =
      nodes.zipIdx.filter fun entry => config.normalize (Visits.signature [] entry.1) == key := by
  rw [Outlook.ranked, bareKept]
  simp only [bareKeys_signature]

/-- If nothing is reported of its siblings, all that is reported of siblings is reported of one. -/
theorem walkSiblings_of_silent {policy : Policy} {report : Report β} {side : Side} {above : String}
    {others : List Node}
    (silent : ∀ index node, (before ++ extra :: after)[index]? = some node →
      index ≠ before.length → walkSibling policy (bareOutlook config) side report above node
        (policy.partner? (bareOutlook config) side (before ++ extra :: after) others index) = []) :
    walkSiblings policy (bareOutlook config) side report above (before ++ extra :: after) others =
      walkSibling policy (bareOutlook config) side report above extra
        (policy.partner? (bareOutlook config) side (before ++ extra :: after) others
          before.length) := by
  rw [walkSiblings_eq, bareKept, List.zipIdx_append, List.zipIdx_cons, Nat.zero_add,
    List.flatMap_append, List.flatMap_cons, List.flatMap_eq_nil_iff.2, List.flatMap_eq_nil_iff.2,
    List.nil_append, List.append_nil]
  · intro entry member
    obtain ⟨behind, atIndex⟩ := List.mem_zipIdx_iff_le_and_getElem?_sub.1 member
    refine silent entry.2 entry.1 ?_ (by omega)
    rw [List.getElem?_append_right (by omega), List.getElem?_cons, if_neg (by omega)]
    rwa [show entry.2 - before.length - 1 = entry.2 - (before.length + 1) by omega]
  · intro entry member
    have atIndex := List.mem_zipIdx_iff_getElem?.1 member
    have inBefore := (List.getElem?_eq_some_iff.1 atIndex).1
    refine silent entry.2 entry.1 ?_ (by omega)
    rwa [List.getElem?_append_left inBefore]

variable (isLast : ∀ later ∈ after, config.normalize (Visits.signature [] later) ≠
  config.normalize (Visits.signature [] extra))

include isLast

/-- The siblings of a key are those of the other side, and the one more if the key is its own. -/
theorem ofKey_extra (side : Side) (key : String) :
    (bareOutlook config).ofKey side key (before ++ extra :: after) =
      (bareOutlook config).ofKey (otherSide side) key (before ++ after) ++
        if config.normalize (Visits.signature [] extra) = key then [extra] else [] := by
  rw [ofKey_bare, ofKey_bare, List.filter_append, List.filter_append, List.filter_cons]
  by_cases own : config.normalize (Visits.signature [] extra) = key
  · subst own
    have noneLater : (after.filter fun node => config.normalize (Visits.signature [] node) ==
        config.normalize (Visits.signature [] extra)) = [] :=
      List.filter_eq_nil_iff.2 fun later member => by simpa using isLast later member
    simp [noneLater]
  · simp [own]

/-- Among the siblings of its own key, the one more is the last. -/
theorem ranked_extra (side : Side) :
    (bareOutlook config).ranked side (config.normalize (Visits.signature [] extra))
        (before ++ extra :: after) =
      (bareOutlook config).ranked side (config.normalize (Visits.signature [] extra)) before ++
        [(extra, before.length)] := by
  have noneLater : ((after.zipIdx (before.length + 1)).filter fun entry =>
      config.normalize (Visits.signature [] entry.1) ==
        config.normalize (Visits.signature [] extra)) = [] := by
    refine List.filter_eq_nil_iff.2 fun entry member => ?_
    have inAfter := List.mem_of_getElem? (List.mem_zipIdx_iff_le_and_getElem?_sub.1 member).2
    simpa using isLast entry.1 inAfter
  rw [ranked_bare, ranked_bare, List.zipIdx_append, List.zipIdx_cons, Nat.zero_add,
    List.filter_append, List.filter_cons_of_pos (by simp), noneLater]

theorem ofKey_eq_ranked (side : Side) :
    (bareOutlook config).ofKey (otherSide side) (config.normalize (Visits.signature [] extra))
        (before ++ after) =
      ((bareOutlook config).ranked side (config.normalize (Visits.signature [] extra))
        before).map Prod.fst := by
  have all : (bareOutlook config).ofKey side (config.normalize (Visits.signature [] extra))
      (before ++ extra :: after) =
        ((bareOutlook config).ranked side (config.normalize (Visits.signature [] extra)) before ++
          [(extra, before.length)]).map Prod.fst := by
    rw [← ranked_map_fst, ranked_extra isLast]
  rw [ofKey_extra isLast, if_pos rfl, List.map_append, List.map_singleton] at all
  exact List.append_cancel_right all

/-- The one more has no partner: on the other side, there are too few siblings of its key. -/
theorem partner?_extra (side : Side) :
    Policy.greedy.partner? (bareOutlook config) side (before ++ extra :: after) (before ++ after)
      before.length = none := by
  have ranked : ((bareOutlook config).ranked side (config.normalize (Visits.signature [] extra))
      (before ++ extra :: after))[((bareOutlook config).ranked side
        (config.normalize (Visits.signature [] extra)) before).length]? =
          some (extra, before.length) := by
    rw [ranked_extra isLast, List.getElem?_concat_length]
  rw [greedy_partner?_siblings (bareOutlook_prepared config) ranked, ofKey_eq_ranked isLast]
  exact List.getElem?_eq_none (by rw [List.length_map])

/-- Every other sibling is its own partner. -/
theorem partner?_beside (side : Side)
    (atIndex : (before ++ extra :: after)[index]? = some node) (beside : index ≠ before.length) :
    Policy.greedy.partner? (bareOutlook config) side (before ++ extra :: after) (before ++ after)
      index = some node := by
  obtain ⟨rank, ranked⟩ := @exists_rank (bareOutlook config) side (before ++ extra :: after) index
    node (by rwa [bareKept])
  rw [greedy_partner?_siblings (bareOutlook_prepared config) ranked]
  have atRank := congrArg (Option.map Prod.fst) ranked
  rw [← ofKey_getElem?, ofKey_extra isLast] at atRank
  rw [bareKeys_signature] at ranked atRank ⊢
  by_cases own : config.normalize (Visits.signature [] extra) =
      config.normalize (Visits.signature [] node)
  · -- It is ranked before the one more, which is the last of its key.
    rw [← own, ranked_extra isLast] at ranked
    rw [← own, ofKey_eq_ranked isLast, List.getElem?_map]
    rcases Nat.lt_trichotomy rank ((bareOutlook config).ranked side
      (config.normalize (Visits.signature [] extra)) before).length with earlier | same | later
    · rw [List.getElem?_append_left earlier] at ranked
      rw [ranked, Option.map_some]
    · rw [same, List.getElem?_concat_length] at ranked
      exact absurd (Prod.mk.inj (Option.some.inj ranked)).2.symm beside
    · have inRange := (List.getElem?_eq_some_iff.1 ranked).1
      rw [List.length_append, List.length_singleton] at inRange
      omega
  · rw [if_neg own, List.append_nil] at atRank
    exact atRank

/-- Seen from the other side, every sibling is its own partner. -/
theorem partner?_opposite (side : Side)
    (atIndex : (before ++ after)[index]? = some node) :
    Policy.greedy.partner? (bareOutlook config) side (before ++ after) (before ++ extra :: after)
      index = some node := by
  obtain ⟨rank, ranked⟩ := @exists_rank (bareOutlook config) side (before ++ after) index node
    (by rwa [bareKept])
  rw [greedy_partner?_siblings (bareOutlook_prepared config) ranked]
  have atRank := congrArg (Option.map Prod.fst) ranked
  rw [← ofKey_getElem?, ofKey_bare] at atRank
  rw [ofKey_extra isLast, ofKey_bare, List.getElem?_append_left]
  · exact atRank
  · exact (List.getElem?_eq_some_iff.1 atRank).1

/-- All that is reported of siblings with one more is that this one has no partner. -/
theorem walkSiblings_extra (report : Report β) (side : Side) (above : String) :
    walkSiblings Policy.greedy (bareOutlook config) side report above (before ++ extra :: after)
        (before ++ after) = report.lone (above ++ Visits.signature [] extra) := by
  rw [walkSiblings_of_silent, partner?_extra isLast, walkSibling, bareSignature]
  intro index node atIndex beside
  rw [partner?_beside isLast side atIndex beside]
  exact walk_self config report side above node

/-- Nothing is reported of the siblings of the other side. -/
theorem walkSiblings_opposite (report : Report β) (side : Side) (above : String) :
    walkSiblings Policy.greedy (bareOutlook config) side report above (before ++ after)
        (before ++ extra :: after) = [] := by
  rw [walkSiblings_eq, bareKept, List.flatMap_eq_nil_iff]
  intro entry member
  rw [partner?_opposite isLast side (List.mem_zipIdx_iff_getElem?.1 member)]
  exact walk_self config report side above entry.1

end Extra

/-! ## What is found -/

section Found

variable {config : Config} {tree parent removed : Node} {path : List Nat} {index : Nat}

/-- A child is dropped on the other side than the one that keeps it. -/
def dropOpposite (keeping : Side) (index : Nat) (side : Side) : Node → Node :=
  if side = keeping then id else dropChild index

theorem otherSide_eq_iff {side other : Side} : otherSide side = other ↔ side ≠ other := by
  cases side <;> cases other <;> decide

theorem signature_dropOpposite (keeping : Side) (index : Nat) (side : Side) (parent : Node) :
    Visits.signature [] (dropOpposite keeping index side parent) = Visits.signature [] parent := by
  cases keeping <;> cases side <;> rfl

theorem dropOpposite_children (atIndex : parent.children[index]? = some removed)
    (keeping side : Side) :
    (dropOpposite keeping index side parent).children =
      parent.children.take index ++
        if side = keeping then removed :: parent.children.drop (index + 1)
        else parent.children.drop (index + 1) := by
  by_cases kept : side = keeping
  · rw [dropOpposite, if_pos kept, if_pos kept]
    exact children_eq_around atIndex
  · rw [dropOpposite, if_neg kept, if_neg kept]
    exact dropChild_children index parent

theorem sameContent_dropOpposite (atIndex : parent.children[index]? = some removed)
    (keeping : Side) :
    (bareOutlook config).sameContent .first (dropOpposite keeping index .first parent)
      (dropOpposite keeping index .second parent) = false := by
  have unequal : (bareOutlook config).sameContent .first parent (dropChild index parent) = false :=
    sameContent_dropChild atIndex
  cases keeping with
  | first => exact unequal
  | second =>
      exact (sameContent_symm (bareOutlook config) .first parent (dropChild index parent)).trans
        unequal

/-- Of a node and the same node without a child, the child is reported on the side that keeps it,
and nothing on the other one. -/
theorem walk_dropOpposite (atIndex : parent.children[index]? = some removed)
    (isLast : ∀ later ∈ parent.children.drop (index + 1),
      config.normalize (Visits.signature [] later) ≠
        config.normalize (Visits.signature [] removed))
    (keeping side : Side) (above : String) :
    walk Policy.greedy (bareOutlook config) side (sideReport config side) above
        (dropOpposite keeping index side parent)
        (dropOpposite keeping index (otherSide side) parent) =
      if side = keeping then
        [presenceDifference side
          (above ++ Visits.signature [] parent ++ Visits.signature [] removed)]
      else [] := by
  have unequal : (bareOutlook config).sameContent side (dropOpposite keeping index side parent)
      (dropOpposite keeping index (otherSide side) parent) = false :=
    (sameContent_side _ (fun walked => dropOpposite keeping index walked parent) side).trans
      (sameContent_dropOpposite atIndex keeping)
  have sameText : textKey config (dropOpposite keeping index .first parent) =
      textKey config (dropOpposite keeping index .second parent) := by
    cases keeping <;> rfl
  have down := @walk_of_unequal (bareOutlook config) Policy.greedy
    (fun walked => dropOpposite keeping index walked parent) side unequal sameText above
  rw [bareSignature, signature_dropOpposite, dropOpposite_children atIndex,
    dropOpposite_children atIndex] at down
  by_cases kept : side = keeping
  · have opposite : ¬otherSide side = keeping := fun same => otherSide_eq_iff.1 same kept
    rw [if_pos kept, if_neg opposite] at down
    rw [if_pos kept]
    exact down.trans ((walkSiblings_extra isLast _ side _).trans (sideReport_lone config side _))
  · rw [if_neg kept, if_pos (otherSide_eq_iff.2 kept)] at down
    rw [if_neg kept]
    exact down.trans (walkSiblings_opposite isLast _ side _)

/-- All that is found of a tree and the same tree without a subtree is the presence of the root of
the subtree, on the side that keeps it. -/
theorem findings_dropOpposite (distinct : tree.HasDistinctPositions)
    (reached : tree.at? path = some parent) (atIndex : parent.children[index]? = some removed)
    (isLast : ∀ later ∈ parent.children.drop (index + 1),
      config.normalize (Visits.signature [] later) ≠
        config.normalize (Visits.signature [] removed)) (keeping : Side) :
    findings config Policy.greedy [] [] (tree.alterAt (dropOpposite keeping index .first) path)
        (tree.alterAt (dropOpposite keeping index .second) path) =
      [presenceDifference keeping
        (String.join ((tree.alongPath (path ++ [index])).map (Visits.signature [])))] := by
  have distinctHere (side : Side) :
      (tree.alterAt (dropOpposite keeping index side) path).HasDistinctPositions := by
    refine Node.distinct_alterAt_of_subperm distinct reached ?_
    rw [dropOpposite]
    split
    · exact .refl _
    · exact positions_dropChild index parent
  have roots_eq : bySide (tree.alterAt (dropOpposite keeping index .first) path)
      (tree.alterAt (dropOpposite keeping index .second) path) =
        fun side => tree.alterAt (dropOpposite keeping index side) path :=
    bySide_eta fun side => tree.alterAt (dropOpposite keeping index side) path
  obtain ⟨lastAbove, signatures, found⟩ := exists_sideDifferences_alterAt reached
    (fun side => signature_dropOpposite keeping index side parent)
    (sameContent_dropOpposite atIndex keeping)
  rw [findings_eq_sides .greedy (distinctHere .first) (distinctHere .second), ruledOutlook_nil,
    roots_eq, found, found, walk_dropOpposite atIndex isLast, walk_dropOpposite atIndex isLast,
    signatures, Node.alongPath_append_singleton reached atIndex, List.map_append,
    List.map_singleton, String.join_append, String.join_cons, String.join_nil, String.append_empty]
  cases keeping <;> rfl

/-- If a subtree is removed from a tree, and no later sibling of its root has the signature key of
the root, a greedy comparison without rules finds this and nothing else, whatever the positions
of what remains: only the tree that was there before has the root, under the signatures on the
way to it. -/
theorem findings_removal (distinct : tree.HasDistinctPositions)
    (reached : tree.at? path = some parent) (atIndex : parent.children[index]? = some removed)
    (isLast : ∀ later ∈ parent.children.drop (index + 1),
      config.normalize (Visits.signature [] later) ≠
        config.normalize (Visits.signature [] removed))
    {remaining : Node} (remainingDistinct : remaining.HasDistinctPositions)
    (isRemaining : remaining.unplaced = (tree.alterAt (dropChild index) path).unplaced) :
    findings config Policy.greedy [] [] tree remaining =
        [⟨"Presence of XML node " ++
          String.join ((tree.alongPath (path ++ [index])).map (Visits.signature [])),
          "YES", "NO"⟩] ∧
      findings config Policy.greedy [] [] remaining tree =
        [⟨"Presence of XML node " ++
          String.join ((tree.alongPath (path ++ [index])).map (Visits.signature [])),
          "NO", "YES"⟩] := by
  have alteredDistinct : (tree.alterAt (dropChild index) path).HasDistinctPositions :=
    Node.distinct_alterAt_of_subperm distinct reached (positions_dropChild index parent)
  have forward : findings config Policy.greedy [] [] (tree.alterAt id path)
      (tree.alterAt (dropChild index) path) = _ :=
    findings_dropOpposite distinct reached atIndex isLast .first
  have backward : findings config Policy.greedy [] [] (tree.alterAt (dropChild index) path)
      (tree.alterAt id path) = _ :=
    findings_dropOpposite distinct reached atIndex isLast .second
  rw [Node.alterAt_id] at forward backward
  constructor
  · exact (findings_congr_unplaced .greedy ⟨distinct, remainingDistinct⟩
      ⟨distinct, alteredDistinct⟩ rfl isRemaining).trans forward
  · exact (findings_congr_unplaced .greedy ⟨remainingDistinct, distinct⟩
      ⟨alteredDistinct, distinct⟩ isRemaining rfl).trans backward

end Found

/-- `<r><a><b>x</b></a><a><b>x</b><b/><c/></a></r>` -/
def lastListed : Node :=
  ⟨"r", [],
    [⟨"a", [], [⟨"b", [], [], "x", [0, 0], none⟩], "", [0], none⟩,
      ⟨"a", [],
        [⟨"b", [], [], "x", [1, 0], none⟩,
          ⟨"b", [], [⟨"d", [], [], "", [1, 1, 0], none⟩], "", [1, 1], none⟩,
          ⟨"c", [], [], "", [1, 2], none⟩], "", [1], none⟩],
    "", [], none⟩

/-- The same without the second `<b>` of the second `<a>`, after which `<c>` has another
position. -/
def lastRemoved : Node :=
  ⟨"r", [],
    [⟨"a", [], [⟨"b", [], [], "x", [0, 0], none⟩], "", [0], none⟩,
      ⟨"a", [],
        [⟨"b", [], [], "x", [1, 0], none⟩, ⟨"c", [], [], "", [1, 1], none⟩], "", [1], none⟩],
    "", [], none⟩

theorem findings_lastRemoved :
    lastRemoved.unplaced = (lastListed.alterAt (dropChild 1) [1]).unplaced ∧
      findings .standard Policy.greedy [] [] lastListed lastRemoved =
        [⟨"Presence of XML node " ++
          String.join ((lastListed.alongPath ([1] ++ [1])).map (Visits.signature [])),
          "YES", "NO"⟩] ∧
      findings .standard Policy.greedy [] [] lastRemoved lastListed =
        [⟨"Presence of XML node " ++
          String.join ((lastListed.alongPath ([1] ++ [1])).map (Visits.signature [])),
          "NO", "YES"⟩] ∧
      String.join ((lastListed.alongPath ([1] ++ [1])).map (Visits.signature [])) =
        "<r><a><b>" := by
  have isRemaining : lastRemoved.unplaced = (lastListed.alterAt (dropChild 1) [1]).unplaced := by
    decide +kernel
  have found := @findings_removal .standard lastListed _ _ [1] 1 (by decide) rfl rfl
    (by decide +kernel) lastRemoved (by decide) isRemaining
  exact ⟨isRemaining, found.1, found.2, by decide +kernel⟩

end XmlCollation.Compare
