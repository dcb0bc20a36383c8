import XmlCollation.Proofs.Compare.Deletion
import XmlCollation.Proofs.Compare.Exactness
import XmlCollation.Proofs.Tree.Alteration

/-!
Contract: greedy comparisons of two trees that differ at one place.

Owns:
- contents of changed trees, which are equal if and only if those of the changed nodes are;
- siblings of equal signatures one by one, which are paired one by one, even if some of them
  share a signature;
- walks over such siblings, and the descent from the roots to the changed nodes: nothing is
  reported on the way.

Does not own: what is reported of the changed nodes.
-/

namespace XmlCollation.Compare

open XmlCollation.Tree
open XmlCollation.Markup
open XmlCollation.Rules (otherSide)

/-! ## Contents -/

section Contents

variable {config : Config} {node last : Node} {path : List Nat} {change change' : Node → Node}

theorem bareSignature (config : Config) (side : Side) (node : Node) :
    (bareOutlook config).signature side node = Visits.signature [] node := by
  rw [Outlook.signature, bareVisits]

theorem sameContent_bare_iff {side : Side} {node other : Node} :
    (bareOutlook config).sameContent side node other = true ↔
      foldedContent config [] node = foldedContent config [] other := by
  rw [sameContent_iff, bareVisits, bareVisits]
  rfl

theorem writesAround_foldedContent (config : Config) :
    WritesAround (foldedContent config [])
      (fun node => '<' :: (config.fold (tagInside [] node) ++ '>' ::
        escapeText (config.fold node.text.toList)))
      fun node => '<' :: '/' :: (config.fold node.tag.toList ++ ['>']) where
  write_eq node := by
    rw [foldedContent_eq, Visits.kept_nothing, List.cons_append, List.append_assoc,
      List.cons_append]
    rfl
  front_eq _ _ := rfl
  back_eq _ _ := rfl

/-- The contents of two changed trees differ as those of the changed nodes do. -/
theorem sameContent_alterAt (reached : node.at? path = some last) (side : Side) :
    (bareOutlook config).sameContent side (node.alterAt change path) (node.alterAt change' path) =
      (bareOutlook config).sameContent side (change last) (change' last) := by
  obtain ⟨before, after, around⟩ :=
    (writesAround_foldedContent config).exists_around_alterAt reached
  rw [Bool.eq_iff_iff, sameContent_bare_iff, sameContent_bare_iff, around, around,
    List.append_cancel_left_eq, List.append_cancel_right_eq]

theorem signature_alterAt (reached : node.at? path = some last)
    (keeps : Visits.signature [] (change last) = Visits.signature [] last) :
    Visits.signature [] (node.alterAt change path) = Visits.signature [] node := by
  cases path with
  | nil =>
      obtain rfl : node = last := Option.some.inj reached
      exact keeps
  | cons index rest => rfl

end Contents

/-! ## Siblings of equal signatures, one by one -/

section OneByOne

variable {outlook : Outlook} {nodes : Side → List Node}

/-- The signature keys of the kept ones among siblings. -/
def Outlook.signatureRow (outlook : Outlook) (nodes : Side → List Node) (side : Side) :
    List String :=
  (outlook.kept side (nodes side)).map fun node => (outlook.keys side node).signature

theorem indexesOf_row (side : Side) (key : String) :
    (outlook.ranked side key (nodes side)).map Prod.snd =
      indexesOf key ((outlook.signatureRow nodes side).zipIdx.map Prod.swap) := by
  rw [ranked_map_snd, indexedSignatures, Outlook.signatureRow, List.zipIdx_map, List.zipIdx_map,
    List.map_map, List.map_map]
  rfl

/-- The greedy policy pairs siblings with those that stand at the same index: these have the
same rank. -/
theorem partner?_oneByOne (prepared : outlook.Prepared)
    (sameRow : outlook.signatureRow nodes .first = outlook.signatureRow nodes .second)
    {side : Side} {index : Nat} {node : Node}
    (atIndex : (outlook.kept side (nodes side))[index]? = some node) :
    Policy.greedy.partner? outlook side (nodes side) (nodes (otherSide side)) index =
      (outlook.kept (otherSide side) (nodes (otherSide side)))[index]? := by
  obtain ⟨rank, ranked⟩ := exists_rank atIndex
  have sameIndexes :
      (outlook.ranked (otherSide side) (outlook.keys side node).signature
          (nodes (otherSide side))).map Prod.snd =
        (outlook.ranked side (outlook.keys side node).signature (nodes side)).map Prod.snd := by
    rw [indexesOf_row, indexesOf_row]
    cases side with
    | first => exact congrArg (fun row => indexesOf _ (row.zipIdx.map Prod.swap)) sameRow.symm
    | second => exact congrArg (fun row => indexesOf _ (row.zipIdx.map Prod.swap)) sameRow
  have indexHere := congrArg (·[rank]?) sameIndexes
  simp only [List.getElem?_map, ranked, Option.map_some, Option.map_eq_some_iff] at indexHere
  obtain ⟨⟨other, otherIndex⟩, otherRanked, rfl⟩ := indexHere
  rw [greedy_partner?_eq prepared ranked, ofKey_getElem?, otherRanked,
    (mem_ranked.1 (List.mem_of_getElem? otherRanked)).1]
  rfl

/-- Siblings of equal signatures, one by one, are walked in pairs. -/
theorem walkSiblings_oneByOne {β : Type} (report : Report β) (prepared : outlook.Prepared)
    (sameRow : outlook.signatureRow nodes .first = outlook.signatureRow nodes .second)
    (side : Side) (above : String) :
    walkSiblings Policy.greedy outlook side report above (nodes side) (nodes (otherSide side)) =
      ((outlook.kept side (nodes side)).zip
        (outlook.kept (otherSide side) (nodes (otherSide side)))).flatMap fun pair =>
          walk Policy.greedy outlook side report above pair.1 pair.2 := by
  have sameLength : (outlook.kept side (nodes side)).length =
      (outlook.kept (otherSide side) (nodes (otherSide side))).length := by
    have lengths := congrArg List.length sameRow
    rw [Outlook.signatureRow, Outlook.signatureRow, List.length_map, List.length_map] at lengths
    cases side with
    | first => exact lengths
    | second => exact lengths.symm
  rw [walkSiblings_eq, List.flatMap_def, List.flatMap_def]
  refine congrArg List.flatten (List.ext_getElem? fun index => ?_)
  rw [List.getElem?_map, List.getElem?_map, List.getElem?_zipIdx]
  cases atIndex : (outlook.kept side (nodes side))[index]? with
  | none =>
      have outside : (outlook.kept side (nodes side)).length ≤ index :=
        List.getElem?_eq_none_iff.1 atIndex
      rw [List.getElem?_eq_none (by rw [List.length_zip]; omega)]
      rfl
  | some node =>
      have inRange : index < (outlook.kept (otherSide side) (nodes (otherSide side))).length := by
        rw [← sameLength]
        exact (List.getElem?_eq_some_iff.1 atIndex).1
      obtain ⟨other, atOther⟩ :
          ∃ other, (outlook.kept (otherSide side) (nodes (otherSide side)))[index]? = some other :=
        ⟨_, List.getElem?_eq_getElem inRange⟩
      have zipped : ((outlook.kept side (nodes side)).zip
          (outlook.kept (otherSide side) (nodes (otherSide side))))[index]? = some (node, other) :=
        List.getElem?_zip_eq_some.2 ⟨atIndex, atOther⟩
      rw [zipped, Option.map_some, Option.map_some, Nat.zero_add,
        partner?_oneByOne prepared sameRow atIndex, atOther]
      rfl

end OneByOne

/-! ## Without rules -/

section Bare

variable {β : Type} (config : Config)

theorem bareKeys_signature (side : Side) (node : Node) :
    ((bareOutlook config).keys side node).signature =
      config.normalize (Visits.signature [] node) := by
  rw [Outlook.keys, bareVisits]
  rfl

theorem signatureRow_bare (nodes : Side → List Node) (side : Side) :
    (bareOutlook config).signatureRow nodes side =
      ((nodes side).map (Visits.signature [])).map config.normalize := by
  rw [Outlook.signatureRow, bareKept, List.map_map]
  exact List.map_congr_left fun node _ => bareKeys_signature config side node

theorem walkSiblings_bare_oneByOne (report : Report β) (nodes : Side → List Node)
    (sameSignatures : (nodes .first).map (Visits.signature []) =
      (nodes .second).map (Visits.signature [])) (side : Side) (above : String) :
    walkSiblings Policy.greedy (bareOutlook config) side report above (nodes side)
        (nodes (otherSide side)) =
      ((nodes side).zip (nodes (otherSide side))).flatMap fun pair =>
        walk Policy.greedy (bareOutlook config) side report above pair.1 pair.2 := by
  rw [walkSiblings_oneByOne report (bareOutlook_prepared config)
    (by rw [signatureRow_bare, signatureRow_bare, sameSignatures]), bareKept, bareKept]

/-- Nothing is reported of a node and itself. -/
theorem walk_self (report : Report β) (side : Side) (above : String) (node : Node) :
    walk Policy.greedy (bareOutlook config) side report above node node = [] := by
  rw [walk_eq, sameContent_bare_iff.2 rfl, if_pos rfl]

theorem walk_zip_self (report : Report β) (side : Side) (above : String) (nodes : List Node) :
    ((nodes.zip nodes).flatMap fun pair =>
      walk Policy.greedy (bareOutlook config) side report above pair.1 pair.2) = [] := by
  refine List.flatMap_eq_nil_iff.2 fun pair member => ?_
  obtain ⟨index, atIndex⟩ := List.mem_iff_getElem?.1 member
  obtain ⟨here, there⟩ := List.getElem?_zip_eq_some.1 atIndex
  rw [Option.some.inj (here.symm.trans there), walk_self]

theorem walkSiblings_self (report : Report β) (side : Side) (above : String)
    (nodes : List Node) :
    walkSiblings Policy.greedy (bareOutlook config) side report above nodes nodes = [] := by
  rw [walkSiblings_bare_oneByOne config report (fun _ => nodes) rfl side above, walk_zip_self]

/-- If siblings differ in one place, where their signatures are equal, all that is reported of
them is reported of the two nodes in this place. -/
theorem walkSiblings_around (report : Report β) (before after : List Node) (nodes : Side → Node)
    (sameSignature : Visits.signature [] (nodes .first) = Visits.signature [] (nodes .second))
    (side : Side) (above : String) :
    walkSiblings Policy.greedy (bareOutlook config) side report above
        (before ++ nodes side :: after) (before ++ nodes (otherSide side) :: after) =
      walk Policy.greedy (bareOutlook config) side report above (nodes side)
        (nodes (otherSide side)) := by
  rw [walkSiblings_bare_oneByOne config report (fun walked => before ++ nodes walked :: after)
    (by simp only [List.map_append, List.map_cons, sameSignature]) side above,
    List.zip_append rfl, List.zip_cons_cons, List.flatMap_append, List.flatMap_cons,
    walk_zip_self, walk_zip_self, List.nil_append, List.append_nil]

end Bare

/-! ## Down to the change -/

section Down

variable {config : Config} {node last : Node} {path : List Nat} {changes : Side → Node → Node}

/-- One step down: a node above the changes has unequal contents and equal texts, so the walks go
on below it, and of its children only the ones on the path differ. -/
theorem walk_alterAt_cons {child : Node} {index : Nat} {rest : List Nat}
    (atIndex : node.children[index]? = some child) (reached : child.at? rest = some last)
    (keeps : ∀ side, Visits.signature [] (changes side last) = Visits.signature [] last)
    (unequal : (bareOutlook config).sameContent .first (changes .first last)
      (changes .second last) = false) (above : String) (side : Side) :
    walk Policy.greedy (bareOutlook config) side (sideReport config side) above
        (node.alterAt (changes side) (index :: rest))
        (node.alterAt (changes (otherSide side)) (index :: rest)) =
      walk Policy.greedy (bareOutlook config) side (sideReport config side)
        (above ++ Visits.signature [] node) (child.alterAt (changes side) rest)
        (child.alterAt (changes (otherSide side)) rest) := by
  have reachedHere : node.at? (index :: rest) = some last := by
    rw [Node.at?, atIndex]
    exact reached
  have unequalHere : (bareOutlook config).sameContent side
      (node.alterAt (changes side) (index :: rest))
      (node.alterAt (changes (otherSide side)) (index :: rest)) = false := by
    rw [sameContent_alterAt reachedHere]
    exact (sameContent_side _ (fun walked => changes walked last) side).trans unequal
  have sameSignature (walked : Side) :
      Visits.signature [] (child.alterAt (changes walked) rest) = Visits.signature [] child :=
    signature_alterAt reached (keeps walked)
  obtain ⟨before, after, siblings⟩ := exists_around_modify atIndex
  have children (walked : Side) :
      (node.alterAt (changes walked) (index :: rest)).children =
        before ++ child.alterAt (changes walked) rest :: after :=
    siblings fun sibling => sibling.alterAt (changes walked) rest
  have down : walk Policy.greedy (bareOutlook config) side (sideReport config side) above
        (node.alterAt (changes side) (index :: rest))
        (node.alterAt (changes (otherSide side)) (index :: rest)) =
      walkSiblings Policy.greedy (bareOutlook config) side (sideReport config side)
        (above ++ (bareOutlook config).signature side
          (node.alterAt (changes side) (index :: rest)))
        (node.alterAt (changes side) (index :: rest)).children
        (node.alterAt (changes (otherSide side)) (index :: rest)).children :=
    walk_of_unequal (fun walked => node.alterAt (changes walked) (index :: rest)) unequalHere rfl
      above
  rw [down, children, children, bareSignature, signature_alterAt reachedHere (keeps side)]
  exact walkSiblings_around config (sideReport config side) before after
    (fun walked => child.alterAt (changes walked) rest)
    ((sameSignature .first).trans (sameSignature .second).symm) side
    (above ++ Visits.signature [] node)

/-- Between two changes of a tree in one place that keep the signature and make different
contents, the walks go down to this place and report nothing on the way. -/
theorem exists_walk_alterAt (reached : node.at? path = some last)
    (keeps : ∀ side, Visits.signature [] (changes side last) = Visits.signature [] last)
    (unequal : (bareOutlook config).sameContent .first (changes .first last)
      (changes .second last) = false) (above : String) :
    ∃ lastAbove, lastAbove ++ Visits.signature [] last =
        above ++ String.join ((node.alongPath path).map (Visits.signature [])) ∧
      ∀ side, walk Policy.greedy (bareOutlook config) side (sideReport config side) above
          (node.alterAt (changes side) path) (node.alterAt (changes (otherSide side)) path) =
        walk Policy.greedy (bareOutlook config) side (sideReport config side) lastAbove
          (changes side last) (changes (otherSide side) last) := by
  induction path generalizing node above with
  | nil =>
      obtain rfl : node = last := Option.some.inj reached
      refine ⟨above, ?_, fun side => rfl⟩
      rw [Node.alongPath, List.map_singleton, String.join_cons, String.join_nil, String.append_empty]
  | cons index rest inductionHypothesis =>
      obtain ⟨child, atIndex, childReached⟩ := Node.exists_child_of_at? reached
      obtain ⟨lastAbove, signatures, walks⟩ :=
        inductionHypothesis childReached (above ++ Visits.signature [] node)
      refine ⟨lastAbove, ?_, fun side => ?_⟩
      · rw [signatures, Node.alongPath_cons atIndex, List.map_cons, String.join_cons,
          String.append_assoc]
      · rw [walk_alterAt_cons atIndex childReached keeps unequal, walks side]

/-- All that is found of two such trees is what is reported of the changed nodes. -/
theorem exists_sideDifferences_alterAt (reached : node.at? path = some last)
    (keeps : ∀ side, Visits.signature [] (changes side last) = Visits.signature [] last)
    (unequal : (bareOutlook config).sameContent .first (changes .first last)
      (changes .second last) = false) :
    ∃ lastAbove, lastAbove ++ Visits.signature [] last =
        String.join ((node.alongPath path).map (Visits.signature [])) ∧
      ∀ side, sideDifferences Policy.greedy (bareOutlook config)
          (fun walked => node.alterAt (changes walked) path) side =
        walk Policy.greedy (bareOutlook config) side (sideReport config side) lastAbove
          (changes side last) (changes (otherSide side) last) := by
  obtain ⟨lastAbove, signatures, walks⟩ := exists_walk_alterAt reached keeps unequal ""
  rw [String.empty_append] at signatures
  have sameSignature (side : Side) :
      Visits.signature [] (node.alterAt (changes side) path) = Visits.signature [] node :=
    signature_alterAt reached (keeps side)
  refine ⟨lastAbove, signatures, fun side => ?_⟩
  rw [← walks side]
  exact walkSiblings_around config (sideReport config side) [] []
    (fun walked => node.alterAt (changes walked) path)
    ((sameSignature .first).trans (sameSignature .second).symm) side ""

end Down

end XmlCollation.Compare
