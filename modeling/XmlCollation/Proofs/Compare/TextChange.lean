import XmlCollation.Proofs.Compare.Descent

/-!
Contract: documents that differ in one text.

Owns:
- nodes with another text, their positions and their contents;
- what a greedy comparison without rules finds of two such documents: one difference of texts,
  under the signatures on the way from the root to the node.

Does not own: documents that differ in more than one place.
-/

namespace XmlCollation.Compare

open XmlCollation.Tree
open XmlCollation.Markup
open XmlCollation.Rules (otherSide)

/-! ## Another text -/

/-- The node with another text. -/
def withText (text : String) (node : Node) : Node :=
  { node with text }

theorem positions_withText (text : String) (node : Node) :
    (withText text node).positions = node.positions := by
  rw [Node.positions_eq, Node.positions_eq]
  rfl

section Texts

variable {config : Config} {node : Node} {text : String}

/-- Texts of different keys make different contents. -/
theorem sameContent_withText (different : config.normalize node.text ≠ config.normalize text) :
    (bareOutlook config).sameContent .first node (withText text node) = false := by
  by_contra same
  rw [Bool.not_eq_false, sameContent_bare_iff, (writesAround_foldedContent config).write_eq,
    (writesAround_foldedContent config).write_eq (withText text node)] at same
  have fronts := List.append_cancel_right same
  have behindTags := List.append_cancel_left (List.cons.inj fronts).2
  exact different (config.normalize_eq_of_fold_eq
    (escapeText_injective (List.cons.inj behindTags).2))

end Texts

/-! ## What is found -/

section Found

variable {config : Config} {tree node : Node} {path : List Nat} {text : String}

/-- Of a node and the same node with another text, the difference of the texts is reported of
the first side, and nothing of the second. -/
theorem walk_withText (different : config.normalize node.text ≠ config.normalize text)
    (above : String) (side : Side) :
    walk Policy.greedy (bareOutlook config) side (sideReport config side) above
        (bySide id (withText text) side node) (bySide id (withText text) (otherSide side) node) =
      bySide [textDifference (above ++ Visits.signature [] node) node (withText text node)] []
        side := by
  have unequal := sameContent_withText different
  cases side with
  | first =>
      have reported : (sideReport config .first).pair (above ++ Visits.signature [] node) node
          (withText text node) =
            some [textDifference (above ++ Visits.signature [] node) node (withText text node)] :=
        if_neg different
      have walked := walk_eq Policy.greedy (bareOutlook config) .first (sideReport config .first)
        above node (withText text node)
      rw [unequal, if_neg Bool.false_ne_true, bareSignature, reported] at walked
      exact walked
  | second =>
      -- The second side reports no texts, and the node has the children that it had.
      have walked := walk_eq Policy.greedy (bareOutlook config) .second (sideReport config .second)
        above (withText text node) node
      have unequalBack : (bareOutlook config).sameContent .second (withText text node) node =
          false :=
        (sameContent_symm (bareOutlook config) .first node (withText text node)).trans unequal
      rw [unequalBack, if_neg Bool.false_ne_true] at walked
      exact walked.trans (walkSiblings_self config (sideReport config .second) .second _
        node.children)

/-- If one text of a tree is replaced by a text of another key, a greedy comparison without
rules finds this and nothing else, under the signatures from the root to the node. -/
theorem findings_withText (distinct : tree.HasDistinctPositions)
    (reached : tree.at? path = some node)
    (different : config.normalize node.text ≠ config.normalize text) :
    findings config Policy.greedy [] [] tree (tree.alterAt (withText text) path) =
      [⟨"Text of XML node " ++ String.join ((tree.alongPath path).map (Visits.signature [])),
        node.text, text⟩] := by
  have changedDistinct : (tree.alterAt (withText text) path).HasDistinctPositions :=
    Node.distinct_alterAt distinct reached (positions_withText text node)
  have roots_eq : bySide tree (tree.alterAt (withText text) path) =
      fun side => tree.alterAt (bySide id (withText text) side) path := by
    funext side
    cases side with
    | first => exact (tree.alterAt_id path).symm
    | second => rfl
  have keeps (side : Side) : Visits.signature [] (bySide id (withText text) side node) =
      Visits.signature [] node := by
    cases side <;> rfl
  obtain ⟨lastAbove, signatures, found⟩ :=
    exists_sideDifferences_alterAt reached keeps (sameContent_withText different)
  rw [findings_eq_sides .greedy distinct changedDistinct, ruledOutlook_nil, roots_eq, found, found,
    walk_withText different, walk_withText different, signatures]
  rfl

end Found

/-- `<a><b>x</b><b>x</b></a>`, at an index below the root. -/
def twin (index : Int) : Node :=
  ⟨"a", [], [⟨"b", [], [], "x", [index, 0], none⟩, ⟨"b", [], [], "x", [index, 1], none⟩], "",
    [index], none⟩

/-- `<r><a>…</a><a>…</a></r>`, each node with a twin beside it. -/
def twins : Node :=
  ⟨"r", [], [twin 0, twin 1], "", [], none⟩

/-- The change is found in the second of two equal siblings. -/
theorem findings_twins :
    findings .standard Policy.greedy [] [] twins (twins.alterAt (withText "y") [1, 0]) =
        [⟨"Text of XML node " ++
          String.join ((twins.alongPath [1, 0]).map (Visits.signature [])), "x", "y"⟩] ∧
      String.join ((twins.alongPath [1, 0]).map (Visits.signature [])) = "<r><a><b>" := by
  have reached : twins.at? [1, 0] = some ⟨"b", [], [], "x", [1, 0], none⟩ := rfl
  have found := @findings_withText .standard twins _ [1, 0] "y" (by decide) reached
    (by decide +kernel)
  exact ⟨found, by decide +kernel⟩

end XmlCollation.Compare
