import XmlCollation.Proofs.Compare.Decomposition
import XmlCollation.Proofs.Compare.Serialization

/-!
Contract: differences seen from both documents.

Owns:
- differences with their values exchanged, and lists of differences that mirror one
  another up to order and normalisation of descriptions;
- what is reported of a side, taken apart: unequal texts, nodes without a partner in
  the open, and those hidden below unequal texts;
- the walks over both sides find the same unequal texts.

Does not own: comparisons with their documents exchanged.
-/

namespace XmlCollation.Compare

open XmlCollation.Tree
open XmlCollation.Rules (otherSide)

/-! ## Mirrored differences -/

/-- A difference with the values of the documents exchanged. -/
def Difference.swapped (difference : Difference) : Difference :=
  ⟨difference.description, difference.thatValue, difference.thisValue⟩

/-- A difference with its description as a comparison sees it. -/
def Difference.normalized (config : Config) (difference : Difference) : Difference :=
  { difference with description := config.normalize difference.description }

/-- Differences correspond one to one to others with exchanged values, in some order and
with descriptions that are equal after normalisation. -/
def Mirrors (config : Config) (differences others : List Difference) : Prop :=
  (differences.map (Difference.normalized config)).Perm
    (others.map fun difference => difference.swapped.normalized config)

instance (config : Config) (differences others : List Difference) :
    Decidable (Mirrors config differences others) :=
  inferInstanceAs (Decidable (List.Perm _ _))

theorem Mirrors.length_eq {config : Config} {differences others : List Difference}
    (mirrors : Mirrors config differences others) : differences.length = others.length := by
  have lengths := List.Perm.length_eq mirrors
  rwa [List.length_map, List.length_map] at lengths

theorem mirrors_swapped_iff {config : Config} {differences others : List Difference} :
    Mirrors config differences (others.map Difference.swapped) ↔
      (differences.map (Difference.normalized config)).Perm
        (others.map (Difference.normalized config)) := by
  rw [Mirrors, List.map_map]
  exact Iff.rfl

/-! ## Reports of a side -/

/-- Unequal texts of a pair stand in place of everything below it. -/
def stopAtTexts (config : Config) (found : String → Node → Node → List Difference)
    (lone : String → List Difference) : Report Difference where
  pair signature node other :=
    if textKey config node = textKey config other then none else some (found signature node other)
  lone := lone

section Stop

variable {config : Config} {found : String → Node → Node → List Difference}
  {lone : String → List Difference} {node other : Node}

theorem stopAtTexts_equal (sameText : textKey config node = textKey config other)
    (signature : String) : (stopAtTexts config found lone).pair signature node other = none :=
  if_pos sameText

theorem stopAtTexts_unequal (unequal : textKey config node ≠ textKey config other)
    (signature : String) :
    (stopAtTexts config found lone).pair signature node other =
      some (found signature node other) :=
  if_neg unequal

end Stop

/-- The difference between the texts of a node of a side and of its partner. -/
def textEntry : Side → String → Node → Node → Difference
  | .first, signature, node, other => textDifference signature node other
  | .second, signature, node, other => (textDifference signature node other).swapped

/-- Unequal texts, and nodes without a partner above them. -/
def fullReport (config : Config) (side : Side) : Report Difference :=
  stopAtTexts config (fun signature node other => [textEntry side signature node other])
    fun signature => [presenceDifference side signature]

/-- Unequal texts. -/
def textReport (config : Config) (side : Side) : Report Difference :=
  stopAtTexts config (fun signature node other => [textEntry side signature node other])
    fun _ => []

/-- Nodes without a partner that are not below unequal texts. -/
def openReport (config : Config) (side : Side) : Report Difference :=
  stopAtTexts config (fun _ _ _ => []) fun signature => [presenceDifference side signature]

/-- All nodes without a partner. -/
def loneReport (side : Side) : Report Difference where
  pair _ _ _ := none
  lone signature := [presenceDifference side signature]

/-- Nodes without a partner that are below unequal texts. -/
def hiddenReport (policy : Policy) (outlook : Outlook) (side : Side) : Report Difference :=
  stopAtTexts outlook.config
    (fun signature node other =>
      walkSiblings policy outlook side (loneReport side) signature node.children other.children)
    fun _ => []

/-- What a report finds in the tree of a side, its root and the other one as only children. -/
def atRoots (policy : Policy) (outlook : Outlook) (roots : Side → Node)
    (report : Side → Report Difference) (side : Side) : List Difference :=
  walkSiblings policy outlook side (report side) "" [roots side] [roots (otherSide side)]

/-- The differences of a side that lie below unequal texts. -/
def hiddenDifferences (policy : Policy) (outlook : Outlook) (roots : Side → Node) (side : Side) :
    List Difference :=
  atRoots policy outlook roots (hiddenReport policy outlook) side

section Reports

variable {policy : Policy} {outlook : Outlook} {side : Side}

theorem fullReport_splits :
    (fullReport outlook.config side).Splits policy outlook side (textReport outlook.config side)
      (openReport outlook.config side) where
  lone _ := .refl _
  pair signature node other := by
    by_cases sameText : textKey outlook.config node = textKey outlook.config other
    · exact .inl ⟨stopAtTexts_equal sameText _, stopAtTexts_equal sameText _,
        stopAtTexts_equal sameText _⟩
    · refine .inr ?_
      rw [fullReport, textReport, openReport, stopAtTexts_unequal sameText,
        stopAtTexts_unequal sameText, stopAtTexts_unequal sameText]
      exact .refl _

theorem loneReport_splits :
    (loneReport side).Splits policy outlook side (openReport outlook.config side)
      (hiddenReport policy outlook side) where
  lone _ := .refl _
  pair signature node other := by
    by_cases sameText : textKey outlook.config node = textKey outlook.config other
    · exact .inl ⟨rfl, stopAtTexts_equal sameText _, stopAtTexts_equal sameText _⟩
    · refine .inr ?_
      rw [openReport, hiddenReport, stopAtTexts_unequal sameText, stopAtTexts_unequal sameText]
      exact .refl _

/-- Whatever is hidden is a node that only the document of the side has. -/
theorem thisValue_of_mem_hidden {roots : Side → Node} {difference : Difference}
    (member : difference ∈ hiddenDifferences policy outlook roots side) :
    difference.thisValue = bySide "YES" "NO" side := by
  have lones (signature : String) (entry : Difference)
      (reported : entry ∈ [presenceDifference side signature]) :
      entry.thisValue = bySide "YES" "NO" side := by
    rw [List.mem_singleton.1 reported]
    cases side <;> rfl
  have belowPairs (signature : String) (node other : Node) (found : List Difference)
      (reported : (hiddenReport policy outlook side).pair signature node other = some found) :
      ∀ entry ∈ found, entry.thisValue = bySide "YES" "NO" side := by
    by_cases sameText : textKey outlook.config node = textKey outlook.config other
    · rw [hiddenReport, stopAtTexts_equal sameText] at reported
      cases reported
    · rw [hiddenReport, stopAtTexts_unequal sameText] at reported
      cases reported
      refine forall_mem_walkSiblings ?_ lones _ _ _
      intro _ _ _ _ nothing
      cases nothing
  have hidden : ∀ entry ∈ hiddenDifferences policy outlook roots side,
      entry.thisValue = bySide "YES" "NO" side := by
    refine forall_mem_walkSiblings belowPairs ?_ _ _ _
    intro _ entry nothing
    cases nothing
  exact hidden difference member

end Reports

/-! ## Unequal texts from both sides -/

/-- Two signatures of places are one to a comparison, whatever they are written behind. -/
def FoldAlike (config : Config) (above above' : String) : Prop :=
  ∀ chars, config.fold (chars ++ above.toList) = config.fold (chars ++ above'.toList)

section Texts

variable {policy : Policy} {choice : Choice} {outlook : Outlook}

theorem FoldAlike.append {above above' : String} (alike : FoldAlike outlook.config above above')
    {node other : Node}
    (sameSignature : (outlook.keys .first node).signature = (outlook.keys .second other).signature) :
    FoldAlike outlook.config (above ++ outlook.signature .first node)
      (above' ++ outlook.signature .second other) := by
  intro chars
  have folded : outlook.config.fold (outlook.signature .first node).toList =
      outlook.config.fold (outlook.signature .second other).toList := by
    have keys := congrArg String.toList sameSignature
    rwa [Outlook.keys, Outlook.keys, signatureKey_toList, signatureKey_toList] at keys
  have firstTagged : IsTagged (outlook.signature .first node).toList := isTagged_signature _ node
  have secondTagged : IsTagged (outlook.signature .second other).toList :=
    isTagged_signature _ other
  rw [String.toList_append, String.toList_append, ← List.append_assoc, ← List.append_assoc,
    outlook.config.fold_append_tagged _ firstTagged,
    outlook.config.fold_append_tagged _ secondTagged, alike chars, folded]

theorem normalized_textEntry {config : Config} {above above' : String}
    (alike : FoldAlike config above above') (node other : Node) :
    (textEntry .first above node other).normalized config =
      (textEntry .second above' other node).normalized config := by
  have description : config.normalize ("Text of XML node " ++ above) =
      config.normalize ("Text of XML node " ++ above') := by
    refine config.normalize_eq_of_fold_eq ?_
    rw [String.toList_append, String.toList_append, alike]
  show Difference.mk (config.normalize ("Text of XML node " ++ above)) node.text other.text =
    Difference.mk (config.normalize ("Text of XML node " ++ above')) node.text other.text
  rw [description]

/-- Siblings of both sides, seen from either, have the same unequal texts below them if
those of equal signature have. -/
theorem texts_perm_of (pairing : choice.IsPairing) (follows : policy.Follows choice)
    (prepared : outlook.Prepared) {nodes : Side → List Node} {above above' : String}
    (walks : ∀ node ∈ nodes .first, ∀ other,
      (outlook.keys .first node).signature = (outlook.keys .second other).signature →
        ((walk policy outlook .first (textReport outlook.config .first) above node other).map
            (Difference.normalized outlook.config)).Perm
          ((walk policy outlook .second (textReport outlook.config .second) above' other node).map
            (Difference.normalized outlook.config))) :
    ((walkSiblings policy outlook .first (textReport outlook.config .first) above
          (nodes .first) (nodes .second)).map (Difference.normalized outlook.config)).Perm
      ((walkSiblings policy outlook .second (textReport outlook.config .second) above'
          (nodes .second) (nodes .first)).map (Difference.normalized outlook.config)) := by
  have quiet (side : Side) (signature : String) :
      (textReport outlook.config side).lone signature = [] := rfl
  have inPairs (side : Side) (place : String) :=
    (walkSiblings_perm_pairs side pairing follows prepared (quiet side) nodes place).map
      (Difference.normalized outlook.config)
  refine (inPairs .first above).trans (List.Perm.trans ?_ (inPairs .second above').symm)
  rw [List.map_flatMap, List.map_flatMap]
  refine List.Perm.flatMap_left _ fun pair member => ?_
  obtain ⟨pairNodes, atPair, sameSignature⟩ := exists_nodes_of_pair pairing follows prepared member
  rw [walkAt_of_pair pairing follows prepared member atPair,
    walkAt_of_pair pairing follows prepared member atPair]
  have inNodes : pairNodes .first ∈ nodes .first :=
    (Visits.mem_kept.1 (List.mem_of_getElem? (atPair .first))).1
  exact walks _ inNodes _ sameSignature

theorem walk_texts_perm (pairing : choice.IsPairing) (follows : policy.Follows choice)
    (prepared : outlook.Prepared) {above above' : String}
    (alike : FoldAlike outlook.config above above') {node other : Node}
    (sameSignature : (outlook.keys .first node).signature = (outlook.keys .second other).signature) :
    ((walk policy outlook .first (textReport outlook.config .first) above node other).map
        (Difference.normalized outlook.config)).Perm
      ((walk policy outlook .second (textReport outlook.config .second) above' other node).map
        (Difference.normalized outlook.config)) := by
  induction node using Node.childInduction generalizing other above above' with
  | step node inductionHypothesis =>
      have below := alike.append sameSignature
      have contents : outlook.sameContent .second other node = outlook.sameContent .first node other :=
        sameContent_symm outlook .first node other
      rw [walk_eq, walk_eq, contents]
      cases outlook.sameContent .first node other with
      | true =>
          rw [if_pos rfl, if_pos rfl]
      | false =>
          rw [if_neg Bool.false_ne_true, if_neg Bool.false_ne_true]
          by_cases sameText : textKey outlook.config node = textKey outlook.config other
          · have firstPair : (textReport outlook.config .first).pair
                (above ++ outlook.signature .first node) node other = none :=
              stopAtTexts_equal sameText _
            have secondPair : (textReport outlook.config .second).pair
                (above' ++ outlook.signature .second other) other node = none :=
              stopAtTexts_equal sameText.symm _
            rw [firstPair, secondPair, Option.getD_none, Option.getD_none]
            refine @texts_perm_of policy choice outlook pairing follows prepared
              (bySide node.children other.children) _ _ ?_
            intro child member partner childSignature
            exact inductionHypothesis child member below childSignature
          · have firstPair : (textReport outlook.config .first).pair
                (above ++ outlook.signature .first node) node other =
                  some [textEntry .first (above ++ outlook.signature .first node) node other] :=
              stopAtTexts_unequal sameText _
            have secondPair : (textReport outlook.config .second).pair
                (above' ++ outlook.signature .second other) other node =
                  some [textEntry .second (above' ++ outlook.signature .second other) other node] :=
              stopAtTexts_unequal (Ne.symm sameText) _
            rw [firstPair, secondPair, Option.getD_some, Option.getD_some, List.map_singleton,
              List.map_singleton, normalized_textEntry below]

/-- The walks over both sides find the same unequal texts, up to order and normalisation
of descriptions. -/
theorem walkSiblings_texts_perm (pairing : choice.IsPairing) (follows : policy.Follows choice)
    (prepared : outlook.Prepared) (nodes : Side → List Node) :
    ((walkSiblings policy outlook .first (textReport outlook.config .first) ""
          (nodes .first) (nodes .second)).map (Difference.normalized outlook.config)).Perm
      ((walkSiblings policy outlook .second (textReport outlook.config .second) ""
          (nodes .second) (nodes .first)).map (Difference.normalized outlook.config)) :=
  texts_perm_of pairing follows prepared fun _ _ _ sameSignature =>
    walk_texts_perm pairing follows prepared (fun _ => rfl) sameSignature

end Texts

end XmlCollation.Compare
