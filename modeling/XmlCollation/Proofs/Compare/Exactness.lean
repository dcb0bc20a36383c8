import Mathlib.Data.List.Forall2
import XmlCollation.Proofs.Compare.Roots
import XmlCollation.Proofs.Compare.Serialization

/-!
Contract: the verdict of a greedy comparison.

Owns:
- agreement of two nodes: equal keys of signature and text, and children that
  agree rank by rank;
- nodes of equal content agree, if their names are parsed ones;
- walks over a pair are silent if and only if its nodes agree;
- a greedy comparison finds nothing if and only if the roots agree, or both are
  skipped.

Does not own: the optimal policy.
-/

namespace XmlCollation.Compare

open XmlCollation.Tree
open XmlCollation.Markup
open XmlCollation.Rules

/-! ## Agreement -/

/-- Two nodes have equal keys of signature and text, and for every signature key the
kept children with this key are equally many and agree in document order. -/
inductive Agrees (outlook : Outlook) : Node → Node → Prop where
  | intro {node other : Node}
      (signature : (outlook.keys .first node).signature = (outlook.keys .second other).signature)
      (text : textKey outlook.config node = textKey outlook.config other)
      (length : ∀ key, (outlook.ofKey .first key node.children).length =
        (outlook.ofKey .second key other.children).length)
      (children : ∀ (key : String) (rank : Nat) (child partner : Node),
        (outlook.ofKey .first key node.children)[rank]? = some child →
          (outlook.ofKey .second key other.children)[rank]? = some partner →
            Agrees outlook child partner) :
      Agrees outlook node other

variable {outlook : Outlook}

/-- Lists are related entry by entry if they are equally long and what stands at one index
is related. -/
theorem forall₂_of_getElem? {α β : Type} {related : α → β → Prop} {xs : List α} {ys : List β}
    (length : xs.length = ys.length)
    (each : ∀ (index : Nat) (x : α) (y : β), xs[index]? = some x → ys[index]? = some y →
      related x y) : List.Forall₂ related xs ys := by
  refine List.forall₂_iff_get.2 ⟨length, fun index inRange inRange' => ?_⟩
  exact each index _ _ (List.getElem?_eq_getElem inRange) (List.getElem?_eq_getElem inRange')

/-- Related entries stay related when the relation is weakened for the entries of the lists. -/
theorem forall₂_imp_of_mem {α β : Type} {related related' : α → β → Prop} {xs : List α}
    {ys : List β} (pairwise : List.Forall₂ related xs ys)
    (implies : ∀ x ∈ xs, ∀ y ∈ ys, related x y → related' x y) : List.Forall₂ related' xs ys := by
  refine List.forall₂_iff_zip.2 ⟨pairwise.length_eq, fun member => ?_⟩
  exact implies _ (List.of_mem_zip member).1 _ (List.of_mem_zip member).2
    (List.forall₂_zip pairwise member)

/-- Nodes agree if their keys do and the children of each key agree in document order. -/
theorem Agrees.of_forall₂ {node other : Node}
    (signature : (outlook.keys .first node).signature = (outlook.keys .second other).signature)
    (text : textKey outlook.config node = textKey outlook.config other)
    (children : ∀ key, List.Forall₂ (Agrees outlook) (outlook.ofKey .first key node.children)
      (outlook.ofKey .second key other.children)) : Agrees outlook node other := by
  refine .intro signature text (fun key => (children key).length_eq) ?_
  intro key rank child partner atChild atPartner
  obtain ⟨inRange, child_eq⟩ := List.getElem?_eq_some_iff.1 atChild
  obtain ⟨inRange', partner_eq⟩ := List.getElem?_eq_some_iff.1 atPartner
  have agrees := (children key).get inRange inRange'
  rwa [List.get_eq_getElem, List.get_eq_getElem, child_eq, partner_eq] at agrees

/-! ## Equal contents -/

/-- Related entries stay related when both lists keep the same of them. -/
theorem forall₂_filter {α β : Type} {related : α → β → Prop} {p : α → Bool} {q : β → Bool}
    {xs : List α} {ys : List β} (pairwise : List.Forall₂ related xs ys)
    (same : ∀ x ∈ xs, ∀ y ∈ ys, related x y → p x = q y) :
    List.Forall₂ related (xs.filter p) (ys.filter q) := by
  induction pairwise with
  | nil => exact .nil
  | @cons x y xs ys here _ inductionHypothesis =>
      have rest := inductionHypothesis fun x' xMember y' yMember =>
        same x' (by simp [xMember]) y' (by simp [yMember])
      have decided := same x (by simp) y (by simp) here
      rw [List.filter_cons, List.filter_cons, ← decided]
      cases p x with
      | true => exact .cons here rest
      | false => exact rest

theorem agrees_of_sameContent {node other : Node} (parsed : HasParsedNames node)
    (otherParsed : HasParsedNames other)
    (same : outlook.sameContent .first node other = true) :
    Agrees outlook node other := by
  induction node using Node.childInduction generalizing other with
  | step node inductionHypothesis =>
      obtain ⟨signature, text, children⟩ := parts_of_sameContent parsed otherParsed same
      have childParsed {child : Node} (member : child ∈ outlook.kept .first node.children) :
          child ∈ node.children ∧ HasParsedNames child :=
        ⟨(Visits.mem_kept.1 member).1, hasParsedNames_of_kept parsed member⟩
      have partnerParsed {partner : Node} (member : partner ∈ outlook.kept .second other.children) :
          HasParsedNames partner :=
        hasParsedNames_of_kept otherParsed member
      refine .of_forall₂ signature text fun key => ?_
      have ofKey :
          List.Forall₂ (fun child partner => outlook.sameContent .first child partner = true)
            (outlook.ofKey .first key node.children)
            (outlook.ofKey .second key other.children) := by
        refine forall₂_filter children ?_
        intro child member partner partnerMember sameContent
        rw [(parts_of_sameContent (childParsed member).2 (partnerParsed partnerMember)
          sameContent).1]
      refine forall₂_imp_of_mem ofKey fun child member partner partnerMember sameHere => ?_
      have childMember := childParsed (List.mem_filter.1 member).1
      exact inductionHypothesis child childMember.1 childMember.2
        (partnerParsed (List.mem_filter.1 partnerMember).1) sameHere

/-! ## Silent walks -/

/-- Nothing is reported of a pair, on either side. -/
def IsSilent (outlook : Outlook) (nodes : Side → Node) : Prop :=
  ∀ side above, walk Policy.greedy outlook side (sideReport outlook.config side) above
    (nodes side) (nodes (otherSide side)) = []

/-- A pair that is walked below, because its contents differ and its texts do not. -/
theorem walk_of_unequal {policy : Policy} (nodes : Side → Node) {side : Side}
    (unequal : outlook.sameContent side (nodes side) (nodes (otherSide side)) = false)
    (text : textKey outlook.config (nodes .first) = textKey outlook.config (nodes .second))
    (above : String) :
    walk policy outlook side (sideReport outlook.config side) above (nodes side)
        (nodes (otherSide side)) =
      walkSiblings policy outlook side (sideReport outlook.config side)
        (above ++ outlook.signature side (nodes side)) (nodes side).children
        (nodes (otherSide side)).children := by
  have nothing (signature : String) : (sideReport outlook.config side).pair signature (nodes side)
      (nodes (otherSide side)) = none := by
    cases side with
    | first => exact if_pos text
    | second => rfl
  rw [walk_eq, unequal, if_neg (by simp), nothing, Option.getD_none]

theorem isSilent_of_agrees (prepared : outlook.Prepared) {node other : Node}
    (agrees : Agrees outlook node other) : IsSilent outlook (bySide node other) := by
  induction agrees with
  | @intro node other signature text length children inductionHypothesis =>
      intro side above
      cases equal : outlook.sameContent side (bySide node other side)
          (bySide node other (otherSide side)) with
      | true => rw [walk_eq, equal, if_pos rfl]
      | false =>
          rw [walk_of_unequal (bySide node other) equal text]
          refine (walkSiblings_eq_nil_iff prepared (sideReport_lone_ne_nil outlook.config side)
            (fun walked => (bySide node other walked).children) side _).2 ?_
          intro key rank child atChild
          have inRange := (List.getElem?_eq_some_iff.1 atChild).1
          cases side with
          | first =>
              have partner := List.getElem?_eq_getElem (show rank <
                (outlook.ofKey .second key other.children).length from length key ▸ inRange)
              exact ⟨_, partner, inductionHypothesis key rank _ _ atChild partner .first _⟩
          | second =>
              have partner := List.getElem?_eq_getElem (show rank <
                (outlook.ofKey .first key node.children).length from (length key).symm ▸ inRange)
              exact ⟨_, partner, inductionHypothesis key rank _ _ partner atChild .second _⟩

theorem length_eq_of_getElem? {α β : Type} {xs : List α} {ys : List β}
    (forth : ∀ (index : Nat) (x : α), xs[index]? = some x → ∃ y, ys[index]? = some y)
    (back : ∀ (index : Nat) (y : β), ys[index]? = some y → ∃ x, xs[index]? = some x) :
    xs.length = ys.length := by
  refine Nat.le_antisymm ?_ ?_
  · by_contra shorter
    obtain ⟨y, atEnd⟩ := forth ys.length _ (List.getElem?_eq_getElem (by omega))
    simp at atEnd
  · by_contra shorter
    obtain ⟨x, atEnd⟩ := back xs.length _ (List.getElem?_eq_getElem (by omega))
    simp at atEnd

theorem textKey_eq_of_silent {policy : Policy} {node other : Node} {above : String}
    (unequal : outlook.sameContent .first node other = false)
    (silent : walk policy outlook .first (sideReport outlook.config .first) above node other = []) :
    textKey outlook.config node = textKey outlook.config other := by
  by_contra different
  have reported : (sideReport outlook.config .first).pair
      (above ++ outlook.signature .first node) node other =
        some [textDifference (above ++ outlook.signature .first node) node other] :=
    if_neg different
  rw [walk_eq, unequal, if_neg (by simp), reported] at silent
  cases silent

/-- If nothing is reported of nodes of unequal content, their texts are equal, and nothing is
reported of their children. -/
theorem children_of_silent {policy : Policy} {node other : Node}
    (unequal : outlook.sameContent .first node other = false)
    (silent : ∀ side, ∃ above, walk policy outlook side (sideReport outlook.config side) above
      (bySide node other side) (bySide node other (otherSide side)) = []) :
    textKey outlook.config node = textKey outlook.config other ∧
      ∀ side, ∃ above, walkSiblings policy outlook side (sideReport outlook.config side) above
        (bySide node other side).children (bySide node other (otherSide side)).children = [] := by
  have text : textKey outlook.config node = textKey outlook.config other :=
    (silent .first).elim fun above nothing => textKey_eq_of_silent unequal nothing
  refine ⟨text, fun side => ?_⟩
  obtain ⟨above, nothing⟩ := silent side
  rw [walk_of_unequal (bySide node other)
    ((sameContent_side outlook (bySide node other) side).trans unequal) text] at nothing
  exact ⟨_, nothing⟩

/-- Nodes of equal signature agree if nothing is reported of them. -/
theorem agrees_of_silent (prepared : outlook.Prepared) {node other : Node}
    (parsed : HasParsedNames node) (otherParsed : HasParsedNames other)
    (signature : (outlook.keys .first node).signature = (outlook.keys .second other).signature)
    (silent : ∀ side, ∃ above, walk Policy.greedy outlook side (sideReport outlook.config side)
      above (bySide node other side) (bySide node other (otherSide side)) = []) :
    Agrees outlook node other := by
  induction node using Node.childInduction generalizing other with
  | step node inductionHypothesis =>
      cases equal : outlook.sameContent .first node other with
      | true => exact agrees_of_sameContent parsed otherParsed equal
      | false =>
          obtain ⟨text, silentChildren⟩ := children_of_silent equal silent
          have below (side : Side) :=
            (walkSiblings_eq_nil_iff prepared (sideReport_lone_ne_nil outlook.config side)
              (fun walked => (bySide node other walked).children) side
              (silentChildren side).choose).1 (silentChildren side).choose_spec
          refine .intro signature text ?_ ?_
          · intro key
            refine length_eq_of_getElem? ?_ ?_
            · intro rank child atChild
              obtain ⟨partner, atPartner, _⟩ := below .first key rank child atChild
              exact ⟨partner, atPartner⟩
            · intro rank partner atPartner
              obtain ⟨child, atChild, _⟩ := below .second key rank partner atPartner
              exact ⟨child, atChild⟩
          · intro key rank child partner atChild atPartner
            have childMember := List.mem_filter.1 (List.mem_of_getElem? atChild)
            have partnerMember := List.mem_filter.1 (List.mem_of_getElem? atPartner)
            have childIn := (Visits.mem_kept.1 childMember.1).1
            refine inductionHypothesis child childIn
              (hasParsedNames_of_kept parsed childMember.1)
              (hasParsedNames_of_kept otherParsed partnerMember.1) ?_ ?_
            · exact (beq_iff_eq.1 childMember.2).trans (beq_iff_eq.1 partnerMember.2).symm
            · intro side
              cases side with
              | first =>
                  obtain ⟨found, atFound, nothing⟩ := below .first key rank child atChild
                  have isPartner : partner = found :=
                    Option.some.inj (atPartner.symm.trans atFound)
                  exact ⟨_, isPartner ▸ nothing⟩
              | second =>
                  obtain ⟨found, atFound, nothing⟩ := below .second key rank partner atPartner
                  have isChild : child = found := Option.some.inj (atChild.symm.trans atFound)
                  exact ⟨_, isChild ▸ nothing⟩

/-! ## Roots -/

section Roots

variable {roots : Side → Node}

/-- Nothing is reported of the roots as only children if and only if both are skipped,
or they are kept, of equal signature, and nothing is reported of the pair. -/
theorem silent_roots_iff (prepared : outlook.Prepared) :
    (∀ side, sideDifferences Policy.greedy outlook roots side = []) ↔
      (∀ side, (outlook.visits side).isSkipped (roots side) = true) ∨
        (∀ side, (outlook.visits side).isSkipped (roots side) = false) ∧
          (outlook.keys .first (roots .first)).signature =
            (outlook.keys .second (roots .second)).signature ∧
          ∀ side, walk Policy.greedy outlook side (sideReport outlook.config side) ""
            (roots side) (roots (otherSide side)) = [] :=
  roots_silent_iff greedyChoice_isPairing greedyChoice_isMaximal greedy_follows prepared

end Roots

/-! ## The verdict -/

variable {config : Config} {firstRules secondRules : List Rule} {first second : Node}

/-- A greedy comparison finds nothing if and only if, once the rules are applied, both
roots are skipped, or neither is and the roots agree. -/
theorem findings_greedy_eq_nil_iff
    (firstDistinct : first.HasDistinctPositions) (secondDistinct : second.HasDistinctPositions)
    (firstParsed : HasParsedNames first) (secondParsed : HasParsedNames second) :
    findings config Policy.greedy firstRules secondRules first second = [] ↔
      (∀ side, rootSkipped config firstRules secondRules first second side = true) ∨
        (∀ side, rootSkipped config firstRules secondRules first second side = false) ∧
          Agrees (ruledOutlook config firstRules secondRules first second) first second := by
  have prepared := ruledOutlook_prepared config firstRules secondRules first second
  rw [findings_eq_sides .greedy firstDistinct secondDistinct, List.append_eq_nil_iff]
  unfold rootSkipped
  generalize ruledOutlook config firstRules secondRules first second = outlook at *
  have sides : (sideDifferences Policy.greedy outlook (bySide first second) .first = [] ∧
      sideDifferences Policy.greedy outlook (bySide first second) .second = []) ↔
        ∀ side, sideDifferences Policy.greedy outlook (bySide first second) side = [] := by
    constructor
    · rintro ⟨firstSilent, secondSilent⟩ side
      cases side with
      | first => exact firstSilent
      | second => exact secondSilent
    · intro silent
      exact ⟨silent .first, silent .second⟩
  rw [sides, silent_roots_iff prepared]
  refine or_congr_right (and_congr_right fun _ => ⟨?_, ?_⟩)
  · rintro ⟨signature, silent⟩
    exact agrees_of_silent prepared firstParsed secondParsed signature
      fun side => ⟨"", silent side⟩
  · intro agrees
    refine ⟨?_, fun side => isSilent_of_agrees prepared agrees side ""⟩
    cases agrees with
    | intro signature _ _ _ => exact signature

/-- `<Entry Key="K">  Done <note/></Entry>`. -/
def paddedEntry : Node :=
  ⟨"Entry", [("Key", "K")], [⟨"note", [], [], "", [0], none⟩], "  Done ", [], none⟩

/-- `<entry key="K">done<NOTE/></entry>`. -/
def plainEntry : Node :=
  ⟨"entry", [("key", "K")], [⟨"NOTE", [], [], "", [0], none⟩], "done", [], none⟩

theorem agrees_padded_plain :
    (∀ side, rootSkipped .standard [] [] paddedEntry plainEntry side = true) ∨
      (∀ side, rootSkipped .standard [] [] paddedEntry plainEntry side = false) ∧
        Agrees (ruledOutlook .standard [] [] paddedEntry plainEntry) paddedEntry plainEntry :=
  (findings_greedy_eq_nil_iff (by decide) (by decide) (by decide +kernel)
    (by decide +kernel)).1 (by decide +kernel)

end XmlCollation.Compare
