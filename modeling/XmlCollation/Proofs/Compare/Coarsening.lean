import XmlCollation.Proofs.Compare.ContentKeys
import XmlCollation.Proofs.Compare.Resemblance

/-!
Contract: comparisons that see less of the same trees.

Owns:
- outlooks of which one is coarser than the other: it keeps the same nodes, and what is equal
  under the finer one is equal under it, as far as nodes on one level are concerned;
- equality of texts and of contents, and resemblance, which the coarser outlook keeps.

Does not own: which siblings are paired under either of them.
-/

namespace XmlCollation.Compare

open XmlCollation.Tree
open XmlCollation.Markup
open XmlCollation.Rules (otherSide)

/-- Outlooks on the same trees, of which the second sees less.  Both keep the same nodes.  Texts
that are equal under the first one are equal under the second one, and so are the signatures
of nodes on one level; the children of such nodes are on one level again. -/
structure Outlook.Coarsens (level : Node → Node → Prop) (fine coarse : Outlook) : Prop where
  parsed : ∀ {node other}, level node other → HasParsedNames node ∧ HasParsedNames other
  kept : ∀ side nodes, coarse.kept side nodes = fine.kept side nodes
  fold : ∀ {chars others}, fine.config.fold chars = fine.config.fold others →
    coarse.config.fold chars = coarse.config.fold others
  signature : ∀ {node other}, level node other →
    (fine.keys .first node).signature = (fine.keys .second other).signature →
      (coarse.keys .first node).signature = (coarse.keys .second other).signature
  below : ∀ {node other}, level node other →
    (fine.keys .first node).signature = (fine.keys .second other).signature →
      ∀ child ∈ node.children, ∀ partner ∈ other.children, level child partner

namespace Outlook.Coarsens

variable {level : Node → Node → Prop} {fine coarse : Outlook} {node other : Node}

theorem textKey_eq (coarsens : fine.Coarsens level coarse)
    (text : textKey fine.config node = textKey fine.config other) :
    textKey coarse.config node = textKey coarse.config other := by
  rw [textKey, textKey, ← String.toList_inj, Config.normalize_toList, Config.normalize_toList,
    Config.key_eq_fold_trim, Config.key_eq_fold_trim] at text ⊢
  exact coarsens.fold text

/-- Nodes on one level that have equal contents still have. -/
theorem sameContent (coarsens : fine.Coarsens level coarse) (isLevel : level node other)
    (same : fine.sameContent .first node other = true) :
    coarse.sameContent .first node other = true := by
  induction node using Node.childInduction generalizing other with
  | step node inductionHypothesis =>
      obtain ⟨parsed, otherParsed⟩ := coarsens.parsed isLevel
      have parts := sameParts_of_foldedContent_eq fine.config parsed otherParsed
        ((sameContent_iff .first node other).1 same)
      have signature : (fine.keys .first node).signature = (fine.keys .second other).signature :=
        (signatureKey_eq_iff fine.config fine.first fine.second node other).2 parts.signature
      have startTag : coarse.config.fold (tagInside (coarse.first.excludedOf node) node) =
          coarse.config.fold (tagInside (coarse.second.excludedOf other) other) :=
        (signatureKey_eq_iff coarse.config coarse.first coarse.second node other).1
          (coarsens.signature isLevel signature)
      have children : List.Forall₂
          (fun child partner => foldedContent coarse.config coarse.first child =
            foldedContent coarse.config coarse.second partner)
          (coarse.kept .first node.children) (coarse.kept .second other.children) := by
        rw [coarsens.kept, coarsens.kept]
        refine forall₂_imp_of_mem parts.children fun child childIn partner partnerIn sameHere => ?_
        have inNode := (Visits.mem_kept.1 childIn).1
        refine (sameContent_iff .first child partner).1 (inductionHypothesis child inNode ?_ ?_)
        · exact coarsens.below isLevel signature child inNode partner
            (Visits.mem_kept.1 partnerIn).1
        · exact (sameContent_iff .first child partner).2 sameHere
      have coarseParts : SameParts coarse.config coarse.first coarse.second node other :=
        ⟨startTag, coarsens.fold parts.text, children⟩
      exact (sameContent_iff .first node other).2 (coarseParts.foldedContent_eq parsed otherParsed)

/-- Nodes on one level that resemble each other still do. -/
theorem resembles (coarsens : fine.Coarsens level coarse)
    (resembles : Resembles fine.config fine.first fine.second node other)
    (isLevel : level node other) :
    Resembles coarse.config coarse.first coarse.second node other := by
  induction resembles with
  | intro signature text pairs firsts seconds _ inductionHypothesis =>
      refine .intro (coarsens.signature isLevel signature) (coarsens.textKey_eq text) pairs ?_ ?_ ?_
      · exact firsts.trans (.of_eq (coarsens.kept .first _).symm)
      · exact seconds.trans (.of_eq (coarsens.kept .second _).symm)
      · intro pair member
        have inNode := (Visits.mem_kept.1 (firsts.mem_iff.1 (List.mem_map_of_mem member))).1
        have inOther := (Visits.mem_kept.1 (seconds.mem_iff.1 (List.mem_map_of_mem member))).1
        exact inductionHypothesis pair member
          (coarsens.below isLevel signature _ inNode _ inOther)

end Outlook.Coarsens

end XmlCollation.Compare
