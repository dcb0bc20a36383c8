import XmlCollation.Proofs.Compare.Coarsening
import XmlCollation.Proofs.Compare.Silence

/-!
Contract: optimal comparisons that see less.

Owns:
- assignments of least cost, which depend on which keys are equal and on nothing else;
- changes that do no harm to a pair of nodes: nothing about them is ambiguous after the change,
  or the change makes no child equal to one from which it differed, and does no harm below;
- silence of optimal walks, which a coarser outlook keeps if it does no harm.

Does not own: what makes an outlook coarser.
-/

namespace XmlCollation.Compare

open XmlCollation.Tree
open XmlCollation.Markup
open XmlCollation.Rules (otherSide)

/-! ## Equal keys -/

/-- The keys of a row and of a column are equal to the same extent as two others: their
signatures are, and, if so, their contents. -/
structure SameVerdict (row column row' column' : SiblingKeys) : Prop where
  signature : column.signature = row.signature ↔ column'.signature = row'.signature
  content : column.signature = row.signature →
    (row.content = column.content ↔ row'.content = column'.content)

/-- The assignment of least cost depends on nothing but which keys are equal. -/
theorem optimalChoice_congr {α : Type} [Cost α] (solve : Solver α) {nodes others : List Node}
    {row row' column column' : Node → SiblingKeys}
    (same : ∀ node ∈ nodes, ∀ other ∈ others,
      SameVerdict (row node) (column other) (row' node) (column' other)) :
    optimalChoice solve (nodes.map row) (others.map column) =
      optimalChoice solve (nodes.map row') (others.map column') := by
  have sameMatrix (step : α) : costMatrixOf step 0 (nodes.map row) (others.map column) =
      costMatrixOf step 0 (nodes.map row') (others.map column') := by
    rw [costMatrixOf, costMatrixOf, List.zipIdx_map, List.zipIdx_map, List.map_map, List.map_map]
    refine List.map_congr_left fun entry inRows => ?_
    simp only [Function.comp_apply, Prod.map, id, costRowOf, List.zipIdx_map, List.map_map]
    refine List.map_congr_left fun entry' inColumns => ?_
    have verdict := same entry.1 (List.fst_mem_of_mem_zipIdx inRows) entry'.1
      (List.fst_mem_of_mem_zipIdx inColumns)
    simp only [Function.comp_apply, Prod.map, id]
    by_cases signature : (column entry'.1).signature = (row entry.1).signature
    · have content : ((row entry.1).content == (column entry'.1).content) =
          ((row' entry.1).content == (column' entry'.1).content) := by
        rw [Bool.eq_iff_iff, beq_iff_eq, beq_iff_eq]
        exact verdict.content signature
      rw [if_pos signature, if_pos (verdict.signature.1 signature), content]
    · rw [if_neg signature, if_neg fun equal => signature (verdict.signature.2 equal)]
  simp only [optimalChoice, List.isEmpty_map, List.length_map, sameMatrix]

/-! ## Harmless changes -/

/-- A change from a fine outlook to a coarse one does no harm to two nodes if nothing about them
is ambiguous under the coarse one.  Nor does it if under the coarse outlook no kept child of
the one is equal, in signature or in content, to a kept child of the other from which it
differs under the fine one, and if it does no harm to those that resemble each other. -/
inductive Outlook.IsHarmless (fine coarse : Outlook) : Node → Node → Prop where
  | unambiguous {node other : Node} (clear : coarse.IsUnambiguous node other) :
      IsHarmless fine coarse node other
  | unchanged {node other : Node}
      (signatures : ∀ child ∈ fine.kept .first node.children,
        ∀ partner ∈ fine.kept .second other.children,
          (coarse.keys .first child).signature = (coarse.keys .second partner).signature →
            (fine.keys .first child).signature = (fine.keys .second partner).signature)
      (contents : ∀ child ∈ fine.kept .first node.children,
        ∀ partner ∈ fine.kept .second other.children,
          coarse.sameContent .first child partner = true →
            fine.sameContent .first child partner = true)
      (below : ∀ child ∈ fine.kept .first node.children,
        ∀ partner ∈ fine.kept .second other.children,
          Resembles fine.config fine.first fine.second child partner →
            IsHarmless fine coarse child partner) :
      IsHarmless fine coarse node other

/-- Nothing about nodes of equal content is ambiguous. -/
theorem isUnambiguous_of_sameContent {outlook : Outlook} {first second : Node}
    (equal : outlook.sameContent .first first second = true) :
    outlook.IsUnambiguous first second := by
  have onTop {node other : Node} (meets : outlook.Meets first second node other) :
      node = first ∧ other = second := by
    induction meets with
    | top => exact ⟨rfl, rfl⟩
    | inside _ unequal _ _ _ inductionHypothesis =>
        obtain ⟨rfl, rfl⟩ := inductionHypothesis
        rw [equal] at unequal
        cases unequal
  intro node other meets _ unequal
  obtain ⟨rfl, rfl⟩ := onTop meets
  rw [equal] at unequal
  cases unequal

section Silent

variable {level : Node → Node → Prop} {fine coarse : Outlook} {node other : Node}
  {solve : Solver Rat}

/-- A change that makes no children equal leaves the verdicts on children as they are. -/
theorem Outlook.Coarsens.sameVerdict (coarsens : fine.Coarsens level coarse)
    (isLevel : level node other)
    (signatures : (coarse.keys .first node).signature = (coarse.keys .second other).signature →
      (fine.keys .first node).signature = (fine.keys .second other).signature)
    (contents : coarse.sameContent .first node other = true →
      fine.sameContent .first node other = true) :
    SameVerdict (fine.keys .first node) (fine.keys .second other) (coarse.keys .first node)
      (coarse.keys .second other) := by
  refine ⟨⟨fun equal => ?_, fun equal => (signatures equal.symm).symm⟩, fun _ => ⟨?_, ?_⟩⟩
  · exact (coarsens.signature isLevel equal.symm).symm
  · intro equal
    exact beq_iff_eq.1 (coarsens.sameContent isLevel (beq_iff_eq.2 equal))
  · intro equal
    exact beq_iff_eq.1 (contents (beq_iff_eq.2 equal))

/-- Kept children find the same partners if no verdict on children is changed. -/
theorem Outlook.Coarsens.partner?_eq (coarsens : fine.Coarsens level coarse) (solve : Solver Rat)
    (prepared : fine.Prepared) (coarsePrepared : coarse.Prepared) (siblings : Side → List Node)
    (same : ∀ child ∈ fine.kept .first (siblings .first),
      ∀ partner ∈ fine.kept .second (siblings .second),
        SameVerdict (fine.keys .first child) (fine.keys .second partner) (coarse.keys .first child)
          (coarse.keys .second partner)) (side : Side) (index : Nat) :
    (Policy.optimalWith solve).partner? coarse side (siblings side) (siblings (otherSide side))
        index =
      (Policy.optimalWith solve).partner? fine side (siblings side) (siblings (otherSide side))
        index := by
  have pairing : (Policy.optimalWith solve).keptPairing coarse siblings =
      (Policy.optimalWith solve).keptPairing fine siblings := by
    rw [keptPairing_eq (optimalWith_follows solve) coarsePrepared,
      keptPairing_eq (optimalWith_follows solve) prepared, coarsens.kept, coarsens.kept]
    exact (optimalChoice_congr solve same).symm
  rw [Compare.partner?_eq, Compare.partner?_eq, pairing, coarsens.kept]

/-- Where an optimal walk reports nothing of two nodes on one level, it still does not under a
coarser outlook, if the change does them no harm. -/
theorem Outlook.Coarsens.silent (coarsens : fine.Coarsens level coarse) (exact : solve.IsExact)
    (prepared : fine.Prepared) (coarsePrepared : coarse.Prepared)
    (harmless : fine.IsHarmless coarse node other) (isLevel : level node other)
    (signature : (fine.keys .first node).signature = (fine.keys .second other).signature)
    (silent : ∀ side, ∃ above, walk (Policy.optimalWith solve) fine side
      (sideReport fine.config side) above (bySide node other side)
        (bySide node other (otherSide side)) = [])
    (side : Side) (above : String) :
    walk (Policy.optimalWith solve) coarse side (sideReport coarse.config side) above
      (bySide node other side) (bySide node other (otherSide side)) = [] := by
  have pairing := optimalChoice_isPairing exact.assignsOnce
  have follows := optimalWith_follows solve
  induction harmless generalizing above with
  | @unambiguous node other clear =>
      obtain ⟨parsed, otherParsed⟩ := coarsens.parsed isLevel
      have resembles := resembles_of_silent pairing follows prepared parsed otherParsed signature
        silent
      exact silent_of_resembles pairing (optimalChoice_isMaximal exact)
        (optimalChoice_prefersEqual exact) follows coarsePrepared parsed otherParsed
        (coarsens.resembles resembles isLevel) clear side above
  | @unchanged node other signatures contents _ inductionHypothesis =>
      have sides := sameContent_side coarse (bySide node other) side
      cases coarseEqual : coarse.sameContent .first node other with
      | true => rw [walk_eq, sides.trans coarseEqual, if_pos rfl]
      | false =>
          have unequal : fine.sameContent .first node other = false := by
            rw [← Bool.not_eq_true] at coarseEqual ⊢
            exact fun equal => coarseEqual (coarsens.sameContent isLevel equal)
          obtain ⟨text, silentChildren⟩ := children_of_silent unequal silent
          have lower {child partner : Node} (childIn : child ∈ fine.kept .first node.children)
              (partnerIn : partner ∈ fine.kept .second other.children) : level child partner :=
            coarsens.below isLevel signature child (Visits.mem_kept.1 childIn).1 partner
              (Visits.mem_kept.1 partnerIn).1
          have partner_eq := coarsens.partner?_eq solve prepared coarsePrepared
            (fun walked => (bySide node other walked).children)
            fun child childIn partner partnerIn => coarsens.sameVerdict (lower childIn partnerIn)
              (signatures child childIn partner partnerIn) (contents child childIn partner partnerIn)
          rw [walk_of_unequal (bySide node other) (sides.trans coarseEqual)
            (coarsens.textKey_eq text)]
          refine (walkSiblings_silent_iff _ _ _ (sideReport_lone_ne_nil coarse.config side) _ _
            _).2 fun index child atIndex => ?_
          rw [coarsens.kept] at atIndex
          obtain ⟨found, rfl, isPartner, inKept, sameSignature, nothing⟩ :=
            exists_silent_pair pairing follows prepared silentChildren atIndex
          refine ⟨found (otherSide side), (partner_eq side index).trans isPartner, ?_⟩
          have isLower := lower (inKept .first) (inKept .second)
          rw [← bySide_eta found] at nothing ⊢
          have resembles := resembles_of_silent pairing follows prepared
            (coarsens.parsed isLower).1 (coarsens.parsed isLower).2 sameSignature nothing
          exact inductionHypothesis (found .first) (inKept .first) (found .second) (inKept .second)
            resembles isLower sameSignature nothing _

end Silent

end XmlCollation.Compare
