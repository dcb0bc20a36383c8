import XmlCollation.Proofs.Compare.Maximal
import XmlCollation.Proofs.Compare.Refinement

/-!
Contract: roots, as siblings above which there is nothing.

Owns:
- reports of both sides speak of every node without a partner;
- nothing is reported of roots in a pair of which nothing is reported;
- by a maximal pairing, nothing is reported of the roots if and only if both are skipped,
  or both are kept, of one signature, and nothing is reported of the pair.

Does not own: what is reported of a pair.
-/

namespace XmlCollation.Compare

open XmlCollation.Tree
open XmlCollation.Rules (Rule otherSide)

variable {policy : Policy} {choice : Choice} {outlook : Outlook} {roots : Side → Node}

theorem sideReport_lone_ne_nil (config : Config) (side : Side) (signature : String) :
    (sideReport config side).lone signature ≠ [] := by
  rw [sideReport_lone]
  simp

/-- A kept root is the first and only one of its siblings. -/
theorem getElem?_kept_root {side : Side} {root node : Node} {index : Nat} :
    (outlook.kept side [root])[index]? = some node ↔
      index = 0 ∧ node = root ∧ (outlook.visits side).isSkipped root = false := by
  rw [Outlook.kept, Visits.kept]
  cases skipped : (outlook.visits side).isSkipped root with
  | true => simp [skipped]
  | false =>
      cases index with
      | zero => simp [skipped, eq_comm]
      | succ index => simp [skipped]

/-- Nothing is reported of a root that is in a pair of which nothing is reported. -/
theorem root_silent_of_pair (pairing : choice.IsPairing) (follows : policy.Follows choice)
    (prepared : outlook.Prepared) {side : Side} {pair : Nat × Nat}
    (inPairs : pair ∈ policy.keptPairing outlook fun walked => [roots walked])
    (nothing : walk policy outlook side (sideReport outlook.config side) "" (roots side)
      (roots (otherSide side)) = []) :
    sideDifferences policy outlook roots side = [] := by
  rw [sideDifferences, walkSiblings_silent_iff _ _ _ (sideReport_lone_ne_nil outlook.config side)]
  intro index node atIndex
  obtain ⟨rfl, rfl, _⟩ := getElem?_kept_root.1 atIndex
  obtain ⟨nodes, atNodes, _⟩ := exists_nodes_of_pair pairing follows prepared inPairs
  have isZero (walked : Side) : pairIndex pair walked = 0 :=
    (getElem?_kept_root.1 (atNodes walked)).1
  have isRoot (walked : Side) : nodes walked = roots walked :=
    (getElem?_kept_root.1 (atNodes walked)).2.1
  have partner := partner_of_pair
    (keptPairing_nodup pairing follows prepared (fun walked => [roots walked]) side) inPairs
    (atNodes (otherSide side))
  rw [isZero, isRoot] at partner
  exact ⟨roots (otherSide side), partner, nothing⟩

/-- Kept roots are paired by their keys alone. -/
theorem keptPairing_roots (follows : policy.Follows choice) (prepared : outlook.Prepared)
    (kept : ∀ side, (outlook.visits side).isSkipped (roots side) = false) :
    policy.keptPairing outlook (fun walked => [roots walked]) =
      choice [outlook.keys .first (roots .first)] [outlook.keys .second (roots .second)] := by
  have keptRoot (side : Side) : outlook.kept side [roots side] = [roots side] := by
    rw [Outlook.kept, Visits.kept, List.filter_cons, kept side]
    rfl
  rw [keptPairing_eq follows prepared, keptRoot, keptRoot]
  rfl

/-- A kept root of which nothing is reported has a kept partner of equal signature. -/
theorem root_silent_iff (pairing : choice.IsPairing) (maximal : choice.IsMaximal)
    (follows : policy.Follows choice) (prepared : outlook.Prepared) {side : Side}
    (kept : (outlook.visits side).isSkipped (roots side) = false) :
    sideDifferences policy outlook roots side = [] ↔
      (outlook.visits (otherSide side)).isSkipped (roots (otherSide side)) = false ∧
        (outlook.keys .first (roots .first)).signature =
          (outlook.keys .second (roots .second)).signature ∧
        walk policy outlook side (sideReport outlook.config side) "" (roots side)
          (roots (otherSide side)) = [] := by
  let siblings : Side → List Node := fun walked => [roots walked]
  constructor
  · rw [sideDifferences,
      walkSiblings_silent_iff _ _ _ (sideReport_lone_ne_nil outlook.config side)]
    intro silent
    obtain ⟨other, found, nothing⟩ :=
      silent 0 (roots side) (getElem?_kept_root.2 ⟨rfl, rfl, kept⟩)
    have partner : policy.partner? outlook side (siblings side) (siblings (otherSide side)) 0 =
        some other := found
    obtain ⟨pair, inPairs, _, atOther⟩ := exists_pair_of_partner partner
    obtain ⟨nodes, atNodes, signature⟩ := exists_nodes_of_pair pairing follows prepared inPairs
    obtain ⟨_, isRoot, otherKept⟩ := getElem?_kept_root.1 atOther
    have isRootOf (walked : Side) : nodes walked = roots walked :=
      (getElem?_kept_root.1 (atNodes walked)).2.1
    rw [isRootOf, isRootOf] at signature
    rw [isRoot] at nothing
    exact ⟨otherKept, signature, nothing⟩
  · rintro ⟨otherKept, signature, nothing⟩
    have bothKept (walked : Side) : (outlook.visits walked).isSkipped (roots walked) = false := by
      cases side <;> cases walked <;> assumption
    -- The pair of a maximal choice that one of the roots is in is that of both.
    obtain ⟨pair, inPairs⟩ : ∃ pair, pair ∈ policy.keptPairing outlook siblings := by
      rw [keptPairing_roots follows prepared bothKept]
      rcases maximal [outlook.keys .first (roots .first)] [outlook.keys .second (roots .second)]
        0 0 _ _ rfl rfl signature with inRows | inColumns
      · obtain ⟨pair, member, _⟩ := List.mem_map.1 inRows
        exact ⟨pair, member⟩
      · obtain ⟨pair, member, _⟩ := List.mem_map.1 inColumns
        exact ⟨pair, member⟩
    exact root_silent_of_pair pairing follows prepared inPairs nothing

theorem root_silent_of_skipped {side : Side}
    (skipped : (outlook.visits side).isSkipped (roots side) = true) :
    sideDifferences policy outlook roots side = [] := by
  rw [sideDifferences, walkSiblings_silent_iff _ _ _ (sideReport_lone_ne_nil outlook.config side)]
  intro index node atIndex
  rw [getElem?_kept_root, skipped] at atIndex
  exact absurd atIndex.2.2 (by simp)

/-- Nothing is reported of the roots as only children if and only if both are skipped,
or they are kept, of equal signature, and nothing is reported of the pair. -/
theorem roots_silent_iff (pairing : choice.IsPairing) (maximal : choice.IsMaximal)
    (follows : policy.Follows choice) (prepared : outlook.Prepared) :
    (∀ side, sideDifferences policy outlook roots side = []) ↔
      (∀ side, (outlook.visits side).isSkipped (roots side) = true) ∨
        (∀ side, (outlook.visits side).isSkipped (roots side) = false) ∧
          (outlook.keys .first (roots .first)).signature =
            (outlook.keys .second (roots .second)).signature ∧
          ∀ side, walk policy outlook side (sideReport outlook.config side) ""
            (roots side) (roots (otherSide side)) = [] := by
  constructor
  · intro silent
    have partner (side : Side) (kept : (outlook.visits side).isSkipped (roots side) = false) :=
      (root_silent_iff pairing maximal follows prepared kept).1 (silent side)
    cases firstSkipped : (outlook.visits .first).isSkipped (roots .first) with
    | true =>
        refine .inl fun side => ?_
        cases side with
        | first => exact firstSkipped
        | second =>
            by_contra keptSecond
            have keptFirst := (partner .second (by simpa using keptSecond)).1
            exact Bool.false_ne_true (keptFirst.symm.trans firstSkipped)
    | false =>
        obtain ⟨secondKept, signature, _⟩ := partner .first firstSkipped
        have kept (side : Side) : (outlook.visits side).isSkipped (roots side) = false := by
          cases side with
          | first => exact firstSkipped
          | second => exact secondKept
        exact .inr ⟨kept, signature, fun side => (partner side (kept side)).2.2⟩
  · rintro (skipped | ⟨kept, signature, nothing⟩) side
    · exact root_silent_of_skipped (skipped side)
    · exact (root_silent_iff pairing maximal follows prepared (kept side)).2
        ⟨kept (otherSide side), signature, nothing side⟩

end XmlCollation.Compare
