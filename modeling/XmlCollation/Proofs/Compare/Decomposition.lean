import XmlCollation.Proofs.Compare.Partners
import Mathlib.Data.List.Perm.Basic
import Mathlib.Data.List.Dedup

/-!
Contract: walks taken apart.

Owns:
- properties of everything that is reported hold of everything that a walk finds;
- a report that is made of two finds what both find, up to order;
- if only pairs are reported, siblings may be walked in the order of the pairing.

Does not own: the reports of a comparison.
-/

namespace XmlCollation.Compare

open XmlCollation.Tree
open XmlCollation.Rules (otherSide)

section Walks

variable {β : Type} {policy : Policy} {outlook : Outlook} {side : Side}
  {report left right : Report β}

/-! ## Everything that is found -/

/-- Whatever holds of all reports holds of all that is found below siblings. -/
theorem forall_mem_walkSiblings_of {property : β → Prop} {above : String}
    {nodes others : List Node}
    (lones : ∀ signature, ∀ entry ∈ report.lone signature, property entry)
    (walks : ∀ node ∈ nodes, ∀ other,
      ∀ entry ∈ walk policy outlook side report above node other, property entry) :
    ∀ entry ∈ walkSiblings policy outlook side report above nodes others, property entry := by
  intro entry found
  rw [walkSiblings_eq, List.mem_flatMap] at found
  obtain ⟨⟨node, index⟩, member, found⟩ := found
  have atIndex := List.mem_zipIdx_iff_getElem?.1 member
  have inNodes : node ∈ nodes := (Visits.mem_kept.1 (List.mem_of_getElem? atIndex)).1
  cases partner : policy.partner? outlook side nodes others index with
  | some other =>
      rw [partner] at found
      exact walks node inNodes other entry found
  | none =>
      rw [partner] at found
      exact lones _ entry found

theorem forall_mem_walk {property : β → Prop}
    (pairs : ∀ signature node other found, report.pair signature node other = some found →
      ∀ entry ∈ found, property entry)
    (lones : ∀ signature, ∀ entry ∈ report.lone signature, property entry)
    (above : String) (node other : Node) :
    ∀ entry ∈ walk policy outlook side report above node other, property entry := by
  induction node using Node.childInduction generalizing other above with
  | step node inductionHypothesis =>
      intro entry found
      rw [walk_eq] at found
      split at found
      · simp at found
      · cases reported : report.pair (above ++ outlook.signature side node) node other with
        | some entries =>
            rw [reported, Option.getD_some] at found
            exact pairs _ node other entries reported entry found
        | none =>
            rw [reported, Option.getD_none] at found
            refine forall_mem_walkSiblings_of lones ?_ entry found
            intro child member partner
            exact inductionHypothesis child member _ partner

theorem forall_mem_walkSiblings {property : β → Prop}
    (pairs : ∀ signature node other found, report.pair signature node other = some found →
      ∀ entry ∈ found, property entry)
    (lones : ∀ signature, ∀ entry ∈ report.lone signature, property entry)
    (above : String) (nodes others : List Node) :
    ∀ entry ∈ walkSiblings policy outlook side report above nodes others, property entry :=
  forall_mem_walkSiblings_of lones fun node _ other => forall_mem_walk pairs lones above node other

/-! ## Reports made of two -/

/-- A report says what two others say together: of siblings without a partner, and of
each pair that not all three pass over.  What is said of a pair is what is found at and
below it, since a report that passes over it goes on below. -/
structure Report.Splits (policy : Policy) (outlook : Outlook) (side : Side)
    (report left right : Report β) : Prop where
  lone : ∀ signature,
    (report.lone signature).Perm (left.lone signature ++ right.lone signature)
  pair : ∀ signature node other,
    (report.pair signature node other = none ∧ left.pair signature node other = none ∧
        right.pair signature node other = none) ∨
      ((report.pair signature node other).getD (walkSiblings policy outlook side report signature
          node.children other.children)).Perm
        ((left.pair signature node other).getD (walkSiblings policy outlook side left signature
            node.children other.children) ++
          (right.pair signature node other).getD (walkSiblings policy outlook side right signature
            node.children other.children))

theorem walkSiblings_splits_of {above : String} {nodes others : List Node}
    (lone : ∀ signature,
      (report.lone signature).Perm (left.lone signature ++ right.lone signature))
    (walks : ∀ node ∈ nodes, ∀ other,
      (walk policy outlook side report above node other).Perm
        (walk policy outlook side left above node other ++
          walk policy outlook side right above node other)) :
    (walkSiblings policy outlook side report above nodes others).Perm
      (walkSiblings policy outlook side left above nodes others ++
        walkSiblings policy outlook side right above nodes others) := by
  rw [walkSiblings_eq, walkSiblings_eq, walkSiblings_eq]
  refine (List.Perm.flatMap_left _ ?_).trans (List.flatMap_append_perm _ _ _).symm
  rintro ⟨node, index⟩ member
  have atIndex := List.mem_zipIdx_iff_getElem?.1 member
  have inNodes : node ∈ nodes := (Visits.mem_kept.1 (List.mem_of_getElem? atIndex)).1
  cases policy.partner? outlook side nodes others index with
  | some other => exact walks node inNodes other
  | none => exact lone _

theorem walk_splits (splits : report.Splits policy outlook side left right) (above : String)
    (node other : Node) :
    (walk policy outlook side report above node other).Perm
      (walk policy outlook side left above node other ++
        walk policy outlook side right above node other) := by
  induction node using Node.childInduction generalizing other above with
  | step node inductionHypothesis =>
      rw [walk_eq, walk_eq, walk_eq]
      cases outlook.sameContent side node other with
      | true =>
          rw [if_pos rfl, if_pos rfl, if_pos rfl, List.append_nil]
      | false =>
          rw [if_neg Bool.false_ne_true, if_neg Bool.false_ne_true, if_neg Bool.false_ne_true]
          rcases splits.pair (above ++ outlook.signature side node) node other with
            ⟨passed, leftPassed, rightPassed⟩ | said
          · rw [passed, leftPassed, rightPassed]
            refine walkSiblings_splits_of splits.lone ?_
            intro child member partner
            exact inductionHypothesis child member _ partner
          · exact said

/-- A report that is made of two finds what both find. -/
theorem walkSiblings_splits (splits : report.Splits policy outlook side left right)
    (above : String) (nodes others : List Node) :
    (walkSiblings policy outlook side report above nodes others).Perm
      (walkSiblings policy outlook side left above nodes others ++
        walkSiblings policy outlook side right above nodes others) :=
  walkSiblings_splits_of splits.lone fun node _ other => walk_splits splits above node other

end Walks

/-! ## The order of the pairing -/

theorem flatMap_perm_of_silent {α β : Type} [DecidableEq α] {some all : List α} {f : α → List β}
    (someOnce : some.Nodup) (allOnce : all.Nodup) (included : some ⊆ all)
    (silent : ∀ a ∈ all, a ∉ some → f a = []) :
    (all.flatMap f).Perm (some.flatMap f) := by
  have chosen : (all.filter fun a => decide (a ∈ some)).Perm some := by
    refine (List.perm_ext_iff_of_nodup (allOnce.filter _) someOnce).2 fun a => ?_
    rw [List.mem_filter, decide_eq_true_iff]
    exact ⟨fun member => member.2, fun member => ⟨included member, member⟩⟩
  have rest : (all.filter fun a => !decide (a ∈ some)).flatMap f = [] := by
    refine List.flatMap_eq_nil_iff.2 fun a member => ?_
    rw [List.mem_filter, Bool.not_eq_true', decide_eq_false_iff_not] at member
    exact silent a member.1 member.2
  have parted := ((List.filter_append_perm (fun a => decide (a ∈ some)) all).symm.trans
    (chosen.append_right _)).flatMap_right f
  rwa [List.flatMap_append, rest, List.append_nil] at parted

section Paired

variable {β : Type} {policy : Policy} {choice : Choice} {outlook : Outlook} {side : Side}
  {report : Report β}

/-- What a walk finds at and below the kept sibling at an index. -/
def walkAt (policy : Policy) (outlook : Outlook) (side : Side) (report : Report β)
    (above : String) (nodes others : List Node) (index : Nat) : List β :=
  match (outlook.kept side nodes)[index]? with
  | some node =>
      walkSibling policy outlook side report above node
        (policy.partner? outlook side nodes others index)
  | none => []

theorem walkSiblings_eq_range (above : String) (nodes others : List Node) :
    walkSiblings policy outlook side report above nodes others =
      (List.range (outlook.kept side nodes).length).flatMap
        (walkAt policy outlook side report above nodes others) := by
  rw [walkSiblings_eq, List.range_eq_range', ← List.zipIdx_map_snd 0 (outlook.kept side nodes),
    List.flatMap_map]
  refine List.flatMap_congr ?_
  rintro ⟨node, index⟩ member
  rw [walkAt, List.mem_zipIdx_iff_getElem?.1 member]

theorem walkAt_of_pair (pairing : choice.IsPairing) (follows : policy.Follows choice)
    (prepared : outlook.Prepared) {nodes : Side → List Node} {pair : Nat × Nat}
    (member : pair ∈ policy.keptPairing outlook nodes) {pairNodes : Side → Node}
    (atPair : ∀ walked,
      (outlook.kept walked (nodes walked))[pairIndex pair walked]? = some (pairNodes walked))
    (above : String) :
    walkAt policy outlook side report above (nodes side) (nodes (otherSide side))
        (pairIndex pair side) =
      walk policy outlook side report above (pairNodes side) (pairNodes (otherSide side)) := by
  have once := keptPairing_nodup pairing follows prepared nodes side
  rw [walkAt, atPair side, partner_of_pair once member (atPair (otherSide side))]
  rfl

variable (side) in
/-- If nothing is reported of siblings without a partner, pairs may be walked in the
order of the pairing, which is the same for both sides. -/
theorem walkSiblings_perm_pairs (pairing : choice.IsPairing) (follows : policy.Follows choice)
    (prepared : outlook.Prepared) (quiet : ∀ signature, report.lone signature = [])
    (nodes : Side → List Node) (above : String) :
    (walkSiblings policy outlook side report above (nodes side) (nodes (otherSide side))).Perm
      ((policy.keptPairing outlook nodes).flatMap fun pair =>
        walkAt policy outlook side report above (nodes side) (nodes (otherSide side))
          (pairIndex pair side)) := by
  have inRange (pair : Nat × Nat) (member : pair ∈ policy.keptPairing outlook nodes)
      (walked : Side) :
      ∃ node, (outlook.kept walked (nodes walked))[pairIndex pair walked]? = some node := by
    obtain ⟨pairNodes, atPair, _⟩ := exists_nodes_of_pair pairing follows prepared member
    exact ⟨pairNodes walked, atPair walked⟩
  have byIndex : ((policy.keptPairing outlook nodes).flatMap fun pair =>
      walkAt policy outlook side report above (nodes side) (nodes (otherSide side))
        (pairIndex pair side)) =
      ((policy.keptPairing outlook nodes).map fun pair => pairIndex pair side).flatMap
        (walkAt policy outlook side report above (nodes side) (nodes (otherSide side))) :=
    (List.flatMap_map _ _ _).symm
  rw [walkSiblings_eq_range, byIndex]
  refine flatMap_perm_of_silent (keptPairing_nodup pairing follows prepared nodes side)
    List.nodup_range ?_ ?_
  · intro index member
    obtain ⟨pair, inPairing, rfl⟩ := List.mem_map.1 member
    obtain ⟨node, atIndex⟩ := inRange pair inPairing side
    exact List.mem_range.2 (List.getElem?_eq_some_iff.1 atIndex).1
  · intro index _ unpaired
    rw [walkAt]
    split
    · cases partner : policy.partner? outlook side (nodes side) (nodes (otherSide side)) index with
      | some other =>
          obtain ⟨pair, inPairing, sameIndex, _⟩ := exists_pair_of_partner partner
          exact absurd (List.mem_map.2 ⟨pair, inPairing, sameIndex⟩) unpaired
      | none => exact quiet _
    · rfl

end Paired

end XmlCollation.Compare
