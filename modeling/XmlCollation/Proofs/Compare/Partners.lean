import XmlCollation.Proofs.Compare.Stateless

/-!
Contract: partners among siblings.

Owns:
- the pairs of kept siblings, seen from either side;
- partners as the other nodes of pairs, and siblings that are in no pair;
- what the laws of a choice say of the pairs: both nodes are there, their
  signatures have one key, and no node is in two pairs.

Does not own: which pairs a policy prefers.
-/

namespace XmlCollation.Compare

open XmlCollation.Tree
open XmlCollation.Rules (otherSide)

/-! ## Pairs of indexes -/

/-- The index of a side. -/
def pairIndex (pair : Nat × Nat) : Side → Nat :=
  bySide pair.1 pair.2

theorem pairsFrom_eq (policy : Policy) (outlook : Outlook) (nodes : Side → List Node)
    (side : Side) :
    policy.pairsFrom outlook side (nodes side) (nodes (otherSide side)) =
      (policy.pairing outlook (nodes .first) (nodes .second)).map fun pair =>
        (pairIndex pair side, pairIndex pair (otherSide side)) := by
  cases side with
  | first => exact (List.map_id _).symm
  | second => rfl

theorem mem_of_lookup {entries : List (Nat × Nat)} {key value : Nat}
    (found : entries.lookup key = some value) : (key, value) ∈ entries := by
  induction entries with
  | nil => simp at found
  | cons entry rest inductionHypothesis =>
      obtain ⟨head, stored⟩ := entry
      rw [List.lookup_cons] at found
      by_cases same : key = head
      · subst same
        simp at found
        simp [found]
      · have unequal : (key == head) = false := by simpa using same
        simp only [unequal] at found
        exact List.mem_cons_of_mem _ (inductionHypothesis found)

theorem lookup_ne_none {entries : List (Nat × Nat)} {key value : Nat}
    (member : (key, value) ∈ entries) : entries.lookup key ≠ none := by
  induction entries with
  | nil => simp at member
  | cons entry rest inductionHypothesis =>
      obtain ⟨head, stored⟩ := entry
      rw [List.lookup_cons]
      by_cases same : key = head
      · simp [same]
      · have unequal : (key == head) = false := by simpa using same
        simp only [unequal]
        rcases List.mem_cons.1 member with isHead | inRest
        · cases isHead
          exact absurd rfl same
        · exact inductionHypothesis inRest

theorem lookup_of_mem {entries : List (Nat × Nat)} (once : (entries.map Prod.fst).Nodup)
    {key value : Nat} (member : (key, value) ∈ entries) :
    entries.lookup key = some value := by
  cases found : entries.lookup key with
  | none => exact absurd found (lookup_ne_none member)
  | some other =>
      have same : (key, other) = (key, value) :=
        List.inj_on_of_nodup_map once (mem_of_lookup found) member rfl
      rw [(Prod.mk.inj same).2]

section Partners

variable {policy : Policy} {outlook : Outlook} {nodes : Side → List Node}

/-- The pairing of the kept ones among siblings. -/
def Policy.keptPairing (policy : Policy) (outlook : Outlook) (nodes : Side → List Node) :
    List (Nat × Nat) :=
  policy.pairing outlook (outlook.kept .first (nodes .first)) (outlook.kept .second (nodes .second))

theorem partner?_eq (side : Side) (index : Nat) :
    policy.partner? outlook side (nodes side) (nodes (otherSide side)) index =
      (((policy.keptPairing outlook nodes).map fun pair =>
        (pairIndex pair side, pairIndex pair (otherSide side))).lookup index).bind
          fun other => (outlook.kept (otherSide side) (nodes (otherSide side)))[other]? := by
  rw [Policy.partner?, Policy.keptPairing,
    ← pairsFrom_eq policy outlook (fun walked => outlook.kept walked (nodes walked)) side]

/-- A partner is the other node of a pair. -/
theorem exists_pair_of_partner {side : Side} {index : Nat} {other : Node}
    (partner : policy.partner? outlook side (nodes side) (nodes (otherSide side)) index =
      some other) :
    ∃ pair ∈ policy.keptPairing outlook nodes, pairIndex pair side = index ∧
      (outlook.kept (otherSide side) (nodes (otherSide side)))[pairIndex pair (otherSide side)]? =
        some other := by
  rw [partner?_eq, Option.bind_eq_some_iff] at partner
  obtain ⟨otherIndex, found, atOther⟩ := partner
  obtain ⟨pair, member, same⟩ := List.mem_map.1 (mem_of_lookup found)
  cases same
  exact ⟨pair, member, rfl, atOther⟩

/-- The other node of a pair is the partner, if no node is in two pairs. -/
theorem partner_of_pair {side : Side}
    (once : ((policy.keptPairing outlook nodes).map fun pair => pairIndex pair side).Nodup)
    {pair : Nat × Nat} (member : pair ∈ policy.keptPairing outlook nodes) {other : Node}
    (atOther : (outlook.kept (otherSide side) (nodes (otherSide side)))[pairIndex pair
      (otherSide side)]? = some other) :
    policy.partner? outlook side (nodes side) (nodes (otherSide side)) (pairIndex pair side) =
      some other := by
  have entry := List.mem_map_of_mem (f := fun pair : Nat × Nat =>
    (pairIndex pair side, pairIndex pair (otherSide side))) member
  rw [partner?_eq, lookup_of_mem (by rw [List.map_map]; exact once) entry, Option.bind_some]
  exact atOther

theorem pairIndex_ne_of_no_partner {side : Side} {index : Nat}
    (inRange : ∀ pair ∈ policy.keptPairing outlook nodes, ∀ walked,
      ∃ node, (outlook.kept walked (nodes walked))[pairIndex pair walked]? = some node)
    (nobody : policy.partner? outlook side (nodes side) (nodes (otherSide side)) index = none) :
    ∀ pair ∈ policy.keptPairing outlook nodes, pairIndex pair side ≠ index := by
  rintro pair member rfl
  have entry := List.mem_map_of_mem (f := fun pair : Nat × Nat =>
    (pairIndex pair side, pairIndex pair (otherSide side))) member
  rw [partner?_eq] at nobody
  cases found : ((policy.keptPairing outlook nodes).map fun pair =>
      (pairIndex pair side, pairIndex pair (otherSide side))).lookup (pairIndex pair side) with
  | none => exact lookup_ne_none entry found
  | some otherIndex =>
      obtain ⟨other, otherMember, same⟩ := List.mem_map.1 (mem_of_lookup found)
      obtain ⟨node, atIndex⟩ := inRange other otherMember (otherSide side)
      have sameIndex : pairIndex other (otherSide side) = otherIndex := congrArg Prod.snd same
      rw [found, Option.bind_some, ← sameIndex, atIndex] at nobody
      cases nobody

end Partners

/-! ## Choices -/

/-- The records of both sides are those of trees that were not matched yet. -/
def Outlook.Prepared (outlook : Outlook) : Prop :=
  ∀ side, (outlook.visits side).Prepared

section Pairing

variable {policy : Policy} {choice : Choice} {outlook : Outlook}

theorem keptPairing_eq (follows : policy.Follows choice) (prepared : outlook.Prepared)
    (nodes : Side → List Node) :
    policy.keptPairing outlook nodes =
      choice ((outlook.kept .first (nodes .first)).map (outlook.keys .first))
        ((outlook.kept .second (nodes .second)).map (outlook.keys .second)) := by
  refine follows.pairing_eq (prepared .first) (prepared .second) ?_ ?_
  · intro node member
    exact (Visits.mem_kept.1 member).2
  · intro node member
    exact (Visits.mem_kept.1 member).2

/-- Whoever is paired is there, and has the signature of its partner. -/
theorem exists_nodes_of_pair (pairing : choice.IsPairing) (follows : policy.Follows choice)
    (prepared : outlook.Prepared) {nodes : Side → List Node} {pair : Nat × Nat}
    (member : pair ∈ policy.keptPairing outlook nodes) :
    ∃ pairNodes : Side → Node,
      (∀ side, (outlook.kept side (nodes side))[pairIndex pair side]? = some (pairNodes side)) ∧
        (outlook.keys .first (pairNodes .first)).signature =
          (outlook.keys .second (pairNodes .second)).signature := by
  rw [keptPairing_eq follows prepared] at member
  obtain ⟨row, column, atRow, atColumn, sameSignature⟩ := pairing.sameSignature _ _ pair member
  rw [List.getElem?_map, Option.map_eq_some_iff] at atRow atColumn
  obtain ⟨first, atFirst, rfl⟩ := atRow
  obtain ⟨second, atSecond, rfl⟩ := atColumn
  refine ⟨bySide first second, ?_, sameSignature⟩
  intro side
  cases side with
  | first => exact atFirst
  | second => exact atSecond

theorem keptPairing_nodup (pairing : choice.IsPairing) (follows : policy.Follows choice)
    (prepared : outlook.Prepared) (nodes : Side → List Node) (side : Side) :
    ((policy.keptPairing outlook nodes).map fun pair => pairIndex pair side).Nodup := by
  rw [keptPairing_eq follows prepared]
  cases side with
  | first => exact pairing.rows_nodup _ _
  | second => exact pairing.columns_nodup _ _

end Pairing

end XmlCollation.Compare
