import XmlCollation.Proofs.Compare.LeastCost
import XmlCollation.Proofs.Compare.Partners

/-!
Contract: what every policy owes to a comparison.

Owns:
- lawful policies: they pair unvisited siblings of equal signature keys, none of them
  twice, and leave sound caches sound;
- policies that follow a pairing choice are lawful, and so are the policies that are
  offered.

Does not own: which of the lawful pairings is a good one.
-/

namespace XmlCollation.Compare

open XmlCollation.Tree

/-- Places of both trees, and caches that are sound for them. -/
structure Outlook.Surveys (outlook : Outlook) (firstRoot secondRoot : Node)
    (left right : List Place) (caches : Caches) : Prop where
  leftIn : Place.AreIn left firstRoot
  rightIn : Place.AreIn right secondRoot
  sound : caches.Sound outlook firstRoot secondRoot

/-- Two places that may be paired: both are unvisited, and their signatures have one key. -/
structure Outlook.MayPair (outlook : Outlook) (first second : Place) : Prop where
  firstUnvisited : outlook.first.isUnvisited first.node = true
  secondUnvisited : outlook.second.isUnvisited second.node = true
  signature : outlook.first.signatureKey outlook.config first.node =
    outlook.second.signatureKey outlook.config second.node

/-- A policy that pairs unvisited siblings of equal signature keys, none of them twice. It
leaves sound caches sound, as it does if it only reads contents through them. -/
structure Policy.IsLawful (policy : Policy) : Prop where
  valid : ∀ {outlook : Outlook} {firstRoot secondRoot : Node} {left right : List Place}
    {caches : Caches}, outlook.Surveys firstRoot secondRoot left right caches →
      ∀ pair ∈ (policy.pair outlook left right caches).1, ∃ first second,
        left[pair.1]? = some first ∧ right[pair.2]? = some second ∧ outlook.MayPair first second
  once : ∀ {outlook : Outlook} {firstRoot secondRoot : Node} {left right : List Place}
    {caches : Caches}, outlook.Surveys firstRoot secondRoot left right caches →
      ∀ side, ((policy.pair outlook left right caches).1.map fun pair => pairIndex pair side).Nodup
  sound : ∀ {outlook : Outlook} {firstRoot secondRoot : Node} {left right : List Place}
    {caches : Caches}, outlook.Surveys firstRoot secondRoot left right caches →
      (policy.pair outlook left right caches).2.Sound outlook firstRoot secondRoot

/-! ## Unvisited siblings -/

section Unvisited

variable {visits : Visits} {places : List Place}

theorem isUnvisited_of_mem_unvisitedFrom {index : Nat} {entry : Nat × Place}
    (member : entry ∈ unvisitedFrom visits index places) :
    visits.isUnvisited entry.2.node = true := by
  induction places generalizing index with
  | nil => simp [unvisitedFrom] at member
  | cons place rest inductionHypothesis =>
      rw [unvisitedFrom] at member
      split at member
      · rename_i unvisited
        rcases List.mem_cons.1 member with rfl | inRest
        · exact unvisited
        · exact inductionHypothesis inRest
      · exact inductionHypothesis member

theorem unvisitedFrom_indexes_nodup (visits : Visits) (index : Nat) (places : List Place) :
    ((unvisitedFrom visits index places).map Prod.fst).Nodup := by
  induction places generalizing index with
  | nil => exact .nil
  | cons place rest inductionHypothesis =>
      rw [unvisitedFrom]
      split
      · refine List.nodup_cons.2 ⟨?_, inductionHypothesis (index + 1)⟩
        intro again
        obtain ⟨entry, member, same⟩ := List.mem_map.1 again
        have later := (getElem?_of_mem_unvisitedFrom member).1
        omega
      · exact inductionHypothesis (index + 1)

/-- An index among the unvisited siblings stands for the sibling that is there. -/
theorem getElem?_siblingIndex {index : Nat} {entry : Nat × Place}
    (atIndex : (unvisited visits places)[index]? = some entry) :
    places[siblingIndex (unvisited visits places) index]? = some entry.2 := by
  rw [siblingIndex_eq atIndex]
  exact getElem?_of_mem_unvisited (List.mem_of_getElem? atIndex)

/-- Different unvisited siblings have different indexes. -/
theorem siblingIndex_nodup {indexes : List Nat} (distinct : indexes.Nodup)
    (inRange : ∀ index ∈ indexes, ∃ entry, (unvisited visits places)[index]? = some entry) :
    (indexes.map (siblingIndex (unvisited visits places))).Nodup := by
  refine List.Nodup.map_on ?_ distinct
  intro index member other otherMember same
  obtain ⟨entry, atIndex⟩ := inRange index member
  obtain ⟨otherEntry, atOther⟩ := inRange other otherMember
  rw [siblingIndex_eq atIndex, siblingIndex_eq atOther] at same
  have indexesOnce : ((unvisited visits places).map Prod.fst).Nodup :=
    unvisitedFrom_indexes_nodup visits 0 places
  have sameEntry : entry = otherEntry := List.inj_on_of_nodup_map indexesOnce
    (List.mem_of_getElem? atIndex) (List.mem_of_getElem? atOther) same
  obtain ⟨bound, entry_eq⟩ := List.getElem?_eq_some_iff.1 atIndex
  obtain ⟨otherBound, otherEntry_eq⟩ := List.getElem?_eq_some_iff.1 atOther
  apply (List.Nodup.of_map Prod.fst indexesOnce).getElem_inj_iff.1
  exact entry_eq.trans (sameEntry.trans otherEntry_eq.symm)

end Unvisited

/-! ## Lawful policies -/

section Follows

variable {policy : Policy} {choice : Choice}

/-- A pair of a choice is one of unvisited siblings with equal signature keys. -/
theorem exists_unvisited_of_mem_choice (pairing : choice.IsPairing) (outlook : Outlook)
    (left right : List Place) {pair : Nat × Nat}
    (member : pair ∈ choice (outlook.unvisitedKeys .first left)
      (outlook.unvisitedKeys .second right)) :
    ∃ first second, (unvisited outlook.first left)[pair.1]? = some first ∧
      (unvisited outlook.second right)[pair.2]? = some second ∧
      outlook.MayPair first.2 second.2 := by
  obtain ⟨row, column, atRow, atColumn, sameSignature⟩ := pairing.sameSignature _ _ pair member
  rw [Outlook.unvisitedKeys, List.getElem?_map, Option.map_eq_some_iff] at atRow atColumn
  obtain ⟨first, atFirst, rfl⟩ := atRow
  obtain ⟨second, atSecond, rfl⟩ := atColumn
  exact ⟨first, second, atFirst, atSecond,
    isUnvisited_of_mem_unvisitedFrom (List.mem_of_getElem? atFirst),
    isUnvisited_of_mem_unvisitedFrom (List.mem_of_getElem? atSecond), sameSignature⟩

theorem Policy.Follows.isLawful (follows : policy.Follows choice) (pairing : choice.IsPairing) :
    policy.IsLawful where
  valid := by
    intro outlook firstRoot secondRoot left right caches surveys pair member
    rw [(follows.pair_eq outlook _ _ left right caches surveys.leftIn surveys.rightIn
      surveys.sound).1] at member
    obtain ⟨chosen, chosenMember, rfl⟩ := List.mem_map.1 member
    obtain ⟨first, second, atFirst, atSecond, mayPair⟩ :=
      exists_unvisited_of_mem_choice pairing outlook left right chosenMember
    exact ⟨first.2, second.2, getElem?_siblingIndex atFirst, getElem?_siblingIndex atSecond,
      mayPair⟩
  once := by
    intro outlook firstRoot secondRoot left right caches surveys side
    rw [(follows.pair_eq outlook _ _ left right caches surveys.leftIn surveys.rightIn
      surveys.sound).1, List.map_map]
    cases side with
    | first =>
        have rows := @siblingIndex_nodup outlook.first left _
          (pairing.rows_nodup (outlook.unvisitedKeys .first left)
            (outlook.unvisitedKeys .second right)) (by
            intro index member
            obtain ⟨pair, inChoice, rfl⟩ := List.mem_map.1 member
            obtain ⟨first, _, atFirst, _⟩ :=
              exists_unvisited_of_mem_choice pairing outlook left right inChoice
            exact ⟨first, atFirst⟩)
        rwa [List.map_map] at rows
    | second =>
        have columns := @siblingIndex_nodup outlook.second right _
          (pairing.columns_nodup (outlook.unvisitedKeys .first left)
            (outlook.unvisitedKeys .second right)) (by
            intro index member
            obtain ⟨pair, inChoice, rfl⟩ := List.mem_map.1 member
            obtain ⟨_, second, _, atSecond, _⟩ :=
              exists_unvisited_of_mem_choice pairing outlook left right inChoice
            exact ⟨second, atSecond⟩)
        rwa [List.map_map] at columns
  sound := by
    intro outlook firstRoot secondRoot left right caches surveys
    exact (follows.pair_eq outlook _ _ left right caches surveys.leftIn surveys.rightIn
      surveys.sound).2

theorem Policy.Offered.isLawful (offered : policy.Offered) : policy.IsLawful := by
  obtain ⟨choice, pairing, follows⟩ := offered.choice
  exact follows.isLawful pairing

end Follows

end XmlCollation.Compare
