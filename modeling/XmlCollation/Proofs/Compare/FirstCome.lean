import Mathlib.Algebra.BigOperators.Group.Finset.Basic
import XmlCollation.Proofs.Compare.Ranks

/-!
Contract: the pairs of the greedy policy, whatever was visited before.

Owns:
- the unvisited siblings of a signature key, in document order;
- pairings by rank, which join the first with the first, the second with the second and so on
  among the siblings of each key, in the document order of the rows;
- the number of pairs of such a pairing, and its inverse;
- the greedy policy pairs by rank.

Does not own: what becomes of the pairs.
-/

namespace XmlCollation.Compare

open XmlCollation.Tree
open scoped BigOperators

/-! ## Unvisited siblings of a key -/

/-- The indexes of the unvisited ones among places that have a signature key, in document
order. -/
def Outlook.unvisitedOfKey (outlook : Outlook) (side : Side) (key : String)
    (places : List Place) : List Nat :=
  (places.zipIdx.filter fun entry => (outlook.visits side).isUnvisited entry.1.node &&
    (outlook.keys side entry.1.node).signature == key).map Prod.snd

/-- The signature keys of the unvisited ones among places. -/
def Outlook.unvisitedSignatures (outlook : Outlook) (side : Side) (places : List Place) :
    Finset String :=
  ((places.filter fun place => (outlook.visits side).isUnvisited place.node).map fun place =>
    (outlook.keys side place.node).signature).toFinset

/-- The documents exchanged. -/
def Outlook.exchange (outlook : Outlook) : Outlook :=
  ⟨outlook.config, outlook.second, outlook.first⟩

section Unvisited

variable {outlook : Outlook} {side : Side} {key : String} {places : List Place} {index : Nat}

theorem mem_unvisitedOfKey : index ∈ outlook.unvisitedOfKey side key places ↔
    ∃ place, places[index]? = some place ∧
      (outlook.visits side).isUnvisited place.node = true ∧
        (outlook.keys side place.node).signature = key := by
  simp only [Outlook.unvisitedOfKey, List.mem_map, List.mem_filter, Bool.and_eq_true, beq_iff_eq]
  constructor
  · rintro ⟨⟨place, _⟩, ⟨inPlaces, isUnvisited, sameKey⟩, rfl⟩
    exact ⟨place, List.mem_zipIdx_iff_getElem?.1 inPlaces, isUnvisited, sameKey⟩
  · rintro ⟨place, atIndex, isUnvisited, sameKey⟩
    exact ⟨(place, index), ⟨List.mem_zipIdx_iff_getElem?.2 atIndex, isUnvisited, sameKey⟩, rfl⟩

/-- A sibling has one key. -/
theorem key_unique {key' : String} (member : index ∈ outlook.unvisitedOfKey side key places)
    (member' : index ∈ outlook.unvisitedOfKey side key' places) : key = key' := by
  obtain ⟨place, atIndex, _, rfl⟩ := mem_unvisitedOfKey.1 member
  obtain ⟨place', atIndex', _, rfl⟩ := mem_unvisitedOfKey.1 member'
  rw [Option.some.inj (atIndex.symm.trans atIndex')]

theorem mem_unvisitedSignatures (member : index ∈ outlook.unvisitedOfKey side key places) :
    key ∈ outlook.unvisitedSignatures side places := by
  obtain ⟨place, atIndex, isUnvisited, rfl⟩ := mem_unvisitedOfKey.1 member
  refine List.mem_toFinset.2 (List.mem_map.2 ⟨place, List.mem_filter.2 ⟨?_, isUnvisited⟩, rfl⟩)
  exact List.mem_of_getElem? atIndex

theorem zipIdx_indexes_ascend (places : List Place) :
    (places.zipIdx.map Prod.snd).Pairwise (· < ·) := by
  rw [List.zipIdx_map_snd]
  exact List.pairwise_lt_range'

theorem unvisitedOfKey_nodup (outlook : Outlook) (side : Side) (key : String)
    (places : List Place) : (outlook.unvisitedOfKey side key places).Nodup :=
  ((zipIdx_indexes_ascend places).sublist (List.filter_sublist.map Prod.snd)).nodup

/-- The unvisited ones are those of all siblings that are left over, with their indexes. -/
theorem unvisitedFrom_eq (visits : Visits) (index : Nat) (places : List Place) :
    unvisitedFrom visits index places =
      ((places.zipIdx index).filter fun entry => visits.isUnvisited entry.1.node).map
        Prod.swap := by
  induction places generalizing index with
  | nil => rfl
  | cons place rest inductionHypothesis =>
      rw [unvisitedFrom, List.zipIdx_cons, List.filter_cons, inductionHypothesis]
      split <;> rfl

theorem indexesOf_signatureKeys (outlook : Outlook) (side : Side) (key : String)
    (places : List Place) :
    indexesOf key (signatureKeys (outlook.visits side) outlook.config
        (unvisited (outlook.visits side) places)) =
      outlook.unvisitedOfKey side key places := by
  rw [indexesOf, signatureKeys, unvisited, unvisitedFrom_eq, List.map_map, List.filter_map,
    List.map_map, List.filter_filter, Outlook.unvisitedOfKey]
  refine congrArg₂ List.map rfl (List.filter_congr fun entry _ => ?_)
  exact Bool.and_comm _ _

end Unvisited

/-! ## Pairing by rank -/

/-- The siblings of one key are paired by rank, for each key, and the pairs are listed in the
document order of the rows. -/
structure PairsByRank (outlook : Outlook) (left right : List Place) (pairs : List (Nat × Nat)) :
    Prop where
  mem_iff : ∀ pair, pair ∈ pairs ↔ ∃ (key : String) (rank : Nat),
    (outlook.unvisitedOfKey .first key left)[rank]? = some pair.1 ∧
      (outlook.unvisitedOfKey .second key right)[rank]? = some pair.2
  inOrder : (pairs.map Prod.fst).Pairwise (· < ·)

/-- Pairs of entries of two lists are different if the first entries are. -/
theorem nodup_zip {α β : Type} {xs : List α} (ys : List β) (distinct : xs.Nodup) :
    (xs.zip ys).Nodup := by
  refine List.Nodup.of_map Prod.fst ?_
  rw [List.zip_eq_zip_take_min, List.map_fst_zip (by simp)]
  exact distinct.sublist (List.take_sublist _ _)

namespace PairsByRank

variable {outlook : Outlook} {left right : List Place} {pairs : List (Nat × Nat)}

theorem nodup (byRank : PairsByRank outlook left right pairs) : pairs.Nodup :=
  List.Nodup.of_map Prod.fst byRank.inOrder.nodup

/-- Key by key, the pairs are those of the first rows and columns. -/
theorem perm_flatMap_zip (byRank : PairsByRank outlook left right pairs) {keys : List String}
    (once : keys.Nodup) (all : ∀ key ∈ outlook.unvisitedSignatures .first left, key ∈ keys) :
    pairs.Perm (keys.flatMap fun key =>
      (outlook.unvisitedOfKey .first key left).zip (outlook.unvisitedOfKey .second key right)) := by
  have zipped (key : String) (pair : Nat × Nat) :
      pair ∈ (outlook.unvisitedOfKey .first key left).zip
          (outlook.unvisitedOfKey .second key right) ↔
        ∃ rank : Nat, (outlook.unvisitedOfKey .first key left)[rank]? = some pair.1 ∧
          (outlook.unvisitedOfKey .second key right)[rank]? = some pair.2 := by
    simp only [List.mem_iff_getElem?, List.getElem?_zip_eq_some]
  have keyOf {key : String} {pair : Nat × Nat}
      (member : pair ∈ (outlook.unvisitedOfKey .first key left).zip
        (outlook.unvisitedOfKey .second key right)) :
      pair.1 ∈ outlook.unvisitedOfKey .first key left := by
    obtain ⟨rank, atRow, _⟩ := (zipped key pair).1 member
    exact List.mem_of_getElem? atRow
  have distinct : (keys.flatMap fun key => (outlook.unvisitedOfKey .first key left).zip
      (outlook.unvisitedOfKey .second key right)).Nodup := by
    refine List.nodup_flatMap.2 ⟨fun key _ => nodup_zip _ (unvisitedOfKey_nodup _ _ _ _), ?_⟩
    refine List.Pairwise.imp (fun different pair inFirst inSecond => different ?_) once
    exact key_unique (keyOf inFirst) (keyOf inSecond)
  refine (List.perm_ext_iff_of_nodup byRank.nodup distinct).2 fun pair => ?_
  rw [byRank.mem_iff, List.mem_flatMap]
  constructor
  · rintro ⟨key, rank, atRow, atColumn⟩
    have inKeys := all key (mem_unvisitedSignatures (List.mem_of_getElem? atRow))
    exact ⟨key, inKeys, (zipped key pair).2 ⟨rank, atRow, atColumn⟩⟩
  · rintro ⟨key, _, member⟩
    obtain ⟨rank, both⟩ := (zipped key pair).1 member
    exact ⟨key, rank, both⟩

/-- Of each key, there are as many pairs as the side with fewer siblings allows. -/
theorem length_eq (byRank : PairsByRank outlook left right pairs) :
    pairs.length =
      ∑ key ∈ outlook.unvisitedSignatures .first left ∪ outlook.unvisitedSignatures .second right,
        min (outlook.unvisitedOfKey .first key left).length
          (outlook.unvisitedOfKey .second key right).length := by
  have all : ∀ key ∈ outlook.unvisitedSignatures .first left,
      key ∈ (outlook.unvisitedSignatures .first left ∪
        outlook.unvisitedSignatures .second right).toList :=
    fun key member => Finset.mem_toList.2 (Finset.mem_union_left _ member)
  rw [(byRank.perm_flatMap_zip (Finset.nodup_toList _) all).length_eq, List.length_flatMap,
    ← Finset.sum_map_toList]
  simp only [List.length_zip]

/-- Exchanged documents are paired the other way round. -/
theorem perm_swapped (byRank : PairsByRank outlook left right pairs)
    {exchanged : List (Nat × Nat)}
    (exchangedByRank : PairsByRank outlook.exchange right left exchanged) :
    exchanged.Perm (pairs.map Prod.swap) := by
  have swappedNodup : (pairs.map Prod.swap).Nodup := byRank.nodup.map Prod.swap_injective
  refine (List.perm_ext_iff_of_nodup exchangedByRank.nodup swappedNodup).2 fun pair => ?_
  rw [List.mem_map_swap pair.2 pair.1 pairs, byRank.mem_iff, exchangedByRank.mem_iff]
  exact exists_congr fun key => exists_congr fun rank => and_comm

end PairsByRank

/-! ## First come, first served -/

theorem greedy_pairsByRank (outlook : Outlook) (left right : List Place) (caches : Caches) :
    PairsByRank outlook left right (Policy.greedy.pair outlook left right caches).1 := by
  have pairs_eq : (Policy.greedy.pair outlook left right caches).1 =
      takeFirst
        (signatureKeys (outlook.visits .first) outlook.config
          (unvisited (outlook.visits .first) left))
        (signatureKeys (outlook.visits .second) outlook.config
          (unvisited (outlook.visits .second) right)) := rfl
  have rows_eq : (signatureKeys (outlook.visits .first) outlook.config
      (unvisited (outlook.visits .first) left)).map Prod.fst =
        (left.zipIdx.filter fun entry => (outlook.visits .first).isUnvisited entry.1.node).map
          Prod.snd := by
    rw [signatureKeys, unvisited, unvisitedFrom_eq, List.map_map, List.map_map]
    rfl
  refine ⟨fun pair => ?_, ?_⟩
  · rw [pairs_eq, mem_takeFirst_iff]
    simp only [indexesOf_signatureKeys]
  · rw [pairs_eq]
    refine List.Pairwise.sublist (takeFirst_rows_sublist _ _) ?_
    rw [rows_eq]
    exact (zipIdx_indexes_ascend left).sublist (List.filter_sublist.map Prod.snd)

/-- Whatever was visited before, the greedy policy pairs the unvisited siblings of each signature
key by rank and makes no other pairs; it lists them in the document order of the first siblings.
Of each key there are as many pairs as the side with fewer siblings allows, and with the sides
exchanged each pair is turned around. -/
theorem greedy_pairs_by_rank (outlook : Outlook) (left right : List Place)
    (caches caches' : Caches) :
    PairsByRank outlook left right (Policy.greedy.pair outlook left right caches).1 ∧
      (Policy.greedy.pair outlook left right caches).1.length =
        ∑ key ∈ outlook.unvisitedSignatures .first left ∪
            outlook.unvisitedSignatures .second right,
          min (outlook.unvisitedOfKey .first key left).length
            (outlook.unvisitedOfKey .second key right).length ∧
      (Policy.greedy.pair outlook.exchange right left caches').1.Perm
        ((Policy.greedy.pair outlook left right caches).1.map Prod.swap) := by
  have byRank := greedy_pairsByRank outlook left right caches
  exact ⟨byRank, byRank.length_eq,
    byRank.perm_swapped (greedy_pairsByRank outlook.exchange right left caches')⟩

end XmlCollation.Compare
