import XmlCollation.Proofs.Compare.Partners

/-!
Contract: the greedy pairing by rank.

Owns:
- the siblings of one signature key in document order, and their ranks;
- the greedy pairing joins the siblings of equal key and equal rank;
- walks over greedily paired siblings that report nothing.

Does not own: what a walk reports of a pair.
-/

namespace XmlCollation.Compare

open XmlCollation.Tree
open XmlCollation.Rules (otherSide)

/-! ## Taking the first free candidate -/

/-- The indexes of the entries with a key, in order. -/
def indexesOf (key : String) (entries : List (Nat × String)) : List Nat :=
  (entries.filter fun entry => entry.2 == key).map Prod.fst

theorem indexesOf_cons_same (index : Nat) (key : String) (rest : List (Nat × String)) :
    indexesOf key ((index, key) :: rest) = index :: indexesOf key rest := by
  simp [indexesOf]

theorem indexesOf_cons_other {key other : String} (different : other ≠ key) (index : Nat)
    (rest : List (Nat × String)) :
    indexesOf key ((index, other) :: rest) = indexesOf key rest := by
  simp [indexesOf, different]

theorem indexesOf_append (key : String) (left right : List (Nat × String)) :
    indexesOf key (left ++ right) = indexesOf key left ++ indexesOf key right := by
  simp [indexesOf]

theorem indexesOf_eq_nil {key : String} {entries : List (Nat × String)}
    (none : ∀ entry ∈ entries, entry.2 ≠ key) : indexesOf key entries = [] := by
  simpa [indexesOf] using none

/-- Candidates are taken by rank: the first one by the first entry with its key, the
second one by the second, and so on. -/
theorem mem_takeFirst_iff {rows columns : List (Nat × String)} {pair : Nat × Nat} :
    pair ∈ takeFirst rows columns ↔
      ∃ (key : String) (rank : Nat), (indexesOf key rows)[rank]? = some pair.1 ∧
        (indexesOf key columns)[rank]? = some pair.2 := by
  induction rows generalizing columns with
  | nil => simp [takeFirst, indexesOf]
  | cons row rest inductionHypothesis =>
      obtain ⟨index, taken⟩ := row
      rw [takeFirst]
      split
      · rename_i candidate found
        obtain ⟨sameKey, before, after, split, erased, noneBefore⟩ :=
          eraseP_of_find?_eq_some found
        obtain ⟨column, columnKey⟩ := candidate
        simp only at sameKey
        subst sameKey
        have ownKey : indexesOf columnKey columns =
            column :: indexesOf columnKey (before ++ after) := by
          rw [split, indexesOf_append, indexesOf_append, indexesOf_eq_nil noneBefore,
            indexesOf_cons_same, List.nil_append, List.nil_append]
        have otherKey (key : String) (different : columnKey ≠ key) :
            indexesOf key columns = indexesOf key (before ++ after) := by
          rw [split, indexesOf_append, indexesOf_append, indexesOf_cons_other different]
        rw [List.mem_cons, erased, inductionHypothesis]
        constructor
        · rintro (rfl | ⟨key, rank, atRow, atColumn⟩)
          · exact ⟨columnKey, 0, by simp [indexesOf_cons_same], by simp [ownKey]⟩
          · by_cases same : columnKey = key
            · subst same
              exact ⟨columnKey, rank + 1, by simpa [indexesOf_cons_same] using atRow,
                by simpa [ownKey] using atColumn⟩
            · exact ⟨key, rank, by rwa [indexesOf_cons_other same],
                by rwa [otherKey key same]⟩
        · rintro ⟨key, rank, atRow, atColumn⟩
          by_cases same : columnKey = key
          · subst same
            rw [indexesOf_cons_same] at atRow
            rw [ownKey] at atColumn
            cases rank with
            | zero =>
                simp only [List.getElem?_cons_zero, Option.some.injEq] at atRow atColumn
                exact .inl (Prod.ext atRow.symm atColumn.symm)
            | succ rank => exact .inr ⟨columnKey, rank, by simpa using atRow, by simpa using atColumn⟩
          · rw [indexesOf_cons_other same] at atRow
            rw [otherKey key same] at atColumn
            exact .inr ⟨key, rank, atRow, atColumn⟩
      · rename_i nobody
        have noneTaken : indexesOf taken columns = [] := by
          refine indexesOf_eq_nil fun entry member => ?_
          simpa using List.find?_eq_none.1 nobody entry member
        rw [inductionHypothesis]
        refine exists_congr fun key => exists_congr fun rank => ?_
        by_cases same : taken = key
        · subst same
          simp [noneTaken]
        · rw [indexesOf_cons_other same]

/-! ## Ranks -/

/-- The kept siblings with a signature key, in document order. -/
def Outlook.ofKey (outlook : Outlook) (side : Side) (key : String) (nodes : List Node) :
    List Node :=
  (outlook.kept side nodes).filter fun node => (outlook.keys side node).signature == key

/-- The same with their indexes among the kept siblings. -/
def Outlook.ranked (outlook : Outlook) (side : Side) (key : String) (nodes : List Node) :
    List (Node × Nat) :=
  (outlook.kept side nodes).zipIdx.filter fun entry =>
    (outlook.keys side entry.1).signature == key

section Ranked

variable {outlook : Outlook} {side : Side} {key : String} {nodes : List Node}

theorem ranked_map_fst : (outlook.ranked side key nodes).map Prod.fst =
    outlook.ofKey side key nodes := by
  rw [Outlook.ranked, Outlook.ofKey]
  conv => rhs; rw [← List.zipIdx_map_fst 0 (outlook.kept side nodes), List.filter_map]
  rfl

theorem ranked_map_snd : (outlook.ranked side key nodes).map Prod.snd =
    indexesOf key (indexedSignatures ((outlook.kept side nodes).map (outlook.keys side))) := by
  rw [Outlook.ranked, indexesOf, indexedSignatures, List.zipIdx_map, List.map_map, List.filter_map,
    List.map_map]
  rfl

theorem mem_ranked {entry : Node × Nat} : entry ∈ outlook.ranked side key nodes ↔
    (outlook.kept side nodes)[entry.2]? = some entry.1 ∧
      (outlook.keys side entry.1).signature = key := by
  rw [Outlook.ranked, List.mem_filter, List.mem_zipIdx_iff_getElem?, beq_iff_eq]

theorem ranked_nodup : (outlook.ranked side key nodes).Nodup := by
  refine List.Nodup.filter _ (List.Nodup.of_map Prod.snd ?_)
  rw [List.zipIdx_map_snd]
  exact List.nodup_range'

theorem rank_unique {key' : String} {rank rank' index : Nat} {node node' : Node}
    (atRank : (outlook.ranked side key nodes)[rank]? = some (node, index))
    (atRank' : (outlook.ranked side key' nodes)[rank']? = some (node', index)) :
    key = key' ∧ rank = rank' ∧ node = node' := by
  obtain ⟨atIndex, sameKey⟩ := mem_ranked.1 (List.mem_of_getElem? atRank)
  obtain ⟨atIndex', sameKey'⟩ := mem_ranked.1 (List.mem_of_getElem? atRank')
  have sameNode : node = node' := Option.some.inj (atIndex.symm.trans atIndex')
  subst sameNode
  have keys : key = key' := sameKey.symm.trans sameKey'
  subst keys
  obtain ⟨inRange, entry⟩ := List.getElem?_eq_some_iff.1 atRank
  obtain ⟨inRange', entry'⟩ := List.getElem?_eq_some_iff.1 atRank'
  exact ⟨rfl, (ranked_nodup.getElem_inj_iff).1 (entry.trans entry'.symm), rfl⟩

theorem exists_rank {index : Nat} {node : Node}
    (atIndex : (outlook.kept side nodes)[index]? = some node) :
    ∃ rank : Nat, (outlook.ranked side (outlook.keys side node).signature nodes)[rank]? =
      some (node, index) :=
  List.mem_iff_getElem?.1 (mem_ranked.2 ⟨atIndex, rfl⟩)

theorem ofKey_getElem? (rank : Nat) :
    (outlook.ofKey side key nodes)[rank]? =
      ((outlook.ranked side key nodes)[rank]?).map Prod.fst := by
  rw [← ranked_map_fst, List.getElem?_map]

end Ranked

/-! ## Pairs of equal rank -/

section Greedy

variable {outlook : Outlook} {nodes : Side → List Node}

theorem mem_greedyChoice {pair : Nat × Nat} :
    pair ∈ greedyChoice ((outlook.kept .first (nodes .first)).map (outlook.keys .first))
        ((outlook.kept .second (nodes .second)).map (outlook.keys .second)) ↔
      ∃ (key : String) (rank : Nat), ∀ side, ∃ node,
        (outlook.ranked side key (nodes side))[rank]? = some (node, pairIndex pair side) := by
  rw [greedyChoice, mem_takeFirst_iff]
  refine exists_congr fun key => exists_congr fun rank => ?_
  rw [← ranked_map_snd, ← ranked_map_snd, List.getElem?_map, List.getElem?_map,
    Option.map_eq_some_iff, Option.map_eq_some_iff]
  constructor
  · rintro ⟨⟨⟨first, row⟩, atRow, rowIndex⟩, ⟨second, column⟩, atColumn, columnIndex⟩ side
    cases side with
    | first => exact ⟨first, by rw [atRow]; exact congrArg (fun index => some (first, index)) rowIndex⟩
    | second =>
        exact ⟨second, by rw [atColumn]; exact congrArg (fun index => some (second, index)) columnIndex⟩
  · intro both
    obtain ⟨first, atRow⟩ := both .first
    obtain ⟨second, atColumn⟩ := both .second
    exact ⟨⟨_, atRow, rfl⟩, ⟨_, atColumn, rfl⟩⟩

theorem mem_greedy_keptPairing (prepared : outlook.Prepared) {pair : Nat × Nat} :
    pair ∈ Policy.greedy.keptPairing outlook nodes ↔
      ∃ (key : String) (rank : Nat), ∀ side, ∃ node,
        (outlook.ranked side key (nodes side))[rank]? = some (node, pairIndex pair side) := by
  rw [keptPairing_eq greedy_follows prepared, mem_greedyChoice]

/-- The partner of a sibling is the one of equal key and equal rank. -/
theorem greedy_partner?_eq (prepared : outlook.Prepared) {side : Side} {key : String}
    {rank index : Nat} {node : Node}
    (atRank : (outlook.ranked side key (nodes side))[rank]? = some (node, index)) :
    Policy.greedy.partner? outlook side (nodes side) (nodes (otherSide side)) index =
      (outlook.ofKey (otherSide side) key (nodes (otherSide side)))[rank]? := by
  refine Option.ext fun other => ⟨?_, ?_⟩
  · intro partner
    obtain ⟨pair, member, sameIndex, atOther⟩ := exists_pair_of_partner partner
    obtain ⟨pairKey, pairRank, both⟩ := (mem_greedy_keptPairing prepared).1 member
    obtain ⟨own, ownRank⟩ := both side
    obtain ⟨found, foundRank⟩ := both (otherSide side)
    rw [sameIndex] at ownRank
    obtain ⟨sameKey, sameRank, _⟩ := rank_unique atRank ownRank
    have atFound := (mem_ranked.1 (List.mem_of_getElem? foundRank)).1
    rw [sameKey, sameRank, ofKey_getElem?, foundRank, Option.map_some,
      Option.some.inj (atFound.symm.trans atOther)]
  · intro atOther
    rw [ofKey_getElem?, Option.map_eq_some_iff] at atOther
    obtain ⟨⟨found, otherIndex⟩, otherRank, rfl⟩ := atOther
    obtain ⟨pair, ownIndex, foundIndex⟩ : ∃ pair, pairIndex pair side = index ∧
        pairIndex pair (otherSide side) = otherIndex := by
      cases side with
      | first => exact ⟨(index, otherIndex), rfl, rfl⟩
      | second => exact ⟨(otherIndex, index), rfl, rfl⟩
    have member : pair ∈ Policy.greedy.keptPairing outlook nodes := by
      refine (mem_greedy_keptPairing prepared).2 ⟨key, rank, ?_⟩
      intro walked
      by_cases same : walked = side
      · rw [same, ownIndex]
        exact ⟨node, atRank⟩
      · have isOther : walked = otherSide side := by
          cases walked <;> cases side <;> first | rfl | exact absurd rfl same
        rw [isOther, foundIndex]
        exact ⟨found, otherRank⟩
    have once := keptPairing_nodup greedyChoice_isPairing greedy_follows prepared nodes side
    rw [← ownIndex]
    refine partner_of_pair once member ?_
    rw [foundIndex]
    exact (mem_ranked.1 (List.mem_of_getElem? otherRank)).1

/-- The same of the two lists of siblings by themselves. -/
theorem greedy_partner?_siblings (prepared : outlook.Prepared) {side : Side} {key : String}
    {rank index : Nat} {nodes others : List Node} {node : Node}
    (atRank : (outlook.ranked side key nodes)[rank]? = some (node, index)) :
    Policy.greedy.partner? outlook side nodes others index =
      (outlook.ofKey (otherSide side) key others)[rank]? := by
  cases side with
  | first => exact @greedy_partner?_eq outlook (bySide nodes others) prepared .first _ _ _ _ atRank
  | second => exact @greedy_partner?_eq outlook (bySide others nodes) prepared .second _ _ _ _ atRank

end Greedy

/-! ## Silent walks -/

section Silent

variable {β : Type} {outlook : Outlook} {report : Report β}

/-- A walk over greedily paired siblings that speaks of every sibling without a partner
reports nothing if and only if each sibling has one and nothing is reported of the pairs. -/
theorem walkSiblings_eq_nil_iff (prepared : outlook.Prepared)
    (speaks : ∀ signature, report.lone signature ≠ []) (nodes : Side → List Node) (side : Side)
    (above : String) :
    walkSiblings Policy.greedy outlook side report above (nodes side) (nodes (otherSide side)) =
        [] ↔
      ∀ (key : String) (rank : Nat) (node : Node),
        (outlook.ofKey side key (nodes side))[rank]? = some node →
          ∃ other, (outlook.ofKey (otherSide side) key (nodes (otherSide side)))[rank]? =
              some other ∧
            walk Policy.greedy outlook side report above node other = [] := by
  rw [walkSiblings_silent_iff _ _ _ speaks]
  constructor
  · intro silent key rank node atRank
    rw [ofKey_getElem?, Option.map_eq_some_iff] at atRank
    obtain ⟨⟨found, index⟩, ranked, rfl⟩ := atRank
    obtain ⟨other, partner, here⟩ :=
      silent index found (mem_ranked.1 (List.mem_of_getElem? ranked)).1
    rw [greedy_partner?_eq prepared ranked] at partner
    exact ⟨other, partner, here⟩
  · intro silent index node atIndex
    obtain ⟨rank, ranked⟩ := exists_rank atIndex
    obtain ⟨other, atOther, here⟩ := silent _ rank node (by rw [ofKey_getElem?, ranked]; rfl)
    exact ⟨other, (greedy_partner?_eq prepared ranked).trans atOther, here⟩

end Silent

end XmlCollation.Compare
