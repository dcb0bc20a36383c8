import Mathlib.Algebra.Order.BigOperators.Group.List
import XmlCollation.Proofs.Compare.Balance
import XmlCollation.Proofs.Compare.Partnership

/-!
Contract: best pairings of siblings.

Owns:
- pairings of siblings, and full ones, which have as many pairs of each signature as the
  siblings allow: these are the ones that leave out no two siblings of equal signatures;
- what a full pairing costs, told from its unequal contents and from the steps between its
  siblings, and what it costs with the forbidden cells that complete it;
- the optimal choice of an exact solver as the best of all full pairings: of the ones with
  the most pairs of equal contents, it is the nearest to the order of the documents.

Does not own: how a solver finds it.
-/

namespace XmlCollation.Compare

open XmlCollation.Tree

/-! ## Full pairings -/

/-- Pairs of siblings of equal signatures, none of them twice. -/
structure JoinsSiblings (rows columns : List SiblingKeys) (pairs : List (Nat × Nat)) : Prop where
  sameSignature : ∀ pair ∈ pairs, ∃ row column, rows[pair.1]? = some row ∧
    columns[pair.2]? = some column ∧ row.signature = column.signature
  rows_nodup : (pairs.map Prod.fst).Nodup
  columns_nodup : (pairs.map Prod.snd).Nodup

/-- The first sibling of a pair has this signature. -/
def joinsSignature (rows : List SiblingKeys) (signature : String) (pair : Nat × Nat) : Bool :=
  (rows[pair.1]?).map SiblingKeys.signature == some signature

/-- The siblings of a pair have equal contents. -/
def joinsEqual (rows columns : List SiblingKeys) (pair : Nat × Nat) : Bool :=
  (rows[pair.1]?).map SiblingKeys.content == (columns[pair.2]?).map SiblingKeys.content

/-- The number of pairs of equal contents. -/
def countEqual (rows columns : List SiblingKeys) (pairs : List (Nat × Nat)) : Nat :=
  pairs.countP (joinsEqual rows columns)

/-- The steps between the siblings of all pairs. -/
def totalApart (pairs : List (Nat × Nat)) : Nat :=
  (pairs.map fun pair => apart pair.1 pair.2).sum

/-- As many pairs of each signature as there are rows of it, or columns if these are fewer. -/
structure IsFullPairing (rows columns : List SiblingKeys) (pairs : List (Nat × Nat)) : Prop
    extends JoinsSiblings rows columns pairs where
  count_eq : ∀ signature : String, pairs.countP (joinsSignature rows signature) =
    min (rows.countP fun keys => keys.signature == signature)
      (columns.countP fun keys => keys.signature == signature)

/-- A full pairing.  No other one has more pairs of equal contents, and none that has as many
takes fewer steps. -/
structure IsBestPairing (rows columns : List SiblingKeys) (pairs : List (Nat × Nat)) : Prop
    extends IsFullPairing rows columns pairs where
  mostEqual : ∀ others, IsFullPairing rows columns others →
    countEqual rows columns others ≤ countEqual rows columns pairs
  nearest : ∀ others, IsFullPairing rows columns others →
    countEqual rows columns others = countEqual rows columns pairs →
      totalApart pairs ≤ totalApart others

section Pairings

variable {rows columns : List SiblingKeys} {pairs others : List (Nat × Nat)} {pair : Nat × Nat}
  {signature : String}

theorem joinsSignature_iff_row :
    joinsSignature rows signature pair = true ↔
      pair.1 ∈ indexesWhere (fun keys => keys.signature == signature) rows := by
  rw [joinsSignature, beq_iff_eq, Option.map_eq_some_iff, mem_indexesWhere]
  simp only [beq_iff_eq]

theorem JoinsSiblings.joinsSignature_iff_column (joins : JoinsSiblings rows columns pairs)
    (inPairs : pair ∈ pairs) :
    joinsSignature rows signature pair = true ↔
      pair.2 ∈ indexesWhere (fun keys => keys.signature == signature) columns := by
  obtain ⟨row, column, atRow, atColumn, same⟩ := joins.sameSignature pair inPairs
  rw [joinsSignature, beq_iff_eq, mem_indexesWhere, atRow, atColumn, Option.map_some, same]
  simp only [Option.some.injEq, exists_eq_left', beq_iff_eq]

theorem JoinsSiblings.inRange (joins : JoinsSiblings rows columns pairs) :
    ∀ pair ∈ pairs, pair.1 < rows.length ∧ pair.2 < columns.length := by
  intro pair inPairs
  obtain ⟨row, column, atRow, atColumn, _⟩ := joins.sameSignature pair inPairs
  exact ⟨(List.getElem?_eq_some_iff.1 atRow).1, (List.getElem?_eq_some_iff.1 atColumn).1⟩

/-- A full pairing leaves out no two siblings of equal signatures: it would have too few pairs
of their signature. -/
theorem IsFullPairing.mem_or_mem (full : IsFullPairing rows columns pairs) {index index' : Nat}
    {row column : SiblingKeys} (atRow : rows[index]? = some row)
    (atColumn : columns[index']? = some column) (same : row.signature = column.signature) :
    index ∈ pairs.map Prod.fst ∨ index' ∈ pairs.map Prod.snd := by
  by_contra neither
  rw [not_or] at neither
  have fewRows : pairs.countP (joinsSignature rows row.signature) <
      rows.countP fun keys => keys.signature == row.signature := by
    refine countP_pairs_lt full.rows_nodup (fun pair _ joined => joinsSignature_iff_row.1 joined)
      (mem_indexesWhere.2 ⟨row, atRow, beq_iff_eq.2 rfl⟩) ?_
    exact fun pair inPairs _ taken => neither.1 (List.mem_map.2 ⟨pair, inPairs, taken⟩)
  have fewColumns : pairs.countP (joinsSignature rows row.signature) <
      columns.countP fun keys => keys.signature == row.signature := by
    refine countP_pairs_lt full.columns_nodup
      (fun pair inPairs joined => (full.joinsSignature_iff_column inPairs).1 joined)
      (mem_indexesWhere.2 ⟨column, atColumn, beq_iff_eq.2 same.symm⟩) ?_
    exact fun pair inPairs _ taken => neither.2 (List.mem_map.2 ⟨pair, inPairs, taken⟩)
  have count_eq := full.count_eq row.signature
  omega

/-- Siblings are paired in full if no two of equal signatures are left out: of each signature,
all rows are in pairs or, if one is not, all columns are. -/
theorem JoinsSiblings.isFullPairing (joins : JoinsSiblings rows columns pairs)
    (taken : ∀ (index index' : Nat) (row column : SiblingKeys), rows[index]? = some row →
      columns[index']? = some column → row.signature = column.signature →
        index ∈ pairs.map Prod.fst ∨ index' ∈ pairs.map Prod.snd) :
    IsFullPairing rows columns pairs := by
  refine ⟨joins, fun signature => ?_⟩
  have fitsRows : pairs.countP (joinsSignature rows signature) ≤
      rows.countP fun keys => keys.signature == signature :=
    countP_pairs_le joins.rows_nodup fun pair _ joined => joinsSignature_iff_row.1 joined
  have fitsColumns : pairs.countP (joinsSignature rows signature) ≤
      columns.countP fun keys => keys.signature == signature :=
    countP_pairs_le joins.columns_nodup fun pair inPairs joined =>
      (joins.joinsSignature_iff_column inPairs).1 joined
  by_cases allRows : ∀ index ∈ indexesWhere (fun keys => keys.signature == signature) rows,
      index ∈ pairs.map Prod.fst
  · have covered : rows.countP (fun keys => keys.signature == signature) ≤
        pairs.countP (joinsSignature rows signature) := by
      refine countP_le_pairs Prod.fst fun index isKind => ?_
      obtain ⟨pair, inPairs, rfl⟩ := List.mem_map.1 (allRows index isKind)
      exact ⟨pair, inPairs, joinsSignature_iff_row.2 isKind, rfl⟩
    omega
  · have covered : columns.countP (fun keys => keys.signature == signature) ≤
        pairs.countP (joinsSignature rows signature) := by
      push Not at allRows
      obtain ⟨index, rowKind, free⟩ := allRows
      obtain ⟨row, atRow, rowSignature⟩ := mem_indexesWhere.1 rowKind
      refine countP_le_pairs Prod.snd fun index' isKind => ?_
      obtain ⟨column, atColumn, columnSignature⟩ := mem_indexesWhere.1 isKind
      have same : row.signature = column.signature :=
        (beq_iff_eq.1 rowSignature).trans (beq_iff_eq.1 columnSignature).symm
      obtain ⟨pair, inPairs, rfl⟩ :=
        List.mem_map.1 ((taken index index' row column atRow atColumn same).resolve_left free)
      exact ⟨pair, inPairs, (joins.joinsSignature_iff_column inPairs).2 isKind, rfl⟩
    omega

/-- All full pairings have as many pairs, since they have as many of each signature. -/
theorem IsFullPairing.length_eq (full : IsFullPairing rows columns pairs)
    (othersFull : IsFullPairing rows columns others) : pairs.length = others.length := by
  let signatureOf : Nat × Nat → Option String := fun pair =>
    (rows[pair.1]?).map SiblingKeys.signature
  have known {pairs : List (Nat × Nat)} (full : IsFullPairing rows columns pairs) :
      (pairs.map signatureOf).count none = 0 := by
    refine List.count_eq_zero.2 fun member => ?_
    obtain ⟨pair, inPairs, isNone⟩ := List.mem_map.1 member
    obtain ⟨row, _, atRow, _⟩ := full.sameSignature pair inPairs
    simp [signatureOf, atRow] at isNone
  have counted {pairs : List (Nat × Nat)} (full : IsFullPairing rows columns pairs)
      (signature : String) : (pairs.map signatureOf).count (some signature) =
        min (rows.countP fun keys => keys.signature == signature)
          (columns.countP fun keys => keys.signature == signature) := by
    rw [List.count, List.countP_map]
    exact full.count_eq signature
  have perm : (pairs.map signatureOf).Perm (others.map signatureOf) := by
    refine List.perm_iff_count.2 fun signature? => ?_
    cases signature? with
    | none => rw [known full, known othersFull]
    | some signature => rw [counted full, counted othersFull]
  have sameLength := perm.length_eq
  rwa [List.length_map, List.length_map] at sameLength

/-- All steps together are no more than the cells. -/
theorem JoinsSiblings.totalApart_le (joins : JoinsSiblings rows columns pairs) :
    totalApart pairs ≤ rows.length * columns.length := by
  have each : ∀ steps ∈ pairs.map (fun pair => apart pair.1 pair.2),
      steps ≤ max rows.length columns.length := by
    intro steps member
    obtain ⟨pair, inPairs, rfl⟩ := List.mem_map.1 member
    have inRange := joins.inRange pair inPairs
    unfold apart
    omega
  obtain ⟨spare, complete⟩ :=
    Assignment.exists_append_isComplete joins.inRange joins.rows_nodup joins.columns_nodup
  have few : pairs.length ≤ min rows.length columns.length := by
    rw [← complete.length_eq, List.length_append]
    omega
  calc totalApart pairs
      ≤ pairs.length * max rows.length columns.length := by
        have atMost := List.sum_le_card_nsmul _ _ each
        rwa [List.length_map, nsmul_eq_mul, Nat.cast_id] at atMost
    _ ≤ min rows.length columns.length * max rows.length columns.length :=
        Nat.mul_le_mul_right _ few
    _ = rows.length * columns.length := min_mul_max _ _

end Pairings

/-! ## Costs of pairings -/

section Costs

variable {rows columns : List SiblingKeys} {pairs spare others : List (Nat × Nat)} {guard : Rat}

/-- The matrix that a solver gets for siblings of known keys. -/
def guardedCosts (guard : Rat) (rows columns : List SiblingKeys) : List (List Rat) :=
  Assignment.guarded guard (costMatrixOf (stepCost rows.length columns.length) 0 rows columns)

theorem length_guardedCosts (guard : Rat) (rows columns : List SiblingKeys) :
    (guardedCosts guard rows columns).length = rows.length := by
  rw [guardedCosts, Assignment.length_guarded, length_costMatrixOf]

/-- A pair of equal signatures costs its steps and, if its contents are unequal, one more. -/
theorem cellOf_add_equal {pair : Nat × Nat} {row column : SiblingKeys}
    (atRow : rows[pair.1]? = some row) (atColumn : columns[pair.2]? = some column)
    (same : row.signature = column.signature) :
    cellOf guard rows columns pair + (if joinsEqual rows columns pair then 1 else 0) =
      1 + ((apart pair.1 pair.2 : Nat) : Rat) * stepCost rows.length columns.length := by
  have equal_iff : joinsEqual rows columns pair = (row.content == column.content) := by
    rw [joinsEqual, atRow, atColumn, Option.map_some, Option.map_some, Option.some_beq_some]
  have cell_eq := @cellOf_eq rows columns guard pair.1 pair.2 row column atRow atColumn
  rw [if_pos same.symm, pairCost_eq] at cell_eq
  rw [cell_eq, equal_iff]
  split <;> linarith

/-- Pairs of equal signatures cost their steps and one for each pair of unequal contents. -/
theorem totalCost_add_countEqual
    (same : ∀ pair ∈ pairs, ∃ row column, rows[pair.1]? = some row ∧
      columns[pair.2]? = some column ∧ row.signature = column.signature) :
    Assignment.totalCost (guardedCosts guard rows columns) pairs + countEqual rows columns pairs =
      pairs.length + (totalApart pairs : Rat) * stepCost rows.length columns.length := by
  induction pairs with
  | nil => simp [Assignment.totalCost, countEqual, totalApart]
  | cons pair rest inductionHypothesis =>
      obtain ⟨row, column, atRow, atColumn, sameHere⟩ := same pair List.mem_cons_self
      have here := @cellOf_add_equal rows columns guard pair row column atRow atColumn sameHere
      have there := inductionHypothesis fun other inRest =>
        same other (List.mem_cons_of_mem _ inRest)
      have cost_eq : Assignment.totalCost (guardedCosts guard rows columns) (pair :: rest) =
          cellOf guard rows columns pair +
            Assignment.totalCost (guardedCosts guard rows columns) rest :=
        Assignment.totalCost_cons _ _ _
      have equal_eq : (countEqual rows columns (pair :: rest) : Rat) =
          countEqual rows columns rest + (if joinsEqual rows columns pair then 1 else 0) := by
        rw [countEqual, List.countP_cons, countEqual]
        push_cast
        rfl
      have apart_eq : (totalApart (pair :: rest) : Rat) =
          (apart pair.1 pair.2 : Nat) + (totalApart rest : Rat) := by
        rw [totalApart, List.map_cons, List.sum_cons, totalApart, Nat.cast_add]
      rw [cost_eq, equal_eq, apart_eq, List.length_cons, Nat.cast_add, Nat.cast_one]
      linarith

/-- Pairs of unequal signatures cost the guard each. -/
theorem totalCost_of_unlike
    (unlike : ∀ pair ∈ spare, ∃ row column, rows[pair.1]? = some row ∧
      columns[pair.2]? = some column ∧ row.signature ≠ column.signature) :
    Assignment.totalCost (guardedCosts guard rows columns) spare = spare.length * guard := by
  have cells_eq : spare.map (Assignment.cellCost (guardedCosts guard rows columns)) =
      spare.map fun _ => guard := by
    refine List.map_congr_left fun pair inSpare => ?_
    obtain ⟨row, column, atRow, atColumn, different⟩ := unlike pair inSpare
    exact @cellOf_forbidden rows columns guard pair.1 pair.2 row column atRow atColumn different
  rw [Assignment.totalCost, cells_eq, List.map_const', List.sum_replicate, nsmul_eq_mul]

/-- What completes a full pairing are pairs of unequal signatures. -/
theorem IsFullPairing.unlike_of_append (full : IsFullPairing rows columns pairs)
    (complete : Assignment.IsComplete rows.length columns.length (pairs ++ spare)) :
    ∀ pair ∈ spare, ∃ row column, rows[pair.1]? = some row ∧ columns[pair.2]? = some column ∧
      row.signature ≠ column.signature := by
  intro pair inSpare
  have inRange := complete.inRange pair (List.mem_append_right _ inSpare)
  have atRow := List.getElem?_eq_getElem inRange.1
  have atColumn := List.getElem?_eq_getElem inRange.2
  refine ⟨_, _, atRow, atColumn, fun same => ?_⟩
  have rowsApart := complete.rows_nodup
  have columnsApart := complete.columns_nodup
  rw [List.map_append, List.nodup_append'] at rowsApart columnsApart
  rcases full.mem_or_mem atRow atColumn same with inRows | inColumns
  · exact rowsApart.2.2 inRows (List.mem_map_of_mem inSpare)
  · exact columnsApart.2.2 inColumns (List.mem_map_of_mem inSpare)

/-- Cells in range that are not allowed are those of unequal signatures. -/
theorem unlike_of_not_allowed {step : Rat} {pair : Nat × Nat} (rowIn : pair.1 < rows.length)
    (columnIn : pair.2 < columns.length)
    (forbidden : ¬Assignment.isAllowed (costMatrixOf step 0 rows columns) pair = true) :
    ∃ row column, rows[pair.1]? = some row ∧ columns[pair.2]? = some column ∧
      row.signature ≠ column.signature := by
  have atRow := List.getElem?_eq_getElem rowIn
  have atColumn := List.getElem?_eq_getElem columnIn
  refine ⟨_, _, atRow, atColumn, fun same => forbidden ?_⟩
  exact (isAllowed_costMatrixOf step atRow atColumn).trans (decide_eq_true same.symm)

end Costs

/-! ## The best pairing -/

section Best

variable {solve : Solver Rat} {rows columns : List SiblingKeys} {others : List (Nat × Nat)}

theorem Choice.IsPairing.joinsSiblings {choice : Choice} (pairing : choice.IsPairing)
    (rows columns : List SiblingKeys) : JoinsSiblings rows columns (choice rows columns) :=
  ⟨pairing.sameSignature rows columns, pairing.rows_nodup rows columns,
    pairing.columns_nodup rows columns⟩

theorem optimalChoice_isFullPairing (exact : solve.IsExact) (rows columns : List SiblingKeys) :
    IsFullPairing rows columns (optimalChoice solve rows columns) :=
  ((optimalChoice_isPairing exact.assignsOnce).joinsSiblings rows columns).isFullPairing
    (optimalChoice_isMaximal exact rows columns)

/-- No full pairing costs less than the optimal choice.  Completed, both have as many
forbidden cells, so that the guard cancels out. -/
theorem exists_totalCost_le (exact : solve.IsExact) (full : IsFullPairing rows columns others)
    (someOther : others ≠ []) :
    ∃ guard, Assignment.totalCost (guardedCosts guard rows columns)
        (optimalChoice solve rows columns) ≤
      Assignment.totalCost (guardedCosts guard rows columns) others := by
  obtain ⟨pair, inOthers⟩ := List.exists_mem_of_ne_nil others someOther
  obtain ⟨row, column, atRow, atColumn, same⟩ := full.sameSignature pair inOthers
  obtain ⟨guard, found, _, least, perm⟩ := exists_least_optimalChoice exact atRow atColumn same
  obtain ⟨spare, complete⟩ :=
    Assignment.exists_append_isComplete full.inRange full.rows_nodup full.columns_nodup
  have least' : Assignment.IsLeast (guardedCosts guard rows columns) columns.length found := least
  have foundComplete := least'.complete
  have cheapest := least'.least (others ++ spare) (by rwa [length_guardedCosts])
  rw [length_guardedCosts] at foundComplete
  let allowed := Assignment.isAllowed
    (costMatrixOf (stepCost rows.length columns.length : Rat) 0 rows columns)
  let forbidden := found.filter fun pair => !allowed pair
  have split : (optimalChoice solve rows columns ++ forbidden).Perm found :=
    (perm.append_right _).trans (List.filter_append_perm allowed found)
  have forbiddenCost : Assignment.totalCost (guardedCosts guard rows columns) forbidden =
      forbidden.length * guard := by
    refine totalCost_of_unlike fun pair inForbidden => ?_
    obtain ⟨inFound, notAllowed⟩ := List.mem_filter.1 inForbidden
    have inRange := foundComplete.inRange pair inFound
    exact unlike_of_not_allowed inRange.1 inRange.2 (by simpa using notAllowed)
  have spareCost := @totalCost_of_unlike rows columns spare guard (full.unlike_of_append complete)
  have sameCount : forbidden.length = spare.length := by
    have foundLength := split.length_eq.trans foundComplete.length_eq
    have othersLength := complete.length_eq
    have fullLength := (optimalChoice_isFullPairing exact rows columns).length_eq full
    rw [List.length_append] at foundLength othersLength
    omega
  rw [← Assignment.totalCost_perm _ split, Assignment.totalCost_append,
    Assignment.totalCost_append, forbiddenCost, spareCost, sameCount] at cheapest
  exact ⟨guard, le_of_add_le_add_right cheapest⟩

/-- Compared with another full pairing, the optimal choice makes up for its steps by pairs of
equal contents. -/
theorem countEqual_add_steps_le (exact : solve.IsExact)
    (full : IsFullPairing rows columns others) :
    (countEqual rows columns others : Rat) +
        totalApart (optimalChoice solve rows columns) * stepCost rows.length columns.length ≤
      countEqual rows columns (optimalChoice solve rows columns) +
        totalApart others * stepCost rows.length columns.length := by
  have best := optimalChoice_isFullPairing exact rows columns
  have sameLength := best.length_eq full
  by_cases someOther : others = []
  · rw [someOther, List.length_nil, List.length_eq_zero_iff] at sameLength
    rw [someOther, sameLength]
  · obtain ⟨guard, cheapest⟩ := exists_totalCost_le exact full someOther
    have ours := @totalCost_add_countEqual rows columns _ guard best.sameSignature
    have theirs := @totalCost_add_countEqual rows columns _ guard full.sameSignature
    rw [sameLength] at ours
    linarith

/-- The optimal choice is the best of all full pairings: the steps of another one are worth
less than one pair of equal contents. -/
theorem optimalChoice_isBestPairing (exact : solve.IsExact) (rows columns : List SiblingKeys) :
    IsBestPairing rows columns (optimalChoice solve rows columns) := by
  have positive := stepCost_pos rows.length columns.length
  refine ⟨optimalChoice_isFullPairing exact rows columns, ?_, ?_⟩
  · intro others full
    by_contra more
    have oneMore : (countEqual rows columns (optimalChoice solve rows columns) : Rat) + 1 ≤
        countEqual rows columns others := by
      exact_mod_cast Nat.lt_of_not_le more
    have fewSteps := steps_lt_half full.totalApart_le
    have someSteps : (0 : Rat) ≤ totalApart (optimalChoice solve rows columns) *
        stepCost rows.length columns.length := mul_nonneg (Nat.cast_nonneg _) positive.le
    have traded := countEqual_add_steps_le exact full
    linarith
  · intro others full sameCount
    have traded := countEqual_add_steps_le exact full
    rw [sameCount] at traded
    exact Nat.cast_le.1 (le_of_mul_le_mul_right (le_of_add_le_add_left traded) positive)

/-- The optimal policy pairs the unvisited ones among siblings by a best pairing, whatever the
records of both trees are, if its solver finds complete assignments of least cost. -/
theorem optimal_pair_isBestPairing (exact : solve.IsExact) {outlook : Outlook}
    {firstRoot secondRoot : Node} {left right : List Place} {caches : Caches}
    (leftIn : Place.AreIn left firstRoot) (rightIn : Place.AreIn right secondRoot)
    (sound : caches.Sound outlook firstRoot secondRoot) :
    ∃ pairs, IsBestPairing (outlook.unvisitedKeys .first left)
        (outlook.unvisitedKeys .second right) pairs ∧
      ((Policy.optimalWith solve).pair outlook left right caches).1 =
        pairs.map fun pair => (siblingIndex (unvisited outlook.first left) pair.1,
          siblingIndex (unvisited outlook.second right) pair.2) :=
  ⟨_, optimalChoice_isBestPairing exact _ _, ((optimalWith_follows solve).pair_eq outlook firstRoot
    secondRoot left right caches leftIn rightIn sound).1⟩

/-- The first element of the first tree was matched before. -/
def resumed : Outlook :=
  ⟨.standard, [([0], { mark := .deep })], []⟩

/-- In `<r><a>1</a><a>2</a><a>3</a></r>` and `<r><a>3</a><a>4</a><a>2</a></r>`, the elements of
equal texts are paired. -/
theorem isBestPairing_resumed :
    ∃ pairs, IsBestPairing
        (resumed.unvisitedKeys .first (Place.root (listing ["1", "2", "3"])).children)
        (resumed.unvisitedKeys .second (Place.root (listing ["3", "4", "2"])).children) pairs ∧
      [(1, 2), (2, 0)] = pairs.map fun pair =>
        (siblingIndex (unvisited resumed.first (Place.root (listing ["1", "2", "3"])).children) pair.1,
          siblingIndex (unvisited resumed.second (Place.root (listing ["3", "4", "2"])).children)
            pair.2) := by
  have paired : ((Policy.optimalWith Assignment.exhaustive).pair resumed
      (Place.root (listing ["1", "2", "3"])).children
      (Place.root (listing ["3", "4", "2"])).children ⟨.empty 0, .empty 0⟩).1 =
        [(1, 2), (2, 0)] := by
    decide +kernel
  rw [← paired]
  exact optimal_pair_isBestPairing exhaustive_isExact (Place.children_areIn rfl)
    (Place.children_areIn rfl) ⟨ContentCache.sound_empty 0, ContentCache.sound_empty 0⟩

end Best

end XmlCollation.Compare
