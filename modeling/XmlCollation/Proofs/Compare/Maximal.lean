import Mathlib.Algebra.Field.Rat
import Mathlib.Tactic.Positivity
import XmlCollation.Proofs.Compare.Exact
import XmlCollation.Proofs.Compare.Lawful
import XmlCollation.Proofs.Compare.Ranks

/-!
Contract: pairings that leave out as little as they can.

Owns:
- maximal choices, which leave out no two siblings of equal signatures;
- the greedy choice is maximal, since siblings are paired by rank;
- the optimal choice of an exact solver as part of a least assignment, in which a guard
  stands for forbidden cells; it is maximal, since the guard makes a forbidden cell dearer
  than any other;
- maximal policies, among them those that are offered with an exact solver.

Does not own: what maximal choices mean for the records of a comparison.
-/

namespace XmlCollation.Compare

open XmlCollation.Tree

/-- Of two siblings of equal signatures, one has a partner at least. -/
def Choice.IsMaximal (choice : Choice) : Prop :=
  ∀ (rows columns : List SiblingKeys) (index index' : Nat) (row column : SiblingKeys),
    rows[index]? = some row → columns[index']? = some column → row.signature = column.signature →
      index ∈ (choice rows columns).map Prod.fst ∨ index' ∈ (choice rows columns).map Prod.snd

/-! ## First come, first served -/

theorem mem_indexesOf {index : Nat} {keys : SiblingKeys} {siblings : List SiblingKeys}
    (atIndex : siblings[index]? = some keys) :
    index ∈ indexesOf keys.signature (indexedSignatures siblings) := by
  rw [indexesOf]
  refine List.mem_map.2 ⟨(index, keys.signature), List.mem_filter.2 ⟨?_, by simp⟩, rfl⟩
  exact mem_indexedSignatures.2 ⟨keys, atIndex, rfl⟩

/-- The one of lower rank has a partner. -/
theorem greedyChoice_isMaximal : greedyChoice.IsMaximal := by
  intro rows columns index index' row column atRow atColumn same
  obtain ⟨rank, atRank⟩ := List.mem_iff_getElem?.1 (mem_indexesOf atRow)
  obtain ⟨rank', atRank'⟩ := List.mem_iff_getElem?.1 (mem_indexesOf atColumn)
  rw [← same] at atRank'
  rw [greedyChoice]
  rcases Nat.le_total rank rank' with earlier | later
  · have inRange : rank < (indexesOf row.signature (indexedSignatures columns)).length := by
      have bound := (List.getElem?_eq_some_iff.1 atRank').1
      omega
    exact .inl (List.mem_map.2 ⟨(index, _), mem_takeFirst_iff.2
      ⟨row.signature, rank, atRank, List.getElem?_eq_getElem inRange⟩, rfl⟩)
  · have inRange : rank' < (indexesOf row.signature (indexedSignatures rows)).length := by
      have bound := (List.getElem?_eq_some_iff.1 atRank).1
      omega
    exact .inr (List.mem_map.2 ⟨(_, index'), mem_takeFirst_iff.2
      ⟨row.signature, rank', List.getElem?_eq_getElem inRange, atRank'⟩, rfl⟩)

/-! ## Least cost -/

namespace Assignment

/-- The matrix that a solver gets: forbidden cells cost as much as the guard. -/
def guarded (guard : Rat) (matrix : List (List (Option Rat))) : List (List Rat) :=
  matrix.map fun row => row.map fun entry => entry.getD guard

theorem length_guarded (guard : Rat) (matrix : List (List (Option Rat))) :
    (guarded guard matrix).length = matrix.length :=
  List.length_map _

theorem cellCost_guarded {guard : Rat} {matrix : List (List (Option Rat))} {pair : Nat × Nat}
    {row : List (Option Rat)} {entry : Option Rat} (atRow : matrix[pair.1]? = some row)
    (atColumn : row[pair.2]? = some entry) :
    cellCost (guarded guard matrix) pair = entry.getD guard := by
  rw [cellCost, guarded, List.getElem?_map, atRow, Option.map_some, Option.bind_some,
    List.getElem?_map, atColumn, Option.map_some, Option.getD_some]

/-- In range, the cell of a guarded matrix is an allowed cost or the guard. -/
theorem exists_entry {guard : Rat} {matrix : List (List (Option Rat))} {columns row column : Nat}
    (rectangular : ∀ costs ∈ matrix, costs.length = columns) (rowIn : row < matrix.length)
    (columnIn : column < columns) :
    ∃ entry : Option Rat, isAllowed matrix (row, column) = entry.isSome ∧
      cellCost (guarded guard matrix) (row, column) = entry.getD guard ∧
        ∀ cost, entry = some cost → some cost ∈ matrix.flatten := by
  obtain ⟨costs, atRow⟩ : ∃ costs, matrix[row]? = some costs := ⟨_, List.getElem?_eq_getElem rowIn⟩
  have inMatrix := List.mem_of_getElem? atRow
  rw [← rectangular costs inMatrix] at columnIn
  obtain ⟨entry, atEntry⟩ : ∃ entry, costs[column]? = some entry :=
    ⟨_, List.getElem?_eq_getElem columnIn⟩
  refine ⟨entry, ?_, @cellCost_guarded guard matrix (row, column) costs entry atRow atEntry, ?_⟩
  · rw [isAllowed, atRow, Option.bind_some, atEntry, Option.any_some]
  · rintro cost rfl
    exact List.mem_flatten.2 ⟨costs, inMatrix, List.mem_of_getElem? atEntry⟩

theorem rectangular_guarded {matrix : List (List (Option Rat))} {columns : Nat}
    (rectangular : ∀ costs ∈ matrix, costs.length = columns) (guard : Rat) :
    ∀ costs ∈ guarded guard matrix, costs.length = columns := by
  intro costs member
  obtain ⟨source, sourceMember, rfl⟩ := List.mem_map.1 member
  rw [List.length_map, rectangular source sourceMember]

/-- A forbidden cell in range costs as much as the guard. -/
theorem cellCost_of_forbidden {guard : Rat} {matrix : List (List (Option Rat))}
    {columns row column : Nat} (rectangular : ∀ costs ∈ matrix, costs.length = columns)
    (rowIn : row < matrix.length) (columnIn : column < columns)
    (forbidden : ¬isAllowed matrix (row, column) = true) :
    cellCost (guarded guard matrix) (row, column) = guard := by
  obtain ⟨entry, isSome, cell_eq, _⟩ := @exists_entry guard matrix columns row column
    rectangular rowIn columnIn
  rw [isSome, Bool.not_eq_true, Option.isSome_eq_false_iff, Option.isNone_iff_eq_none] at forbidden
  rw [cell_eq, forbidden, Option.getD_none]

/-- The pairs of least cost are those of a least assignment of the guarded matrix that are
allowed. -/
theorem exists_least_of_greatest {solve : Solver Rat} (exact : solve.IsExact)
    {matrix : List (List (Option Rat))} {columns : Nat}
    (rectangular : ∀ costs ∈ matrix, costs.length = columns) {top : Rat}
    (greatest_eq : greatest matrix.flatten = some top) :
    ∃ found : List (Nat × Nat), IsLeast (guarded (guardCost top) matrix) columns found ∧
      minimumCost solve matrix = .ok (sortPairs (found.filter (isAllowed matrix))) := by
  obtain ⟨found, solved, least⟩ := exact _ columns (rectangular_guarded rectangular (guardCost top))
  have solved' : solve (matrix.map fun row => row.map fun entry => entry.getD (guardCost top)) =
      .ok found := solved
  refine ⟨found, least, ?_⟩
  rw [minimumCost, greatest_eq]
  simp only [solved']
  rfl

/-- If some cell is allowed, the guard is dearer than two allowed cells. -/
theorem exists_least_minimumCost {solve : Solver Rat} (exact : solve.IsExact)
    {matrix : List (List (Option Rat))} {columns : Nat}
    (rectangular : ∀ costs ∈ matrix, costs.length = columns) {cost : Rat}
    (someCost : some cost ∈ matrix.flatten) :
    ∃ (guard : Rat) (found : List (Nat × Nat)),
      (∀ other, some other ∈ matrix.flatten → other * 2 + 1 ≤ guard) ∧
        IsLeast (guarded guard matrix) columns found ∧
        minimumCost solve matrix = .ok (sortPairs (found.filter (isAllowed matrix))) := by
  obtain ⟨top, greatest_eq, _⟩ := exists_greatest someCost
  have guard_eq : guardCost top = top * 2 + 1 := rfl
  have bounded (other : Rat) (member : some other ∈ matrix.flatten) :
      other * 2 + 1 ≤ guardCost top := by
    obtain ⟨top', greatest_eq', other_le⟩ := exists_greatest member
    obtain rfl : top' = top := Option.some.inj (greatest_eq'.symm.trans greatest_eq)
    linarith
  obtain ⟨found, least, solved⟩ := exists_least_of_greatest exact rectangular greatest_eq
  exact ⟨guardCost top, found, bounded, least, solved⟩

/-- An allowed cell favours allowed pairs, since the guard is dearer than any of them. -/
theorem favours_allowed {matrix : List (List (Option Rat))} {columns row column : Nat}
    (rectangular : ∀ costs ∈ matrix, costs.length = columns) (rowIn : row < matrix.length)
    (columnIn : column < columns) (allowedHere : isAllowed matrix (row, column) = true)
    (notNegative : ∀ cost, some cost ∈ matrix.flatten → 0 ≤ cost) {guard : Rat}
    (bounded : ∀ cost, some cost ∈ matrix.flatten → cost * 2 + 1 ≤ guard) :
    Favours (guarded guard matrix) columns row column
      fun pair => isAllowed matrix pair = true := by
  have cheap (cost : Rat) (member : some cost ∈ matrix.flatten) : cost < guard := by
    have lower := notNegative cost member
    have upper := bounded cost member
    linarith
  have here : cellCost (guarded guard matrix) (row, column) < guard := by
    obtain ⟨entry, isSome, cell_eq, inCells⟩ := @exists_entry guard matrix columns row column
      rectangular rowIn columnIn
    obtain ⟨cost, rfl⟩ := Option.isSome_iff_exists.1 (isSome.symm.trans allowedHere)
    rw [cell_eq, Option.getD_some]
    exact cheap cost (inCells cost rfl)
  refine ⟨?_, ?_, ?_⟩
  · intro column' columnIn' forbidden
    rw [cellCost_of_forbidden rectangular rowIn columnIn' forbidden]
    exact here
  · intro row' rowIn' forbidden
    rw [length_guarded] at rowIn'
    rw [cellCost_of_forbidden rectangular rowIn' columnIn forbidden]
    exact here
  · intro row' column' rowIn' columnIn' forbidden forbidden'
    rw [length_guarded] at rowIn'
    rw [cellCost_of_forbidden rectangular rowIn columnIn' forbidden,
      cellCost_of_forbidden rectangular rowIn' columnIn forbidden']
    have opposite : cellCost (guarded guard matrix) (row', column') ≤ guard := by
      obtain ⟨entry, _, cell_eq, inCells⟩ := @exists_entry guard matrix columns row' column'
        rectangular rowIn' columnIn'
      rw [cell_eq]
      cases entry with
      | none => exact le_refl guard
      | some cost => exact (cheap cost (inCells cost rfl)).le
    linarith

end Assignment

theorem stepCost_pos (rows columns : Nat) : (0 : Rat) < stepCost rows columns := by
  show (0 : Rat) < 1 / (2 * ((rows * columns + 1 : Nat) : Rat))
  positivity

theorem pairCost_nonneg (rows columns row column : Nat) (equal : Bool) :
    (0 : Rat) ≤ pairCost (stepCost rows columns) row column equal := by
  have count (value : Nat) : (0 : Rat) ≤ (value : Rat) := by positivity
  exact add_nonneg (count _) (mul_nonneg (count _) (stepCost_pos rows columns).le)

theorem nonneg_of_mem_costMatrixOf {rows columns : List SiblingKeys} {rowCount columnCount : Nat}
    {cost : Rat}
    (member : some cost ∈ (costMatrixOf (stepCost rowCount columnCount) 0 rows columns).flatten) :
    0 ≤ cost := by
  obtain ⟨costs, inMatrix, inRow⟩ := List.mem_flatten.1 member
  obtain ⟨entry, _, rfl⟩ := List.mem_map.1 inMatrix
  obtain ⟨other, _, cost_eq⟩ := List.mem_map.1 inRow
  split at cost_eq
  · rw [← Option.some.inj cost_eq]
    exact pairCost_nonneg rowCount columnCount _ _ _
  · cases cost_eq

section Optimal

variable {rows columns : List SiblingKeys} {row column : SiblingKeys} {index index' : Nat}

theorem length_costMatrixOf (step : Rat) (rows columns : List SiblingKeys) :
    (costMatrixOf step 0 rows columns).length = rows.length := by
  rw [costMatrixOf, List.length_map, List.length_zipIdx]

/-- Siblings may be paired if their signatures are equal. -/
theorem isAllowed_costMatrixOf (step : Rat) (atRow : rows[index]? = some row)
    (atColumn : columns[index']? = some column) :
    Assignment.isAllowed (costMatrixOf step 0 rows columns) (index, index') =
      decide (column.signature = row.signature) := by
  rw [Assignment.isAllowed, getElem?_costMatrixOf, atRow, Option.map_some, Option.bind_some,
    getElem?_costRowOf, atColumn, Option.map_some, Option.any_some]
  split <;> simp [*]

theorem mem_costMatrixOf (step : Rat) (atRow : rows[index]? = some row)
    (atColumn : columns[index']? = some column) (same : row.signature = column.signature) :
    some (pairCost step index index' (row.content == column.content)) ∈
      (costMatrixOf step 0 rows columns).flatten := by
  have matrixRow := getElem?_costMatrixOf step rows columns index
  have matrixColumn := getElem?_costRowOf step index row columns index'
  rw [atRow, Option.map_some] at matrixRow
  rw [atColumn, Option.map_some, if_pos same.symm] at matrixColumn
  exact List.mem_flatten.2 ⟨_, List.mem_of_getElem? matrixRow, List.mem_of_getElem? matrixColumn⟩

/-- If two siblings may be paired, the optimal choice consists of the pairs of siblings of
equal signatures in a least assignment, where a guard stands for all other pairs. -/
theorem exists_least_optimalChoice {solve : Solver Rat} (exact : solve.IsExact)
    (atRow : rows[index]? = some row) (atColumn : columns[index']? = some column)
    (same : row.signature = column.signature) :
    ∃ (guard : Rat) (found : List (Nat × Nat)),
      (∀ cost, some cost ∈ (costMatrixOf (stepCost rows.length columns.length) 0 rows
        columns).flatten → cost * 2 + 1 ≤ guard) ∧
      Assignment.IsLeast (Assignment.guarded guard
        (costMatrixOf (stepCost rows.length columns.length) 0 rows columns)) columns.length found ∧
      (optimalChoice solve rows columns).Perm (found.filter (Assignment.isAllowed
        (costMatrixOf (stepCost rows.length columns.length : Rat) 0 rows columns))) := by
  obtain ⟨guard, found, bounded, least, solved⟩ := Assignment.exists_least_minimumCost exact
    (rectangular_costMatrixOf _ rows columns) (mem_costMatrixOf _ atRow atColumn same)
  have someRow : rows.isEmpty = false :=
    List.isEmpty_eq_false_iff.2 (List.ne_nil_of_mem (List.mem_of_getElem? atRow))
  have someColumn : columns.isEmpty = false :=
    List.isEmpty_eq_false_iff.2 (List.ne_nil_of_mem (List.mem_of_getElem? atColumn))
  refine ⟨guard, found, bounded, least, ?_⟩
  rw [optimalChoice, someRow, someColumn, Bool.or_self, if_neg Bool.false_ne_true, solved]
  exact sortPairs_perm _

/-- Of two siblings of equal signatures whose cell favours some allowed pairs, whatever the
guard, one is in such a pair. -/
theorem exists_favoured_optimalChoice {solve : Solver Rat} (exact : solve.IsExact)
    (atRow : rows[index]? = some row) (atColumn : columns[index']? = some column)
    (same : row.signature = column.signature) {favoured : Nat × Nat → Prop}
    (allowed : ∀ pair, favoured pair →
      Assignment.isAllowed (costMatrixOf (stepCost rows.length columns.length : Rat) 0 rows columns)
        pair = true)
    (favours : ∀ guard : Rat,
      (∀ cost, some cost ∈ (costMatrixOf (stepCost rows.length columns.length) 0 rows
        columns).flatten → cost * 2 + 1 ≤ guard) →
      Assignment.Favours (Assignment.guarded guard
        (costMatrixOf (stepCost rows.length columns.length) 0 rows columns)) columns.length
        index index' favoured) :
    ∃ pair ∈ optimalChoice solve rows columns,
      (pair.1 = index ∨ pair.2 = index') ∧ favoured pair := by
  obtain ⟨guard, found, bounded, least, perm⟩ :=
    exists_least_optimalChoice exact atRow atColumn same
  have rowIn := (List.getElem?_eq_some_iff.1 atRow).1
  rw [← length_costMatrixOf (stepCost rows.length columns.length) rows columns,
    ← Assignment.length_guarded guard] at rowIn
  obtain ⟨pair, member, touches, isFavoured⟩ := least.exists_favoured (favours guard bounded) rowIn
    (List.getElem?_eq_some_iff.1 atColumn).1
  exact ⟨pair, perm.mem_iff.2 (List.mem_filter.2 ⟨member, allowed pair isFavoured⟩), touches,
    isFavoured⟩

end Optimal

theorem optimalChoice_isMaximal {solve : Solver Rat} (exact : solve.IsExact) :
    (optimalChoice solve).IsMaximal := by
  intro rows columns index index' row column atRow atColumn same
  have allowedHere : Assignment.isAllowed
      (costMatrixOf (stepCost rows.length columns.length : Rat) 0 rows columns) (index, index') =
        true :=
    (isAllowed_costMatrixOf _ atRow atColumn).trans (decide_eq_true same.symm)
  obtain ⟨pair, member, touches, _⟩ := exists_favoured_optimalChoice exact atRow atColumn same
    (fun _ isAllowed => isAllowed) fun guard bounded =>
      Assignment.favours_allowed (rectangular_costMatrixOf _ rows columns)
        (by rw [length_costMatrixOf]; exact (List.getElem?_eq_some_iff.1 atRow).1)
        (List.getElem?_eq_some_iff.1 atColumn).1 allowedHere
        (fun _ inCells => nonneg_of_mem_costMatrixOf inCells) bounded
  rcases touches with rfl | rfl
  · exact .inl (List.mem_map_of_mem member)
  · exact .inr (List.mem_map_of_mem member)

/-! ## Policies -/

/-- Of two siblings that may be paired, one is in a pair at least. -/
def Policy.IsMaximal (policy : Policy) : Prop :=
  ∀ {outlook : Outlook} {firstRoot secondRoot : Node} {left right : List Place}
    {caches : Caches}, outlook.Surveys firstRoot secondRoot left right caches →
      ∀ {index index' : Nat} {first second : Place}, left[index]? = some first →
        right[index']? = some second → outlook.MayPair first second →
          index ∈ (policy.pair outlook left right caches).1.map Prod.fst ∨
            index' ∈ (policy.pair outlook left right caches).1.map Prod.snd

theorem exists_unvisitedFrom {visits : Visits} {places : List Place} {start index : Nat}
    {place : Place} (atIndex : places[index]? = some place)
    (isUnvisited : visits.isUnvisited place.node = true) :
    (start + index, place) ∈ unvisitedFrom visits start places := by
  induction places generalizing start index with
  | nil => cases atIndex
  | cons head rest inductionHypothesis =>
      rw [unvisitedFrom]
      cases index with
      | zero =>
          obtain rfl : head = place := Option.some.inj atIndex
          rw [if_pos isUnvisited]
          exact List.mem_cons_self
      | succ index =>
          have inRest := @inductionHypothesis (start + 1) index atIndex
          rw [show start + (index + 1) = start + 1 + index by omega]
          split
          · exact List.mem_cons_of_mem _ inRest
          · exact inRest

/-- An unvisited sibling is found among the unvisited ones, with its index. -/
theorem exists_index_unvisited {visits : Visits} {places : List Place} {index : Nat}
    {place : Place} (atIndex : places[index]? = some place)
    (isUnvisited : visits.isUnvisited place.node = true) :
    ∃ among : Nat, (unvisited visits places)[among]? = some (index, place) ∧
      siblingIndex (unvisited visits places) among = index := by
  have member : (index, place) ∈ unvisited visits places := by
    have found := @exists_unvisitedFrom visits places 0 index place atIndex isUnvisited
    rwa [Nat.zero_add] at found
  obtain ⟨among, atAmong⟩ := List.mem_iff_getElem?.1 member
  exact ⟨among, atAmong, siblingIndex_eq atAmong⟩

theorem Policy.Follows.isMaximal {policy : Policy} {choice : Choice}
    (follows : policy.Follows choice) (maximal : choice.IsMaximal) : policy.IsMaximal := by
  intro outlook firstRoot secondRoot left right caches surveys index index' first second atLeft
    atRight mayPair
  obtain ⟨row, atRow, row_eq⟩ := exists_index_unvisited atLeft mayPair.firstUnvisited
  obtain ⟨column, atColumn, column_eq⟩ := exists_index_unvisited atRight mayPair.secondUnvisited
  have rowKeys : (outlook.unvisitedKeys .first left)[row]? = some (outlook.keys .first first.node) := by
    rw [Outlook.unvisitedKeys, List.getElem?_map]
    exact congrArg _ atRow
  have columnKeys : (outlook.unvisitedKeys .second right)[column]? =
      some (outlook.keys .second second.node) := by
    rw [Outlook.unvisitedKeys, List.getElem?_map]
    exact congrArg _ atColumn
  rw [(follows.pair_eq outlook _ _ left right caches surveys.leftIn surveys.rightIn
    surveys.sound).1, List.map_map, List.map_map]
  rcases maximal _ _ row column _ _ rowKeys columnKeys mayPair.signature with inRows | inColumns
  · obtain ⟨pair, member, pairRow⟩ := List.mem_map.1 inRows
    refine .inl (List.mem_map.2 ⟨pair, member, ?_⟩)
    rw [← row_eq, ← pairRow]
    rfl
  · obtain ⟨pair, member, pairColumn⟩ := List.mem_map.1 inColumns
    refine .inr (List.mem_map.2 ⟨pair, member, ?_⟩)
    rw [← column_eq, ← pairColumn]
    rfl

/-- First come, first served, or least cost by an exact solver. -/
inductive Policy.IsExact : Policy → Prop where
  | greedy : IsExact Policy.greedy
  | optimal (solve : Solver Rat) (exact : solve.IsExact) : IsExact (Policy.optimalWith solve)

theorem Policy.IsExact.offered {policy : Policy} (exact : policy.IsExact) : policy.Offered := by
  cases exact with
  | greedy => exact .greedy
  | optimal solve exact => exact .optimal solve exact.assignsOnce

theorem Policy.IsExact.choice {policy : Policy} (exact : policy.IsExact) :
    ∃ choice : Choice, choice.IsPairing ∧ choice.IsMaximal ∧ policy.Follows choice := by
  cases exact with
  | greedy => exact ⟨greedyChoice, greedyChoice_isPairing, greedyChoice_isMaximal, greedy_follows⟩
  | optimal solve exact =>
      exact ⟨optimalChoice solve, optimalChoice_isPairing exact.assignsOnce,
        optimalChoice_isMaximal exact, optimalWith_follows solve⟩

theorem Policy.IsExact.isMaximal {policy : Policy} (exact : policy.IsExact) :
    policy.IsMaximal := by
  obtain ⟨_, _, maximal, follows⟩ := exact.choice
  exact follows.isMaximal maximal

end XmlCollation.Compare
