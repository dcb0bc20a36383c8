import Mathlib.Algebra.Order.BigOperators.Group.List
import Mathlib.Data.List.ReduceOption
import XmlCollation.Proofs.Compare.Maximal

/-!
Contract: assignments of least cost among those that use no forbidden cell.

Owns:
- admissible pairs, which are allowed cells of different rows and columns, and optimal ones: no
  admissible pairs are more, and none that are as many cost less;
- what the guard is worth: among admissible pairs, each pair more makes up for costs up to the
  guard;
- where allowed costs lie so close together that nothing makes up for a pair, the pairs that are
  found are optimal; where no allowed cost is below the guard, they are the cheapest of their
  number;
- matrices on which they are not optimal.

Does not own: how a solver finds an assignment of a matrix without forbidden cells.
-/

namespace XmlCollation.Compare

namespace Assignment

/-! ## Admissible pairs -/

/-- Allowed cells, no row and no column twice. -/
structure IsAdmissible (matrix : List (List (Option Rat))) (pairs : List (Nat × Nat)) :
    Prop where
  allowed : ∀ pair ∈ pairs, isAllowed matrix pair = true
  rows_nodup : (pairs.map Prod.fst).Nodup
  columns_nodup : (pairs.map Prod.snd).Nodup

/-- The cost of pairs, in which a forbidden cell counts for nothing. -/
def allowedCost (matrix : List (List (Option Rat))) (pairs : List (Nat × Nat)) : Rat :=
  totalCost (guarded 0 matrix) pairs

/-- As many admissible pairs as there can be, at the least cost. -/
structure IsOptimal (matrix : List (List (Option Rat))) (pairs : List (Nat × Nat)) : Prop
    extends IsAdmissible matrix pairs where
  largest : ∀ others, IsAdmissible matrix others → others.length ≤ pairs.length
  cheapest : ∀ others, IsAdmissible matrix others → others.length = pairs.length →
    allowedCost matrix pairs ≤ allowedCost matrix others

/-- One pair more is worth what all the others can cost more: as many as there can be, each
dearer by the whole range of the allowed costs. -/
def IsNarrow (matrix : List (List (Option Rat))) (columns : Nat) : Prop :=
  ∀ low top, some low ∈ matrix.flatten → greatest matrix.flatten = some top →
    ((min matrix.length columns - 1 : Nat) : Rat) * (top - low) < top + 1

/-- No allowed cost lies above the guard. -/
def IsCovered (matrix : List (List (Option Rat))) : Prop :=
  ∀ top, greatest matrix.flatten = some top → -1 ≤ top

section Admissible

variable {matrix : List (List (Option Rat))} {columns : Nat} {pairs others spare : List (Nat × Nat)}
  {pair : Nat × Nat} {guard top low : Rat}

theorem IsAdmissible.sublist (admissible : IsAdmissible matrix others)
    (part : pairs.Sublist others) : IsAdmissible matrix pairs :=
  ⟨fun pair member => admissible.allowed pair (part.subset member),
    (part.map Prod.fst).nodup admissible.rows_nodup,
    (part.map Prod.snd).nodup admissible.columns_nodup⟩

/-- An allowed cell costs what the matrix says, whatever the guard. -/
theorem exists_cost_of_allowed (allowed : isAllowed matrix pair = true) :
    ∃ cost, some cost ∈ matrix.flatten ∧
      ∀ guard, cellCost (guarded guard matrix) pair = cost := by
  rw [isAllowed, Option.any_eq_true] at allowed
  obtain ⟨entry, atCell, isSome⟩ := allowed
  obtain ⟨cost, rfl⟩ := Option.isSome_iff_exists.1 isSome
  obtain ⟨costs, atRow, atColumn⟩ := Option.bind_eq_some_iff.1 atCell
  exact ⟨cost,
    List.mem_flatten.2 ⟨costs, List.mem_of_getElem? atRow, List.mem_of_getElem? atColumn⟩,
    fun guard => cellCost_guarded atRow atColumn⟩

theorem inRange_of_allowed (rectangular : ∀ costs ∈ matrix, costs.length = columns)
    (allowed : isAllowed matrix pair = true) : pair.1 < matrix.length ∧ pair.2 < columns := by
  rw [isAllowed, Option.any_eq_true] at allowed
  obtain ⟨entry, atCell, _⟩ := allowed
  obtain ⟨costs, atRow, atColumn⟩ := Option.bind_eq_some_iff.1 atCell
  rw [← rectangular costs (List.mem_of_getElem? atRow)]
  exact ⟨(List.getElem?_eq_some_iff.1 atRow).1, (List.getElem?_eq_some_iff.1 atColumn).1⟩

/-- Admissible pairs cost the same whatever the guard. -/
theorem IsAdmissible.totalCost_guarded (admissible : IsAdmissible matrix pairs) (guard : Rat) :
    totalCost (guarded guard matrix) pairs = allowedCost matrix pairs := by
  refine congrArg List.sum (List.map_congr_left fun pair member => ?_)
  obtain ⟨cost, _, cell_eq⟩ := exists_cost_of_allowed (admissible.allowed pair member)
  rw [cell_eq, cell_eq]

/-- What admissible pairs cost stands in the matrix. -/
theorem IsAdmissible.mem_matrix (admissible : IsAdmissible matrix pairs) :
    ∀ cost ∈ pairs.map (cellCost (guarded 0 matrix)), some cost ∈ matrix.flatten := by
  intro cost member
  obtain ⟨pair, inPairs, rfl⟩ := List.mem_map.1 member
  obtain ⟨cost, inMatrix, cell_eq⟩ := exists_cost_of_allowed (admissible.allowed pair inPairs)
  rw [cell_eq]
  exact inMatrix

theorem IsAdmissible.allowedCost_le (admissible : IsAdmissible matrix pairs)
    (bounded : ∀ cost, some cost ∈ matrix.flatten → cost ≤ top) :
    allowedCost matrix pairs ≤ pairs.length * top := by
  have atMost := List.sum_le_card_nsmul _ _ fun cost member =>
    bounded cost (admissible.mem_matrix cost member)
  rwa [List.length_map, nsmul_eq_mul] at atMost

theorem IsAdmissible.le_allowedCost (admissible : IsAdmissible matrix pairs)
    (bounded : ∀ cost, some cost ∈ matrix.flatten → low ≤ cost) :
    pairs.length * low ≤ allowedCost matrix pairs := by
  have atLeast := List.card_nsmul_le_sum _ _ fun cost member =>
    bounded cost (admissible.mem_matrix cost member)
  rwa [List.length_map, nsmul_eq_mul] at atLeast

/-- Admissible pairs are part of a complete assignment. -/
theorem IsAdmissible.exists_complete (admissible : IsAdmissible matrix pairs)
    (rectangular : ∀ costs ∈ matrix, costs.length = columns) :
    ∃ spare, IsComplete matrix.length columns (pairs ++ spare) :=
  exists_append_isComplete
    (fun pair member => inRange_of_allowed rectangular (admissible.allowed pair member))
    admissible.rows_nodup admissible.columns_nodup

/-- In a guarded matrix, pairs cost what is allowed of them costs, and the guard for each of the
others. -/
theorem totalCost_filter_allowed (rectangular : ∀ costs ∈ matrix, costs.length = columns)
    (inRange : ∀ pair ∈ pairs, pair.1 < matrix.length ∧ pair.2 < columns) :
    totalCost (guarded guard matrix) pairs + guard * (pairs.filter (isAllowed matrix)).length =
      totalCost (guarded guard matrix) (pairs.filter (isAllowed matrix)) +
        guard * pairs.length := by
  induction pairs with
  | nil => rfl
  | cons pair rest inductionHypothesis =>
      have there := inductionHypothesis fun other member =>
        inRange other (List.mem_cons_of_mem _ member)
      have here := inRange pair List.mem_cons_self
      rw [totalCost_cons, List.length_cons, Nat.cast_add, Nat.cast_one]
      by_cases allowed : isAllowed matrix pair = true
      · rw [List.filter_cons_of_pos allowed, totalCost_cons, List.length_cons, Nat.cast_add,
          Nat.cast_one]
        linarith
      · have cell_eq : cellCost (guarded guard matrix) pair = guard :=
          cellCost_of_forbidden rectangular here.1 here.2 allowed
        rw [List.filter_cons_of_neg allowed, cell_eq]
        linarith

/-- No cell in range costs more than a guard that covers the allowed costs. -/
theorem totalCost_le_guard (rectangular : ∀ costs ∈ matrix, costs.length = columns)
    (covered : ∀ cost, some cost ∈ matrix.flatten → cost ≤ guard)
    (inRange : ∀ pair ∈ spare, pair.1 < matrix.length ∧ pair.2 < columns) :
    totalCost (guarded guard matrix) spare ≤ spare.length * guard := by
  have each : ∀ cost ∈ spare.map (cellCost (guarded guard matrix)), cost ≤ guard := by
    intro cost member
    obtain ⟨pair, inSpare, rfl⟩ := List.mem_map.1 member
    by_cases allowed : isAllowed matrix pair = true
    · obtain ⟨cost, inMatrix, cell_eq⟩ := exists_cost_of_allowed allowed
      rw [cell_eq]
      exact covered cost inMatrix
    · have here := inRange pair inSpare
      exact (cellCost_of_forbidden rectangular here.1 here.2 allowed).le
  have atMost := List.sum_le_card_nsmul _ _ each
  rwa [List.length_map, nsmul_eq_mul] at atMost

end Admissible

/-! ## What the guard is worth -/

/-- Against other admissible pairs, each pair more makes up for a cost up to the guard. -/
def Trades (matrix : List (List (Option Rat))) (guard : Rat) (pairs : List (Nat × Nat)) : Prop :=
  ∀ others, IsAdmissible matrix others →
    allowedCost matrix pairs + guard * others.length ≤
      allowedCost matrix others + guard * pairs.length

section Trading

variable {matrix : List (List (Option Rat))} {columns : Nat} {pairs others : List (Nat × Nat)}
  {guard top : Rat}

theorem le_greatest (greatest_eq : greatest matrix.flatten = some top) {cost : Rat}
    (member : some cost ∈ matrix.flatten) : cost ≤ top := by
  obtain ⟨top', greatest_eq', cost_le⟩ := exists_greatest member
  exact Option.some.inj (greatest_eq'.symm.trans greatest_eq) ▸ cost_le

theorem exists_lowest {cells : List (Option Rat)} {cost : Rat} (member : some cost ∈ cells) :
    ∃ low, some low ∈ cells ∧ ∀ other, some other ∈ cells → low ≤ other := by
  cases lowest : cells.reduceOption.argmin id with
  | none =>
      have inCosts := List.reduceOption_mem_iff.2 member
      rw [List.argmin_eq_none.1 lowest] at inCosts
      cases inCosts
  | some low =>
      exact ⟨low, List.reduceOption_mem_iff.1 (List.argmin_mem lowest), fun other inCells =>
        List.le_of_mem_argmin (List.reduceOption_mem_iff.2 inCells) lowest⟩

/-- What is allowed of a least assignment trades at the guard: other admissible pairs are completed
by cells that cost no more than the guard each. -/
theorem IsLeast.trades {found : List (Nat × Nat)}
    (least : IsLeast (guarded guard matrix) columns found)
    (rectangular : ∀ costs ∈ matrix, costs.length = columns)
    (covered : ∀ cost, some cost ∈ matrix.flatten → cost ≤ guard)
    (admissible : IsAdmissible matrix pairs) (perm : pairs.Perm (found.filter (isAllowed matrix))) :
    Trades matrix guard pairs := by
  intro others othersAdmissible
  obtain ⟨spare, complete⟩ := othersAdmissible.exists_complete rectangular
  have foundComplete := least.complete
  have cheapest := least.least (others ++ spare) (by rwa [length_guarded])
  rw [length_guarded] at foundComplete
  rw [totalCost_append, othersAdmissible.totalCost_guarded] at cheapest
  have spareCost := totalCost_le_guard rectangular covered fun pair member =>
    complete.inRange pair (List.mem_append_right _ member)
  have foundCost := @totalCost_filter_allowed matrix columns found guard rectangular
    foundComplete.inRange
  rw [← totalCost_perm _ perm, ← perm.length_eq, admissible.totalCost_guarded] at foundCost
  have sameLength : (found.length : Rat) = others.length + spare.length := by
    rw [foundComplete.length_eq, ← complete.length_eq, List.length_append, Nat.cast_add]
  rw [sameLength] at foundCost
  linarith

theorem Trades.cheapest (trades : Trades matrix guard pairs)
    (admissible : IsAdmissible matrix others) (sameLength : others.length = pairs.length) :
    allowedCost matrix pairs ≤ allowedCost matrix others := by
  have traded := trades others admissible
  rw [sameLength] at traded
  linarith

/-- If one pair more is worth what all the others can cost more, there are no more admissible
pairs. -/
theorem Trades.largest (trades : Trades matrix (guardCost top) pairs)
    (rectangular : ∀ costs ∈ matrix, costs.length = columns)
    (greatest_eq : greatest matrix.flatten = some top) (narrow : IsNarrow matrix columns)
    (admissible : IsAdmissible matrix pairs) (othersAdmissible : IsAdmissible matrix others) :
    others.length ≤ pairs.length := by
  by_contra more
  rw [Nat.not_le] at more
  obtain ⟨low, lowInMatrix, lowest⟩ := exists_lowest (mem_of_greatest_eq greatest_eq)
  -- One pair more is enough: the rest of the others is left out.
  let few := others.take (pairs.length + 1)
  have fewAdmissible : IsAdmissible matrix few := othersAdmissible.sublist (List.take_sublist _ _)
  have fewLength : (few.length : Rat) = pairs.length + 1 := by
    rw [List.length_take_of_le more, Nat.cast_succ]
  obtain ⟨spare, complete⟩ := othersAdmissible.exists_complete rectangular
  have fits : pairs.length ≤ min matrix.length columns - 1 := by
    have sameLength := complete.length_eq
    rw [List.length_append] at sameLength
    omega
  have dear : allowedCost matrix few ≤ few.length * top :=
    fewAdmissible.allowedCost_le fun _ => le_greatest greatest_eq
  have cheap : pairs.length * low ≤ allowedCost matrix pairs := admissible.le_allowedCost lowest
  have dearer : (pairs.length : Rat) * (top - low) < top + 1 :=
    lt_of_le_of_lt (mul_le_mul_of_nonneg_right (Nat.cast_le.2 fits)
      (sub_nonneg.2 (le_greatest greatest_eq lowInMatrix))) (narrow low top lowInMatrix greatest_eq)
  have traded := trades few fewAdmissible
  have guard_eq : guardCost top = top * 2 + 1 := rfl
  rw [fewLength, guard_eq] at traded
  rw [fewLength] at dear
  linarith

/-- Where costs are that close together, none of them lies above the guard. -/
theorem IsNarrow.isCovered (narrow : IsNarrow matrix columns) : IsCovered matrix := by
  intro top greatest_eq
  have closeTogether := narrow top top (mem_of_greatest_eq greatest_eq) greatest_eq
  rw [sub_self, mul_zero] at closeTogether
  linarith

end Trading

/-! ## What is found -/

section Found

variable {matrix : List (List (Option Rat))} {columns : Nat}

/-- If every cell is forbidden, there are no admissible pairs. -/
theorem isOptimal_nil (nothing : greatest matrix.flatten = none) : IsOptimal matrix [] := by
  have noPairs (others : List (Nat × Nat)) (admissible : IsAdmissible matrix others) :
      others = [] := by
    refine List.eq_nil_iff_forall_not_mem.2 fun pair member => ?_
    obtain ⟨cost, inMatrix, _⟩ := exists_cost_of_allowed (admissible.allowed pair member)
    obtain ⟨top, isTop, _⟩ := exists_greatest inMatrix
    cases nothing.symm.trans isTop
  refine ⟨⟨by simp, .nil, .nil⟩, ?_, ?_⟩
  · intro others admissible
    rw [noPairs others admissible]
  · intro others admissible _
    rw [noPairs others admissible]

/-- An exact solver finds admissible pairs for every rectangular matrix, in the order of their
rows.  If no allowed cost lies above the guard, they are the cheapest of their number.  If the
allowed costs are so close together that one pair more is worth what all the others can cost more,
there are no more pairs either. -/
theorem exists_minimumCost_isOptimal {solve : Solver Rat} (exact : solve.IsExact)
    (rectangular : ∀ costs ∈ matrix, costs.length = columns) :
    ∃ pairs, minimumCost solve matrix = .ok pairs ∧
      (pairs.map Prod.fst).Pairwise (· < ·) ∧ IsAdmissible matrix pairs ∧
      (IsCovered matrix → ∀ others, IsAdmissible matrix others → others.length = pairs.length →
        allowedCost matrix pairs ≤ allowedCost matrix others) ∧
      (IsNarrow matrix columns → IsOptimal matrix pairs) := by
  cases greatest_eq : greatest matrix.flatten with
  | none =>
      have solved : minimumCost solve matrix = .ok [] := by rw [minimumCost, greatest_eq]
      have optimal := isOptimal_nil greatest_eq
      exact ⟨[], solved, .nil, optimal.toIsAdmissible, fun _ => optimal.cheapest, fun _ => optimal⟩
  | some top =>
      obtain ⟨found, least, solved⟩ := exists_least_of_greatest exact rectangular greatest_eq
      have perm := sortPairs_perm (found.filter (isAllowed matrix))
      generalize sortPairs (found.filter (isAllowed matrix)) = pairs at solved perm
      obtain ⟨allowed, rowsOnce, columnsOnce⟩ :=
        minimumCost_pairs exact.assignsOnce rectangular solved
      have admissible : IsAdmissible matrix pairs := ⟨allowed, rowsOnce, columnsOnce⟩
      have trades (covered : IsCovered matrix) : Trades matrix (guardCost top) pairs := by
        refine least.trades rectangular (fun cost member => ?_) admissible perm
        have cost_le : cost ≤ top := le_greatest greatest_eq member
        have above : -1 ≤ top := covered top greatest_eq
        show cost ≤ top * 2 + 1
        linarith
      refine ⟨pairs, solved, minimumCost_ascends exact.assignsOnce rectangular solved, admissible,
        fun covered others => (trades covered).cheapest, fun narrow => ?_⟩
      exact ⟨admissible,
        fun others => (trades narrow.isCovered).largest rectangular greatest_eq narrow admissible,
        fun others => (trades narrow.isCovered).cheapest⟩

end Found

/-- A row and a column that can be joined in two ways, and a column that cannot be joined. -/
theorem minimumCost_forced :
    Solver.IsExact exhaustive ∧ IsNarrow [[some 0, none], [some 5, none]] 2 ∧
      minimumCost exhaustive [[some 0, none], [some 5, none]] = .ok [(0, 0)] ∧
      IsOptimal [[some 0, none], [some 5, none]] [(0, 0)] := by
  have narrow : IsNarrow [[some 0, none], [some 5, none]] 2 := by
    intro low top lowInMatrix greatest_eq
    have isGreatest : greatest [some (0 : Rat), none, some 5, none] = some 5 := by decide +kernel
    obtain rfl : (5 : Rat) = top := Option.some.inj (isGreatest.symm.trans greatest_eq)
    have isLow : low = 0 ∨ low = 5 := by simpa using lowInMatrix
    rcases isLow with rfl | rfl <;> norm_num
  obtain ⟨pairs, solved, _, _, _, optimal⟩ :=
    @exists_minimumCost_isOptimal [[some 0, none], [some 5, none]] 2 _ exhaustive_isExact (by simp)
  have pairs_eq : minimumCost exhaustive [[some 0, none], [some 5, none]] = .ok [(0, 0)] := by
    decide +kernel
  obtain rfl : pairs = [(0, 0)] := Except.ok.inj (solved.symm.trans pairs_eq)
  exact ⟨exhaustive_isExact, narrow, pairs_eq, optimal narrow⟩

/-- If costs are negative, the guard lies below them, and a forbidden cell is cheaper than the only
allowed one.  If they lie far apart, two cheap pairs and the guard are cheaper than three. -/
theorem not_isOptimal_minimumCost :
    Solver.IsExact exhaustive ∧
      minimumCost exhaustive [[some (-5), none]] = .ok [] ∧
      ¬IsOptimal [[some (-5), none]] [] ∧
      minimumCost exhaustive
          [[some 2, some 0, none], [none, some 2, some 0], [none, none, some 2]] =
        .ok [(0, 1), (1, 2)] ∧
      ¬IsOptimal [[some 2, some 0, none], [none, some 2, some 0], [none, none, some 2]]
        [(0, 1), (1, 2)] := by
  refine ⟨exhaustive_isExact, by decide +kernel, fun optimal => ?_, by decide +kernel,
    fun optimal => ?_⟩
  · have admissible : IsAdmissible [[some (-5), none]] [(0, 0)] :=
      ⟨by decide +kernel, by decide, by decide⟩
    exact absurd (optimal.largest _ admissible) (by decide)
  · have admissible : IsAdmissible
        [[some 2, some 0, none], [none, some 2, some 0], [none, none, some 2]]
        [(0, 0), (1, 1), (2, 2)] :=
      ⟨by decide +kernel, by decide, by decide⟩
    exact absurd (optimal.largest _ admissible) (by decide)

end Assignment

end XmlCollation.Compare
