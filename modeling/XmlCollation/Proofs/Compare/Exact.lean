import Mathlib.Algebra.Order.Ring.Rat
import Mathlib.Algebra.BigOperators.Group.List.Basic
import Mathlib.Data.List.MinMax
import Mathlib.Data.List.Perm.Subperm
import Mathlib.Data.List.Sublists
import Mathlib.Tactic.Linarith
import XmlCollation.Proofs.Compare.LeastCost

/-!
Contract: exact assignments.

Owns:
- total costs in exact arithmetic, and complete assignments: as many pairs as rows or
  columns allow, none of them twice, to which fewer pairs can always be extended;
- solvers that find a complete assignment of least total cost, one that tries all, and ones
  that break ties in favour of a given assignment;
- exchanges of cells, by which such a solver leaves no allowed cell of a free row and a
  free column, since a guarded cell costs more than any allowed one.

Does not own: what the costs mean.
-/

namespace XmlCollation.Compare

namespace Assignment

/-! ## Free indexes -/

/-- The indexes in range that are not taken. -/
def freeIndexes (bound : Nat) (taken : List Nat) : List Nat :=
  (List.range bound).filter fun index => decide (index ∉ taken)

section Free

variable {bound index : Nat} {taken : List Nat}

theorem mem_freeIndexes : index ∈ freeIndexes bound taken ↔ index < bound ∧ index ∉ taken := by
  rw [freeIndexes, List.mem_filter, List.mem_range, decide_eq_true_iff]

/-- The indexes that are taken and the free ones are all there are. -/
theorem perm_append_freeIndexes (once : taken.Nodup) (inRange : ∀ index ∈ taken, index < bound) :
    (taken ++ freeIndexes bound taken).Perm (List.range bound) := by
  have freeOnce : (freeIndexes bound taken).Nodup := List.nodup_range.filter _
  have disjoint : taken.Disjoint (freeIndexes bound taken) := fun _ inTaken free =>
    (mem_freeIndexes.1 free).2 inTaken
  refine (List.perm_ext_iff_of_nodup (once.append freeOnce disjoint) List.nodup_range).2
    fun index => ?_
  rw [List.mem_append, mem_freeIndexes, List.mem_range]
  constructor
  · rintro (inTaken | free)
    · exact inRange index inTaken
    · exact free.1
  · intro below
    by_cases inTaken : index ∈ taken
    · exact .inl inTaken
    · exact .inr ⟨below, inTaken⟩

theorem length_add_freeIndexes (once : taken.Nodup) (inRange : ∀ index ∈ taken, index < bound) :
    taken.length + (freeIndexes bound taken).length = bound := by
  have sameLength := (perm_append_freeIndexes once inRange).length_eq
  rwa [List.length_append, List.length_range] at sameLength

end Free

/-! ## Complete assignments -/

/-- The cost of a cell; there is none outside of the matrix. -/
def cellCost (matrix : List (List Rat)) (pair : Nat × Nat) : Rat :=
  ((matrix[pair.1]?).bind (·[pair.2]?)).getD 0

def totalCost (matrix : List (List Rat)) (pairs : List (Nat × Nat)) : Rat :=
  (pairs.map (cellCost matrix)).sum

theorem totalCost_cons (matrix : List (List Rat)) (pair : Nat × Nat) (rest : List (Nat × Nat)) :
    totalCost matrix (pair :: rest) = cellCost matrix pair + totalCost matrix rest :=
  List.sum_cons

theorem totalCost_append (matrix : List (List Rat)) (pairs others : List (Nat × Nat)) :
    totalCost matrix (pairs ++ others) = totalCost matrix pairs + totalCost matrix others := by
  rw [totalCost, List.map_append, List.sum_append, totalCost, totalCost]

theorem totalCost_perm (matrix : List (List Rat)) {pairs others : List (Nat × Nat)}
    (perm : pairs.Perm others) : totalCost matrix pairs = totalCost matrix others :=
  (perm.map (cellCost matrix)).sum_eq

/-- As many pairs as there are rows, or columns if these are fewer, and no row and no
column twice. -/
structure IsComplete (rows columns : Nat) (pairs : List (Nat × Nat)) : Prop where
  length_eq : pairs.length = min rows columns
  inRange : ∀ pair ∈ pairs, pair.1 < rows ∧ pair.2 < columns
  rows_nodup : (pairs.map Prod.fst).Nodup
  columns_nodup : (pairs.map Prod.snd).Nodup

theorem isComplete_iff {rows columns : Nat} {pairs : List (Nat × Nat)} :
    IsComplete rows columns pairs ↔
      pairs.length = min rows columns ∧ (∀ pair ∈ pairs, pair.1 < rows ∧ pair.2 < columns) ∧
        (pairs.map Prod.fst).Nodup ∧ (pairs.map Prod.snd).Nodup :=
  ⟨fun complete => ⟨complete.1, complete.2, complete.3, complete.4⟩,
    fun ⟨length_eq, inRange, once, columnsOnce⟩ => ⟨length_eq, inRange, once, columnsOnce⟩⟩

instance (rows columns : Nat) (pairs : List (Nat × Nat)) :
    Decidable (IsComplete rows columns pairs) :=
  decidable_of_iff _ isComplete_iff.symm

section Complete

variable {rows columns : Nat} {pairs rest : List (Nat × Nat)} {row row' column column' : Nat}

theorem IsComplete.rows_lt (complete : IsComplete rows columns pairs) :
    ∀ index ∈ pairs.map Prod.fst, index < rows := by
  simpa using fun row column member => (complete.inRange (row, column) member).1

theorem IsComplete.columns_lt (complete : IsComplete rows columns pairs) :
    ∀ index ∈ pairs.map Prod.snd, index < columns := by
  simpa using fun column row member => (complete.inRange (row, column) member).2

theorem IsComplete.perm {others : List (Nat × Nat)} (complete : IsComplete rows columns pairs)
    (perm : pairs.Perm others) : IsComplete rows columns others :=
  ⟨perm.length_eq ▸ complete.length_eq,
    fun pair member => complete.inRange pair (perm.mem_iff.2 member),
    (perm.map Prod.fst).nodup_iff.1 complete.rows_nodup,
    (perm.map Prod.snd).nodup_iff.1 complete.columns_nodup⟩

/-- A row may change to a free column. -/
theorem IsComplete.moveColumn (complete : IsComplete rows columns ((row, column') :: rest))
    (inRange : column < columns) (free : column ∉ rest.map Prod.snd) :
    IsComplete rows columns ((row, column) :: rest) := by
  refine ⟨complete.length_eq, ?_, complete.rows_nodup, ?_⟩
  · intro pair member
    rcases List.mem_cons.1 member with rfl | inRest
    · exact ⟨(complete.inRange _ List.mem_cons_self).1, inRange⟩
    · exact complete.inRange pair (List.mem_cons_of_mem _ inRest)
  · exact List.nodup_cons.2 ⟨free, (List.nodup_cons.1 complete.columns_nodup).2⟩

/-- A column may change to a free row. -/
theorem IsComplete.moveRow (complete : IsComplete rows columns ((row', column) :: rest))
    (inRange : row < rows) (free : row ∉ rest.map Prod.fst) :
    IsComplete rows columns ((row, column) :: rest) := by
  refine ⟨complete.length_eq, ?_, ?_, complete.columns_nodup⟩
  · intro pair member
    rcases List.mem_cons.1 member with rfl | inRest
    · exact ⟨inRange, (complete.inRange _ List.mem_cons_self).2⟩
    · exact complete.inRange pair (List.mem_cons_of_mem _ inRest)
  · exact List.nodup_cons.2 ⟨free, (List.nodup_cons.1 complete.rows_nodup).2⟩

/-- Two rows may exchange their columns. -/
theorem IsComplete.exchange
    (complete : IsComplete rows columns ((row, column') :: (row', column) :: rest)) :
    IsComplete rows columns ((row, column) :: (row', column') :: rest) := by
  refine ⟨complete.length_eq, ?_, complete.rows_nodup, ?_⟩
  · intro pair member
    have here := complete.inRange (row, column') (by simp)
    have there := complete.inRange (row', column) (by simp)
    rcases List.mem_cons.1 member with rfl | others
    · exact ⟨here.1, there.2⟩
    · rcases List.mem_cons.1 others with rfl | inRest
      · exact ⟨there.1, here.2⟩
      · exact complete.inRange pair (by simp [inRest])
  · exact (List.Perm.swap column column' (rest.map Prod.snd)).nodup_iff.1 complete.columns_nodup

/-- Either every row has a column, or every column has a row. -/
theorem IsComplete.mem_or_mem (complete : IsComplete rows columns pairs) (rowIn : row < rows)
    (columnIn : column < columns) :
    row ∈ pairs.map Prod.fst ∨ column ∈ pairs.map Prod.snd := by
  by_contra neither
  rw [not_or] at neither
  have freeRow : row ∈ freeIndexes rows (pairs.map Prod.fst) := mem_freeIndexes.2 ⟨rowIn, neither.1⟩
  have freeColumn : column ∈ freeIndexes columns (pairs.map Prod.snd) :=
    mem_freeIndexes.2 ⟨columnIn, neither.2⟩
  have rowCount := length_add_freeIndexes complete.rows_nodup complete.rows_lt
  have columnCount := length_add_freeIndexes complete.columns_nodup complete.columns_lt
  have someRow := List.length_pos_of_mem freeRow
  have someColumn := List.length_pos_of_mem freeColumn
  rw [List.length_map, complete.length_eq] at rowCount columnCount
  omega

/-- Pairs in range, none of them twice, are part of a complete assignment. -/
theorem exists_append_isComplete (inRange : ∀ pair ∈ pairs, pair.1 < rows ∧ pair.2 < columns)
    (rowsOnce : (pairs.map Prod.fst).Nodup) (columnsOnce : (pairs.map Prod.snd).Nodup) :
    ∃ spare, IsComplete rows columns (pairs ++ spare) := by
  have rows_lt : ∀ index ∈ pairs.map Prod.fst, index < rows := by
    simpa using fun row column member => (inRange (row, column) member).1
  have columns_lt : ∀ index ∈ pairs.map Prod.snd, index < columns := by
    simpa using fun column row member => (inRange (row, column) member).2
  have rowCount := length_add_freeIndexes rowsOnce rows_lt
  have columnCount := length_add_freeIndexes columnsOnce columns_lt
  rw [List.length_map] at rowCount columnCount
  let few := min rows columns - pairs.length
  let freeRows := (freeIndexes rows (pairs.map Prod.fst)).take few
  let freeColumns := (freeIndexes columns (pairs.map Prod.snd)).take few
  have rowsLength : freeRows.length = few := by
    rw [List.length_take]
    omega
  have columnsLength : freeColumns.length = few := by
    rw [List.length_take]
    omega
  refine ⟨freeRows.zip freeColumns, ?_, ?_, ?_, ?_⟩
  · rw [List.length_append, List.length_zip, rowsLength, columnsLength]
    omega
  · rintro ⟨row, column⟩ member
    rcases List.mem_append.1 member with inPairs | inSpare
    · exact inRange _ inPairs
    · obtain ⟨inRows, inColumns⟩ := List.of_mem_zip inSpare
      exact ⟨(mem_freeIndexes.1 (List.mem_of_mem_take inRows)).1,
        (mem_freeIndexes.1 (List.mem_of_mem_take inColumns)).1⟩
  · rw [List.map_append, List.map_fst_zip (rowsLength.trans columnsLength.symm).le]
    exact ((List.Sublist.refl _).append (List.take_sublist _ _)).nodup
      ((perm_append_freeIndexes rowsOnce rows_lt).nodup_iff.2 List.nodup_range)
  · rw [List.map_append, List.map_snd_zip (columnsLength.trans rowsLength.symm).le]
    exact ((List.Sublist.refl _).append (List.take_sublist _ _)).nodup
      ((perm_append_freeIndexes columnsOnce columns_lt).nodup_iff.2 List.nodup_range)

end Complete

/-! ## Least total cost -/

/-- A complete assignment, and no other one costs less. -/
structure IsLeast (matrix : List (List Rat)) (columns : Nat) (pairs : List (Nat × Nat)) :
    Prop where
  complete : IsComplete matrix.length columns pairs
  least : ∀ others, IsComplete matrix.length columns others →
    totalCost matrix pairs ≤ totalCost matrix others

/-- A cell costs less than each cell of its row or column that is not favoured, and with
the opposite cell less than two such cells. -/
structure Favours (matrix : List (List Rat)) (columns row column : Nat)
    (favoured : Nat × Nat → Prop) : Prop where
  inRow : ∀ column' < columns, ¬favoured (row, column') →
    cellCost matrix (row, column) < cellCost matrix (row, column')
  inColumn : ∀ row' < matrix.length, ¬favoured (row', column) →
    cellCost matrix (row, column) < cellCost matrix (row', column)
  crossed : ∀ row' column', row' < matrix.length → column' < columns →
    ¬favoured (row, column') → ¬favoured (row', column) →
      cellCost matrix (row, column) + cellCost matrix (row', column') <
        cellCost matrix (row, column') + cellCost matrix (row', column)

section Least

variable {matrix : List (List Rat)} {columns : Nat} {pairs rest : List (Nat × Nat)}
  {row row' column column' : Nat}

theorem IsLeast.perm {others : List (Nat × Nat)} (least : IsLeast matrix columns pairs)
    (perm : pairs.Perm others) : IsLeast matrix columns others :=
  ⟨least.complete.perm perm, fun other complete =>
    totalCost_perm matrix perm ▸ least.least other complete⟩

theorem IsLeast.le_of_free_column (least : IsLeast matrix columns ((row, column') :: rest))
    (inRange : column < columns) (free : column ∉ rest.map Prod.snd) :
    cellCost matrix (row, column') ≤ cellCost matrix (row, column) := by
  have cheaper := least.least _ (least.complete.moveColumn inRange free)
  rw [totalCost_cons, totalCost_cons] at cheaper
  linarith

theorem IsLeast.le_of_free_row (least : IsLeast matrix columns ((row', column) :: rest))
    (inRange : row < matrix.length) (free : row ∉ rest.map Prod.fst) :
    cellCost matrix (row', column) ≤ cellCost matrix (row, column) := by
  have cheaper := least.least _ (least.complete.moveRow inRange free)
  rw [totalCost_cons, totalCost_cons] at cheaper
  linarith

theorem IsLeast.le_of_exchange
    (least : IsLeast matrix columns ((row, column') :: (row', column) :: rest)) :
    cellCost matrix (row, column') + cellCost matrix (row', column) ≤
      cellCost matrix (row, column) + cellCost matrix (row', column') := by
  have cheaper := least.least _ least.complete.exchange
  rw [totalCost_cons, totalCost_cons, totalCost_cons, totalCost_cons] at cheaper
  linarith

/-- If a cell favours some pairs, its row or its column has such a pair. -/
theorem IsLeast.exists_favoured (least : IsLeast matrix columns pairs)
    {favoured : Nat × Nat → Prop} (favours : Favours matrix columns row column favoured)
    (rowIn : row < matrix.length) (columnIn : column < columns) :
    ∃ pair ∈ pairs, (pair.1 = row ∨ pair.2 = column) ∧ favoured pair := by
  by_contra none
  have notFavoured (pair : Nat × Nat) (member : pair ∈ pairs)
      (touches : pair.1 = row ∨ pair.2 = column) : ¬favoured pair :=
    fun isFavoured => none ⟨pair, member, touches, isFavoured⟩
  by_cases hasRow : row ∈ pairs.map Prod.fst
  · obtain ⟨⟨row₁, column'⟩, rowMember, atRow⟩ := List.mem_map.1 hasRow
    obtain rfl : row₁ = row := atRow
    have rowPlain := notFavoured _ rowMember (.inl rfl)
    have columnIn' := (least.complete.inRange _ rowMember).2
    have rowFirst := least.perm (List.perm_cons_erase rowMember)
    by_cases hasColumn : column ∈ (pairs.erase (row₁, column')).map Prod.snd
    · obtain ⟨⟨row', column₁⟩, columnMember, atColumn⟩ := List.mem_map.1 hasColumn
      obtain rfl : column₁ = column := atColumn
      have inPairs := List.mem_of_mem_erase columnMember
      have columnPlain := notFavoured _ inPairs (.inr rfl)
      have bothFirst := rowFirst.perm ((List.perm_cons_erase columnMember).cons _)
      have dearer := favours.crossed row' column' (least.complete.inRange _ inPairs).1 columnIn'
        rowPlain columnPlain
      exact absurd bothFirst.le_of_exchange (not_le_of_gt dearer)
    · exact absurd (rowFirst.le_of_free_column columnIn hasColumn)
        (not_le_of_gt (favours.inRow column' columnIn' rowPlain))
  · rcases least.complete.mem_or_mem rowIn columnIn with inRows | inColumns
    · exact hasRow inRows
    · obtain ⟨⟨row', column₁⟩, columnMember, atColumn⟩ := List.mem_map.1 inColumns
      obtain rfl : column₁ = column := atColumn
      have columnPlain := notFavoured _ columnMember (.inr rfl)
      have free : row ∉ (pairs.erase (row', column₁)).map Prod.fst := by
        intro inRest
        obtain ⟨pair, member, atRow⟩ := List.mem_map.1 inRest
        exact hasRow (List.mem_map.2 ⟨pair, List.mem_of_mem_erase member, atRow⟩)
      have moved := (least.perm (List.perm_cons_erase columnMember)).le_of_free_row rowIn free
      exact absurd moved
        (not_le_of_gt (favours.inColumn row' (least.complete.inRange _ columnMember).1 columnPlain))

end Least

/-! ## Trying all assignments -/

/-- All cells of a matrix. -/
def cells (rows columns : Nat) : List (Nat × Nat) :=
  (List.range rows).flatMap fun row => (List.range columns).map fun column => (row, column)

theorem mem_cells {rows columns : Nat} {pair : Nat × Nat} :
    pair ∈ cells rows columns ↔ pair.1 < rows ∧ pair.2 < columns := by
  obtain ⟨row, column⟩ := pair
  simp [cells]

theorem cells_nodup (rows columns : Nat) : (cells rows columns).Nodup := by
  refine List.nodup_flatMap.2 ⟨?_, ?_⟩
  · intro row _
    exact List.nodup_range.map fun _ _ same => (Prod.mk.inj same).2
  · refine List.nodup_range.imp fun different pair inRow inOther => different ?_
    obtain ⟨_, _, rfl⟩ := List.mem_map.1 inRow
    obtain ⟨_, _, same⟩ := List.mem_map.1 inOther
    exact (Prod.mk.inj same).1.symm

/-- The complete assignments, each in one order. -/
def completeAssignments (rows columns : Nat) : List (List (Nat × Nat)) :=
  (cells rows columns).sublists.filter fun pairs => decide (IsComplete rows columns pairs)

theorem mem_completeAssignments {rows columns : Nat} {pairs : List (Nat × Nat)} :
    pairs ∈ completeAssignments rows columns ↔
      pairs.Sublist (cells rows columns) ∧ IsComplete rows columns pairs := by
  rw [completeAssignments, List.mem_filter, List.mem_sublists, decide_eq_true_iff]

/-- Every complete assignment is one of those, in some order. -/
theorem IsComplete.exists_perm {rows columns : Nat} {pairs : List (Nat × Nat)}
    (complete : IsComplete rows columns pairs) :
    ∃ others ∈ completeAssignments rows columns, pairs.Perm others := by
  have perm : pairs.Perm ((cells rows columns).filter fun pair => decide (pair ∈ pairs)) := by
    refine (List.perm_ext_iff_of_nodup (List.Nodup.of_map Prod.fst complete.rows_nodup)
      ((cells_nodup rows columns).filter _)).2 fun pair => ?_
    rw [List.mem_filter, decide_eq_true_iff, mem_cells]
    exact (and_iff_right_of_imp (complete.inRange pair)).symm
  exact ⟨_, mem_completeAssignments.2 ⟨List.filter_sublist, complete.perm perm⟩, perm⟩

theorem exists_isComplete (rows columns : Nat) : ∃ pairs, IsComplete rows columns pairs := by
  refine ⟨(List.range (min rows columns)).map fun index => (index, index), ?_, ?_, ?_, ?_⟩
  · rw [List.length_map, List.length_range]
  · intro pair member
    obtain ⟨index, inRange, rfl⟩ := List.mem_map.1 member
    have below := List.mem_range.1 inRange
    show index < rows ∧ index < columns
    omega
  · rw [List.map_map]
    exact List.nodup_range.map fun _ _ same => same
  · rw [List.map_map]
    exact List.nodup_range.map fun _ _ same => same

/-- Tries all assignments, and takes one of least total cost. -/
def exhaustive : Solver Rat := fun matrix =>
  match (completeAssignments matrix.length ((matrix.head?.map List.length).getD 0)).argmin
      (totalCost matrix) with
  | some pairs => .ok pairs
  | none => .error .infeasible

end Assignment

/-! ## Exact solvers -/

/-- The solver finds a complete assignment of least total cost, whatever the costs of a
rectangular matrix. -/
def Solver.IsExact (solve : Solver Rat) : Prop :=
  ∀ matrix columns, (∀ row ∈ matrix, row.length = columns) →
    ∃ pairs, solve matrix = .ok pairs ∧ Assignment.IsLeast matrix columns pairs

theorem Solver.IsExact.assignsOnce {solve : Solver Rat} (exact : solve.IsExact) :
    solve.AssignsOnce := by
  intro columns matrix pairs rectangular solved
  obtain ⟨found, solvedHere, least⟩ := exact matrix columns rectangular
  obtain rfl : found = pairs := Except.ok.inj (solvedHere.symm.trans solved)
  exact ⟨least.complete.rows_nodup, least.complete.columns_nodup⟩

theorem Solver.IsExact.assignsLone {solve : Solver Rat} (exact : solve.IsExact) :
    solve.AssignsLone := by
  obtain ⟨pairs, solved, least⟩ := exact [[pairCost (stepCost 1 1) 0 0 true]] 1 (by simp)
  have lone : pairs = [(0, 0)] := by
    obtain ⟨pair, rfl⟩ := List.length_eq_one_iff.1 least.complete.length_eq
    have inRange := least.complete.inRange pair (by simp)
    have isZero : pair.1 = 0 ∧ pair.2 = 0 := by
      simp only [List.length_singleton] at inRange
      omega
    rw [show pair = (0, 0) from Prod.ext isZero.1 isZero.2]
  rw [Solver.AssignsLone, solved, lone]

/-- A matrix without rows has the empty assignment, however many columns it has. -/
theorem Assignment.isComplete_no_rows {columns other : Nat} {pairs : List (Nat × Nat)}
    (complete : IsComplete 0 columns pairs) : IsComplete 0 other pairs := by
  have nothing : pairs = [] := List.eq_nil_of_length_eq_zero (by
    rw [complete.length_eq]
    omega)
  subst nothing
  exact ⟨by simp, by simp, .nil, .nil⟩

/-- The width of a rectangular matrix is that of its first row, if there is one. -/
theorem Assignment.isComplete_width_iff {matrix : List (List Rat)} {columns : Nat}
    (rectangular : ∀ row ∈ matrix, row.length = columns) (pairs : List (Nat × Nat)) :
    IsComplete matrix.length ((matrix.head?.map List.length).getD 0) pairs ↔
      IsComplete matrix.length columns pairs := by
  cases matrix with
  | nil => exact ⟨isComplete_no_rows, isComplete_no_rows⟩
  | cons row rest =>
      rw [List.head?_cons, Option.map_some, Option.getD_some, rectangular row List.mem_cons_self]

theorem exhaustive_isExact : Solver.IsExact Assignment.exhaustive := by
  intro matrix columns rectangular
  have sameComplete := Assignment.isComplete_width_iff rectangular
  rw [Assignment.exhaustive]
  cases best : (Assignment.completeAssignments matrix.length
      ((matrix.head?.map List.length).getD 0)).argmin (Assignment.totalCost matrix) with
  | none =>
      rw [List.argmin_eq_none] at best
      obtain ⟨pairs, complete⟩ := Assignment.exists_isComplete matrix.length
        ((matrix.head?.map List.length).getD 0)
      obtain ⟨others, member, _⟩ := complete.exists_perm
      rw [best] at member
      cases member
  | some pairs =>
      have member := List.argmin_mem best
      refine ⟨pairs, rfl, (sameComplete pairs).1 (Assignment.mem_completeAssignments.1 member).2, ?_⟩
      intro others complete
      obtain ⟨listed, listedMember, perm⟩ := ((sameComplete others).2 complete).exists_perm
      rw [Assignment.totalCost_perm matrix perm]
      exact List.le_of_mem_argmin listedMember best

/-- Solves as another solver does, but prefers one assignment wherever it is complete and
costs no more. -/
def Solver.preferring (solve : Solver Rat) (assignment : List (Nat × Nat)) : Solver Rat :=
  fun matrix => (solve matrix).map fun pairs =>
    if Assignment.IsComplete matrix.length ((matrix.head?.map List.length).getD 0) assignment ∧
        Assignment.totalCost matrix assignment ≤ Assignment.totalCost matrix pairs then
      assignment
    else
      pairs

theorem Solver.IsExact.preferring {solve : Solver Rat} (exact : solve.IsExact)
    (assignment : List (Nat × Nat)) : (solve.preferring assignment).IsExact := by
  intro matrix columns rectangular
  obtain ⟨pairs, solved, least⟩ := exact matrix columns rectangular
  rw [Solver.preferring, solved]
  refine ⟨_, rfl, ?_⟩
  dsimp only
  split
  · rename_i preferred
    exact ⟨(Assignment.isComplete_width_iff rectangular assignment).1 preferred.1,
      fun others complete => le_trans preferred.2 (least.least others complete)⟩
  · exact least

namespace Assignment

/-! ## The guard -/

/-- The greater one of two costs, a forbidden cell counting for nothing. -/
def greater : Option Rat → Option Rat → Option Rat
  | none, other => other
  | some old, none => some old
  | some old, some new => if Cost.lt old new then some new else some old

theorem greatest_eq (cells : List (Option Rat)) : greatest cells = cells.foldl greater none := by
  rw [greatest]
  apply congrArg fun step => cells.foldl step none
  funext best cost
  cases best <;> cases cost <;> rfl

theorem exists_greater {best cell : Option Rat} {cost : Rat}
    (either : best = some cost ∨ cell = some cost) :
    ∃ top, greater best cell = some top ∧ cost ≤ top := by
  cases best with
  | none =>
      rcases either with isBest | isCell
      · cases isBest
      · exact ⟨cost, isCell, le_refl cost⟩
  | some old =>
      cases cell with
      | none =>
          rcases either with isBest | isCell
          · exact ⟨cost, isBest, le_refl cost⟩
          · cases isCell
      | some new =>
          by_cases below : old < new
          · refine ⟨new, if_pos (decide_eq_true below), ?_⟩
            rcases either with isBest | isCell
            · exact Option.some.inj isBest ▸ below.le
            · exact (Option.some.inj isCell).symm.le
          · refine ⟨old, if_neg (by simpa [Cost.lt] using below), ?_⟩
            rcases either with isBest | isCell
            · exact (Option.some.inj isBest).symm.le
            · exact Option.some.inj isCell ▸ le_of_not_gt below

theorem exists_foldl_greater {cells : List (Option Rat)} {best : Option Rat} {cost : Rat}
    (found : best = some cost ∨ some cost ∈ cells) :
    ∃ top, cells.foldl greater best = some top ∧ cost ≤ top := by
  induction cells generalizing best cost with
  | nil =>
      rcases found with isBest | member
      · exact ⟨cost, isBest, le_refl cost⟩
      · cases member
  | cons cell rest inductionHypothesis =>
      have here (either : best = some cost ∨ cell = some cost) :
          ∃ top, rest.foldl greater (greater best cell) = some top ∧ cost ≤ top := by
        obtain ⟨better, better_eq, cost_le⟩ := exists_greater either
        obtain ⟨top, top_eq, better_le⟩ := inductionHypothesis (.inl better_eq)
        exact ⟨top, top_eq, cost_le.trans better_le⟩
      rcases found with isBest | member
      · exact here (.inl isBest)
      · rcases List.mem_cons.1 member with isCell | inRest
        · exact here (.inr isCell.symm)
        · exact inductionHypothesis (.inr inRest)

/-- The greatest cost is that of a cell. -/
theorem mem_of_greatest_eq {cells : List (Option Rat)} {top : Rat}
    (greatest_eq : greatest cells = some top) : some top ∈ cells := by
  have from_best (best : Option Rat) (cells : List (Option Rat))
      (found : cells.foldl greater best = some top) : best = some top ∨ some top ∈ cells := by
    induction cells generalizing best with
    | nil => exact .inl found
    | cons cell rest inductionHypothesis =>
        rcases inductionHypothesis _ found with better | inRest
        · have either : best = some top ∨ cell = some top := by
            cases best with
            | none => exact .inr better
            | some old =>
                cases cell with
                | none => exact .inl better
                | some new =>
                    rw [greater] at better
                    split at better
                    · exact .inr better
                    · exact .inl better
          exact either.imp_right fun isCell => List.mem_cons.2 (.inl isCell.symm)
        · exact .inr (List.mem_cons_of_mem _ inRest)
  rw [Assignment.greatest_eq] at greatest_eq
  exact (from_best none cells greatest_eq).resolve_left (Option.some_ne_none top).symm

/-- No allowed cell costs more than the greatest cost. -/
theorem exists_greatest {cells : List (Option Rat)} {cost : Rat} (member : some cost ∈ cells) :
    ∃ top, greatest cells = some top ∧ cost ≤ top := by
  rw [greatest_eq]
  exact exists_foldl_greater (.inr member)

end Assignment

end XmlCollation.Compare
