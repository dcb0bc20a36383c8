import XmlCollation.Proofs.Compare.Maximal

/-!
Contract: the optimal choice prefers equal contents.

Owns:
- costs by keys: steps cost less than one half, as many as there are, so that a cell of equal
  keys does; a cell of unequal ones costs one at least, and a pair of forbidden keys as much
  as the guard;
- choices that give one of two siblings of equal keys a partner of these keys, among them
  the optimal choice of an exact solver.

Does not own: which pairs of unequal contents are made.
-/

namespace XmlCollation.Compare

/-! ## Costs -/

/-- The steps of a whole pairing stay below one half. -/
theorem steps_lt_half {rowCount columnCount steps : Nat} (few : steps ≤ rowCount * columnCount) :
    (steps : Rat) * stepCost rowCount columnCount < 1 / 2 := by
  have fewCast : (steps : Rat) < ((rowCount * columnCount + 1 : Nat) : Rat) :=
    Nat.cast_lt.2 (Nat.lt_succ_of_le few)
  have positive : (0 : Rat) < ((rowCount * columnCount + 1 : Nat) : Rat) := by positivity
  have step_eq : (stepCost rowCount columnCount : Rat) =
      1 / (2 * ((rowCount * columnCount + 1 : Nat) : Rat)) := rfl
  rw [step_eq, mul_one_div, div_lt_div_iff₀ (by positivity) (by norm_num)]
  linarith

theorem apart_le_mul {rowCount columnCount row column : Nat} (rowIn : row < rowCount)
    (columnIn : column < columnCount) : apart row column ≤ rowCount * columnCount := by
  have rows : rowCount ≤ rowCount * columnCount := Nat.le_mul_of_pos_right _ (by omega)
  have columns : columnCount ≤ rowCount * columnCount := Nat.le_mul_of_pos_left _ (by omega)
  unfold apart
  omega

theorem pairCost_eq (step : Rat) (row column : Nat) (equal : Bool) :
    pairCost step row column equal =
      (if equal then 0 else 1) + ((apart row column : Nat) : Rat) * step := by
  cases equal
  · show ((1 : Nat) : Rat) + _ = _
    rw [Nat.cast_one]
    rfl
  · show ((0 : Nat) : Rat) + _ = _
    rw [Nat.cast_zero]
    rfl

section Cells

variable {rows columns : List SiblingKeys} {guard : Rat}

/-- The cells that a solver gets, for siblings of known keys. -/
def cellOf (guard : Rat) (rows columns : List SiblingKeys) (pair : Nat × Nat) : Rat :=
  Assignment.cellCost (Assignment.guarded guard
    (costMatrixOf (stepCost rows.length columns.length) 0 rows columns)) pair

theorem cellOf_eq {index index' : Nat} {row column : SiblingKeys}
    (atRow : rows[index]? = some row) (atColumn : columns[index']? = some column) :
    cellOf guard rows columns (index, index') =
      if column.signature = row.signature then
        pairCost (stepCost rows.length columns.length) index index' (row.content == column.content)
      else guard := by
  have matrixRow := getElem?_costMatrixOf (stepCost (α := Rat) rows.length columns.length) rows
    columns index
  have matrixColumn := getElem?_costRowOf (stepCost (α := Rat) rows.length columns.length) index row
    columns index'
  rw [atRow, Option.map_some] at matrixRow
  rw [atColumn, Option.map_some] at matrixColumn
  rw [cellOf, @Assignment.cellCost_guarded guard _ (index, index') _ _ matrixRow matrixColumn]
  split <;> rfl

theorem cellOf_lt_half {index index' : Nat} {keys : SiblingKeys}
    (atRow : rows[index]? = some keys) (atColumn : columns[index']? = some keys) :
    cellOf guard rows columns (index, index') < 1 / 2 := by
  rw [cellOf_eq atRow atColumn, if_pos rfl, BEq.rfl, pairCost_eq, if_pos rfl, zero_add]
  exact steps_lt_half (apart_le_mul (List.getElem?_eq_some_iff.1 atRow).1
    (List.getElem?_eq_some_iff.1 atColumn).1)

/-- Siblings of unequal keys cost one at least, whether they may be paired or not. -/
theorem one_le_cellOf (guardLarge : 1 ≤ guard) {index index' : Nat} {row column : SiblingKeys}
    (atRow : rows[index]? = some row) (atColumn : columns[index']? = some column)
    (unequal : row ≠ column) : 1 ≤ cellOf guard rows columns (index, index') := by
  rw [cellOf_eq atRow atColumn]
  split
  · rename_i sameSignature
    have otherContent : (row.content == column.content) = false := by
      rw [beq_eq_false_iff_ne]
      intro sameContent
      apply unequal
      cases row
      cases column
      cases sameSignature
      cases sameContent
      rfl
    have steps : (0 : Rat) ≤ pairCost (stepCost rows.length columns.length) index index' true :=
      pairCost_nonneg _ _ _ _ _
    rw [pairCost_eq, if_pos rfl] at steps
    rw [otherContent, pairCost_eq, if_neg (by simp)]
    linarith
  · exact guardLarge

theorem cellOf_lt_three_halves {index index' : Nat} {row column : SiblingKeys}
    (atRow : rows[index]? = some row) (atColumn : columns[index']? = some column)
    (sameSignature : row.signature = column.signature) :
    cellOf guard rows columns (index, index') < 3 / 2 := by
  have steps := steps_lt_half (apart_le_mul (List.getElem?_eq_some_iff.1 atRow).1
    (List.getElem?_eq_some_iff.1 atColumn).1)
  rw [cellOf_eq atRow atColumn, if_pos sameSignature.symm, pairCost_eq]
  split <;> linarith

theorem cellOf_forbidden {index index' : Nat} {row column : SiblingKeys}
    (atRow : rows[index]? = some row) (atColumn : columns[index']? = some column)
    (otherSignature : row.signature ≠ column.signature) :
    cellOf guard rows columns (index, index') = guard := by
  rw [cellOf_eq atRow atColumn, if_neg (Ne.symm otherSignature)]

end Cells

/-! ## Partners of equal keys -/

/-- The siblings of a pair have these keys. -/
def HaveKeys (rows columns : List SiblingKeys) (keys : SiblingKeys) (pair : Nat × Nat) : Prop :=
  rows[pair.1]? = some keys ∧ columns[pair.2]? = some keys

/-- Of two siblings of equal keys, one has a partner of these keys at least. -/
def Choice.PrefersEqual (choice : Choice) : Prop :=
  ∀ (rows columns : List SiblingKeys) (index index' : Nat) (keys : SiblingKeys),
    rows[index]? = some keys → columns[index']? = some keys →
      ∃ pair ∈ choice rows columns, (pair.1 = index ∨ pair.2 = index') ∧
        HaveKeys rows columns keys pair

/-- A cell of equal keys favours cells of equal keys: two others cost two at least, more
than it costs with the opposite cell, or one of them costs as much as the guard. -/
theorem favours_equalKeys {rows columns : List SiblingKeys} {index index' : Nat}
    {keys : SiblingKeys} (atRow : rows[index]? = some keys)
    (atColumn : columns[index']? = some keys) {guard : Rat} (guardLarge : 1 ≤ guard) :
    Assignment.Favours (Assignment.guarded guard
      (costMatrixOf (stepCost rows.length columns.length) 0 rows columns)) columns.length
      index index' (HaveKeys rows columns keys) := by
  have here : cellOf guard rows columns (index, index') < 1 / 2 := cellOf_lt_half atRow atColumn
  have rowDear {column' : Nat} {column : SiblingKeys} (atColumn' : columns[column']? = some column)
      (plain : ¬HaveKeys rows columns keys (index, column')) :
      1 ≤ cellOf guard rows columns (index, column') := by
    refine one_le_cellOf guardLarge atRow atColumn' ?_
    rintro rfl
    exact plain ⟨atRow, atColumn'⟩
  have columnDear {row' : Nat} {row : SiblingKeys} (atRow' : rows[row']? = some row)
      (plain : ¬HaveKeys rows columns keys (row', index')) :
      1 ≤ cellOf guard rows columns (row', index') := by
    refine one_le_cellOf guardLarge atRow' atColumn ?_
    rintro rfl
    exact plain ⟨atRow', atColumn⟩
  refine ⟨?_, ?_, ?_⟩
  · intro column' columnIn plain
    have dear := rowDear (List.getElem?_eq_getElem columnIn) plain
    change cellOf guard rows columns (index, index') < cellOf guard rows columns (index, column')
    linarith
  · intro row' rowIn plain
    rw [Assignment.length_guarded, length_costMatrixOf] at rowIn
    have dear := columnDear (List.getElem?_eq_getElem rowIn) plain
    change cellOf guard rows columns (index, index') < cellOf guard rows columns (row', index')
    linarith
  · intro row' column' rowIn columnIn plain plain'
    rw [Assignment.length_guarded, length_costMatrixOf] at rowIn
    have atRow' := List.getElem?_eq_getElem rowIn
    have atColumn' := List.getElem?_eq_getElem columnIn
    have dear := rowDear atColumn' plain
    have dear' := columnDear atRow' plain'
    change cellOf guard rows columns (index, index') + cellOf guard rows columns (row', column') <
      cellOf guard rows columns (index, column') + cellOf guard rows columns (row', index')
    by_cases sameSignature : rows[row'].signature = columns[column'].signature
    · have opposite : cellOf guard rows columns (row', column') < 3 / 2 :=
        cellOf_lt_three_halves atRow' atColumn' sameSignature
      linarith
    · have opposite : cellOf guard rows columns (row', column') = guard :=
        cellOf_forbidden atRow' atColumn' sameSignature
      -- One of the two pairs is forbidden as well, since not both have the signature of the keys.
      by_cases rowSignature : rows[row'].signature = keys.signature
      · have forbidden : cellOf guard rows columns (index, column') = guard :=
          cellOf_forbidden atRow atColumn' fun same => sameSignature (rowSignature.trans same)
        linarith
      · have forbidden : cellOf guard rows columns (row', index') = guard :=
          cellOf_forbidden atRow' atColumn rowSignature
        linarith

theorem optimalChoice_prefersEqual {solve : Solver Rat} (exact : solve.IsExact) :
    (optimalChoice solve).PrefersEqual := by
  intro rows columns index index' keys atRow atColumn
  refine exists_favoured_optimalChoice exact atRow atColumn rfl ?_ ?_
  · rintro ⟨row, column⟩ ⟨pairRow, pairColumn⟩
    rw [isAllowed_costMatrixOf _ pairRow pairColumn]
    exact decide_eq_true rfl
  · intro guard bounded
    refine favours_equalKeys atRow atColumn ?_
    have lower : (0 : Rat) ≤ pairCost (stepCost rows.length columns.length) index index'
        (keys.content == keys.content) := pairCost_nonneg _ _ _ _ _
    have upper := bounded _ (mem_costMatrixOf _ atRow atColumn rfl)
    linarith

end XmlCollation.Compare
