import XmlCollation.Proofs.Compare.Choice

/-!
Contract: the optimal policy as a choice.

Owns:
- cost matrices made of the keys of siblings, and the optimal policy as the choice
  that they determine;
- assignments of least cost, which consist of allowed cells in the order of their rows;
- solvers that assign no row and no column twice, with which the choice is a
  pairing, and solvers that assign a lone row to a lone column;
- the policies that are offered, and the choices that they follow.

Does not own: how a solver finds an assignment.
-/

namespace XmlCollation.Compare

open XmlCollation.Text
open XmlCollation.Tree

variable {α : Type} [Cost α]

/-! ## Keys in place of siblings -/

/-- The costs of a row of siblings whose columns are numbered from `start`. -/
def costRowOf (step : α) (row : Nat) (keys : SiblingKeys) (start : Nat)
    (columns : List SiblingKeys) : List (Option α) :=
  (columns.zipIdx start).map fun entry =>
    if entry.1.signature = keys.signature then
      some (pairCost step row entry.2 (keys.content == entry.1.content))
    else
      none

/-- The costs of rows numbered from `start`. -/
def costMatrixOf (step : α) (start : Nat) (rows columns : List SiblingKeys) :
    List (List (Option α)) :=
  (rows.zipIdx start).map fun entry => costRowOf step entry.2 entry.1 0 columns

/-- The pairs of an assignment of least cost. -/
def optimalChoice (solve : Solver α) : Choice := fun rows columns =>
  if rows.isEmpty || columns.isEmpty then []
  else
    (Assignment.minimumCost solve
      (costMatrixOf (stepCost rows.length columns.length) 0 rows columns)).toOption.getD []

variable {outlook : Outlook} {firstRoot secondRoot : Node}

theorem costRow_sound (step : α) (row : Nat) {place : Place}
    (reached : firstRoot.at? place.address.reverse = some place.node)
    (columns : List Place) (columnsIn : Place.AreIn columns secondRoot)
    (start : Nat) (caches : Caches) (sound : caches.Sound outlook firstRoot secondRoot) :
    (costRow outlook step row place (outlook.keys .first place.node).signature start
        (columns.map fun other => (other, (outlook.keys .second other.node).signature))
        caches).1 =
        costRowOf step row (outlook.keys .first place.node) start
          (columns.map fun other => outlook.keys .second other.node) ∧
      (costRow outlook step row place (outlook.keys .first place.node).signature start
        (columns.map fun other => (other, (outlook.keys .second other.node).signature))
        caches).2.Sound outlook firstRoot secondRoot := by
  induction columns generalizing start caches with
  | nil => exact ⟨rfl, sound⟩
  | cons other rest inductionHypothesis =>
      have restIn : Place.AreIn rest secondRoot :=
        fun place member => columnsIn place (by simp [member])
      rw [List.map_cons, costRow]
      split
      · rename_i sameSignature
        have readFirst := contentKey_sound sound.first outlook.config reached
        have readSecond := contentKey_sound sound.second outlook.config
          (columnsIn other (by simp))
        have next := inductionHypothesis restIn (start + 1)
          ⟨(outlook.first.contentKey outlook.config place caches.first).2,
            (outlook.second.contentKey outlook.config other caches.second).2⟩
          ⟨readFirst.2, readSecond.2⟩
        refine ⟨?_, next.2⟩
        simp only [costRowOf, List.map_cons, List.zipIdx_cons, sameSignature, ↓reduceIte,
          readFirst.1, readSecond.1, next.1]
        rfl
      · rename_i otherSignature
        have next := inductionHypothesis restIn (start + 1) caches sound
        refine ⟨?_, next.2⟩
        simp only [costRowOf, List.map_cons, List.zipIdx_cons, otherSignature, ↓reduceIte,
          next.1]

theorem costRows_sound (step : α) (columns : List Place)
    (columnsIn : Place.AreIn columns secondRoot)
    (rows : List Place) (rowsIn : Place.AreIn rows firstRoot)
    (start : Nat) (caches : Caches) (sound : caches.Sound outlook firstRoot secondRoot) :
    (costRows outlook step
        (columns.map fun other => (other, (outlook.keys .second other.node).signature))
        start rows caches).1 =
        costMatrixOf step start (rows.map fun place => outlook.keys .first place.node)
          (columns.map fun other => outlook.keys .second other.node) ∧
      (costRows outlook step
        (columns.map fun other => (other, (outlook.keys .second other.node).signature))
        start rows caches).2.Sound outlook firstRoot secondRoot := by
  induction rows generalizing start caches with
  | nil => exact ⟨rfl, sound⟩
  | cons place rest inductionHypothesis =>
      have restIn : Place.AreIn rest firstRoot :=
        fun other member => rowsIn other (by simp [member])
      have row := costRow_sound step start (rowsIn place (by simp)) columns columnsIn 0 caches
        sound
      have next := inductionHypothesis restIn (start + 1) _ row.2
      rw [costRows]
      refine ⟨?_, next.2⟩
      change (costRow outlook step start place (outlook.keys .first place.node).signature 0 _
        caches).1 :: _ = _
      rw [row.1, costMatrixOf, List.map_cons, List.zipIdx_cons, List.map_cons]
      exact congrArg _ next.1

theorem areIn_unvisited (visits : Visits) {places : List Place} {root : Node}
    (placesIn : Place.AreIn places root) :
    Place.AreIn ((unvisited visits places).map (·.2)) root := by
  intro place member
  obtain ⟨entry, entryMember, rfl⟩ := List.mem_map.1 member
  exact placesIn _ (List.mem_of_getElem? (getElem?_of_mem_unvisited entryMember))

theorem unvisitedKeys_eq (outlook : Outlook) (side : Side) (places : List Place) :
    outlook.unvisitedKeys side places =
      ((unvisited (outlook.visits side) places).map (·.2)).map
        fun place => outlook.keys side place.node := by
  rw [List.map_map]
  rfl

theorem optimalWith_follows (solve : Solver α) :
    (Policy.optimalWith solve).Follows (optimalChoice solve) where
  pair_eq := by
    intro outlook firstRoot secondRoot left right caches leftIn rightIn sound
    have costs := costRows_sound
      (stepCost (α := α) (unvisited outlook.first left).length
        (unvisited outlook.second right).length)
      _ (areIn_unvisited outlook.second rightIn) _ (areIn_unvisited outlook.first leftIn) 0
      caches sound
    rw [List.map_map] at costs
    have lengths (side : Side) (places : List Place) :
        (outlook.unvisitedKeys side places).length =
          (unvisited (outlook.visits side) places).length := by
      simp [Outlook.unvisitedKeys]
    have empties (side : Side) (places : List Place) :
        (outlook.unvisitedKeys side places).isEmpty =
          (unvisited (outlook.visits side) places).isEmpty := by
      simp [Outlook.unvisitedKeys]
    rw [optimalChoice, lengths, lengths, empties, empties]
    by_cases nothing : ((unvisited outlook.first left).isEmpty
        || (unvisited outlook.second right).isEmpty) = true
    · simp only [Policy.optimalWith, Outlook.visits, nothing, ↓reduceIte]
      exact ⟨rfl, sound⟩
    · simp only [Policy.optimalWith, Outlook.visits, nothing]
      refine ⟨?_, costs.2⟩
      rw [unvisitedKeys_eq, unvisitedKeys_eq, Outlook.visits, Outlook.visits, ← costs.1]
      rfl

/-! ## Pairs of an assignment -/

/-- A solver that assigns no row and no column of a rectangular matrix twice. -/
def Solver.AssignsOnce (solve : Solver α) : Prop :=
  ∀ columns rows pairs, (∀ row ∈ rows, row.length = columns) → solve rows = .ok pairs →
    (pairs.map Prod.fst).Nodup ∧ (pairs.map Prod.snd).Nodup

/-- A solver that assigns the only row of a matrix to its only column, at the cost of two
siblings of equal content. -/
def Solver.AssignsLone (solve : Solver α) : Prop :=
  solve [[pairCost (stepCost 1 1) 0 0 true]] = .ok [(0, 0)]

theorem insertPair_perm (pair : Nat × Nat) (pairs : List (Nat × Nat)) :
    (Assignment.insertPair pair pairs).Perm (pair :: pairs) := by
  induction pairs with
  | nil => exact .refl _
  | cons other rest inductionHypothesis =>
      rw [Assignment.insertPair]
      split
      · exact .refl _
      · exact (inductionHypothesis.cons other).trans (.swap pair other rest)

theorem sortPairs_perm (pairs : List (Nat × Nat)) :
    (Assignment.sortPairs pairs).Perm pairs := by
  induction pairs with
  | nil => exact .refl _
  | cons pair rest inductionHypothesis =>
      exact (insertPair_perm pair _).trans (inductionHypothesis.cons pair)

theorem insertPair_ascends (pair : Nat × Nat) {pairs : List (Nat × Nat)}
    (ascending : (pairs.map Prod.fst).Pairwise (· ≤ ·)) :
    ((Assignment.insertPair pair pairs).map Prod.fst).Pairwise (· ≤ ·) := by
  induction pairs with
  | nil => exact List.pairwise_singleton _ _
  | cons other rest inductionHypothesis =>
      obtain ⟨first, later⟩ := List.pairwise_cons.1 ascending
      rw [Assignment.insertPair]
      split
      · rename_i before
        have pair_le : pair.1 ≤ other.1 := by
          simp only [Bool.or_eq_true, Bool.and_eq_true, decide_eq_true_eq, beq_iff_eq] at before
          omega
        refine List.pairwise_cons.2 ⟨fun row member => ?_, ascending⟩
        rcases List.mem_cons.1 member with rfl | inRest
        · exact pair_le
        · exact Nat.le_trans pair_le (first row inRest)
      · rename_i notBefore
        have other_le : other.1 ≤ pair.1 := by
          simp only [Bool.or_eq_true, Bool.and_eq_true, decide_eq_true_eq, beq_iff_eq] at notBefore
          omega
        refine List.pairwise_cons.2 ⟨fun row member => ?_, inductionHypothesis later⟩
        rcases List.mem_cons.1 (((insertPair_perm pair rest).map Prod.fst).mem_iff.1 member) with
          rfl | inRest
        · exact other_le
        · exact first row inRest

theorem sortPairs_ascends (pairs : List (Nat × Nat)) :
    ((Assignment.sortPairs pairs).map Prod.fst).Pairwise (· ≤ ·) := by
  induction pairs with
  | nil => exact .nil
  | cons pair rest inductionHypothesis => exact insertPair_ascends pair inductionHypothesis

/-- An assignment of least cost is empty, or it is what is allowed of a solution, sorted. -/
theorem minimumCost_eq_nil_or {solve : Solver α} {matrix : List (List (Option α))}
    {pairs : List (Nat × Nat)} (solved : Assignment.minimumCost solve matrix = .ok pairs) :
    pairs = [] ∨ ∃ guard found,
      solve (matrix.map fun row => row.map fun entry => entry.getD guard) = .ok found ∧
        pairs = Assignment.sortPairs (found.filter (Assignment.isAllowed matrix)) := by
  unfold Assignment.minimumCost at solved
  split at solved
  · cases solved
    exact .inl rfl
  · rename_i cost _
    cases assigned :
        solve (matrix.map fun row => row.map fun entry =>
          entry.getD (Assignment.guardCost cost)) with
    | error fault => simp [assigned, bind, Except.bind] at solved
    | ok found =>
        simp only [assigned, bind, Except.bind, pure, Except.pure, Except.ok.injEq] at solved
        exact .inr ⟨_, found, assigned, solved.symm⟩

/-- What an assignment of least cost consists of: allowed cells, no row and no
column twice. -/
theorem minimumCost_pairs {solve : Solver α} (assigns : solve.AssignsOnce)
    {matrix : List (List (Option α))} {columns : Nat}
    (rectangular : ∀ row ∈ matrix, row.length = columns)
    {pairs : List (Nat × Nat)}
    (solved : Assignment.minimumCost solve matrix = .ok pairs) :
    (∀ pair ∈ pairs, Assignment.isAllowed matrix pair = true) ∧
      (pairs.map Prod.fst).Nodup ∧ (pairs.map Prod.snd).Nodup := by
  rcases minimumCost_eq_nil_or solved with rfl | ⟨guard, found, assigned, rfl⟩
  · simp
  · have once := assigns columns _ found (by
      intro row member
      obtain ⟨source, sourceMember, rfl⟩ := List.mem_map.1 member
      rw [List.length_map, rectangular source sourceMember]) assigned
    have perm := sortPairs_perm (found.filter (Assignment.isAllowed matrix))
    have sublist : (found.filter (Assignment.isAllowed matrix)).Sublist found :=
      List.filter_sublist
    refine ⟨?_, ?_, ?_⟩
    · intro pair member
      exact (List.mem_filter.1 (perm.mem_iff.1 member)).2
    · exact (perm.map Prod.fst).nodup_iff.2 ((sublist.map Prod.fst).nodup once.1)
    · exact (perm.map Prod.snd).nodup_iff.2 ((sublist.map Prod.snd).nodup once.2)

/-- No row comes twice, so that the rows of sorted pairs ascend. -/
theorem minimumCost_ascends {solve : Solver α} (assigns : solve.AssignsOnce)
    {matrix : List (List (Option α))} {columns : Nat}
    (rectangular : ∀ row ∈ matrix, row.length = columns) {pairs : List (Nat × Nat)}
    (solved : Assignment.minimumCost solve matrix = .ok pairs) :
    (pairs.map Prod.fst).Pairwise (· < ·) := by
  have once := (minimumCost_pairs assigns rectangular solved).2.1
  have ascending : (pairs.map Prod.fst).Pairwise (· ≤ ·) := by
    rcases minimumCost_eq_nil_or solved with rfl | ⟨_, found, _, rfl⟩
    · exact .nil
    · exact sortPairs_ascends _
  exact (ascending.and once).imp fun both => Nat.lt_of_le_of_ne both.1 both.2

theorem rectangular_costMatrixOf (step : α) (rows columns : List SiblingKeys) :
    ∀ costs ∈ costMatrixOf step 0 rows columns, costs.length = columns.length := by
  intro costs member
  obtain ⟨entry, _, rfl⟩ := List.mem_map.1 member
  rw [costRowOf, List.length_map, List.length_zipIdx]

theorem getElem?_costRowOf (step : α) (row : Nat) (keys : SiblingKeys)
    (columns : List SiblingKeys) (index : Nat) :
    (costRowOf step row keys 0 columns)[index]? =
      columns[index]?.map fun column =>
        if column.signature = keys.signature then
          some (pairCost step row index (keys.content == column.content))
        else
          none := by
  rw [costRowOf, List.getElem?_map, List.getElem?_zipIdx, Option.map_map, Nat.zero_add]
  rfl

theorem getElem?_costMatrixOf (step : α) (rows columns : List SiblingKeys) (index : Nat) :
    (costMatrixOf step 0 rows columns)[index]? =
      rows[index]?.map fun row => costRowOf step index row 0 columns := by
  rw [costMatrixOf, List.getElem?_map, List.getElem?_zipIdx, Option.map_map, Nat.zero_add]
  rfl

theorem sameSignature_of_isAllowed {step : α} {rows columns : List SiblingKeys}
    {pair : Nat × Nat}
    (allowed : Assignment.isAllowed (costMatrixOf step 0 rows columns) pair = true) :
    ∃ row column, rows[pair.1]? = some row ∧ columns[pair.2]? = some column ∧
      row.signature = column.signature := by
  rw [Assignment.isAllowed, getElem?_costMatrixOf] at allowed
  cases atRow : rows[pair.1]? with
  | none => simp [atRow] at allowed
  | some row =>
      rw [atRow, Option.map_some, Option.bind_some, getElem?_costRowOf] at allowed
      cases atColumn : columns[pair.2]? with
      | none => simp [atColumn] at allowed
      | some column =>
          refine ⟨row, column, rfl, rfl, ?_⟩
          by_cases same : column.signature = row.signature
          · exact same.symm
          · simp [atColumn, same] at allowed

/-- The optimal choice is empty, or it is an assignment of least cost. -/
theorem optimalChoice_eq_nil_or (solve : Solver α) (rows columns : List SiblingKeys) :
    optimalChoice solve rows columns = [] ∨
      Assignment.minimumCost solve (costMatrixOf (stepCost rows.length columns.length) 0 rows
        columns) = .ok (optimalChoice solve rows columns) := by
  unfold optimalChoice
  split
  · exact .inl rfl
  · cases Assignment.minimumCost solve
        (costMatrixOf (stepCost rows.length columns.length) 0 rows columns) with
    | error fault => exact .inl rfl
    | ok pairs => exact .inr rfl

theorem optimalChoice_isPairing {solve : Solver α} (assigns : solve.AssignsOnce) :
    (optimalChoice solve).IsPairing := by
  have parts (rows columns : List SiblingKeys) :
      (∀ pair ∈ optimalChoice solve rows columns,
        ∃ row column, rows[pair.1]? = some row ∧ columns[pair.2]? = some column ∧
          row.signature = column.signature) ∧
        ((optimalChoice solve rows columns).map Prod.fst).Nodup ∧
        ((optimalChoice solve rows columns).map Prod.snd).Nodup := by
    rcases optimalChoice_eq_nil_or solve rows columns with nothing | solved
    · simp [nothing]
    · have once := minimumCost_pairs assigns (rectangular_costMatrixOf _ rows columns) solved
      exact ⟨fun pair member => sameSignature_of_isAllowed (once.1 pair member), once.2⟩
  exact ⟨fun rows columns => (parts rows columns).1, fun rows columns => (parts rows columns).2.1,
    fun rows columns => (parts rows columns).2.2⟩

/-- Two siblings of equal keys that have no others are joined. -/
theorem optimalChoice_lone {solve : Solver α} (assigns : solve.AssignsLone)
    (keys : SiblingKeys) : optimalChoice solve [keys] [keys] = [(0, 0)] := by
  have matrix : costMatrixOf (stepCost 1 1 : α) 0 [keys] [keys] =
      [[some (pairCost (stepCost 1 1) 0 0 true)]] := by
    simp [costMatrixOf, costRowOf]
  have solved : Assignment.minimumCost solve [[some (pairCost (stepCost 1 1) 0 0 true)]] =
      .ok [(0, 0)] := by
    rw [Assignment.minimumCost]
    exact congrArg (· >>= fun pairs => pure (Assignment.sortPairs (pairs.filter
      (Assignment.isAllowed [[some (pairCost (stepCost 1 1 : α) 0 0 true)]])))) assigns
  rw [optimalChoice, List.length_singleton, matrix, solved]
  rfl

/-! ## Policies -/

/-- First come, first served, or least cost by some solver. -/
inductive Policy.Offered : Policy → Prop where
  | greedy : Offered Policy.greedy
  | optimal {α : Type} [Cost α] (solve : Solver α) (assigns : solve.AssignsOnce) :
      Offered (Policy.optimalWith solve)

theorem Policy.Offered.choice {policy : Policy} (offered : policy.Offered) :
    ∃ choice : Choice, choice.IsPairing ∧ policy.Follows choice := by
  cases offered with
  | greedy => exact ⟨greedyChoice, greedyChoice_isPairing, greedy_follows⟩
  | optimal solve assigns =>
      exact ⟨optimalChoice solve, optimalChoice_isPairing assigns, optimalWith_follows solve⟩

end XmlCollation.Compare
