import XmlCollation.Proofs.Compare.LeastCost

/-!
Contract: the solver assigns no row and no column twice.

Owns:
- the invariant of a stage: the row of the column of a row is that row;
- its preservation along an augmenting path, on which one column at a time is
  about to be assigned;
- searches end at a column that is free, and a lone row is assigned to a lone column.

Does not own: that the assignment costs least.
-/

namespace XmlCollation.Compare

namespace Assignment

/-! ## Assigned rows and columns -/

/-- The row of the column of a row is that row. -/
def Inverse (columnOf rowOf : Array (Option Nat)) : Prop :=
  ∀ row column, columnOf.getD row none = some column → rowOf.getD column none = some row

theorem getD_setIfInBounds (entries : Array (Option Nat)) (index other : Nat)
    (value : Option Nat) :
    (entries.setIfInBounds index value).getD other none =
      if index = other ∧ index < entries.size then value else entries.getD other none := by
  simp only [Array.getD_eq_getD_getElem?, Array.getElem?_setIfInBounds]
  by_cases same : index = other
  · subst same
    by_cases inBounds : index < entries.size
    · simp [inBounds]
    · simp [inBounds]
  · simp [same]

/-- Assigning a column that no row has keeps the row of each column. -/
theorem Inverse.assign {columnOf rowOf : Array (Option Nat)} (inverse : Inverse columnOf rowOf)
    {column : Nat} (nobody : ∀ row, columnOf.getD row none ≠ some column)
    (inBounds : column < rowOf.size) (row : Nat) :
    Inverse (columnOf.setIfInBounds row (some column)) (rowOf.setIfInBounds column (some row)) := by
  intro other found atOther
  rw [getD_setIfInBounds] at atOther
  rw [getD_setIfInBounds]
  split at atOther
  · rename_i assigned
    obtain rfl : column = found := by simpa using atOther
    rw [if_pos ⟨rfl, inBounds⟩, assigned.1]
  · have different : column ≠ found := by
      intro same
      exact nobody other (same ▸ atOther)
    rw [if_neg fun both => different both.1]
    exact inverse other found atOther

/-- After that, the column that the row had before is one that no row has. -/
theorem Inverse.left_free {columnOf rowOf : Array (Option Nat)} (inverse : Inverse columnOf rowOf)
    {column : Nat} (nobody : ∀ row, columnOf.getD row none ≠ some column)
    {row previous : Nat} (had : columnOf.getD row none = some previous) (other : Nat) :
    (columnOf.setIfInBounds row (some column)).getD other none ≠ some previous := by
  intro atOther
  rw [getD_setIfInBounds] at atOther
  split at atOther
  · rename_i assigned
    have same : column = previous := by simpa using atOther
    exact nobody row (same ▸ had)
  · rename_i notAssigned
    -- Both rows would be the row of the same column.
    have sameRow : row = other :=
      Option.some.inj ((inverse row previous had).symm.trans (inverse other previous atOther))
    subst sameRow
    have outside : ¬row < columnOf.size := fun inside => notAssigned ⟨rfl, inside⟩
    rw [Array.getD_eq_getD_getElem?, Array.getElem?_eq_none (by omega)] at had
    simp at had

/-- A path assigns its columns one by one; before each step, no row has the column
that is about to be assigned. -/
theorem augment_inverse (origin : Array Nat) (start fuel column : Nat)
    (columnOf rowOf : Array (Option Nat))
    (inverse : Inverse columnOf rowOf)
    (nobody : ∀ row, columnOf.getD row none ≠ some column)
    (inBounds : column < rowOf.size) :
    Inverse (augment origin start fuel column columnOf rowOf).1
        (augment origin start fuel column columnOf rowOf).2 ∧
      (augment origin start fuel column columnOf rowOf).2.size = rowOf.size := by
  induction fuel generalizing column columnOf rowOf with
  | zero => exact ⟨inverse, rfl⟩
  | succ fuel inductionHypothesis =>
      have assigned := inverse.assign nobody inBounds (origin.getD column 0)
      have sameSize :
          (rowOf.setIfInBounds column (some (origin.getD column 0))).size = rowOf.size :=
        Array.size_setIfInBounds
      simp only [augment]
      split
      · exact ⟨assigned, sameSize⟩
      · cases had : columnOf.getD (origin.getD column 0) none with
        | none => exact ⟨assigned, sameSize⟩
        | some previous =>
            have previousInBounds : previous < rowOf.size := by
              have itsRow := inverse _ _ had
              rw [Array.getD_eq_getD_getElem?] at itsRow
              by_contra outside
              rw [Array.getElem?_eq_none (by omega)] at itsRow
              simp at itsRow
            have further := inductionHypothesis previous _ _ assigned
              (inverse.left_free nobody had) (by rw [sameSize]; exact previousInBounds)
            exact ⟨further.1, further.2.trans sameSize⟩

/-! ## Searches -/

variable {α : Type} [Cost α]

theorem scan_column (matrix : Array (Array α)) (stage : Stage α) (row : Nat) (reached : α)
    (place : Nat) (remaining : List Nat) (distance : Array (Option α)) (origin : Array Nat)
    (best : Option (Candidate α)) {candidate : Candidate α}
    (preferred :
      (scan matrix stage row reached place remaining distance origin best).2.2 = some candidate) :
    candidate.column ∈ remaining ∨ best = some candidate := by
  induction remaining generalizing place distance origin best with
  | nil => exact .inr preferred
  | cons column rest inductionHypothesis =>
      simp only [scan] at preferred
      rcases inductionHypothesis _ _ _ _ preferred with inRest | isBest
      · exact .inl (List.mem_cons_of_mem column inRest)
      · split at isBest
        · exact .inr isBest
        · split at isBest
          · cases isBest
            exact .inl List.mem_cons_self
          · exact .inr isBest

theorem mem_of_mem_takeOut {list : List Nat} {place entry : Nat}
    (member : entry ∈ takeOut list place) : entry ∈ list := by
  unfold takeOut at member
  cases atEnd : list.getLast? with
  | none => simp [atEnd] at member
  | some last =>
      simp only [atEnd] at member
      rcases List.mem_or_eq_of_mem_set (List.dropLast_subset _ member) with inList | isLast
      · exact inList
      · exact isLast ▸ List.mem_of_getLast? atEnd

/-- A search ends at a remaining column that is free. -/
theorem extend_sink (matrix : Array (Array α)) (stage : Stage α) (fuel row : Nat)
    (search : Search α) {sink : Nat} {final : Search α}
    (ended : extend matrix stage fuel row search = .ok (sink, final)) :
    sink ∈ search.remaining ∧ stage.rowOf.getD sink none = none := by
  induction fuel generalizing row search with
  | zero => simp [extend] at ended
  | succ fuel inductionHypothesis =>
      simp only [extend] at ended
      split at ended
      · cases ended
      · rename_i candidate preferred
        have scanned : candidate.column ∈ search.remaining := by
          rcases scan_column matrix stage row search.reached 0 search.remaining search.distance
            search.origin none preferred with member | isNone
          · exact member
          · cases isNone
        split at ended
        · rename_i free
          simp only [Except.ok.injEq, Prod.mk.injEq] at ended
          rw [← ended.1]
          exact ⟨scanned, free⟩
        · obtain ⟨member, free⟩ := inductionHypothesis _ _ ended
          exact ⟨mem_of_mem_takeOut member, free⟩

/-! ## Stages -/

/-- The rows of a number of columns, each the row of its column. -/
structure Stage.Consistent (stage : Stage α) (columns : Nat) : Prop where
  size_eq : stage.rowOf.size = columns
  inverse : Inverse stage.columnOf stage.rowOf

theorem consistent_assignRows (matrix : Array (Array α)) (columns : Nat) (rows : List Nat)
    (stage final : Stage α) (consistent : stage.Consistent columns)
    (assigned : assignRows matrix columns rows stage = .ok final) :
    final.Consistent columns := by
  induction rows generalizing stage with
  | nil =>
      simp only [assignRows, Except.ok.injEq] at assigned
      exact assigned ▸ consistent
  | cons row rest inductionHypothesis =>
      simp only [assignRows, bind, Except.bind] at assigned
      split at assigned
      · cases assigned
      · rename_i found ended
        obtain ⟨sink, search⟩ := found
        obtain ⟨member, free⟩ := extend_sink matrix stage _ row _ ended
        have sinkInBounds : sink < stage.rowOf.size := by
          rw [consistent.size_eq]
          simpa using member
        -- A row that had the free column would be its row.
        have nobody : ∀ other, stage.columnOf.getD other none ≠ some sink := by
          intro other had
          rw [consistent.inverse other sink had] at free
          cases free
        have augmented := augment_inverse search.origin row (columns + 1) sink stage.columnOf
          stage.rowOf consistent.inverse nobody sinkInBounds
        exact inductionHypothesis _ ⟨augmented.2.trans consistent.size_eq, augmented.1⟩ assigned

theorem nodup_assignWide {columns : Nat} {rows : List (List α)} {pairs : List (Nat × Nat)}
    (assigned : assignWide columns rows = .ok pairs) :
    (pairs.map Prod.fst).Nodup ∧ (pairs.map Prod.snd).Nodup := by
  simp only [assignWide, bind, Except.bind, pure, Except.pure] at assigned
  split at assigned
  · cases assigned
  · rename_i final run
    have consistent := consistent_assignRows _ columns _ _ final
      ⟨Array.size_replicate, by
        intro row column had
        rw [Array.getD_eq_getD_getElem?, Array.getElem?_replicate] at had
        split at had <;> simp at had⟩ run
    simp only [Except.ok.injEq] at assigned
    subst assigned
    rw [List.map_filterMap, List.map_filterMap]
    constructor
    · refine List.Nodup.filterMap ?_ List.nodup_range
      intro row other found atRow atOther
      simp only [Option.map_map, Option.mem_def, Option.map_eq_some_iff] at atRow atOther
      obtain ⟨_, _, rfl⟩ := atRow
      obtain ⟨_, _, same⟩ := atOther
      exact same.symm
    · refine List.Nodup.filterMap ?_ List.nodup_range
      intro row other column atRow atOther
      simp only [Option.map_map, Option.mem_def, Option.map_eq_some_iff] at atRow atOther
      obtain ⟨_, rowHad, rfl⟩ := atRow
      obtain ⟨_, otherHad, rfl⟩ := atOther
      have rowOf := consistent.inverse row _ rowHad
      have otherOf := consistent.inverse other _ otherHad
      exact Option.some.inj (rowOf.symm.trans otherOf)

/-- The solver assigns no row and no column twice, whatever the arithmetic. -/
theorem shortestPaths_assignsOnce : (shortestPaths : Solver α).AssignsOnce := by
  intro columns rows pairs _ solved
  simp only [shortestPaths] at solved
  split at solved
  · cases solved
  · split at solved
    · exact nodup_assignWide solved
    · simp only [bind, Except.bind, pure, Except.pure] at solved
      split at solved
      · cases solved
      · rename_i found assigned
        have once := nodup_assignWide assigned
        simp only [Except.ok.injEq] at solved
        rw [← solved, List.map_map, List.map_map]
        exact ⟨once.2, once.1⟩

/-! ## A single cell -/

/-- A search over a single column finds it free, if its cost is still one after the dual
values are taken off. -/
theorem assignWide_lone {cost : α}
    (reachable : Cost.isReachable (Cost.sub (Cost.sub (Cost.add zero cost) zero) zero) = true) :
    assignWide 1 [[cost]] = .ok [(0, 0)] := by
  let stage : Stage α := ⟨#[zero], #[zero], #[none], #[none]⟩
  let distance := distanceOver #[#[cost]] stage zero 0 0
  have scanned : scan #[#[cost]] stage 0 zero 0 [0] #[none] #[0] none =
      (#[some distance], #[0], some ⟨0, 0, distance⟩) := by
    have nearer : Cost.isReachable (distanceOver #[#[cost]] stage zero 0 0) = true := reachable
    have unknown : (#[none] : Array (Option α)).getD 0 none = none := rfl
    simp only [scan, unknown, nearer, ↓reduceIte]
    rfl
  have found : extend #[#[cost]] stage 2 0 ⟨zero, [0], #[none], #[0], [], []⟩ =
      .ok (0, ⟨distance, [], #[some distance], #[0], [0], [0]⟩) := by
    rw [extend]
    simp only [scanned]
    rfl
  have assigned : assignRows #[#[cost]] 1 [0] stage =
      .ok { updateDuals stage 0 ⟨distance, [], #[some distance], #[0], [0], [0]⟩ with
        columnOf := #[some 0], rowOf := #[some 0] } := by
    rw [assignRows]
    exact congrArg (· >>= _) found
  exact congrArg (· >>= _) assigned

/-- The solver assigns a lone row in any arithmetic that takes the cost for one. -/
theorem shortestPaths_assignsLone
    (usable : Cost.isUsable (pairCost (stepCost 1 1) 0 0 true : α) = true)
    (reachable : Cost.isReachable
      (Cost.sub (Cost.sub (Cost.add zero (pairCost (stepCost 1 1) 0 0 true : α)) zero) zero) =
        true) :
    (shortestPaths : Solver α).AssignsLone := by
  rw [Solver.AssignsLone, shortestPaths]
  simp only [List.any_cons, List.any_nil, usable]
  exact assignWide_lone reachable

end Assignment

/-- The policies of both modes are offered. -/
theorem Mode.policy_offered (mode : Mode) : mode.policy.Offered := by
  cases mode with
  | greedy => exact .greedy
  | optimal => exact .optimal Assignment.shortestPaths Assignment.shortestPaths_assignsOnce

end XmlCollation.Compare
