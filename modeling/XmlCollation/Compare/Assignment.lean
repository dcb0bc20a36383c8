/-!
Contract: assignments of least cost between rows and columns.

Owns:
- the arithmetic that costs need, for exact quotients and for numbers of double
  width;
- the solver: one row after another is assigned along a shortest augmenting path,
  with dual values for rows and columns, and with fixed rules for ties;
- matrices with forbidden cells, which get a cost above that of every other cell
  and are taken out of the result again.

Does not own: what the costs mean.
-/

namespace XmlCollation.Compare

/-- The arithmetic of costs.  `isUsable` refuses what cannot be a cost, and
`isReachable` tells costs from a sum that has outgrown them. -/
class Cost (α : Type) where
  ofNat : Nat → α
  add : α → α → α
  sub : α → α → α
  mul : α → α → α
  div : α → α → α
  lt : α → α → Bool
  beq : α → α → Bool
  isUsable : α → Bool
  isReachable : α → Bool

instance : Cost Rat where
  ofNat count := count
  add := (· + ·)
  sub := (· - ·)
  mul := (· * ·)
  div := (· / ·)
  lt left right := decide (left < right)
  beq left right := decide (left = right)
  isUsable _ := true
  isReachable _ := true

instance : Cost Float where
  ofNat := Float.ofNat
  add := (· + ·)
  sub := (· - ·)
  mul := (· * ·)
  div := (· / ·)
  lt left right := decide (left < right)
  beq left right := left == right
  isUsable cost := !cost.isNaN && !(cost.isInf && decide (cost < 0.0))
  isReachable cost := decide (cost < 1.0 / 0.0)

/-- Why a matrix has no assignment. -/
inductive AssignmentFault where
  | unusableCost
  | infeasible
deriving DecidableEq, Repr

def AssignmentFault.message : AssignmentFault → String
  | .unusableCost => "matrix contains invalid numeric entries"
  | .infeasible => "cost matrix is infeasible"

/-- A method of assigning rows to columns, given the rows of a cost matrix. -/
abbrev Solver (α : Type) := List (List α) → Except AssignmentFault (List (Nat × Nat))

namespace Assignment

variable {α : Type} [Cost α]

/-- No cost. -/
def zero : α := Cost.ofNat 0

/-! ## Augmenting paths -/

/-- Dual values, and who is assigned to whom. -/
structure Stage (α : Type) where
  rowDual : Array α
  columnDual : Array α
  columnOf : Array (Option Nat)
  rowOf : Array (Option Nat)

/-- A search for the shortest augmenting path: the distance reached, the columns
not reached yet, the least distance known to each column and the row it comes
from, and the rows and columns on the way. -/
structure Search (α : Type) where
  reached : α
  remaining : List Nat
  distance : Array (Option α)
  origin : Array Nat
  rows : List Nat
  columns : List Nat

/-- The candidate that a scan prefers: its place among the remaining columns, its
column and its distance. -/
structure Candidate (α : Type) where
  place : Nat
  column : Nat
  distance : α

def cell (matrix : Array (Array α)) (row column : Nat) : α :=
  ((matrix[row]?.bind (·[column]?))).getD zero

def distanceOver (matrix : Array (Array α)) (stage : Stage α) (reached : α) (row column : Nat) : α :=
  Cost.sub
    (Cost.sub (Cost.add reached (cell matrix row column)) (stage.rowDual.getD row zero))
    (stage.columnDual.getD column zero)

/-- A column is better than the best so far if it is nearer, or as near and free. -/
def prefers (stage : Stage α) (best : Option (Candidate α)) (column : Nat) (distance : α) : Bool :=
  match best with
  | none => true
  | some candidate =>
      Cost.lt distance candidate.distance
        || (Cost.beq distance candidate.distance
          && (stage.rowOf.getD column none).isNone)

def scan (matrix : Array (Array α)) (stage : Stage α) (row : Nat) (reached : α) :
    Nat → List Nat → Array (Option α) → Array Nat → Option (Candidate α) →
      Array (Option α) × Array Nat × Option (Candidate α)
  | _, [], distance, origin, best => (distance, origin, best)
  | place, column :: rest, distance, origin, best =>
      let through := distanceOver matrix stage reached row column
      let known := distance.getD column none
      let nearer :=
        match known with
        | some old => Cost.lt through old
        | none => Cost.isReachable through
      let distance := if nearer then distance.setIfInBounds column (some through) else distance
      let origin := if nearer then origin.setIfInBounds column row else origin
      let best :=
        match distance.getD column none with
        | none => best
        | some current =>
            if prefers stage best column current then some ⟨place, column, current⟩ else best
      scan matrix stage row reached (place + 1) rest distance origin best

/-- Takes an entry out of a list; the last entry moves to its place. -/
def takeOut (list : List Nat) (place : Nat) : List Nat :=
  match list.getLast? with
  | none => []
  | some last => (list.set place last).dropLast

/-- Extends the tree of shortest paths from a row until it reaches a free column. -/
def extend (matrix : Array (Array α)) (stage : Stage α) :
    Nat → Nat → Search α → Except AssignmentFault (Nat × Search α)
  | 0, _, _ => .error .infeasible
  | fuel + 1, row, search =>
      let (distance, origin, best) :=
        scan matrix stage row search.reached 0 search.remaining search.distance search.origin none
      match best with
      | none => .error .infeasible
      | some candidate =>
          let next : Search α :=
            { reached := candidate.distance
              remaining := takeOut search.remaining candidate.place
              distance := distance
              origin := origin
              rows := row :: search.rows
              columns := candidate.column :: search.columns }
          match stage.rowOf.getD candidate.column none with
          | none => .ok (candidate.column, next)
          | some assigned => extend matrix stage fuel assigned next

def updateDuals (stage : Stage α) (start : Nat) (search : Search α) : Stage α :=
  let distanceTo (column : Nat) : α := (search.distance.getD column none).getD zero
  let rowDual :=
    stage.rowDual.setIfInBounds start
      (Cost.add (stage.rowDual.getD start zero) search.reached)
  let rowDual :=
    search.rows.foldl
      (fun dual row =>
        if row = start then dual
        else
          let column := (stage.columnOf.getD row none).getD 0
          dual.setIfInBounds row
            (Cost.add (dual.getD row zero) (Cost.sub search.reached (distanceTo column))))
      rowDual
  let columnDual :=
    search.columns.foldl
      (fun dual column =>
        dual.setIfInBounds column
          (Cost.sub (dual.getD column zero) (Cost.sub search.reached (distanceTo column))))
      stage.columnDual
  { stage with rowDual := rowDual, columnDual := columnDual }

/-- Assigns along the path that ends at a column, back to the row where it starts. -/
def augment (origin : Array Nat) (start : Nat) :
    Nat → Nat → Array (Option Nat) → Array (Option Nat) →
      Array (Option Nat) × Array (Option Nat)
  | 0, _, columnOf, rowOf => (columnOf, rowOf)
  | fuel + 1, column, columnOf, rowOf =>
      let row := origin.getD column 0
      let previous := columnOf.getD row none
      let columnOf := columnOf.setIfInBounds row (some column)
      let rowOf := rowOf.setIfInBounds column (some row)
      if row = start then (columnOf, rowOf)
      else
        match previous with
        | none => (columnOf, rowOf)
        | some next => augment origin start fuel next columnOf rowOf

def assignRows (matrix : Array (Array α)) (columns : Nat) :
    List Nat → Stage α → Except AssignmentFault (Stage α)
  | [], stage => .ok stage
  | row :: rest, stage => do
      let start : Search α :=
        { reached := zero
          remaining := (List.range columns).reverse
          distance := Array.replicate columns none
          origin := Array.replicate columns 0
          rows := []
          columns := [] }
      let (sink, search) ← extend matrix stage (columns + 1) row start
      let updated := updateDuals stage row search
      let (columnOf, rowOf) :=
        augment search.origin row (columns + 1) sink updated.columnOf updated.rowOf
      assignRows matrix columns rest { updated with columnOf := columnOf, rowOf := rowOf }

def transpose (columns : Nat) (rows : List (List α)) : List (List α) :=
  (List.range columns).map fun column => rows.map fun row => (row[column]?).getD zero

/-- Assigns the rows of a matrix that has at least as many columns. -/
def assignWide (columns : Nat) (rows : List (List α)) :
    Except AssignmentFault (List (Nat × Nat)) := do
  let matrix := (rows.map List.toArray).toArray
  let count := rows.length
  let stage : Stage α :=
    { rowDual := Array.replicate count zero
      columnDual := Array.replicate columns zero
      columnOf := Array.replicate count none
      rowOf := Array.replicate columns none }
  let final ← assignRows matrix columns (List.range count) stage
  return (List.range count).filterMap fun row =>
    (final.columnOf.getD row none).map fun column => (row, column)

/-- Assigns as many rows as can be, at the least total cost. -/
def shortestPaths : Solver α := fun rows =>
  let columns := (rows.head?.map List.length).getD 0
  if rows.any fun row => row.any fun cost => !Cost.isUsable cost then .error .unusableCost
  else if rows.length ≤ columns then assignWide columns rows
  else do
    let pairs ← assignWide rows.length (transpose columns rows)
    return pairs.map fun pair => (pair.2, pair.1)

/-! ## Forbidden cells -/

/-- The greatest of the costs that are not forbidden. -/
def greatest (cells : List (Option α)) : Option α :=
  cells.foldl
    (fun best cost =>
      match best, cost with
      | none, other => other
      | some old, none => some old
      | some old, some new => if Cost.lt old new then some new else some old)
    none

def guardCost (greatestCost : α) : α :=
  Cost.add (Cost.mul greatestCost (Cost.ofNat 2)) (Cost.ofNat 1)

/-- Puts a pair before the first one with a later row. -/
def insertPair (pair : Nat × Nat) : List (Nat × Nat) → List (Nat × Nat)
  | [] => [pair]
  | other :: rest =>
      if pair.1 < other.1 || (pair.1 == other.1 && pair.2 ≤ other.2) then pair :: other :: rest
      else other :: insertPair pair rest

def sortPairs (pairs : List (Nat × Nat)) : List (Nat × Nat) :=
  pairs.foldr insertPair []

def isAllowed (matrix : List (List (Option α))) (pair : Nat × Nat) : Bool :=
  ((matrix[pair.1]?.bind (·[pair.2]?))).any Option.isSome

/-- An assignment of least cost that uses no forbidden cell, in the order of rows.
A matrix without cells, or with none that is allowed, has the empty one. -/
def minimumCost (solve : Solver α) (matrix : List (List (Option α))) :
    Except AssignmentFault (List (Nat × Nat)) :=
  match greatest matrix.flatten with
  | none => .ok []
  | some cost => do
      let rows := matrix.map fun row => row.map fun entry => entry.getD (guardCost cost)
      let pairs ← solve rows
      return sortPairs (pairs.filter (isAllowed matrix))

/-- A number read as a cell: infinite ones are forbidden. -/
def ofNumber (number : Float) : Option Float :=
  if number.isInf then none else some number

end Assignment

end XmlCollation.Compare
