import XmlCollation.Compare.Assignment
import XmlCollation.Compare.Fingerprint

/-!
Contract: which siblings are paired with each other.

Owns:
- policies, which see the records of both trees but can change only the caches
  of contents, and name pairs by their indexes among the siblings;
- the greedy policy: first come, first served among equal signatures;
- the optimal policy: pairs of equal content cost least, and of equally good
  pairings the one nearest to the order of the documents costs least.

Does not own: what happens to a pair.
-/

namespace XmlCollation.Compare

open XmlCollation.Tree

/-- The caches of both trees. -/
structure Caches where
  first : ContentCache
  second : ContentCache
deriving DecidableEq, Repr

/-- What a policy sees: the settings, and the records of both trees. -/
structure Outlook where
  config : Config
  first : Visits
  second : Visits

/-- A way of pairing siblings.  It returns pairs of indexes into the two lists. -/
structure Policy where
  pair : Outlook → List Place → List Place → Caches → List (Nat × Nat) × Caches

/-! ## Keys -/

def Visits.signatureKey (visits : Visits) (config : Config) (node : Node) : String :=
  config.normalize (visits.signature node)

def textKey (config : Config) (node : Node) : String :=
  config.normalize node.text

def Visits.contentKey (visits : Visits) (config : Config) (place : Place) (cache : ContentCache) :
    String × ContentCache :=
  let (content, filled) := visits.content place.address cache place.node
  (config.normalize content, filled)

/-- The unvisited ones among places, with their indexes counted from `index`. -/
def unvisitedFrom (visits : Visits) (index : Nat) : List Place → List (Nat × Place)
  | [] => []
  | place :: rest =>
      if visits.isUnvisited place.node then
        (index, place) :: unvisitedFrom visits (index + 1) rest
      else
        unvisitedFrom visits (index + 1) rest

/-- The unvisited ones among places, with their indexes. -/
def unvisited (visits : Visits) (places : List Place) : List (Nat × Place) :=
  unvisitedFrom visits 0 places

def signatureKeys (visits : Visits) (config : Config) (places : List (Nat × Place)) :
    List (Nat × String) :=
  places.map fun entry => (entry.1, visits.signatureKey config entry.2.node)

/-! ## First come, first served -/

/-- Each entry takes the first candidate with its key that nobody took. -/
def takeFirst : List (Nat × String) → List (Nat × String) → List (Nat × Nat)
  | [], _ => []
  | (index, key) :: rest, candidates =>
      match candidates.find? (fun candidate => candidate.2 == key) with
      | some candidate =>
          (index, candidate.1) ::
            takeFirst rest (candidates.eraseP fun other => other.2 == key)
      | none => takeFirst rest candidates

/-- Pairs each unvisited sibling with the first free one of equal signature. -/
def Policy.greedy : Policy where
  pair outlook first second caches :=
    (takeFirst
      (signatureKeys outlook.first outlook.config (unvisited outlook.first first))
      (signatureKeys outlook.second outlook.config (unvisited outlook.second second)),
      caches)

/-! ## Least cost -/

def apart (left right : Nat) : Nat :=
  (left - right) + (right - left)

/-- The cost of one step away from the order of the documents, so small that the
steps of a whole pairing stay below one half. -/
def stepCost {α : Type} [Cost α] (rows columns : Nat) : α :=
  Cost.div (Cost.ofNat 1) (Cost.mul (Cost.ofNat 2) (Cost.ofNat (rows * columns + 1)))

/-- The cost of a pair: one for unequal contents, and its share of steps. -/
def pairCost {α : Type} [Cost α] (step : α) (row column : Nat) (equal : Bool) : α :=
  Cost.add (Cost.ofNat (if equal then 0 else 1)) (Cost.mul (Cost.ofNat (apart row column)) step)

/-- The costs of a row, from the column `column` on. -/
def costRow {α : Type} [Cost α] (outlook : Outlook) (step : α) (row : Nat) (place : Place)
    (key : String) :
    Nat → List (Place × String) → Caches → List (Option α) × Caches
  | _, [], caches => ([], caches)
  | column, (other, otherKey) :: rest, caches =>
      if otherKey = key then
        let (content, first) := outlook.first.contentKey outlook.config place caches.first
        let (otherContent, second) := outlook.second.contentKey outlook.config other caches.second
        let cost := pairCost step row column (content == otherContent)
        let (costs, final) := costRow outlook step row place key (column + 1) rest ⟨first, second⟩
        (some cost :: costs, final)
      else
        let (costs, final) := costRow outlook step row place key (column + 1) rest caches
        (none :: costs, final)

/-- The costs of all rows, from the row `row` on. -/
def costRows {α : Type} [Cost α] (outlook : Outlook) (step : α)
    (columns : List (Place × String)) :
    Nat → List Place → Caches → List (List (Option α)) × Caches
  | _, [], caches => ([], caches)
  | row, place :: rest, caches =>
      let key := outlook.first.signatureKey outlook.config place.node
      let (costs, filled) := costRow outlook step row place key 0 columns caches
      let (others, final) := costRows outlook step columns (row + 1) rest filled
      (costs :: others, final)

/-- The index that an index among unvisited siblings stands for. -/
def siblingIndex (entries : List (Nat × Place)) (index : Nat) : Nat :=
  (entries[index]?.map (·.1)).getD index

/-- Pairs unvisited siblings of equal signature at the least cost.  The costs are
finite, so that a matrix is always solved; pairs are listed in the order of rows. -/
def Policy.optimalWith {α : Type} [Cost α] (solve : Solver α) : Policy where
  pair outlook first second caches :=
    let rows := unvisited outlook.first first
    let columns := unvisited outlook.second second
    if rows.isEmpty || columns.isEmpty then ([], caches)
    else
      let keyed := columns.map fun entry =>
        (entry.2, outlook.second.signatureKey outlook.config entry.2.node)
      let step : α := stepCost rows.length columns.length
      let (matrix, final) := costRows outlook step keyed 0 (rows.map (·.2)) caches
      let pairs := (Assignment.minimumCost solve matrix).toOption.getD []
      (pairs.map fun pair => (siblingIndex rows pair.1, siblingIndex columns pair.2), final)

/-- The optimal policy with costs of double width. -/
def Policy.optimal : Policy :=
  Policy.optimalWith (Assignment.shortestPaths : Solver Float)

def Mode.policy : Mode → Policy
  | .greedy => Policy.greedy
  | .optimal => Policy.optimal

end XmlCollation.Compare
