import XmlCollation.Text.Quoted
import XmlCollation.Tree.Node

/-!
Contract: what a comparison learns about the nodes of one tree.

Owns:
- the marks of nodes, which only move forward;
- recorded differences, excluded attribute names and skipped nodes;
- the table of all this, keyed by position, in which nothing is recorded about a
  position unless something was, with its read-after-write laws.

Does not own: why anything is recorded.
-/

namespace XmlCollation.Compare

open XmlCollation.Text
open XmlCollation.Tree

/-- How far a node has been matched. -/
inductive Mark where
  | unvisited
  | shallow
  | deep
deriving DecidableEq, Repr

def Mark.rank : Mark → Nat
  | .unvisited => 0
  | .shallow => 1
  | .deep => 2

def Mark.name : Mark → String
  | .unvisited => "unvisited"
  | .shallow => "matched_shallow"
  | .deep => "matched_deep"

def Mark.ofName? (name : String) : Option Mark :=
  [Mark.unvisited, .shallow, .deep].find? fun mark => mark.name == name

def unknownMark (name : String) : String :=
  quoted name ++ " is not a valid NodeState"

/-- One finding: what differs, and what either document shows. -/
structure Difference where
  description : String
  thisValue : String
  thatValue : String
deriving DecidableEq, Repr

/-- What is recorded about one position.  The excluded names are lower-cased,
distinct and in rising order. -/
structure Visit where
  mark : Mark := .unvisited
  difference : Option Difference := none
  excluded : List String := []
  skipped : Bool := false
deriving DecidableEq, Repr

/-- Records by position. -/
abbrev Visits := List (Position × Visit)

namespace Visits

def recorded : Visits → Position → Visit
  | [], _ => {}
  | (key, visit) :: rest, position =>
      if key = position then visit else recorded rest position

def alter (change : Visit → Visit) : Visits → Position → Visits
  | [], position => [(position, change {})]
  | (key, visit) :: rest, position =>
      if key = position then (key, change visit) :: rest
      else (key, visit) :: alter change rest position

theorem recorded_nil (position : Position) : recorded [] position = {} :=
  rfl

/-- A change is seen at the position that was changed. -/
theorem recorded_alter_same (change : Visit → Visit) (visits : Visits) (position : Position) :
    recorded (alter change visits position) position = change (recorded visits position) := by
  induction visits with
  | nil => simp [alter, recorded]
  | cons entry rest inductionHypothesis =>
      obtain ⟨key, visit⟩ := entry
      by_cases same : key = position
      · simp [alter, recorded, same]
      · simp [alter, recorded, same, inductionHypothesis]

theorem recorded_alter_other
    (change : Visit → Visit)
    (visits : Visits)
    {position other : Position}
    (different : position ≠ other) :
    recorded (alter change visits position) other = recorded visits other := by
  induction visits with
  | nil => simp [alter, recorded, different]
  | cons entry rest inductionHypothesis =>
      obtain ⟨key, visit⟩ := entry
      by_cases same : key = position
      · subst same
        simp [alter, recorded, different]
      · by_cases atOther : key = other
        · subst atOther
          simp [alter, recorded, same]
        · simp [alter, recorded, same, atOther, inductionHypothesis]

/-! ## Marks -/

def markOf (visits : Visits) (node : Node) : Mark :=
  (visits.recorded node.position).mark

def isUnvisited (visits : Visits) (node : Node) : Bool :=
  visits.markOf node == .unvisited

/-- Moves a node forward to a mark; a mark that is not ahead changes nothing. -/
def advance (visits : Visits) (node : Node) (mark : Mark) : Visits :=
  if (visits.markOf node).rank < mark.rank then
    visits.alter (fun visit => { visit with mark := mark }) node.position
  else
    visits

theorem recorded_advance_other
    (visits : Visits)
    (node : Node)
    (mark : Mark)
    {other : Position}
    (different : node.position ≠ other) :
    (visits.advance node mark).recorded other = visits.recorded other := by
  unfold advance
  split
  · exact recorded_alter_other _ _ different
  · rfl

/-! ## Differences -/

def differenceOf (visits : Visits) (node : Node) : Option Difference :=
  (visits.recorded node.position).difference

def record (visits : Visits) (node : Node) (difference : Difference) : Visits :=
  visits.alter (fun visit => { visit with difference := some difference }) node.position

/-! ## Exclusion -/

def isSkipped (visits : Visits) (node : Node) : Bool :=
  (visits.recorded node.position).skipped

/-- Takes a node out of the comparison: nothing of it needs to be matched. -/
def skip (visits : Visits) (node : Node) : Visits :=
  (visits.alter (fun visit => { visit with skipped := true }) node.position).advance node .deep

def addName (name : String) : List String → List String
  | [] => [name]
  | other :: rest =>
      if name = other then other :: rest
      else if name < other then name :: other :: rest
      else other :: addName name rest

theorem mem_addName (name other : String) (names : List String) :
    other ∈ addName name names ↔ other = name ∨ other ∈ names := by
  induction names with
  | nil => simp [addName]
  | cons head rest inductionHypothesis =>
      unfold addName
      by_cases same : name = head
      · subst same
        simp
      · by_cases before : name < head
        · simp [same, before]
        · simp [same, before, inductionHypothesis]
          constructor
          · rintro (h | h | h)
            · exact .inr (.inl h)
            · exact .inl h
            · exact .inr (.inr h)
          · rintro (h | h | h)
            · exact .inr (.inl h)
            · exact .inl h
            · exact .inr (.inr h)

/-- The lower-cased names of the attributes left out of account on a node. -/
def excludedOf (visits : Visits) (node : Node) : List String :=
  (visits.recorded node.position).excluded

/-- Leaves an attribute of a node out of account. -/
def exclude (visits : Visits) (node : Node) (name : String) : Visits :=
  visits.alter
    (fun visit => { visit with excluded := addName (lowered name) visit.excluded })
    node.position

end Visits

end XmlCollation.Compare
