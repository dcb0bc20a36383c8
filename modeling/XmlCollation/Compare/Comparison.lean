import XmlCollation.Compare.Policy

/-!
Contract: the state of one comparison.

Owns:
- the trace: who is compared, and the differences found so far;
- views, the two trees with their records, and the comparison that holds both
  with their caches, the trace and the messages written on the way;
- the steps on this state that matching and collecting are made of.

Does not own: in which order the steps are taken.
-/

namespace XmlCollation.Compare

open XmlCollation.Tree

/-- The differences between two documents, in the order of discovery. -/
structure Trace where
  firstSnapshot : String := "first"
  secondSnapshot : String := "second"
  firstPath : String := ""
  secondPath : String := ""
  differences : List Difference := []
deriving DecidableEq, Repr

def Trace.hasDifferences (trace : Trace) : Bool :=
  !trace.differences.isEmpty

/-- How much a message matters. -/
inductive Level where
  | debug
  | info
deriving DecidableEq, Repr

def Level.name : Level → String
  | .debug => "DEBUG"
  | .info => "INFO"

/-- A message about the progress of work. -/
structure Message where
  level : Level
  text : String
deriving DecidableEq, Repr

/-- One of the two documents. -/
inductive Side where
  | first
  | second
deriving DecidableEq, Repr

/-- A tree with what is recorded about its nodes. -/
structure View where
  root : Node
  visits : Visits := []

mutual

/-- What is recorded at and below a node that child indexes lead to, in document order. -/
def Visits.recordsFrom (visits : Visits) (path : List Nat) : Node → List (List Nat × Visit)
  | ⟨_, _, children, _, position, _⟩ =>
      (path, visits.recorded position) :: visits.recordsBelow path 0 children

/-- What is recorded at and below siblings, numbered from `index` below a path. -/
def Visits.recordsBelow (visits : Visits) (path : List Nat) (index : Nat) :
    List Node → List (List Nat × Visit)
  | [] => []
  | node :: rest =>
      visits.recordsFrom (path ++ [index]) node ++ visits.recordsBelow path (index + 1) rest

end

/-- What is recorded about each node of a view, with the child indexes that lead to it. -/
def View.records (view : View) : List (List Nat × Visit) :=
  view.visits.recordsFrom [] view.root

/-- A comparison in progress.  `messages` has the latest message first. -/
structure Comparison where
  config : Config
  first : View
  second : View
  caches : Caches
  trace : Trace := {}
  messages : List Message := []

namespace Comparison

/-- A comparison of two trees of which nothing is known. -/
def start (config : Config) (first second : Node) (trace : Trace) : Comparison :=
  { config := config
    first := ⟨first, []⟩
    second := ⟨second, []⟩
    caches := ⟨.empty config.cacheSize, .empty config.cacheSize⟩
    trace := trace }

def view (comparison : Comparison) : Side → View
  | .first => comparison.first
  | .second => comparison.second

def updateVisits (comparison : Comparison) (side : Side) (change : Visits → Visits) : Comparison :=
  match side with
  | .first =>
      { comparison with
        first := { comparison.first with visits := change comparison.first.visits } }
  | .second =>
      { comparison with
        second := { comparison.second with visits := change comparison.second.visits } }

def outlook (comparison : Comparison) : Outlook :=
  ⟨comparison.config, comparison.first.visits, comparison.second.visits⟩

def say (comparison : Comparison) (level : Level) (text : String) : Comparison :=
  { comparison with messages := ⟨level, text⟩ :: comparison.messages }

def addDifferences (comparison : Comparison) (differences : List Difference) : Comparison :=
  { comparison with
    trace :=
      { comparison.trace with differences := comparison.trace.differences ++ differences } }

/-- The content of a place, through the cache of its side. -/
def content (comparison : Comparison) (side : Side) (place : Place) : String × Comparison :=
  match side with
  | .first =>
      let (text, filled) :=
        comparison.first.visits.content place.address comparison.caches.first place.node
      (text, { comparison with caches := { comparison.caches with first := filled } })
  | .second =>
      let (text, filled) :=
        comparison.second.visits.content place.address comparison.caches.second place.node
      (text, { comparison with caches := { comparison.caches with second := filled } })

/-- Marks a node of the first and a node of the second tree. -/
def markBoth (comparison : Comparison) (mark : Mark) (first second : Node) : Comparison :=
  (comparison.updateVisits .first (·.advance first mark)).updateVisits .second
    (·.advance second mark)

/-- Whether two places have the same content, up to normalisation. -/
def sameContent (comparison : Comparison) (first second : Place) : Bool × Comparison :=
  let (firstContent, read) := comparison.content .first first
  let (secondContent, readBoth) := read.content .second second
  (comparison.config.normalize firstContent == comparison.config.normalize secondContent, readBoth)

end Comparison

end XmlCollation.Compare
