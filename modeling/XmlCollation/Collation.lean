import XmlCollation.Compare.Collecting
import XmlCollation.Compare.Matching
import XmlCollation.Rules.Apply
import XmlCollation.Tree.Parse

/-!
Contract: whole comparisons.

Owns:
- the course of a comparison: rules, matching, and the collection of differences;
- comparisons of trees and of documents, under names that the trace records;
- the reason why a document cannot be compared, and the report of unequal documents.

Does not own: where documents come from.
-/

namespace XmlCollation

open XmlCollation.Text
open XmlCollation.Tree
open XmlCollation.Compare
open XmlCollation.Rules

/-- Applies the rules, matches the trees, and collects the differences of the first
tree and then those of the second. -/
def Compare.Comparison.run (policy : Policy) (firstRules secondRules : List Rule)
    (comparison : Comparison) : Comparison :=
  ((applyRules firstRules secondRules comparison).matchTrees policy).collectBoth

def compareTrees (config : Config) (policy : Policy) (firstRules secondRules : List Rule)
    (first second : Node) (trace : Trace) : Comparison :=
  (Comparison.start config first second trace).run policy firstRules secondRules

/-! ## Documents -/

/-- A document that has no tree, under the name it goes by. -/
structure ParseFailure where
  path : String
  fault : ParseFault
deriving DecidableEq, Repr

/-- The report that something cannot be parsed, for a reason if there is one. -/
def parseReport (path : String) (reason : Option String) : String :=
  "Error parsing XML file '" ++ path ++ "'" ++ (reason.map (": " ++ ·)).getD ""

def parseAs (path : String) (content : Content) : Except ParseFailure Node :=
  (parse content).mapError fun fault => ⟨path, fault⟩

/-- Compares two documents that go by the names of the trace.  The first one is
read first. -/
def compareContents (config : Config) (policy : Policy) (firstRules secondRules : List Rule)
    (first second : Content) (trace : Trace) : Except ParseFailure Comparison := do
  let firstRoot ← parseAs trace.firstSnapshot first
  let secondRoot ← parseAs trace.secondSnapshot second
  return compareTrees config policy firstRules secondRules firstRoot secondRoot trace

/-! ## Reports -/

def Compare.Difference.line (difference : Difference) : String :=
  "  " ++ difference.description ++ ": " ++ quoted difference.thisValue ++ " != "
    ++ quoted difference.thatValue

/-- The report of unequal documents; equal ones have none. -/
def Compare.Trace.inequality? (trace : Trace) : Option String :=
  if trace.hasDifferences then
    some
      ("XML documents not equal: " ++ toString trace.differences.length ++ " difference(s)\n"
        ++ String.intercalate "\n" (trace.differences.map Difference.line))
  else
    none

/-- Documents are reported as unequal exactly if there is a difference. -/
theorem Compare.Trace.inequality?_eq_none_iff (trace : Trace) :
    trace.inequality? = none ↔ trace.differences = [] := by
  unfold Trace.inequality? Trace.hasDifferences
  cases trace.differences <;> simp

end XmlCollation
