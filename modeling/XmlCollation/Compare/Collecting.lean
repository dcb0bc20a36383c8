import XmlCollation.Compare.Comparison

/-!
Contract: from the records of a matched tree to its differences.

Owns: the walk over one tree, which passes over what was matched deeply, reports
unvisited nodes as present on one side only, reports a recorded difference in
place of everything below it, and goes on below every other node.

Does not own: which tree is walked first.
-/

namespace XmlCollation.Compare

open XmlCollation.Tree

/-- A node that only one document has; the values read first document, second document. -/
def presenceDifference (side : Side) (signature : String) : Difference :=
  match side with
  | .first => ⟨"Presence of XML node " ++ signature, "YES", "NO"⟩
  | .second => ⟨"Presence of XML node " ++ signature, "NO", "YES"⟩

mutual

/-- The differences at and below a node; `above` is the signature of the place
above it. -/
def Visits.differences (visits : Visits) (side : Side) (above : String) : Node → List Difference
  | ⟨tag, attributes, children, text, position, line⟩ =>
      let node : Node := ⟨tag, attributes, children, text, position, line⟩
      let signature := above ++ visits.signature node
      match visits.markOf node with
      | .deep => []
      | .unvisited => [presenceDifference side signature]
      | .shallow =>
          match visits.differenceOf node with
          | some difference => [difference]
          | none => visits.differencesAll side signature children

/-- The differences at and below several siblings, in order. -/
def Visits.differencesAll (visits : Visits) (side : Side) (above : String) :
    List Node → List Difference
  | [] => []
  | node :: rest =>
      visits.differences side above node ++ visits.differencesAll side above rest

end

/-- The differences of a view, reported for a side. -/
def View.differences (view : View) (side : Side) : List Difference :=
  view.visits.differences side "" view.root

/-- Adds the differences of one view to the trace, reported for a side. -/
def Comparison.collect (comparison : Comparison) (walked reported : Side) : Comparison :=
  comparison.addDifferences ((comparison.view walked).differences reported)

/-- Adds the differences of the first tree, then those of the second. -/
def Comparison.collectBoth (comparison : Comparison) : Comparison :=
  (comparison.collect .first .first).collect .second .second

end XmlCollation.Compare
