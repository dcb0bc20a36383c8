import XmlCollation.Rules.Wildcard
import XmlCollation.Text.Fields
import XmlCollation.Tree.Node

/-!
Contract: which elements a rule is about.

Owns:
- selectors, which are wildcards for the names on the way to an element, and may
  be anchored at the root;
- their written form;
- the match of a selector against the path from the root to an element.

Does not own: what a rule does with the element.
-/

namespace XmlCollation.Rules

open XmlCollation.Text
open XmlCollation.Tree

/-- Names from the outermost to the selected element. -/
structure Selector where
  segments : List String
  anchored : Bool
deriving DecidableEq, Repr

/-- Reads a selector: two slashes in front mean nothing, one slash anchors it, and
every name between slashes has to be given. -/
def Selector.parse (text : String) : Option Selector :=
  let (anchored, body) :=
    match trim text.toList with
    | '/' :: '/' :: rest => (false, rest)
    | '/' :: rest => (true, rest)
    | rest => (false, rest)
  let segments := (fields '/' body).map trim
  if segments.any List.isEmpty then none
  else some ⟨segments.map String.ofList, anchored⟩

/-- A segment matches an element by its local name or by its full name, without
regard to letter case. -/
def segmentMatches (segment : String) (node : Node) : Bool :=
  let pieces := wildcard (lower segment.toList)
  matchesName pieces (lower node.localName.toList) || matchesName pieces (lower node.tag.toList)

/-- A selector matches the end of a path that leads from the root to an element, or
the whole path if it is anchored. -/
def Selector.selects (selector : Selector) (path : List Node) : Bool :=
  let above := path.length - selector.segments.length
  selector.segments.length ≤ path.length
    && (!selector.anchored || path.length == selector.segments.length)
    && (selector.segments.zip (path.drop above)).all fun entry =>
        segmentMatches entry.1 entry.2

end XmlCollation.Rules
