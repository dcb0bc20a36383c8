import XmlCollation.Proofs.Tree.Pieces
import XmlCollation.Proofs.Tree.Reading

/-!
Contract: trees built from elements, node by node.

Owns:
- the child elements of an element, and the element that a path through child elements leads
  to;
- the node that a path leads to, which is built from the element that the same path leads to;
- what such a node shows: its position, which is the path, the head of the element, as many
  children as there are child elements, and the canonical text.

Does not own: items that are no elements, beyond the text around them.
-/

/-! ## Elements and paths -/

namespace XmlCollation.Markup

/-- The elements among items, in document order. -/
def childElements : List Item → List Element
  | [] => []
  | .text _ :: rest => childElements rest
  | .aside _ :: rest => childElements rest
  | .element head items :: rest => ⟨head, items⟩ :: childElements rest

theorem childElements_append (items others : List Item) :
    childElements (items ++ others) = childElements items ++ childElements others := by
  induction items with
  | nil => rfl
  | cons item rest inductionHypothesis =>
      cases item with
      | text chars => exact inductionHypothesis
      | aside kind => exact inductionHypothesis
      | element head items => exact congrArg (_ :: ·) inductionHypothesis

/-- The element that a path leads to, which counts child elements only. -/
def Element.under? : Element → List Nat → Option Element
  | element, [] => some element
  | element, index :: rest =>
      match (childElements element.items)[index]? with
      | some child => child.under? rest
      | none => none

end XmlCollation.Markup

namespace XmlCollation.Tree

open XmlCollation.Text
open XmlCollation.Markup

/-! ## Nodes and paths -/

/-- The nodes among items are built from the elements among them, numbered one by one. -/
theorem nodesFrom_eq (position : Position) (start : Nat) (items : List Item) :
    nodesFrom position start items =
      ((childElements items).zipIdx start).map fun entry =>
        Node.ofElement entry.1 (position ++ [Int.ofNat entry.2]) := by
  induction items generalizing start with
  | nil => rfl
  | cons item rest inductionHypothesis =>
      cases item with
      | text chars => exact inductionHypothesis start
      | aside kind => exact inductionHypothesis start
      | element head items =>
          rw [childElements, List.zipIdx_cons, List.map_cons, ← inductionHypothesis (start + 1)]
          rfl

theorem nodesFrom_append (position : Position) (items others : List Item) (start : Nat) :
    nodesFrom position start (items ++ others) =
      nodesFrom position start items ++
        nodesFrom position (start + (childElements items).length) others := by
  rw [nodesFrom_eq, nodesFrom_eq, nodesFrom_eq, childElements_append, List.zipIdx_append,
    List.map_append]

theorem getElem?_children_ofElement (element : Element) (position : Position) (index : Nat) :
    (Node.ofElement element position).children[index]? =
      (childElements element.items)[index]?.map fun child =>
        Node.ofElement child (position ++ [Int.ofNat index]) := by
  show (nodesFrom position 0 element.items)[index]? = _
  rw [nodesFrom_eq, List.getElem?_map, List.getElem?_zipIdx, Option.map_map, Nat.zero_add]
  rfl

/-- A path leads to the node that is built from the element under the same path. -/
theorem at?_ofElement (element : Element) (position : Position) (path : List Nat) :
    (Node.ofElement element position).at? path =
      (element.under? path).map fun inner =>
        Node.ofElement inner (position ++ path.map Int.ofNat) := by
  induction path generalizing element position with
  | nil =>
      rw [Node.at?, Element.under?, Option.map_some, List.map_nil, List.append_nil]
  | cons index rest inductionHypothesis =>
      rw [Node.at?, Element.under?, getElem?_children_ofElement]
      cases (childElements element.items)[index]? with
      | none => rfl
      | some child =>
          show (Node.ofElement child (position ++ [Int.ofNat index])).at? rest = _
          rw [inductionHypothesis, List.map_cons, List.append_assoc, List.singleton_append]

/-! ## What is built -/

/-- The node is built from an element at a position: it stands there, shows the head, has a
child for each child element, and its text consists of the own text of the element and the tails
of all its children, trimmed and joined by single spaces. -/
structure Node.IsBuiltFrom (node : Node) (element : Element) (position : Position) : Prop where
  position_eq : node.position = position
  shows : node.Shows element.head
  line_eq : node.line = some (Int.ofNat element.head.line)
  children_length : node.children.length = (childElements element.items).length
  text_eq : node.text =
    " ".intercalate
      (((ownText element.items :: tails element.items).map trimmed).filter (· != ""))
  text_trimmed : trimmed node.text = node.text

theorem isBuiltFrom_ofElement (element : Element) (position : Position) :
    (Node.ofElement element position).IsBuiltFrom element position where
  position_eq := rfl
  shows := ⟨rfl, rfl⟩
  line_eq := rfl
  children_length := by
    show (nodesFrom position 0 element.items).length = _
    rw [nodesFrom_eq, List.length_map, List.length_zipIdx]
  text_eq := textOf_eq element.items
  text_trimmed := trimmed_textOf element.items

/-- Positions are addresses: below the position of the root, they are the paths to the nodes,
each of which is built from the element that the same path leads to. -/
theorem ofElement_addressed (element : Element) (position : Position) :
    (Node.ofElement element position).HasDistinctPositions ∧
      ∀ path, Option.Rel
        (fun node inner => node.IsBuiltFrom inner (position ++ path.map Int.ofNat))
        ((Node.ofElement element position).at? path) (element.under? path) := by
  refine ⟨(isNumbered_ofElement element position).hasDistinctPositions, fun path => ?_⟩
  rw [at?_ofElement]
  cases element.under? path with
  | none => exact .none
  | some inner => exact .some (isBuiltFrom_ofElement inner _)

/-- Items that are no elements take up no position, but they part the text. -/
example :
    (Node.ofElement ⟨⟨"r", [], 1⟩, [.text " a ", .aside .comment, .text "b",
        .element ⟨"x", [], 1⟩ [], .aside .reference, .element ⟨"y", [], 1⟩ []]⟩ [7]).text = "a b" ∧
      (Node.ofElement ⟨⟨"r", [], 1⟩, [.text " a ", .aside .comment, .text "b",
        .element ⟨"x", [], 1⟩ [], .aside .reference, .element ⟨"y", [], 1⟩ []]⟩ [7]).children.map
          Node.position = [[7, 0], [7, 1]] := by
  decide

end XmlCollation.Tree
