import XmlCollation.Proofs.Markup.Resolution
import XmlCollation.Proofs.Tree.Numbering
import XmlCollation.Tree.Parse

/-!
Contract: trees of documents.

Owns:
- the nodes of a tree that was built from an element, whose tags and attributes are those of
  its heads;
- trees that were parsed: they are built at the empty position, their positions are distinct,
  and their names are resolved, which makes them parsed names unless a namespace has a host in
  brackets.

Does not own: which documents have a tree.
-/

namespace XmlCollation.Tree

open XmlCollation.Text
open XmlCollation.Markup

/-! ## Nodes and heads -/

/-- The node shows the tag and the attributes of a head. -/
def Node.Shows (node : Node) (head : Head) : Prop :=
  node.tag = head.tag ∧ node.attributes = head.attributes

mutual

theorem exists_head_of_nodeOf? : (item : Item) → ∀ {position : Position} {top node : Node},
    nodeOf? position item = some top → node ∈ top.preorder → ∃ head ∈ item.heads, node.Shows head
  | .text _, _, _, _, built, _ => by cases built
  | .aside _, _, _, _, built, _ => by cases built
  | .element head items, position, top, node, built, inTree => by
      rw [nodeOf?, Option.some.injEq] at built
      subst built
      rw [Item.heads]
      rcases Node.mem_preorder_iff.1 inTree with rfl | ⟨child, member, below⟩
      · exact ⟨head, List.mem_cons_self, rfl, rfl⟩
      · obtain ⟨lower, inItems, shows⟩ := exists_head_of_nodesFrom items member below
        exact ⟨lower, List.mem_cons_of_mem _ inItems, shows⟩

theorem exists_head_of_nodesFrom : (items : List Item) →
    ∀ {position : Position} {start : Nat} {top node : Node},
      top ∈ nodesFrom position start items → node ∈ top.preorder →
        ∃ head ∈ headsAll items, node.Shows head
  | [], _, _, _, _, member, _ => by cases member
  | item :: rest, position, start, top, node, member, inTree => by
      rw [nodesFrom] at member
      rw [headsAll]
      cases built : nodeOf? (position ++ [Int.ofNat start]) item with
      | none =>
          rw [built] at member
          obtain ⟨head, inRest, shows⟩ := exists_head_of_nodesFrom rest member inTree
          exact ⟨head, List.mem_append_right _ inRest, shows⟩
      | some first =>
          rw [built] at member
          rcases List.mem_cons.1 member with rfl | later
          · obtain ⟨head, inItem, shows⟩ := exists_head_of_nodeOf? item built inTree
            exact ⟨head, List.mem_append_left _ inItem, shows⟩
          · obtain ⟨head, inRest, shows⟩ := exists_head_of_nodesFrom rest later inTree
            exact ⟨head, List.mem_append_right _ inRest, shows⟩

end

/-- Every node of the tree of an element shows one of its heads. -/
theorem exists_head_of_ofElement {element : Element} {position : Position} {node : Node}
    (inTree : node ∈ (Node.ofElement element position).preorder) :
    ∃ head ∈ element.heads, node.Shows head := by
  rw [Element.heads]
  rcases Node.mem_preorder_iff.1 inTree with rfl | ⟨child, member, below⟩
  · exact ⟨element.head, List.mem_cons_self, rfl, rfl⟩
  · obtain ⟨head, inItems, shows⟩ := exists_head_of_nodesFrom element.items member below
    exact ⟨head, List.mem_cons_of_mem _ inItems, shows⟩

/-! ## Parsed trees -/

section Parsed

variable {content : Content} {root : Node}

/-- A parsed tree is built from an element whose heads are resolved, at the empty position. -/
theorem exists_element_of_parse (read : parse content = .ok root) :
    ∃ element : Element, (∀ head ∈ element.heads, head.IsResolved) ∧
      root = Node.ofElement element [] := by
  have mapped {fault : Fault → ParseFault} {found : Except Fault Element} {element : Element}
      (done : found.mapError fault = .ok element) : found = .ok element := by
    cases found with
    | error _ => cases done
    | ok _ =>
        cases done
        rfl
  unfold parse at read
  cases content with
  | text chars =>
      simp only at read
      split at read
      · cases read
      · obtain ⟨element, textRead, built⟩ := exists_of_bind_eq_ok read
        refine ⟨element, ?_, (Except.ok.inj built).symm⟩
        unfold readText at textRead
        split at textRead
        · cases textRead
        · exact isResolved_of_readDocument (mapped textRead)
  | bytes data =>
      simp only at read
      split at read
      · cases read
      · obtain ⟨element, bytesRead, built⟩ := exists_of_bind_eq_ok read
        exact ⟨element, isResolved_of_readEncoded (mapped bytesRead), (Except.ok.inj built).symm⟩

/-- A parsed tree has distinct positions. -/
theorem hasDistinctPositions_of_parse (read : parse content = .ok root) :
    root.HasDistinctPositions := by
  obtain ⟨element, _, rfl⟩ := exists_element_of_parse read
  exact (isNumbered_ofElement element []).hasDistinctPositions

/-- The tags and attributes of a parsed tree have resolved names. -/
theorem isResolvedName_of_parse (read : parse content = .ok root) {node : Node}
    (inTree : node ∈ root.preorder) :
    IsResolvedName node.tag.toList ∧
      ∀ entry ∈ node.attributes, IsResolvedName entry.1.toList := by
  obtain ⟨element, resolved, rfl⟩ := exists_element_of_parse read
  obtain ⟨head, inElement, sameTag, sameAttributes⟩ := exists_head_of_ofElement inTree
  rw [sameTag, sameAttributes]
  exact (resolved head inElement).isResolvedName

/-- No name of the tree holds a bracket, as one does whose namespace has a host in brackets. -/
def HasNoBrackets (root : Node) : Prop :=
  ∀ node ∈ root.preorder, '[' ∉ node.tag.toList ∧ ∀ entry ∈ node.attributes, '[' ∉ entry.1.toList

/-- Names of a parsed tree are parsed names, unless there are brackets in them. -/
theorem hasParsedNames_of_parse (read : parse content = .ok root)
    (noBrackets : HasNoBrackets root) : HasParsedNames root := by
  intro node inTree
  obtain ⟨tagResolved, namesResolved⟩ := isResolvedName_of_parse read inTree
  obtain ⟨tagFree, namesFree⟩ := noBrackets node inTree
  exact ⟨tagResolved.isParsedName tagFree,
    fun entry member => (namesResolved entry member).isParsedName (namesFree entry member)⟩

end Parsed

/-- Between the brackets of a host anything may stand, white space too. -/
theorem not_hasParsedNames_blankHost :
    parse (.text "<a xmlns='//[ ]'/>") = .ok ⟨"\x7b//[ ]\x7da", [], [], "", [], some 1⟩ ∧
      ¬HasParsedNames ⟨"\x7b//[ ]\x7da", [], [], "", [], some 1⟩ := by
  decide +kernel

end XmlCollation.Tree
