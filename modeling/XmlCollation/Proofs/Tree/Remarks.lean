import XmlCollation.Proofs.Tree.Alteration
import XmlCollation.Proofs.Tree.Building
import XmlCollation.Proofs.Tree.Seams
import XmlCollation.Tree.Parse

/-!
Contract: trees of content with and without remarks.

Owns:
- elements from which an aside is taken away at some depth, and their trees, which differ in no
  more than the text of one node;
- documents that are read with and without remarks;
- when a tree is the same with and without remarks: if and only if the texts around them meet
  seamlessly.

Does not own: what counts as white space.
-/

namespace XmlCollation.Tree

open XmlCollation.Markup

/-! ## One aside -/

/-- An aside that stands between some items is taken away from the element that a path leads to,
and all else stays. -/
inductive AsideRemoved (before : List Item) (kind : Aside) (after : List Item) :
    List Nat → Element → Element → Prop where
  | here (head : Head) :
      AsideRemoved before kind after [] ⟨head, before ++ .aside kind :: after⟩
        ⟨head, before ++ after⟩
  | inChild {path : List Nat} {child child' : Element} (head : Head) (earlier later : List Item)
      (removed : AsideRemoved before kind after path child child') :
      AsideRemoved before kind after ((childElements earlier).length :: path)
        ⟨head, earlier ++ .element child.head child.items :: later⟩
        ⟨head, earlier ++ .element child'.head child'.items :: later⟩

/-- What is inside a child counts for nothing in the text around it. -/
theorem textOf_around (earlier later : List Item) (child child' : Element) :
    textOf (earlier ++ .element child.head child.items :: later) =
      textOf (earlier ++ .element child'.head child'.items :: later) := by
  obtain ⟨_, _, further⟩ := exists_pieces_before earlier
  rw [textOf, textOf, pieces_eq, pieces_eq, further, further, ownText, tails, ownText, tails]

/-- A child changes in place. -/
theorem nodesFrom_around (position : Position) (earlier later : List Item) {child child' : Element}
    (change : Node → Node)
    (changed : Node.ofElement child' (position ++ [Int.ofNat (childElements earlier).length]) =
      change (Node.ofElement child (position ++ [Int.ofNat (childElements earlier).length]))) :
    nodesFrom position 0 (earlier ++ .element child'.head child'.items :: later) =
      (nodesFrom position 0 (earlier ++ .element child.head child.items :: later)).modify
        (childElements earlier).length change := by
  have atPlace (inner : Element) :
      nodesFrom position 0 (earlier ++ .element inner.head inner.items :: later) =
        nodesFrom position 0 earlier ++
          Node.ofElement inner (position ++ [Int.ofNat (childElements earlier).length]) ::
            nodesFrom position ((childElements earlier).length + 1) later := by
    rw [nodesFrom_append, Nat.zero_add]
    rfl
  have count : (childElements earlier).length = (nodesFrom position 0 earlier).length := by
    rw [nodesFrom_eq, List.length_map, List.length_zipIdx]
  rw [atPlace, atPlace, changed, count, List.modify_eq_take_cons_drop (by simp)]
  simp

section Removed

variable {before after : List Item} {kind : Aside} {path : List Nat} {element element' : Element}

/-- The element that loses the aside, before and afterwards. -/
theorem AsideRemoved.under? (removed : AsideRemoved before kind after path element element') :
    ∃ head, element.under? path = some ⟨head, before ++ .aside kind :: after⟩ ∧
      element'.under? path = some ⟨head, before ++ after⟩ := by
  induction removed with
  | here head => exact ⟨head, rfl, rfl⟩
  | inChild head earlier later removed inductionHypothesis =>
      obtain ⟨innerHead, reached, reached'⟩ := inductionHypothesis
      have atPlace (inner : Element) : (childElements
          (earlier ++ .element inner.head inner.items :: later))[(childElements earlier).length]? =
            some inner := by
        rw [childElements_append, List.getElem?_append_right (Nat.le_refl _), Nat.sub_self]
        rfl
      refine ⟨innerHead, ?_, ?_⟩
      · rw [Element.under?, atPlace]
        exact reached
      · rw [Element.under?, atPlace]
        exact reached'

/-- The node with another text. -/
def Node.withText (node : Node) (text : String) : Node :=
  { node with text }

/-- No more than the text of one node changes in the tree. -/
theorem AsideRemoved.ofElement_eq (removed : AsideRemoved before kind after path element element')
    (position : Position) :
    Node.ofElement element' position =
      (Node.ofElement element position).alterAt (·.withText (textOf (before ++ after))) path := by
  induction removed generalizing position with
  | here head =>
      have sameChildren : nodesFrom position 0 (before ++ after) =
          nodesFrom position 0 (before ++ .aside kind :: after) := by
        rw [nodesFrom_append, nodesFrom_append]
        rfl
      rw [Node.ofElement, sameChildren]
      rfl
  | @inChild path child child' head earlier later removed inductionHypothesis =>
      have inPlace := nodesFrom_around position earlier later
        (·.alterAt (·.withText (textOf (before ++ after))) path) (inductionHypothesis _)
      rw [Node.ofElement, inPlace, textOf_around earlier later child' child]
      rfl

/-- The tree stays what it is if and only if the texts before and behind the aside meet
seamlessly. -/
theorem AsideRemoved.ofElement_eq_iff
    (removed : AsideRemoved before kind after path element element') (position : Position) :
    Node.ofElement element' position = Node.ofElement element position ↔
      MeetSeamlessly (closingText before).toList (ownText after).toList := by
  rw [← textOf_without_aside_iff before after kind]
  obtain ⟨head, reached, reached'⟩ := removed.under?
  have nodeReached := at?_ofElement element position path
  rw [reached, Option.map_some] at nodeReached
  constructor
  · intro same
    have nodeReached' := at?_ofElement element' position path
    rw [reached', Option.map_some, same, nodeReached, Option.some.injEq] at nodeReached'
    exact (congrArg Node.text nodeReached').symm
  · intro sameText
    rw [removed.ofElement_eq position]
    refine (Node.alterAt_congr nodeReached ?_).trans (Node.alterAt_id _ path)
    rw [Node.withText, sameText]
    rfl

end Removed

/-! ## All remarks -/

theorem childElements_withoutRemarksAll (items : List Item) :
    childElements (withoutRemarksAll items) = (childElements items).map Element.withoutRemarks := by
  induction items with
  | nil => rfl
  | cons item rest inductionHypothesis =>
      cases item with
      | text chars => rwa [withoutRemarksAll_text, childElements, childElements]
      | aside kind =>
          by_cases remark : kind.isRemark = true
          · rwa [withoutRemarksAll_remark remark, childElements]
          · rwa [withoutRemarksAll_reference remark, childElements, childElements]
      | element head items =>
          rw [withoutRemarksAll_element, childElements, childElements, inductionHypothesis,
            List.map_cons]
          rfl

/-- A path leads to the same elements with and without the remarks in them. -/
theorem under?_withoutRemarks (element : Element) (path : List Nat) :
    element.withoutRemarks.under? path = (element.under? path).map Element.withoutRemarks := by
  induction path generalizing element with
  | nil => rfl
  | cons index rest inductionHypothesis =>
      rw [Element.under?, Element.under?, Element.withoutRemarks, childElements_withoutRemarksAll,
        List.getElem?_map]
      cases (childElements element.items)[index]? with
      | none => rfl
      | some child => exact inductionHypothesis child

/-- In the element and in all elements below it, the texts around remarks meet seamlessly. -/
def IsSeamless (element : Element) : Prop :=
  ∀ path inner, element.under? path = some inner → AreSeamless inner.items

theorem IsSeamless.of_mem {element child : Element} (seamless : IsSeamless element)
    (member : child ∈ childElements element.items) : IsSeamless child := by
  obtain ⟨index, atIndex⟩ := List.mem_iff_getElem?.1 member
  intro path inner reached
  refine seamless (index :: path) inner ?_
  rw [Element.under?, atIndex]
  exact reached

/-- Where all texts around remarks meet seamlessly, the tree is the same without them. -/
theorem IsSeamless.ofElement_withoutRemarks {element : Element} (seamless : IsSeamless element)
    (position : Position) :
    Node.ofElement element.withoutRemarks position = Node.ofElement element position := by
  generalize whole : Node.ofElement element position = node
  induction node using Node.childInduction generalizing element position with
  | step node inductionHypothesis =>
      subst whole
      have sameText := (textOf_withoutRemarks_iff element.items).2 (seamless [] element rfl)
      have sameChildren : nodesFrom position 0 (withoutRemarksAll element.items) =
          nodesFrom position 0 element.items := by
        rw [nodesFrom_eq, nodesFrom_eq, childElements_withoutRemarksAll, List.zipIdx_map,
          List.map_map]
        refine List.map_congr_left fun entry member => ?_
        obtain ⟨child, index⟩ := entry
        have inElements := List.fst_mem_of_mem_zipIdx member
        refine inductionHypothesis _ ?_ (seamless.of_mem inElements) _ rfl
        show _ ∈ nodesFrom position 0 element.items
        rw [nodesFrom_eq]
        exact List.mem_map.2 ⟨(child, index), member, rfl⟩
      rw [Node.ofElement, Node.ofElement, Element.withoutRemarks, sameText, sameChildren]

/-- The tree is the same without remarks if and only if all texts around them meet
seamlessly. -/
theorem ofElement_withoutRemarks_iff (element : Element) (position : Position) :
    Node.ofElement element.withoutRemarks position = Node.ofElement element position ↔
      IsSeamless element := by
  refine ⟨fun same path inner reached => ?_, fun seamless => seamless.ofElement_withoutRemarks _⟩
  have leads := at?_ofElement element position path
  have leads' := at?_ofElement element.withoutRemarks position path
  rw [reached, Option.map_some] at leads
  rw [under?_withoutRemarks, reached, same, leads, Option.map_some, Option.map_some,
    Option.some.injEq] at leads'
  rw [← textOf_withoutRemarks_iff]
  exact (congrArg Node.text leads').symm

/-! ## Documents -/

/-- A reading that drops the remarks succeeds on the same content, with what is left of it. -/
theorem read_withoutRemarks (expandReferences : Bool) (content : Content) :
    content.read ⟨false, expandReferences⟩ =
      (content.read ⟨true, expandReferences⟩).map Element.withoutRemarks := by
  have mapped (found : Except Fault Element) (fault : Fault → ParseFault) :
      (found.map Element.withoutRemarks).mapError fault =
        (found.mapError fault).map Element.withoutRemarks := by
    cases found with
    | error _ => rfl
    | ok _ => rfl
  cases content with
  | text chars =>
      rw [Content.read, Content.read, readText, readText]
      split
      · rfl
      · rw [readDocument_withoutRemarks, mapped]
  | bytes data => rw [Content.read, Content.read, readEncoded_withoutRemarks, mapped]

/-- Taking an aside away changes no more than the text of its element, and nothing at all if and
only if the texts around it meet seamlessly.  Taking all remarks away, which is what a reading
without them does, changes nothing if and only if all texts around them meet seamlessly. -/
theorem ofElement_eq_iff_seamless (element : Element) (position : Position) :
    (∀ {before : List Item} {kind : Aside} {after : List Item} {path : List Nat}
        {element' : Element}, AsideRemoved before kind after path element element' →
      Node.ofElement element' position =
          (Node.ofElement element position).alterAt (·.withText (textOf (before ++ after))) path ∧
        (Node.ofElement element' position = Node.ofElement element position ↔
          MeetSeamlessly (closingText before).toList (ownText after).toList)) ∧
    (Node.ofElement element.withoutRemarks position = Node.ofElement element position ↔
      IsSeamless element) ∧
    ∀ (expandReferences : Bool) (content : Content),
      content.read ⟨true, expandReferences⟩ = .ok element →
        content.read ⟨false, expandReferences⟩ = .ok element.withoutRemarks := by
  refine ⟨fun removed => ⟨removed.ofElement_eq position, removed.ofElement_eq_iff position⟩,
    ofElement_withoutRemarks_iff element position, fun expandReferences content read => ?_⟩
  rw [read_withoutRemarks, read]
  rfl

/-- A comment behind a space, inside a child, can go. -/
theorem ofElement_eq_behind_space :
    Node.ofElement ⟨⟨"r", [], 1⟩, [.text "z", .element ⟨"a", [], 1⟩ [.text "x ", .text "y"]]⟩ [] =
      Node.ofElement
        ⟨⟨"r", [], 1⟩, [.text "z", .element ⟨"a", [], 1⟩ [.text "x ", .aside .comment, .text "y"]]⟩
        [] := by
  have removed : AsideRemoved [.text "x "] .comment [.text "y"] [0]
      ⟨⟨"r", [], 1⟩, [.text "z", .element ⟨"a", [], 1⟩ [.text "x ", .aside .comment, .text "y"]]⟩
      ⟨⟨"r", [], 1⟩, [.text "z", .element ⟨"a", [], 1⟩ [.text "x ", .text "y"]]⟩ :=
    .inChild ⟨"r", [], 1⟩ [.text "z"] [] (.here ⟨"a", [], 1⟩)
  obtain ⟨one, _, _⟩ := ofElement_eq_iff_seamless _ []
  exact (one removed).2.2 (by decide)

/-- Between visible characters, a comment makes a space, which is not there without it. -/
theorem text_ne_between_characters :
    AsideRemoved [.text "x"] .comment [.text "y"] []
      ⟨⟨"a", [], 1⟩, [.text "x", .aside .comment, .text "y"]⟩
      ⟨⟨"a", [], 1⟩, [.text "x", .text "y"]⟩ ∧
    (Node.ofElement ⟨⟨"a", [], 1⟩, [.text "x", .text "y"]⟩ []).text ≠
      (Node.ofElement ⟨⟨"a", [], 1⟩, [.text "x", .aside .comment, .text "y"]⟩ []).text ∧
    ((Content.text "<a>x<!-- c -->y</a>").read plainContent).map (Node.ofElement · []) =
      .ok ⟨"a", [], [], "x y", [], some 1⟩ ∧
    parse (.text "<a>x<!-- c -->y</a>") = .ok ⟨"a", [], [], "xy", [], some 1⟩ :=
  ⟨.here _, by decide, by decide +kernel, by decide +kernel⟩

end XmlCollation.Tree
