import XmlCollation.Proofs.Compare.Attributes
import XmlCollation.Proofs.Compare.Content
import XmlCollation.Proofs.Compare.Keys
import XmlCollation.Proofs.Compare.Stateless
import XmlCollation.Proofs.Markup.Names

/-!
Contract: contents determine trees, as far as comparisons look.

Owns:
- signatures and contents as text between brackets, which is folded part by part;
- contents of nodes with parsed names: none is a proper beginning of another, and
  equal ones have equal signatures, texts and contents of children.

Does not own: which nodes have equal contents.
-/

namespace XmlCollation.Compare

open XmlCollation.Text
open XmlCollation.Tree
open XmlCollation.Markup
open XmlCollation.Rules (otherSide)

/-! ## Start tags -/

theorem isTagged_signature (visits : Visits) (node : Node) :
    IsTagged (visits.signature node).toList :=
  ⟨_, signatureWith_toList _ node⟩

/-- Names and quoted values leave a start tag without further brackets. -/
theorem bracketless_tagInside {node : Node} (parsed : HasParsedHead node)
    (excluded : List String) :
    Bracketless (tagInside excluded node) := by
  refine bracketless_append.2 ⟨bracketless_of_isParsedName parsed.1, bracketless_flatMap ?_⟩
  intro entry member
  have inNode : entry ∈ node.attributes := (mem_countedAttributes.1 member).1
  have written : (writtenAttribute entry).toList =
      [' '] ++ (entry.1.toList ++ (['='] ++ quoteValue entry.2.toList)) :=
    writtenAttribute_toList entry
  rw [written]
  refine bracketless_append.2 ⟨by decide, bracketless_append.2
    ⟨bracketless_of_isParsedName (parsed.2 entry inNode), bracketless_append.2
      ⟨by decide, bracketless_quoteValue entry.2.toList⟩⟩⟩

/-! ## Contents -/

theorem plainContent_toList (visits : Visits) (node : Node) :
    (visits.plainContent node).toList =
      '<' :: (tagInside (visits.excludedOf node) node ++ '>' ::
        (escapeText node.text.toList ++
          ((visits.kept node.children).flatMap fun child => (visits.plainContent child).toList) ++
            '<' :: '/' :: (node.tag.toList ++ ['>']))) := by
  rw [Visits.plainContent_eq, Visits.wrap]
  simp [Visits.signature, signatureWith_toList, Visits.plainContentAll_toList]

theorem isTagged_plainContent (visits : Visits) (node : Node) :
    IsTagged (visits.plainContent node).toList := by
  refine ⟨tagInside (visits.excludedOf node) node ++ '>' ::
    (escapeText node.text.toList ++
      ((visits.kept node.children).flatMap fun child => (visits.plainContent child).toList) ++
        '<' :: '/' :: node.tag.toList), ?_⟩
  rw [plainContent_toList]
  simp

variable (config : Config)

/-- The content of a node in the letter case that a comparison sees. -/
def foldedContent (visits : Visits) (node : Node) : List Char :=
  config.fold (visits.plainContent node).toList

theorem foldedContent_eq (visits : Visits) (node : Node) :
    foldedContent config visits node =
      '<' :: (config.fold (tagInside (visits.excludedOf node) node) ++ '>' ::
        (escapeText (config.fold node.text.toList) ++
          ((visits.kept node.children).flatMap (foldedContent config visits) ++
            '<' :: '/' :: (config.fold node.tag.toList ++ ['>'])))) := by
  have opened (chars : List Char) : config.fold ('<' :: chars) = '<' :: config.fold chars :=
    config.fold_cons_mark (by decide) (by decide) chars
  have children :
      config.fold (escapeText node.text.toList ++
          (visits.kept node.children).flatMap fun child => (visits.plainContent child).toList) =
        escapeText (config.fold node.text.toList) ++
          (visits.kept node.children).flatMap (foldedContent config visits) := by
    have tagged : ∀ child ∈ visits.kept node.children,
        IsTagged (visits.plainContent child).toList :=
      fun child _ => isTagged_plainContent visits child
    rw [config.fold_append_flatMap_tagged tagged, config.fold_escapeText]
    rfl
  have closed : config.fold (node.tag.toList ++ ['>']) = config.fold node.tag.toList ++ ['>'] := by
    rw [config.fold_append_greater, config.fold_nil]
  rw [foldedContent, plainContent_toList, opened, config.fold_append_greater,
    config.fold_append_less, children, config.fold_cons_slash, closed, List.append_assoc]

/-! ## Reading contents back -/

/-- Before the first mark, which neither of two texts holds, a text is determined. -/
theorem split_at_mark {left left' rest rest' : List Char} {mark mark' : Char}
    (unmarked : mark' ∉ left) (unmarked' : mark ∉ left')
    (equal : left ++ mark :: rest = left' ++ mark' :: rest') :
    left = left' ∧ mark = mark' ∧ rest = rest' := by
  induction left generalizing left' with
  | nil =>
      cases left' with
      | nil =>
          rw [List.nil_append, List.nil_append, List.cons.injEq] at equal
          exact ⟨rfl, equal⟩
      | cons c tail =>
          rw [List.nil_append, List.cons_append, List.cons.injEq] at equal
          exact absurd (List.mem_cons.2 (.inl equal.1)) unmarked'
  | cons c tail inductionHypothesis =>
      cases left' with
      | nil =>
          rw [List.nil_append, List.cons_append, List.cons.injEq] at equal
          exact absurd (List.mem_cons.2 (.inl equal.1.symm)) unmarked
      | cons c' tail' =>
          rw [List.cons_append, List.cons_append, List.cons.injEq] at equal
          obtain ⟨sameTail, rest_eq⟩ := inductionHypothesis
            (fun member => unmarked (List.mem_cons_of_mem _ member))
            (fun member => unmarked' (List.mem_cons_of_mem _ member)) equal.2
          exact ⟨by rw [equal.1, sameTail], rest_eq⟩

/-- Before its first bracket, a text is determined. -/
theorem split_at_bracket {left left' rest rest' : List Char} {bracket bracket' : Char}
    (plain : Bracketless left) (plain' : Bracketless left')
    (isBracket : bracket = '<' ∨ bracket = '>') (isBracket' : bracket' = '<' ∨ bracket' = '>')
    (equal : left ++ bracket :: rest = left' ++ bracket' :: rest') :
    left = left' ∧ bracket = bracket' ∧ rest = rest' := by
  have notIn {chars : List Char} {bracket : Char} (plain : Bracketless chars)
      (isBracket : bracket = '<' ∨ bracket = '>') : bracket ∉ chars := by
    intro member
    rcases isBracket with less | greater
    · exact (plain bracket member).1 less
    · exact (plain bracket member).2 greater
  exact split_at_mark (notIn plain isBracket') (notIn plain' isBracket) equal

theorem hasParsedNames_of_mem_children {node child : Node} (parsed : HasParsedNames node)
    (member : child ∈ node.children) : HasParsedNames child := by
  intro below inChild
  refine parsed below ?_
  rw [Node.preorder_eq, preorderAll_eq_flatMap]
  exact List.mem_cons_of_mem _ (List.mem_flatMap.2 ⟨child, member, inChild⟩)

theorem hasParsedNames_of_kept {visits : Visits} {node child : Node} (parsed : HasParsedNames node)
    (isKept : child ∈ visits.kept node.children) : HasParsedNames child :=
  hasParsedNames_of_mem_children parsed (Visits.mem_kept.1 isKept).1

theorem parsed_at_node {node : Node} (parsed : HasParsedNames node) : HasParsedHead node := by
  refine parsed node ?_
  rw [Node.preorder_eq]
  exact List.mem_cons_self

/-- Other children leave names parsed that are parsed all the way down. -/
theorem hasParsedNames_of_children {node : Node} (parsed : HasParsedNames node)
    {children : List Node} (below : ∀ child ∈ children, HasParsedNames child) :
    HasParsedNames { node with children } := by
  have here := parsed_at_node parsed
  intro lower inTree
  rw [Node.preorder_eq, List.mem_cons] at inTree
  rcases inTree with rfl | inBelow
  · exact here
  · rw [preorderAll_eq_flatMap] at inBelow
    obtain ⟨child, member, inChild⟩ := List.mem_flatMap.1 inBelow
    exact below child member lower inChild

theorem foldedContent_ne_endTag {visits : Visits} {node : Node} (parsed : HasParsedNames node)
    (rest rest' : List Char) :
    '<' :: '/' :: rest ≠ foldedContent config visits node ++ rest' := by
  obtain ⟨first, tail, tag_eq, noSlash⟩ := exists_cons_of_isParsedName (parsed_at_node parsed).1
  intro equal
  rw [foldedContent_eq, tagInside, tag_eq, List.cons_append, List.cons_append,
    List.cons.injEq] at equal
  cases folded : config.fold (first :: (tail ++
      (countedAttributes (visits.excludedOf node) node).flatMap
        fun entry => (writtenAttribute entry).toList)) with
  | nil => simp [folded] at equal
  | cons head others =>
      rw [folded, List.cons_append, List.cons_append, List.cons.injEq] at equal
      rw [← equal.2.1] at folded
      exact config.fold_head_ne_slash noSlash _ _ folded

section Unique

variable {visits visits' : Visits}

/-- No content of the other side is a proper beginning of this one, or the reverse. -/
def HasUniqueContent (visits visits' : Visits) (node : Node) : Prop :=
  ∀ other, HasParsedNames other → ∀ rest rest',
    foldedContent config visits node ++ rest = foldedContent config visits' other ++ rest' →
      foldedContent config visits node = foldedContent config visits' other ∧ rest = rest'

/-- Start tags, texts and the contents of children are the same. -/
structure SameParts (visits visits' : Visits) (node other : Node) : Prop where
  signature : config.fold (tagInside (visits.excludedOf node) node) =
    config.fold (tagInside (visits'.excludedOf other) other)
  text : config.fold node.text.toList = config.fold other.text.toList
  children : List.Forall₂
    (fun child child' => foldedContent config visits child = foldedContent config visits' child')
    (visits.kept node.children) (visits'.kept other.children)

/-- Contents one after the other, up to the end tag behind them, can be told apart. -/
theorem siblings_unique {nodes others : List Node}
    (unique : ∀ node ∈ nodes, HasUniqueContent config visits visits' node)
    (nodesParsed : ∀ node ∈ nodes, HasParsedNames node)
    (othersParsed : ∀ other ∈ others, HasParsedNames other) {rest rest' : List Char}
    (equal : nodes.flatMap (foldedContent config visits) ++ '<' :: '/' :: rest =
      others.flatMap (foldedContent config visits') ++ '<' :: '/' :: rest') :
    List.Forall₂
        (fun node other => foldedContent config visits node = foldedContent config visits' other)
        nodes others ∧
      rest = rest' := by
  induction nodes generalizing others with
  | nil =>
      cases others with
      | nil =>
          simp only [List.flatMap_nil, List.nil_append, List.cons.injEq, true_and] at equal
          exact ⟨.nil, equal⟩
      | cons other others =>
          rw [List.flatMap_nil, List.nil_append, List.flatMap_cons, List.append_assoc] at equal
          exact absurd equal (foldedContent_ne_endTag config (othersParsed other (by simp)) _ _)
  | cons node nodes inductionHypothesis =>
      cases others with
      | nil =>
          rw [List.flatMap_nil, List.nil_append, List.flatMap_cons, List.append_assoc] at equal
          exact absurd equal.symm
            (foldedContent_ne_endTag config (nodesParsed node (by simp)) _ _)
      | cons other others =>
          rw [List.flatMap_cons, List.flatMap_cons, List.append_assoc, List.append_assoc] at equal
          obtain ⟨sameContent, behind⟩ :=
            unique node (by simp) other (othersParsed other (by simp)) _ _ equal
          obtain ⟨sameOthers, rest_eq⟩ := inductionHypothesis
            (fun child member => unique child (by simp [member]))
            (fun child member => nodesParsed child (by simp [member]))
            (fun child member => othersParsed child (by simp [member])) behind
          exact ⟨.cons sameContent sameOthers, rest_eq⟩

/-- What follows the text of a node begins with an opening bracket. -/
theorem exists_bracket_behind_text (visits : Visits) (nodes : List Node) (rest : List Char) :
    ∃ tail, nodes.flatMap (foldedContent config visits) ++ '<' :: rest = '<' :: tail := by
  cases nodes with
  | nil => exact ⟨rest, rfl⟩
  | cons node others =>
      rw [List.flatMap_cons, foldedContent_eq]
      exact ⟨_, rfl⟩

/-- Equal contents consist of equal parts, if those of the children can be told apart. -/
theorem sameParts_of_equal {node other : Node} (parsed : HasParsedNames node)
    (otherParsed : HasParsedNames other)
    (unique : ∀ child ∈ node.children, HasUniqueContent config visits visits' child)
    {rest rest' : List Char}
    (equal : foldedContent config visits node ++ rest =
      foldedContent config visits' other ++ rest') :
    SameParts config visits visits' node other ∧
      foldedContent config visits node = foldedContent config visits' other ∧ rest = rest' := by
  have tagPlain {walked : Visits} {node : Node} (parsed : HasParsedNames node) :
      Bracketless (config.fold (tagInside (walked.excludedOf node) node)) :=
    config.bracketless_fold.2 (bracketless_tagInside (parsed_at_node parsed) _)
  have written := equal
  rw [foldedContent_eq, foldedContent_eq] at written
  simp only [List.append_assoc, List.cons_append, List.nil_append, List.cons.injEq,
    true_and] at written
  obtain ⟨sameTag, _, behindTag⟩ := split_at_bracket (tagPlain parsed) (tagPlain otherParsed)
    (.inr rfl) (.inr rfl) written
  obtain ⟨tail, bracket⟩ := exists_bracket_behind_text config visits (visits.kept node.children)
    ('/' :: (config.fold node.tag.toList ++ '>' :: rest))
  obtain ⟨tail', bracket'⟩ := exists_bracket_behind_text config visits'
    (visits'.kept other.children) ('/' :: (config.fold other.tag.toList ++ '>' :: rest'))
  rw [bracket, bracket'] at behindTag
  obtain ⟨sameText, _, behindText⟩ := split_at_bracket
    (bracketless_escapeText (config.fold node.text.toList))
    (bracketless_escapeText (config.fold other.text.toList)) (.inl rfl) (.inl rfl) behindTag
  have forests := bracket.trans ((congrArg ('<' :: ·) behindText).trans bracket'.symm)
  obtain ⟨sameChildren, behindChildren⟩ := siblings_unique config
    (fun child member => unique child (Visits.mem_kept.1 member).1)
    (fun child => hasParsedNames_of_kept parsed) (fun child => hasParsedNames_of_kept otherParsed)
    forests
  have namePlain {node : Node} (parsed : HasParsedNames node) :
      Bracketless (config.fold node.tag.toList) :=
    config.bracketless_fold.2 (bracketless_of_isParsedName (parsed_at_node parsed).1)
  obtain ⟨_, _, rest_eq⟩ := split_at_bracket (namePlain parsed) (namePlain otherParsed)
    (.inr rfl) (.inr rfl) behindChildren
  rw [rest_eq] at equal
  exact ⟨⟨sameTag, escapeText_injective sameText, sameChildren⟩,
    List.append_cancel_right equal, rest_eq⟩

/-- The content of a node with parsed names can be told from whatever follows it. -/
theorem hasUniqueContent (node : Node) (parsed : HasParsedNames node) :
    HasUniqueContent config visits visits' node := by
  induction node using Node.childInduction with
  | step node inductionHypothesis =>
      intro other otherParsed rest rest' equal
      exact (sameParts_of_equal config parsed otherParsed
        (fun child member =>
          inductionHypothesis child member (hasParsedNames_of_mem_children parsed member))
        equal).2

theorem sameParts_of_foldedContent_eq {node other : Node} (parsed : HasParsedNames node)
    (otherParsed : HasParsedNames other)
    (equal : foldedContent config visits node = foldedContent config visits' other) :
    SameParts config visits visits' node other :=
  (sameParts_of_equal config parsed otherParsed
    (fun child member =>
      hasUniqueContent config child (hasParsedNames_of_mem_children parsed member))
    (congrArg (· ++ []) equal)).1

end Unique

/-! ## Keys -/

variable {outlook : Outlook}

theorem normalize_plainContent_toList (visits : Visits) (node : Node) :
    (config.normalize (visits.plainContent node)).toList = foldedContent config visits node := by
  rw [Config.normalize_toList, (isTagged_plainContent visits node).key_eq]
  rfl

theorem sameContent_iff (side : Side) (node other : Node) :
    outlook.sameContent side node other = true ↔
      foldedContent outlook.config (outlook.visits side) node =
        foldedContent outlook.config (outlook.visits (otherSide side)) other := by
  rw [Outlook.sameContent, beq_iff_eq, Outlook.keys, Outlook.keys, ← String.toList_inj,
    normalize_plainContent_toList, normalize_plainContent_toList]

/-- The brackets of a signature have no letter case. -/
theorem fold_signature (visits : Visits) (node : Node) :
    config.fold (visits.signature node).toList =
      '<' :: (config.fold (tagInside (visits.excludedOf node) node) ++ ['>']) := by
  rw [Visits.signature, signatureWith_toList, List.cons_append,
    config.fold_cons_mark (by decide) (by decide), config.fold_append_greater, config.fold_nil]

theorem signatureKey_toList (visits : Visits) (node : Node) :
    (visits.signatureKey config node).toList = config.fold (visits.signature node).toList := by
  rw [Visits.signatureKey, Config.normalize_toList, (isTagged_signature visits node).key_eq]

/-- Signature keys are equal if and only if start tags are, in the letter case that a
comparison sees. -/
theorem signatureKey_eq_iff (visits visits' : Visits) (node other : Node) :
    visits.signatureKey config node = visits'.signatureKey config other ↔
      config.fold (tagInside (visits.excludedOf node) node) =
        config.fold (tagInside (visits'.excludedOf other) other) := by
  rw [← String.toList_inj, signatureKey_toList, signatureKey_toList, fold_signature,
    fold_signature, List.cons.injEq, List.append_cancel_right_eq]
  exact and_iff_right rfl

/-- Nodes of equal content have one signature key, one text key, and kept children of
pairwise equal content. -/
theorem parts_of_sameContent {node other : Node} (parsed : HasParsedNames node)
    (otherParsed : HasParsedNames other)
    (same : outlook.sameContent .first node other = true) :
    (outlook.keys .first node).signature = (outlook.keys .second other).signature ∧
      textKey outlook.config node = textKey outlook.config other ∧
      List.Forall₂ (fun child child' => outlook.sameContent .first child child' = true)
        (outlook.kept .first node.children) (outlook.kept .second other.children) := by
  have parts := sameParts_of_foldedContent_eq outlook.config parsed otherParsed
    ((sameContent_iff .first node other).1 same)
  refine ⟨?_, ?_, ?_⟩
  · exact (signatureKey_eq_iff outlook.config outlook.first outlook.second node other).2
      parts.signature
  · exact outlook.config.normalize_eq_of_fold_eq parts.text
  · exact parts.children.imp fun child child' => (sameContent_iff .first child child').2

end XmlCollation.Compare
