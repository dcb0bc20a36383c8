import XmlCollation.Proofs.Compare.Serialization

/-!
Contract: start tags, read back.

Owns:
- the attributes of a start tag as a comparison sees them, with names and quoted values
  that show where they end;
- equal start tags of nodes with parsed names: their tags are equal, and so are their
  attributes, one after the other.

Does not own: which attributes count.
-/

namespace XmlCollation.Compare

open XmlCollation.Text
open XmlCollation.Tree
open XmlCollation.Markup

variable (config : Config)

/-! ## Attributes as they are written -/

/-- The name and the quoted value of an attribute, in the letter case that a comparison
sees. -/
def shownAttribute (entry : String × String) : List Char × List Char :=
  (config.fold entry.1.toList, quoteValue (config.fold entry.2.toList))

/-- A name and a quoted value, as they stand in a start tag. -/
def spelledAttribute (shown : List Char × List Char) : List Char :=
  ' ' :: (shown.1 ++ '=' :: shown.2)

/-- A start tag in the letter case that a comparison sees shows its tag and its attributes. -/
theorem fold_tagInside (excluded : List String) (node : Node) :
    config.fold (tagInside excluded node) =
      config.fold node.tag.toList ++
        ((countedAttributes excluded node).map (shownAttribute config)).flatMap
          spelledAttribute := by
  rw [List.flatMap_map]
  unfold Config.fold
  split
  · rename_i ignored
    rw [lower_tagInside]
    simp only [spelledAttribute, shownAttribute, Config.fold, ignored, ↓reduceIte]
  · rename_i counted
    simp only [tagInside, spelledAttribute, shownAttribute, Config.fold, counted,
      writtenAttribute_toList]
    rfl

/-! ## Names and quoted values -/

/-- A name that ends where the first equals sign follows, braces around an address left out
of account. -/
def IsShownName (name : List Char) : Prop :=
  ('=' ∉ name ∧ '\x7b' ∉ name) ∨
    ∃ address plain, name = '\x7b' :: address ++ '\x7d' :: plain ∧ '\x7d' ∉ address ∧ '=' ∉ plain

theorem isShownName_fold {name : List Char} (parsed : isParsedName name = true) :
    IsShownName (config.fold name) := by
  rw [isParsedName, Bool.or_eq_true] at parsed
  rcases parsed with named | expanded
  · refine .inl ⟨?_, ?_⟩
    · rw [config.mem_fold_mark (by decide)]
      exact notMem_of_isName named (by decide)
    · rw [config.mem_fold_mark (by decide)]
      exact notMem_of_isName named (by decide)
  · obtain ⟨address, plain, rfl, inAddress, named⟩ := exists_parts_of_isExpandedName expanded
    refine .inr ⟨config.fold address, config.fold plain, ?_, ?_, ?_⟩
    · rw [config.fold_append_mark (by decide) (by decide),
        config.fold_cons_mark (by decide) (by decide)]
    · rw [config.mem_fold_mark (by decide)]
      intro member
      have isAddress := inAddress _ member
      simp [isAddressChar] at isAddress
    · rw [config.mem_fold_mark (by decide)]
      exact notMem_of_isName named (by decide)

/-- A shown name can be told from the equals sign that follows it. -/
theorem IsShownName.unique {name other rest rest' : List Char} (shown : IsShownName name)
    (otherShown : IsShownName other) (equal : name ++ '=' :: rest = other ++ '=' :: rest') :
    name = other ∧ rest = rest' := by
  -- A name without braces does not begin like one with an address.
  have noAddress {plain inner rest rest' : List Char} (noBrace : '\x7b' ∉ plain)
      (equal : plain ++ '=' :: rest = '\x7b' :: inner ++ rest') : False := by
    cases plain with
    | nil => simp at equal
    | cons c tail =>
        rw [List.cons_append, List.cons_append, List.cons.injEq] at equal
        exact noBrace (equal.1 ▸ List.mem_cons_self)
  rcases shown with ⟨noEquals, noBrace⟩ | ⟨address, plain, rfl, closed, noEquals⟩
  · rcases otherShown with ⟨otherNoEquals, _⟩ | ⟨address, plain, rfl, _, _⟩
    · obtain ⟨same, _, behind⟩ := split_at_mark noEquals otherNoEquals equal
      exact ⟨same, behind⟩
    · rw [List.append_assoc] at equal
      exact (noAddress noBrace equal).elim
  · rcases otherShown with ⟨_, otherNoBrace⟩ | ⟨address', plain', rfl, closed', noEquals'⟩
    · rw [List.append_assoc] at equal
      exact (noAddress otherNoBrace equal.symm).elim
    · simp only [List.append_assoc, List.cons_append, List.cons.injEq, true_and] at equal
      obtain ⟨sameAddress, _, behindAddress⟩ := split_at_mark closed closed' equal
      obtain ⟨samePlain, _, behind⟩ := split_at_mark noEquals noEquals' behindAddress
      exact ⟨by rw [sameAddress, samePlain], behind⟩

/-- A quoted value can be told from whatever follows it. -/
theorem isQuoted_unique {value other rest rest' : List Char} (quoted : IsQuoted value)
    (otherQuoted : IsQuoted other) (equal : value ++ rest = other ++ rest') :
    value = other ∧ rest = rest' := by
  obtain ⟨quote, inner, rfl, absent⟩ := quoted
  obtain ⟨quote', inner', rfl, absent'⟩ := otherQuoted
  simp only [List.append_assoc, List.cons_append, List.nil_append, List.cons.injEq] at equal
  obtain ⟨rfl, inside⟩ := equal
  obtain ⟨sameInner, _, behind⟩ := split_at_mark absent absent' inside
  exact ⟨by rw [sameInner], behind⟩

/-! ## Start tags -/

/-- An attribute of which both parts show where they end. -/
structure IsShown (shown : List Char × List Char) : Prop where
  name : IsShownName shown.1
  value : IsQuoted shown.2

/-- Attributes up to a closing bracket can be told apart. -/
theorem attributes_unique {shown others : List (List Char × List Char)} {rest rest' : List Char}
    (isShown : ∀ entry ∈ shown, IsShown entry)
    (othersShown : ∀ entry ∈ others, IsShown entry)
    (equal : shown.flatMap spelledAttribute ++ '>' :: rest =
      others.flatMap spelledAttribute ++ '>' :: rest') :
    shown = others := by
  induction shown generalizing others with
  | nil =>
      cases others with
      | nil => rfl
      | cons other others => simp [spelledAttribute] at equal
  | cons entry shown inductionHypothesis =>
      cases others with
      | nil => simp [spelledAttribute] at equal
      | cons other others =>
          have here := isShown entry (by simp)
          have there := othersShown other (by simp)
          simp only [List.flatMap_cons, spelledAttribute, List.append_assoc, List.cons_append,
            List.cons.injEq, true_and] at equal
          obtain ⟨sameName, behindName⟩ := here.name.unique there.name equal
          obtain ⟨sameValue, behind⟩ := isQuoted_unique here.value there.value behindName
          have sameRest := inductionHypothesis (fun shown member => isShown shown (by simp [member]))
            (fun shown member => othersShown shown (by simp [member])) behind
          rw [sameRest, Prod.ext sameName sameValue]

theorem isShown_of_mem {node : Node} (parsed : HasParsedHead node) (excluded : List String) :
    ∀ entry ∈ (countedAttributes excluded node).map (shownAttribute config),
      IsShown entry := by
  intro entry member
  obtain ⟨written, counted, rfl⟩ := List.mem_map.1 member
  have inNode : written ∈ node.attributes := (mem_countedAttributes.1 counted).1
  exact ⟨isShownName_fold config (parsed.2 written inNode), isQuoted_quoteValue _⟩

/-- Start tags of nodes with parsed names are equal if and only if their tags are, and their
attributes, one after the other. -/
theorem fold_tagInside_eq_iff {excluded excluded' : List String} {node other : Node}
    (parsed : HasParsedHead node) (otherParsed : HasParsedHead other) :
    config.fold (tagInside excluded node) = config.fold (tagInside excluded' other) ↔
      config.fold node.tag.toList = config.fold other.tag.toList ∧
        (countedAttributes excluded node).map (shownAttribute config) =
          (countedAttributes excluded' other).map (shownAttribute config) := by
  rw [fold_tagInside, fold_tagInside]
  constructor
  · intro equal
    have tagPlain {node : Node} (parsed : HasParsedHead node) :
        ' ' ∉ config.fold node.tag.toList ∧ '>' ∉ config.fold node.tag.toList := by
      rw [config.mem_fold_mark (by decide), config.mem_fold_mark (by decide)]
      exact ⟨space_notMem_of_isParsedName parsed.1,
        fun member => (bracketless_of_isParsedName parsed.1 _ member).2 rfl⟩
    have begins (shown : List (List Char × List Char)) :
        ∃ mark rest, shown.flatMap spelledAttribute ++ ['>'] = mark :: rest ∧
          (mark = ' ' ∨ mark = '>') := by
      cases shown with
      | nil => exact ⟨'>', [], rfl, .inr rfl⟩
      | cons entry shown => exact ⟨' ', _, rfl, .inl rfl⟩
    have notIn {node : Node} (parsed : HasParsedHead node) {mark : Char}
        (ends : mark = ' ' ∨ mark = '>') : mark ∉ config.fold node.tag.toList := by
      rcases ends with rfl | rfl
      · exact (tagPlain parsed).1
      · exact (tagPlain parsed).2
    obtain ⟨mark, rest, here, ends⟩ :=
      begins ((countedAttributes excluded node).map (shownAttribute config))
    obtain ⟨mark', rest', there, ends'⟩ :=
      begins ((countedAttributes excluded' other).map (shownAttribute config))
    have closed := congrArg (· ++ ['>']) equal
    simp only [List.append_assoc] at closed
    rw [here, there] at closed
    obtain ⟨sameTag, sameMark, sameRest⟩ :=
      split_at_mark (notIn parsed ends') (notIn otherParsed ends) closed
    have sameAttributes :
        ((countedAttributes excluded node).map (shownAttribute config)).flatMap spelledAttribute ++
            '>' :: [] =
          ((countedAttributes excluded' other).map (shownAttribute config)).flatMap
            spelledAttribute ++ '>' :: [] := by
      rw [here, there, sameMark, sameRest]
    exact ⟨sameTag, attributes_unique (isShown_of_mem config parsed excluded)
      (isShown_of_mem config otherParsed excluded') sameAttributes⟩
  · rintro ⟨sameTag, sameAttributes⟩
    rw [sameTag, sameAttributes]

end XmlCollation.Compare
