import XmlCollation.Markup.Chars
import XmlCollation.Proofs.Markup.Escaping
import XmlCollation.Text.Blank
import XmlCollation.Tree.Node

/-!
Contract: the names of parsed trees.

Owns:
- names as the reader hands them out: plain, or with the address of their
  namespace in braces;
- such names hold no angle bracket and no space, and begin with no slash.

Does not own: how namespaces are resolved.
-/

namespace XmlCollation.Markup

open XmlCollation.Text
open XmlCollation.Tree

/-- A character of a namespace address that can stand between braces in a tag. -/
def isAddressChar (c : Char) : Bool :=
  !isBlank c && c != '<' && c != '>' && c != '\x7b' && c != '\x7d'

/-- A name behind the address of its namespace in braces. -/
def isExpandedName : List Char → Bool
  | '\x7b' :: rest =>
      (rest.takeWhile (· != '\x7d')).all isAddressChar
        && isName ((rest.dropWhile (· != '\x7d')).drop 1)
  | _ => false

/-- A tag or the name of an attribute as the reader hands it out. -/
def isParsedName (name : List Char) : Bool :=
  isName name || isExpandedName name

/-- The tag of one node and the names of its attributes are such names. -/
def HasParsedHead (node : Node) : Prop :=
  isParsedName node.tag.toList = true ∧
    ∀ entry ∈ node.attributes, isParsedName entry.1.toList = true

instance (node : Node) : Decidable (HasParsedHead node) := by
  unfold HasParsedHead
  infer_instance

/-- All tags and all names of attributes are such names. -/
def HasParsedNames (root : Node) : Prop :=
  ∀ node ∈ root.preorder, isParsedName node.tag.toList = true ∧
    ∀ entry ∈ node.attributes, isParsedName entry.1.toList = true

instance (root : Node) : Decidable (HasParsedNames root) := by
  unfold HasParsedNames
  infer_instance

theorem ne_bracket_of_isNameChar {c : Char} (follows : isNameChar c = true) :
    c ≠ '<' ∧ c ≠ '>' ∧ c ≠ '/' := by
  refine ⟨?_, ?_, ?_⟩ <;>
    (rintro rfl; revert follows; decide)

theorem isNameChar_of_isNameStart {c : Char} (starts : isNameStart c = true) :
    isNameChar c = true := by
  simp only [isNameStart, isNameChar, isPlainNameChar, Bool.or_eq_true] at *
  rcases starts with colon | plain
  · exact .inl colon
  · exact .inr (.inl plain)

theorem isName_of_isPlainName {name : List Char} (plain : isPlainName name = true) :
    isName name = true := by
  cases name with
  | nil => cases plain
  | cons first rest =>
      rw [isPlainName, Bool.and_eq_true, List.all_eq_true] at plain
      rw [isName, Bool.and_eq_true, List.all_eq_true, isNameStart, plain.1, Bool.or_true]
      refine ⟨rfl, fun c member => ?_⟩
      rw [isNameChar, plain.2 c member, Bool.or_true]

/-- A name consists of name characters, and there is a first one. -/
theorem exists_cons_of_isName {name : List Char} (named : isName name = true) :
    ∃ first rest, name = first :: rest ∧ ∀ c ∈ name, isNameChar c = true := by
  cases name with
  | nil => cases named
  | cons first rest =>
      rw [isName, Bool.and_eq_true, List.all_eq_true] at named
      refine ⟨first, rest, rfl, ?_⟩
      intro c member
      rcases List.mem_cons.1 member with rfl | inRest
      · exact isNameChar_of_isNameStart named.1
      · exact named.2 c inRest

theorem bracketless_of_isName {name : List Char} (named : isName name = true) :
    Bracketless name := by
  obtain ⟨_, _, _, follow⟩ := exists_cons_of_isName named
  intro c member
  have different := ne_bracket_of_isNameChar (follow c member)
  exact ⟨different.1, different.2.1⟩

/-- A name holds name characters only. -/
theorem notMem_of_isName {name : List Char} (named : isName name = true) {c : Char}
    (foreign : isNameChar c = false) : c ∉ name := by
  obtain ⟨_, _, _, follow⟩ := exists_cons_of_isName named
  intro member
  rw [follow c member] at foreign
  cases foreign

/-- An expanded name is an address in braces, and a name behind it. -/
theorem exists_parts_of_isExpandedName {name : List Char} (expanded : isExpandedName name = true) :
    ∃ address plain, name = '\x7b' :: address ++ '\x7d' :: plain ∧
      (∀ c ∈ address, isAddressChar c = true) ∧ isName plain = true := by
  unfold isExpandedName at expanded
  split at expanded
  · rename_i rest
    rw [Bool.and_eq_true, List.all_eq_true] at expanded
    obtain ⟨inAddress, named⟩ := expanded
    refine ⟨rest.takeWhile (· != '\x7d'), (rest.dropWhile (· != '\x7d')).drop 1, ?_, inAddress,
      named⟩
    have closed : rest.dropWhile (· != '\x7d') =
        '\x7d' :: (rest.dropWhile (· != '\x7d')).drop 1 := by
      cases tail : rest.dropWhile (· != '\x7d') with
      | nil =>
          rw [tail] at named
          cases named
      | cons brace others =>
          have stops := List.head?_dropWhile_not (· != '\x7d') rest
          rw [tail] at stops
          have isBrace : brace = '\x7d' := by simpa using stops
          rw [isBrace, List.drop_succ_cons, List.drop_zero]
    rw [← closed, List.cons_append, List.takeWhile_append_dropWhile]
  · cases expanded

/-- An address in braces and a name behind it are an expanded name. -/
theorem isExpandedName_append {address plain : List Char}
    (addresses : ∀ c ∈ address, isAddressChar c = true) (named : isName plain = true) :
    isExpandedName ('\x7b' :: address ++ '\x7d' :: plain) = true := by
  have noBrace : ∀ c ∈ address, (c != '\x7d') = true := by
    intro c member
    have address := addresses c member
    rw [isAddressChar, Bool.and_eq_true] at address
    exact address.2
  have stops : ('\x7d' != '\x7d') = false := bne_self_eq_false' _
  show ((address ++ '\x7d' :: plain).takeWhile (· != '\x7d')).all isAddressChar
    && isName (((address ++ '\x7d' :: plain).dropWhile (· != '\x7d')).drop 1)
  rw [List.takeWhile_append_of_pos noBrace, List.dropWhile_append_of_pos noBrace,
    List.takeWhile_cons, List.dropWhile_cons, stops, if_neg Bool.false_ne_true,
    if_neg Bool.false_ne_true, List.append_nil, List.drop_succ_cons, List.drop_zero, named,
    List.all_eq_true.2 addresses]
  rfl

theorem bracketless_of_isParsedName {name : List Char} (parsed : isParsedName name = true) :
    Bracketless name := by
  rw [isParsedName, Bool.or_eq_true] at parsed
  rcases parsed with named | expanded
  · exact bracketless_of_isName named
  · obtain ⟨address, plain, rfl, inAddress, named⟩ := exists_parts_of_isExpandedName expanded
    intro c member
    rw [List.cons_append, List.mem_cons, List.mem_append, List.mem_cons] at member
    rcases member with rfl | address | rfl | inPlain
    · decide
    · have isAddress := inAddress c address
      simp only [isAddressChar, Bool.and_eq_true, bne_iff_ne, ne_eq] at isAddress
      exact ⟨isAddress.1.1.1.2, isAddress.1.1.2⟩
    · decide
    · exact bracketless_of_isName named c inPlain

/-- No space stands in a parsed name. -/
theorem space_notMem_of_isParsedName {name : List Char} (parsed : isParsedName name = true) :
    ' ' ∉ name := by
  rw [isParsedName, Bool.or_eq_true] at parsed
  rcases parsed with named | expanded
  · exact notMem_of_isName named (by decide)
  · obtain ⟨address, plain, rfl, inAddress, named⟩ := exists_parts_of_isExpandedName expanded
    rw [List.cons_append, List.mem_cons, List.mem_append, List.mem_cons]
    rintro (brace | address | brace | inPlain)
    · exact absurd brace (by decide)
    · have isAddress := inAddress ' ' address
      simp only [isAddressChar, Bool.and_eq_true] at isAddress
      exact absurd isAddress.1.1.1.1 (by decide)
    · exact absurd brace (by decide)
    · exact notMem_of_isName named (by decide) inPlain

/-- A parsed name begins, and not with a slash. -/
theorem exists_cons_of_isParsedName {name : List Char} (parsed : isParsedName name = true) :
    ∃ first rest, name = first :: rest ∧ first ≠ '/' := by
  rw [isParsedName, Bool.or_eq_true] at parsed
  rcases parsed with named | expanded
  · obtain ⟨first, rest, rfl, follow⟩ := exists_cons_of_isName named
    exact ⟨first, rest, rfl, (ne_bracket_of_isNameChar (follow first (by simp))).2.2⟩
  · obtain ⟨address, plain, rfl, _, _⟩ := exists_parts_of_isExpandedName expanded
    exact ⟨'\x7b', address ++ '\x7d' :: plain, rfl, by decide⟩

end XmlCollation.Markup
