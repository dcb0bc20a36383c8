import Mathlib.Data.List.TakeDrop
import XmlCollation.Tree.Parse

/-!
Contract: the declaration at the beginning of a document.

Owns:
- the grammar of declarations, and what the reading of decoded text takes for one;
- text without the part of a kind at its beginning, and the white space before it;
- what is left of decoded text: nothing but a declaration is taken off if and only if whatever
  is taken for one is one.

Does not own: the reading of what is left.

## What is taken for a declaration

A question mark has to precede the first angle bracket, and the keyword has to end where a word
ends.  A hyphen ends a word too, so that an instruction whose name only begins like the keyword
is taken for a declaration, and so is one that gives no version.
-/

namespace XmlCollation.Tree

open XmlCollation.Text
open XmlCollation.Markup

/-! ## The grammar -/

/-- A setting of a declaration: white space, a keyword, an equals sign with white space around
it, and a value in quotation marks. -/
inductive IsSetting (keyword : String) (isValue : List Char → Prop) : List Char → Prop where
  | intro {c mark : Char} {gap before after value : List Char}
      (spaces : (c :: gap ++ before ++ after).all isSpace = true)
      (isMark : mark = '"' ∨ mark = '\x27') (valid : isValue value) :
      IsSetting keyword isValue
        (c :: gap ++ keyword.toList ++ before ++ '=' :: after ++ mark :: value ++ [mark])

def IsVersion (value : List Char) : Prop :=
  ∃ digits, value = '1' :: '.' :: digits ∧ digits ≠ [] ∧ digits.all isDigit = true

def IsAnswer (value : List Char) : Prop :=
  value = "yes".toList ∨ value = "no".toList

/-- A declaration: its version, and maybe its encoding and whether it stands alone. -/
inductive IsDeclaration : List Char → Prop where
  | intro {version encoding standalone gap : List Char}
      (isVersion : IsSetting "version" IsVersion version)
      (isEncoding : encoding = [] ∨
        IsSetting "encoding" (Reader.isEncodingName · = true) encoding)
      (isStandalone : standalone = [] ∨ IsSetting "standalone" IsAnswer standalone)
      (spaces : gap.all isSpace = true) :
      IsDeclaration
        ("<?xml".toList ++ (version ++ encoding ++ standalone ++ gap) ++ "?>".toList)

/-- What is taken for a declaration: the keyword at the end of a word, and whatever comes up to
the first angle bracket, with a question mark before that. -/
inductive IsTakenForDeclaration : List Char → Prop where
  | intro {inside : List Char} (wordEnds : inside.head?.any isWordChar = false)
      (noBracket : '>' ∉ inside) :
      IsTakenForDeclaration ("<?xml".toList ++ inside ++ "?>".toList)

/-- White space and a part of a kind stand at the beginning, in front of the rest. -/
def BeginsWith (kind : List Char → Prop) (chars rest : List Char) : Prop :=
  ∃ blanks part, chars = blanks ++ part ++ rest ∧ blanks.all isBlank = true ∧ kind part

/-- Nothing but a part of a kind was taken off at the beginning, with the white space before
it. -/
def IsLeftWithout (kind : List Char → Prop) (chars data : List Char) : Prop :=
  BeginsWith kind chars data ∨ (∀ rest, ¬BeginsWith kind chars rest) ∧ data = chars

/-! ## Declarations are taken for declarations -/

/-- Characters of a class that leaves out the angle bracket are no angle brackets. -/
theorem bracket_notMem_of_all {kind : Char → Bool} (excluded : kind '>' = false)
    {chars : List Char} (areOfKind : chars.all kind = true) : '>' ∉ chars := by
  intro member
  have ofKind := List.all_eq_true.1 areOfKind _ member
  rw [excluded] at ofKind
  cases ofKind

theorem IsVersion.bracket_notMem {value : List Char} (isVersion : IsVersion value) :
    '>' ∉ value := by
  obtain ⟨digits, rfl, _, areDigits⟩ := isVersion
  simp only [List.mem_cons, not_or]
  exact ⟨by decide, by decide, bracket_notMem_of_all (by decide) areDigits⟩

theorem bracket_notMem_of_isEncodingName {value : List Char}
    (isName : Reader.isEncodingName value = true) : '>' ∉ value := by
  cases value with
  | nil => exact List.not_mem_nil
  | cons c rest =>
      rw [Reader.isEncodingName, Bool.and_eq_true] at isName
      rw [List.mem_cons, not_or]
      refine ⟨?_, bracket_notMem_of_all (by decide) isName.2⟩
      rintro rfl
      exact absurd isName.1 (by decide)

theorem IsAnswer.bracket_notMem {value : List Char} (isAnswer : IsAnswer value) :
    '>' ∉ value := by
  rcases isAnswer with rfl | rfl
  · decide
  · decide

theorem IsSetting.bracket_notMem {keyword : String} {isValue : List Char → Prop}
    {chars : List Char} (setting : IsSetting keyword isValue chars)
    (inKeyword : '>' ∉ keyword.toList) (inValue : ∀ value, isValue value → '>' ∉ value) :
    '>' ∉ chars := by
  obtain @⟨c, mark, gap, before, after, value, spaces, isMark, valid⟩ := setting
  rw [List.all_append, List.all_append, Bool.and_eq_true, Bool.and_eq_true] at spaces
  have inGap := bracket_notMem_of_all (by decide) spaces.1.1
  have inBefore := bracket_notMem_of_all (by decide) spaces.1.2
  have inAfter := bracket_notMem_of_all (by decide) spaces.2
  have notMark : '>' ≠ mark := by
    rcases isMark with rfl | rfl
    · decide
    · decide
  simp only [List.mem_append, List.mem_cons, List.not_mem_nil, or_false, not_or]
    at inGap ⊢
  exact ⟨⟨⟨⟨⟨inGap, inKeyword⟩, inBefore⟩, by decide, inAfter⟩, notMark, inValue value valid⟩,
    notMark⟩

/-- A setting begins with white space. -/
theorem IsSetting.exists_space {keyword : String} {isValue : List Char → Prop}
    {chars : List Char} (setting : IsSetting keyword isValue chars) :
    ∃ c rest, chars = c :: rest ∧ isSpace c = true := by
  obtain @⟨c, mark, gap, before, after, value, spaces, isMark, valid⟩ := setting
  exact ⟨c, _, rfl, List.all_eq_true.1 spaces c (by simp)⟩

theorem isWordChar_of_isSpace {c : Char} (space : isSpace c = true) : isWordChar c = false := by
  simp only [isSpace, Bool.or_eq_true, beq_iff_eq] at space
  rcases space with ((rfl | rfl) | rfl) | rfl
  · decide
  · decide
  · decide
  · decide

/-- The keyword of a declaration is followed by white space. -/
theorem IsDeclaration.exists_space {chars : List Char} (declaration : IsDeclaration chars) :
    ∃ c rest, chars = "<?xml".toList ++ c :: rest ∧ isSpace c = true := by
  obtain @⟨version, encoding, standalone, gap, isVersion, _, _, _⟩ := declaration
  obtain ⟨c, rest, rfl, space⟩ := isVersion.exists_space
  refine ⟨c, rest ++ encoding ++ standalone ++ gap ++ "?>".toList, ?_, space⟩
  simp only [List.append_assoc, List.cons_append]

theorem IsDeclaration.isTaken {chars : List Char} (declaration : IsDeclaration chars) :
    IsTakenForDeclaration chars := by
  obtain @⟨version, encoding, standalone, gap, isVersion, isEncoding, isStandalone, spaces⟩ :=
    declaration
  refine .intro ?_ ?_
  · obtain ⟨c, rest, rfl, space⟩ := isVersion.exists_space
    exact isWordChar_of_isSpace space
  · have inVersion := isVersion.bracket_notMem (by decide) fun _ => IsVersion.bracket_notMem
    have inEncoding : '>' ∉ encoding := by
      rcases isEncoding with rfl | setting
      · exact List.not_mem_nil
      · exact setting.bracket_notMem (by decide) fun _ => bracket_notMem_of_isEncodingName
    have inStandalone : '>' ∉ standalone := by
      rcases isStandalone with rfl | setting
      · exact List.not_mem_nil
      · exact setting.bracket_notMem (by decide) fun _ => IsAnswer.bracket_notMem
    have inGap := bracket_notMem_of_all (by decide) spaces
    simp only [List.mem_append, not_or]
    exact ⟨⟨⟨inVersion, inEncoding⟩, inStandalone⟩, inGap⟩

/-! ## What is taken off -/

theorem afterToken?_append (token : String) (rest : List Char) :
    afterToken? token (token.toList ++ rest) = some rest := by
  rw [afterToken?, if_pos (by simp), ← String.length_toList, List.drop_left]

theorem eq_append_of_afterToken? {token : String} {chars rest : List Char}
    (after : afterToken? token chars = some rest) : chars = token.toList ++ rest := by
  rw [afterToken?, Option.ite_none_right_eq_some] at after
  obtain ⟨begins, dropped⟩ := after
  obtain ⟨whole, rfl⟩ := List.isPrefixOf_iff_prefix.1 begins
  rw [← String.length_toList, List.drop_left, Option.some.injEq] at dropped
  rw [dropped]

section Begins

variable {chars rest : List Char}

/-- What is taken for a declaration is taken off. -/
theorem withoutDeclaration_of_begins (begins : BeginsWith IsTakenForDeclaration chars rest) :
    withoutDeclaration chars = rest := by
  obtain ⟨blanks, part, rfl, areBlank, @⟨inside, wordEnds, noBracket⟩⟩ := begins
  have opened : (blanks ++ ("<?xml".toList ++ inside ++ "?>".toList) ++ rest).dropWhile isBlank =
      "<?xml".toList ++ (inside ++ ['?'] ++ '>' :: rest) := by
    rw [List.append_assoc, List.dropWhile_append_of_pos (List.all_eq_true.1 areBlank),
      List.append_assoc, List.append_assoc, List.append_assoc]
    rfl
  have inFront : ∀ c ∈ inside ++ ['?'], (c != '>') = true := by
    intro c member
    rw [bne_iff_ne]
    rintro rfl
    rcases List.mem_append.1 member with inInside | isMark
    · exact noBracket inInside
    · exact absurd isMark (by decide)
  have cut : (inside ++ ['?'] ++ '>' :: rest).span (· != '>') =
      (inside ++ ['?'], '>' :: rest) := by
    rw [List.span_eq_takeWhile_dropWhile, List.takeWhile_append_of_pos inFront,
      List.dropWhile_append_of_pos inFront]
    simp
  have closes : (!(inside ++ ['?'] ++ '>' :: rest).head?.any isWordChar &&
      (inside ++ ['?']).getLast? == some '?') = true := by
    have noWord : (inside ++ ['?'] ++ '>' :: rest).head?.any isWordChar = false := by
      cases inside with
      | nil => exact (by decide : isWordChar '?' = false)
      | cons c more => exact wordEnds
    rw [noWord, List.getLast?_concat]
    rfl
  rw [withoutDeclaration, opened, afterToken?_append]
  simp only [cut]
  rw [if_pos closes]

/-- Text whose first angle bracket follows a question mark, cut behind that bracket. -/
theorem exists_inside_of_bracket {behind body : List Char} {c : Char}
    (marked : (behind.takeWhile (· != '>')).getLast? = some '?')
    (closing : behind.dropWhile (· != '>') = c :: body) :
    ∃ inside, behind = inside ++ "?>".toList ++ body ∧ '>' ∉ inside := by
  obtain ⟨inside, beforeBracket⟩ := List.getLast?_eq_some_iff.1 marked
  have bracket : c = '>' := by
    have stops := List.head?_dropWhile_not (· != '>') behind
    rw [closing] at stops
    simpa using stops
  refine ⟨inside, ?_, fun member => ?_⟩
  · rw [← List.takeWhile_append_dropWhile (p := (· != '>')) (l := behind), beforeBracket, closing,
      bracket]
    simp
  · refine bracket_notMem_of_all (by decide) (List.all_takeWhile (p := (· != '>')) (l := behind)) ?_
    rw [beforeBracket]
    exact List.mem_append_left _ member

/-- Nothing is taken off where nothing is taken for a declaration. -/
theorem withoutDeclaration_of_not_begins
    (never : ∀ rest, ¬BeginsWith IsTakenForDeclaration chars rest) :
    withoutDeclaration chars = chars := by
  unfold withoutDeclaration
  split
  · rfl
  · rename_i behind after
    simp only [List.span_eq_takeWhile_dropWhile]
    split
    · rename_i ends
      split
      · rename_i c body closing
        refine absurd ?_ (never body)
        rw [Bool.and_eq_true, Bool.not_eq_true', beq_iff_eq] at ends
        obtain ⟨inside, split, noBracket⟩ := exists_inside_of_bracket ends.2 closing
        refine ⟨chars.takeWhile isBlank, "<?xml".toList ++ inside ++ "?>".toList, ?_,
          List.all_takeWhile, .intro ?_ noBracket⟩
        · have whole := List.takeWhile_append_dropWhile (p := isBlank) (l := chars)
          rw [eq_append_of_afterToken? after, split] at whole
          refine whole.symm.trans ?_
          simp only [List.append_assoc]
        · rw [split] at ends
          cases inside with
          | nil => rfl
          | cons first more => exact ends.1
      · rfl
    · rfl

/-- Exactly what is taken for a declaration is taken off. -/
theorem isLeftWithout_taken (chars : List Char) :
    IsLeftWithout IsTakenForDeclaration chars (withoutDeclaration chars) := by
  by_cases begins : ∃ rest, BeginsWith IsTakenForDeclaration chars rest
  · obtain ⟨rest, begins⟩ := begins
    rw [withoutDeclaration_of_begins begins]
    exact .inl begins
  · have never := not_exists.1 begins
    exact .inr ⟨never, withoutDeclaration_of_not_begins never⟩

theorem BeginsWith.length_lt (begins : BeginsWith IsTakenForDeclaration chars rest) :
    rest.length < chars.length := by
  obtain ⟨blanks, part, rfl, _, ⟨_, _⟩⟩ := begins
  simp only [List.length_append]
  have keyword : "<?xml".toList.length = 5 := rfl
  omega

theorem BeginsWith.isTaken (begins : BeginsWith IsDeclaration chars rest) :
    BeginsWith IsTakenForDeclaration chars rest := by
  obtain ⟨blanks, part, split, areBlank, declaration⟩ := begins
  exact ⟨blanks, part, split, areBlank, declaration.isTaken⟩

end Begins

/-- The tree of a text that has no declaration any more. -/
def parseBody (body : List Char) : Except ParseFault Node :=
  if body.all isBlank then .error .emptyDocument
  else (readText comparedContent body).map fun element => Node.ofElement element []

theorem parse_text (content : String) :
    parse (.text content) = parseBody (withoutDeclaration content.toList) := by
  rw [parse, parseBody]
  simp only
  split
  · rfl
  · cases readText comparedContent (withoutDeclaration content.toList) with
    | error fault => rfl
    | ok element => rfl

/-- Of decoded text, what is taken for a declaration is taken off before it is read.  That is so
for every declaration, and nothing but a declaration is taken off if and only if what is taken
for one is one. -/
theorem parse_without_declaration_iff (content : String) :
    parse (.text content) = parseBody (withoutDeclaration content.toList) ∧
    IsLeftWithout IsTakenForDeclaration content.toList (withoutDeclaration content.toList) ∧
    (∀ rest, BeginsWith IsDeclaration content.toList rest →
      withoutDeclaration content.toList = rest) ∧
    (IsLeftWithout IsDeclaration content.toList (withoutDeclaration content.toList) ↔
      ∀ rest, BeginsWith IsTakenForDeclaration content.toList rest →
        BeginsWith IsDeclaration content.toList rest) := by
  have taken := isLeftWithout_taken content.toList
  refine ⟨parse_text content, taken, fun rest begins => withoutDeclaration_of_begins begins.isTaken,
    ?_, ?_⟩
  · rintro (begins | ⟨never, unchanged⟩) rest begins'
    · rw [← withoutDeclaration_of_begins begins']
      exact begins
    · have shorter := begins'.length_lt
      rw [← withoutDeclaration_of_begins begins', unchanged] at shorter
      exact absurd shorter (Nat.lt_irrefl _)
  · intro isOne
    rcases taken with begins | ⟨never, unchanged⟩
    · exact .inl (isOne _ begins)
    · exact .inr ⟨fun rest begins => never rest begins.isTaken, unchanged⟩

/-- The instruction that names a style sheet is taken off though it is no declaration, and text
that opens with a declaration without a version is read though it cannot be read as it stands. -/
theorem not_isLeftWithout_declaration :
    withoutDeclaration "<?xml-stylesheet?><r/>".toList = "<r/>".toList ∧
    ¬IsLeftWithout IsDeclaration "<?xml-stylesheet?><r/>".toList
      (withoutDeclaration "<?xml-stylesheet?><r/>".toList) ∧
    parse (.text "<?xml ?><r/>") = .ok ⟨"r", [], [], "", [], some 1⟩ ∧
    parseBody "<?xml ?><r/>".toList = .error (.malformed .declaration) := by
  have body : withoutDeclaration "<?xml-stylesheet?><r/>".toList = "<r/>".toList := by
    decide +kernel
  refine ⟨body, ?_, by decide +kernel, by decide +kernel⟩
  rintro (⟨blanks, part, split, areBlank, declaration⟩ | ⟨_, unchanged⟩)
  · cases blanks with
    | nil =>
        -- A hyphen stands where a declaration has white space.
        obtain ⟨c, more, rfl, space⟩ := declaration.exists_space
        have hyphen : some '-' = some c := congrArg (·[5]?) split
        obtain rfl := Option.some.inj hyphen
        exact absurd space (by decide)
    | cons blank blanks =>
        have opening : some '<' = some blank := congrArg (·[0]?) split
        obtain rfl := Option.some.inj opening
        exact absurd (List.all_eq_true.1 areBlank _ List.mem_cons_self) (by decide)
  · rw [body] at unchanged
    exact absurd unchanged (by decide)

end XmlCollation.Tree
