import XmlCollation.Markup.Escape
import XmlCollation.Proofs.Text.Lowering

/-!
Contract: laws of escaping.

Owns:
- the reading of escaped text, which shows that it determines the text;
- quoted values, which determine the value whatever quotes they are put in;
- the exchange of escaping and quoting with lower-casing;
- the quotes of quoted values, and the absence of angle brackets in them.

Does not own: where escaped text ends.
-/

namespace XmlCollation.Markup

open XmlCollation.Text

/-! ## Reading escaped text -/

/-- Reads escaped text back. -/
def unescapeText : List Char → List Char
  | '&' :: 'a' :: 'm' :: 'p' :: ';' :: rest => '&' :: unescapeText rest
  | '&' :: 'l' :: 't' :: ';' :: rest => '<' :: unescapeText rest
  | '&' :: 'g' :: 't' :: ';' :: rest => '>' :: unescapeText rest
  | c :: rest => c :: unescapeText rest
  | [] => []

theorem unescapeText_cons {c : Char} (noReference : c ≠ '&') (rest : List Char) :
    unescapeText (c :: rest) = c :: unescapeText rest := by
  conv => lhs; unfold unescapeText
  split <;> simp_all

theorem unescapeText_escapeText (chars : List Char) :
    unescapeText (escapeText chars) = chars := by
  induction chars with
  | nil => rfl
  | cons c rest inductionHypothesis =>
      rw [escapeText_cons]
      unfold escapeChar
      split
      · rename_i ampersand
        subst ampersand
        exact congrArg ('&' :: ·) inductionHypothesis
      · split
        · rename_i greater
          subst greater
          exact congrArg ('>' :: ·) inductionHypothesis
        · split
          · rename_i less
            subst less
            exact congrArg ('<' :: ·) inductionHypothesis
          · rename_i noReference _ _
            rw [List.singleton_append, unescapeText_cons noReference, inductionHypothesis]

/-- Escaped text determines the text. -/
theorem escapeText_injective {left right : List Char}
    (equal : escapeText left = escapeText right) :
    left = right := by
  rw [← unescapeText_escapeText left, equal, unescapeText_escapeText]

/-! ## References -/

/-- The characters that are escaped somewhere, each with the reference that stands for it. -/
def references : List (Char × List Char) :=
  [('&', "&amp;".toList), ('>', "&gt;".toList), ('<', "&lt;".toList), ('\n', "&#10;".toList),
    ('\r', "&#13;".toList), ('\t', "&#9;".toList), ('"', "&quot;".toList)]

/-- A character of text is escaped by its reference, or stands for itself. -/
theorem escapeChar_cases (c : Char) :
    (c, escapeChar c) ∈ references ∨
      (escapeChar c = [c] ∧ c ≠ '&' ∧ c ≠ '>' ∧ c ≠ '<') := by
  unfold escapeChar
  split
  · rename_i ampersand
    exact .inl (by simp [references, ampersand])
  · split
    · rename_i greater
      exact .inl (by simp [references, greater])
    · split
      · rename_i less
        exact .inl (by simp [references, less])
      · rename_i notAmpersand notGreater notLess
        exact .inr ⟨rfl, notAmpersand, notGreater, notLess⟩

/-- So is a character of a value. -/
theorem escapeValueChar_cases (c : Char) :
    (c, escapeValueChar c) ∈ references ∨ (escapeValueChar c = [c] ∧ c ≠ '&') := by
  unfold escapeValueChar
  split
  · rename_i lineFeed
    exact .inl (by simp [references, lineFeed])
  · split
    · rename_i carriageReturn
      exact .inl (by simp [references, carriageReturn])
    · split
      · rename_i tab
        exact .inl (by simp [references, tab])
      · exact (escapeChar_cases c).imp id fun plain => ⟨plain.1, plain.2.1⟩

theorem escapeQuotedChar_cases (c : Char) :
    (c, escapeQuotedChar c) ∈ references ∨
      (escapeQuotedChar c = [c] ∧ c ≠ '&' ∧ c ≠ '"') := by
  unfold escapeQuotedChar
  split
  · rename_i quote
    exact .inl (by simp [references, quote])
  · rename_i noQuote
    exact (escapeValueChar_cases c).imp id fun plain => ⟨plain.1, plain.2, noQuote⟩

/-- A reference begins and ends with what separates, as its character does, and
lower-casing leaves it alone. -/
structure IsReference (c : Char) (written : List Char) : Prop where
  separates : Case.isSeparator c = true
  marked : Case.isMark c = true
  meets_front : ∀ rest, Case.meetsLetter (written ++ rest) = false
  meets_back : ∀ rest, Case.meetsLetter (written.reverse ++ rest) = false
  settled : Case.IsSettled written

theorem isReference_of_mem {c : Char} {written : List Char}
    (member : (c, written) ∈ references) : IsReference c written := by
  simp only [references, List.mem_cons, Prod.mk.injEq, List.not_mem_nil, or_false] at member
  rcases member with ⟨rfl, rfl⟩ | ⟨rfl, rfl⟩ | ⟨rfl, rfl⟩ | ⟨rfl, rfl⟩ | ⟨rfl, rfl⟩ | ⟨rfl, rfl⟩ |
    ⟨rfl, rfl⟩ <;>
    exact ⟨by decide, by decide, fun rest => rfl, fun rest => rfl,
      Case.isSettled_of_alone (by decide)⟩

/-- A way of escaping: each character becomes its reference, or stands for itself. -/
def Escapes (escape : Char → List Char) : Prop :=
  ∀ c, IsReference c (escape c) ∨ escape c = [c]

theorem escapes_escapeChar : Escapes escapeChar :=
  fun c => (escapeChar_cases c).imp isReference_of_mem And.left

theorem escapes_escapeValueChar : Escapes escapeValueChar :=
  fun c => (escapeValueChar_cases c).imp isReference_of_mem And.left

theorem escapes_escapeQuotedChar : Escapes escapeQuotedChar :=
  fun c => (escapeQuotedChar_cases c).imp isReference_of_mem And.left

/-! ## Lower-casing escaped text -/

namespace Escapes

variable {escape : Char → List Char}

theorem meetsLetter_flatMap (escapes : Escapes escape) (chars : List Char) :
    Case.meetsLetter (chars.flatMap escape) = Case.meetsLetter chars := by
  induction chars with
  | nil => rfl
  | cons c rest inductionHypothesis =>
      rw [List.flatMap_cons]
      rcases escapes c with reference | plain
      · rw [reference.meets_front, Case.meetsLetter_of_separator reference.separates]
      · simp only [plain, List.singleton_append, Case.meetsLetter, inductionHypothesis]

/-- No other character has a lower-case form that must be escaped. -/
theorem flatMap_lowerAt (escapes : Escapes escape) {c : Char} (plain : escape c = [c])
    (before after : List Char) :
    (Case.lowerAt before c after).flatMap escape = Case.lowerAt before c after := by
  have each : ∀ d ∈ Case.lowerAt before c after, escape d = [d] := by
    intro d member
    rcases escapes d with reference | plainHere
    · rw [← Case.eq_mark_of_mem_lowerAt reference.marked member, plain]
    · exact plainHere
  rw [List.flatMap_def, List.map_congr_left each, ← List.flatMap_def, List.flatMap_singleton']

/-- Text before which letters are met alike is lower-cased before or after escaping. -/
theorem lowerAfter_flatMap (escapes : Escapes escape) {before before' : List Char}
    (same : Case.meetsLetter before = Case.meetsLetter before') (chars : List Char) :
    Case.lowerAfter before (chars.flatMap escape) =
      (Case.lowerAfter before' chars).flatMap escape := by
  induction chars generalizing before before' with
  | nil => rfl
  | cons c rest inductionHypothesis =>
      rw [List.flatMap_cons, Case.lowerAfter, List.flatMap_append]
      rcases escapes c with reference | plain
      · have sameNext :
            Case.meetsLetter ((escape c).reverse ++ before) = Case.meetsLetter (c :: before') := by
          rw [reference.meets_back, Case.meetsLetter_of_separator reference.separates]
        rw [Case.lowerAfter_append_settled reference.settled, inductionHypothesis sameNext,
          Case.lowerAt_mark reference.marked, List.flatMap_singleton]
      · have sameNext : Case.meetsLetter (c :: before) = Case.meetsLetter (c :: before') := by
          simp only [Case.meetsLetter, same]
        rw [plain, List.singleton_append, Case.lowerAfter, inductionHypothesis sameNext,
          Case.lowerAt_congr same (escapes.meetsLetter_flatMap rest),
          escapes.flatMap_lowerAt plain]

/-- Escaping and lower-casing can be exchanged. -/
theorem lower_flatMap (escapes : Escapes escape) (chars : List Char) :
    lower (chars.flatMap escape) = (lower chars).flatMap escape :=
  escapes.lowerAfter_flatMap rfl chars

end Escapes

theorem lower_escapeText (chars : List Char) :
    lower (escapeText chars) = escapeText (lower chars) :=
  escapes_escapeChar.lower_flatMap chars

/-- Quoting and lower-casing can be exchanged: the quotes stay what they are. -/
theorem lower_quoteValue (chars : List Char) :
    lower (quoteValue chars) = quoteValue (lower chars) := by
  have holds {mark : Char} (marked : Case.isMark mark = true) :
      (lower chars).contains mark = chars.contains mark := by
    rw [Bool.eq_iff_iff, List.contains_iff_mem, List.contains_iff_mem, mem_lower_mark marked]
  have inQuotes {mark : Char} (marked : Case.isMark mark = true)
      (unmet : Case.meetsLetter [mark] = false) {escape : Char → List Char}
      (escapes : Escapes escape) :
      lower (mark :: chars.flatMap escape ++ [mark]) =
        mark :: (lower chars).flatMap escape ++ [mark] := by
    rw [lower_enclosed marked unmet, escapes.lower_flatMap]
  rw [quoteValue, quoteValue, holds (by decide), holds (by decide)]
  split
  · split
    · exact inQuotes (by decide) (by decide) escapes_escapeQuotedChar
    · exact inQuotes (by decide) (by decide) escapes_escapeValueChar
  · exact inQuotes (by decide) (by decide) escapes_escapeValueChar

/-! ## Quotes -/

/-- A text between two quotes of one kind, which it does not hold inside. -/
def IsQuoted (written : List Char) : Prop :=
  ∃ quote inner, written = quote :: inner ++ [quote] ∧ quote ∉ inner

theorem isQuoted_quoteValue (chars : List Char) : IsQuoted (quoteValue chars) := by
  -- No reference holds a quote, so that one comes from a character that stands for itself.
  have fromReference {c quote : Char} {written : List Char} (member : (c, written) ∈ references)
      (isQuote : quote = '"' ∨ quote = '\x27') : quote ∉ written := by
    have table : ∀ entry ∈ references, '"' ∉ entry.2 ∧ '\x27' ∉ entry.2 := by decide
    rcases isQuote with rfl | rfl
    · exact (table _ member).1
    · exact (table _ member).2
  have inValue {quote : Char} (isQuote : quote = '"' ∨ quote = '\x27') (absent : quote ∉ chars) :
      quote ∉ chars.flatMap escapeValueChar := by
    intro member
    obtain ⟨c, inChars, written⟩ := List.mem_flatMap.1 member
    rcases escapeValueChar_cases c with reference | ⟨plain, _⟩
    · exact fromReference reference isQuote written
    · rw [plain, List.mem_singleton] at written
      exact absent (written ▸ inChars)
  have inQuoted : '"' ∉ chars.flatMap escapeQuotedChar := by
    intro member
    obtain ⟨c, _, written⟩ := List.mem_flatMap.1 member
    rcases escapeQuotedChar_cases c with reference | ⟨plain, _, noQuote⟩
    · exact fromReference reference (.inl rfl) written
    · rw [plain, List.mem_singleton] at written
      exact noQuote written.symm
  unfold quoteValue
  split
  · split
    · exact ⟨'"', _, rfl, inQuoted⟩
    · rename_i noApostrophe
      exact ⟨'\x27', _, rfl, inValue (.inr rfl) (by simpa using noApostrophe)⟩
  · rename_i noQuote
    exact ⟨'"', _, rfl, inValue (.inl rfl) (by simpa using noQuote)⟩

/-! ## Reading quoted values -/

/-- A way of escaping that can be read back: no character but one of a reference begins
with an ampersand. -/
def IsReadable (escape : Char → List Char) : Prop :=
  ∀ c, (c, escape c) ∈ references ∨ (escape c = [c] ∧ c ≠ '&')

theorem isReadable_escapeValueChar : IsReadable escapeValueChar :=
  escapeValueChar_cases

theorem isReadable_escapeQuotedChar : IsReadable escapeQuotedChar :=
  fun c => (escapeQuotedChar_cases c).imp id fun plain => ⟨plain.1, plain.2.1⟩

theorem exists_cons_of_mem_references {c : Char} {written : List Char}
    (member : (c, written) ∈ references) : ∃ rest, written = '&' :: rest := by
  have table : ∀ entry ∈ references, entry.2 = '&' :: entry.2.tail := by decide
  exact ⟨written.tail, table _ member⟩

/-- No reference is the beginning of another one. -/
theorem reference_unique {c d : Char} {written other rest rest' : List Char}
    (member : (c, written) ∈ references) (otherMember : (d, other) ∈ references)
    (equal : written ++ rest = other ++ rest') : c = d := by
  have table : ∀ entry ∈ references, ∀ entry' ∈ references,
      entry.2 <+: entry'.2 → entry.1 = entry'.1 := by
    decide
  have begins : written <+: other ++ rest' := ⟨rest, equal⟩
  rcases List.prefix_or_prefix_of_prefix begins (List.prefix_append other rest') with
    inOther | inWritten
  · exact table _ member _ otherMember inOther
  · exact (table _ otherMember _ member inWritten).symm

namespace IsReadable

variable {escape : Char → List Char}

theorem ne_nil (readable : IsReadable escape) (c : Char) : escape c ≠ [] := by
  rcases readable c with reference | ⟨plain, _⟩
  · obtain ⟨rest, begins⟩ := exists_cons_of_mem_references reference
    simp [begins]
  · simp [plain]

/-- The first character can be told from what is written for it, whatever follows. -/
theorem head_unique (readable : IsReadable escape) {c d : Char} {rest rest' : List Char}
    (equal : escape c ++ rest = escape d ++ rest') : c = d := by
  have plainOnly {c d : Char} {rest rest' : List Char} (reference : (c, escape c) ∈ references)
      (plain : escape d = [d]) (equal : escape c ++ rest = escape d ++ rest') : d = '&' := by
    obtain ⟨tail, begins⟩ := exists_cons_of_mem_references reference
    rw [begins, plain, List.cons_append, List.singleton_append, List.cons.injEq] at equal
    exact equal.1.symm
  rcases readable c with reference | ⟨plain, noAmpersand⟩
  · rcases readable d with otherReference | ⟨otherPlain, otherNoAmpersand⟩
    · exact reference_unique reference otherReference equal
    · exact absurd (plainOnly reference otherPlain equal) otherNoAmpersand
  · rcases readable d with otherReference | ⟨otherPlain, _⟩
    · exact absurd (plainOnly otherReference plain equal.symm) noAmpersand
    · rw [plain, otherPlain, List.singleton_append, List.singleton_append,
        List.cons.injEq] at equal
      exact equal.1

/-- Escaped text determines the text. -/
theorem flatMap_injective (readable : IsReadable escape) {left right : List Char}
    (equal : left.flatMap escape = right.flatMap escape) : left = right := by
  induction left generalizing right with
  | nil =>
      cases right with
      | nil => rfl
      | cons d right =>
          rw [List.flatMap_nil, List.flatMap_cons] at equal
          exact absurd (List.append_eq_nil_iff.1 equal.symm).1 (readable.ne_nil d)
  | cons c left inductionHypothesis =>
      cases right with
      | nil =>
          rw [List.flatMap_nil, List.flatMap_cons] at equal
          exact absurd (List.append_eq_nil_iff.1 equal).1 (readable.ne_nil c)
      | cons d right =>
          rw [List.flatMap_cons, List.flatMap_cons] at equal
          have sameHead : c = d := readable.head_unique equal
          subst sameHead
          rw [inductionHypothesis (List.append_cancel_left equal)]

end IsReadable

/-- Without a double quote, a value is written alike in quotes of both kinds. -/
theorem flatMap_escapeQuotedChar {chars : List Char} (noQuote : '"' ∉ chars) :
    chars.flatMap escapeQuotedChar = chars.flatMap escapeValueChar := by
  have each : ∀ c ∈ chars, escapeQuotedChar c = escapeValueChar c := by
    intro c member
    have notQuote : c ≠ '"' := fun quote => noQuote (quote ▸ member)
    rw [escapeQuotedChar, if_neg notQuote]
  rw [List.flatMap_def, List.map_congr_left each, ← List.flatMap_def]

/-- A quoted value stands in double quotes, with every double quote escaped, or in
apostrophes. -/
theorem quoteValue_cases (chars : List Char) :
    quoteValue chars = '"' :: chars.flatMap escapeQuotedChar ++ ['"'] ∨
      quoteValue chars = '\x27' :: chars.flatMap escapeValueChar ++ ['\x27'] := by
  unfold quoteValue
  split
  · split
    · exact .inl rfl
    · exact .inr rfl
  · rename_i noQuote
    rw [flatMap_escapeQuotedChar (by simpa using noQuote)]
    exact .inl rfl

/-- A quoted value determines the value. -/
theorem quoteValue_injective : Function.Injective quoteValue := by
  intro left right equal
  rcases quoteValue_cases left with double | single <;>
    rcases quoteValue_cases right with otherDouble | otherSingle
  · rw [double, otherDouble, List.append_cancel_right_eq, List.cons.injEq] at equal
    exact isReadable_escapeQuotedChar.flatMap_injective equal.2
  · rw [double, otherSingle, List.cons_append, List.cons_append, List.cons.injEq] at equal
    exact absurd equal.1 (by decide)
  · rw [single, otherDouble, List.cons_append, List.cons_append, List.cons.injEq] at equal
    exact absurd equal.1 (by decide)
  · rw [single, otherSingle, List.append_cancel_right_eq, List.cons.injEq] at equal
    exact isReadable_escapeValueChar.flatMap_injective equal.2

/-! ## Angle brackets -/

/-- Characters that do not open or close a tag. -/
def Bracketless (chars : List Char) : Prop :=
  ∀ c ∈ chars, c ≠ '<' ∧ c ≠ '>'

-- By way of the list: there are finitely many characters, but far too many.
instance (chars : List Char) : Decidable (Bracketless chars) :=
  List.decidableBAll (fun c => c ≠ '<' ∧ c ≠ '>') chars

theorem bracketless_append {left right : List Char} :
    Bracketless (left ++ right) ↔ Bracketless left ∧ Bracketless right :=
  List.forall_mem_append

theorem bracketless_flatMap {α : Type} {write : α → List Char} {entries : List α}
    (each : ∀ entry ∈ entries, Bracketless (write entry)) :
    Bracketless (entries.flatMap write) := by
  intro c member
  obtain ⟨entry, entryMember, written⟩ := List.mem_flatMap.1 member
  exact each entry entryMember c written

theorem bracketless_escapeChar (c : Char) : Bracketless (escapeChar c) := by
  rcases escapeChar_cases c with reference | ⟨plain, _, notGreater, notLess⟩
  · have table : ∀ entry ∈ references, Bracketless entry.2 := by decide
    exact table _ reference
  · rw [plain]
    simp [Bracketless, notGreater, notLess]

theorem bracketless_escapeText (chars : List Char) : Bracketless (escapeText chars) :=
  bracketless_flatMap fun c _ => bracketless_escapeChar c

theorem bracketless_escapeValueChar (c : Char) : Bracketless (escapeValueChar c) := by
  unfold escapeValueChar
  split
  · decide
  · split
    · decide
    · split
      · decide
      · exact bracketless_escapeChar c

theorem bracketless_escapeQuotedChar (c : Char) : Bracketless (escapeQuotedChar c) := by
  unfold escapeQuotedChar
  split
  · decide
  · exact bracketless_escapeValueChar c

theorem bracketless_quoteValue (chars : List Char) : Bracketless (quoteValue chars) := by
  have plain : Bracketless (chars.flatMap escapeValueChar) :=
    bracketless_flatMap fun c _ => bracketless_escapeValueChar c
  have quoted : Bracketless (chars.flatMap escapeQuotedChar) :=
    bracketless_flatMap fun c _ => bracketless_escapeQuotedChar c
  have inQuotes (quote : Char) (isQuote : quote ≠ '<' ∧ quote ≠ '>') (inner : List Char)
      (innerBracketless : Bracketless inner) :
      Bracketless (quote :: inner ++ [quote]) := by
    intro c member
    simp only [List.cons_append, List.mem_cons, List.mem_append, List.not_mem_nil,
      or_false] at member
    rcases member with rfl | inInner | rfl
    · exact isQuote
    · exact innerBracketless c inInner
    · exact isQuote
  unfold quoteValue
  split
  · split
    · exact inQuotes '"' (by decide) _ quoted
    · exact inQuotes '\x27' (by decide) _ plain
  · exact inQuotes '"' (by decide) _ plain

theorem bracketless_lower {chars : List Char} :
    Bracketless (lower chars) ↔ Bracketless chars := by
  have less := mem_lower_mark (show Case.isMark '<' = true by decide) chars
  have greater := mem_lower_mark (show Case.isMark '>' = true by decide) chars
  have notMem (text : List Char) : Bracketless text ↔ '<' ∉ text ∧ '>' ∉ text := by
    constructor
    · intro bracketless
      exact ⟨fun member => (bracketless _ member).1 rfl, fun member => (bracketless _ member).2 rfl⟩
    · rintro ⟨noLess, noGreater⟩ c member
      exact ⟨fun isLess => noLess (isLess ▸ member), fun isGreater => noGreater (isGreater ▸ member)⟩
  rw [notMem, notMem, less, greater]

end XmlCollation.Markup
