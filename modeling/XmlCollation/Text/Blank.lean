/-!
Contract: white space and trimming.

Owns:
- the white space of text (`isBlank`) and the narrower one of raw bytes
  (`isBlankByte`);
- trimming at both ends, on lists of characters and on strings.

Does not own: the white space of markup, which is fixed by its grammar.
-/

namespace XmlCollation.Text

def isBlank (c : Char) : Bool :=
  let code := c.toNat
  (9 ≤ code && code ≤ 13)
    || (28 ≤ code && code ≤ 32)
    || code == 0x85
    || code == 0xa0
    || code == 0x1680
    || (0x2000 ≤ code && code ≤ 0x200a)
    || code == 0x2028
    || code == 0x2029
    || code == 0x202f
    || code == 0x205f
    || code == 0x3000

/-- White space of bytes whose encoding is not known. -/
def isBlankByte (b : UInt8) : Bool :=
  (9 ≤ b.toNat && b.toNat ≤ 13) || b.toNat == 32

/-- The characters without the white space at their end. -/
def trimRight (chars : List Char) : List Char :=
  (chars.reverse.dropWhile isBlank).reverse

/-- The characters without the white space at either end. -/
def trim (chars : List Char) : List Char :=
  trimRight (chars.dropWhile isBlank)

/-- The text without the white space at either end. -/
def trimmed (text : String) : String :=
  String.ofList (trim text.toList)

/-! ## Laws of trimming -/

/-- Dropping from the front leaves nothing exactly when all is blank. -/
private theorem dropWhile_isBlank_eq_nil_iff (chars : List Char) :
    chars.dropWhile isBlank = [] ↔ chars.all isBlank = true := by
  induction chars with
  | nil => simp
  | cons c rest inductionHypothesis =>
      by_cases blank : isBlank c = true
      · simp [List.dropWhile_cons_of_pos blank, blank, inductionHypothesis]
      · simp [List.dropWhile_cons_of_neg blank, blank]

/-- What is left after dropping starts with a character that is not blank. -/
private theorem all_dropWhile_isBlank (chars : List Char) :
    (chars.dropWhile isBlank).all isBlank = chars.all isBlank := by
  induction chars with
  | nil => rfl
  | cons c rest inductionHypothesis =>
      by_cases blank : isBlank c = true
      · simp [List.dropWhile_cons_of_pos blank, blank, inductionHypothesis]
      · simp [List.dropWhile_cons_of_neg blank, blank]

theorem trim_nil : trim [] = [] :=
  rfl

/-- Trimming leaves nothing exactly of blank text. -/
theorem trim_eq_nil_iff (chars : List Char) :
    trim chars = [] ↔ chars.all isBlank = true := by
  unfold trim trimRight
  rw [List.reverse_eq_nil_iff, dropWhile_isBlank_eq_nil_iff, List.all_reverse,
    all_dropWhile_isBlank]

theorem trimmed_toList (text : String) :
    (trimmed text).toList = trim text.toList := by
  simp [trimmed]

end XmlCollation.Text
