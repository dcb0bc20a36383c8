import XmlCollation.Text.Blank
import XmlCollation.Text.Case

/-!
Contract: laws of lower-casing.

Owns:
- separators, the characters that end the search for a neighbouring letter, and
  the fact that lower-casing works on both sides of a separator on its own;
- marks, the characters that are written the same in both cases and are the
  lower-case form of nothing else, and text enclosed in marks;
- the exchange of lower-casing and trimming.

Does not own: what a comparison lower-cases.
-/

namespace XmlCollation.Text

namespace Case

/-! ## Separators -/

/-- A character at which the search for a neighbouring letter ends without one. -/
def isSeparator (c : Char) : Bool :=
  !isIgnorable c && !isCased c

theorem meetsLetter_of_separator {c : Char} (separates : isSeparator c = true)
    (rest : List Char) :
    meetsLetter (c :: rest) = false := by
  simp only [isSeparator, Bool.and_eq_true, Bool.not_eq_true'] at separates
  simp [meetsLetter, separates.1, separates.2]

/-- Letters that are met in a text are met in its near part, if none is in the far one. -/
theorem meetsLetter_append {far : List Char} (unmet : meetsLetter far = false)
    (near : List Char) :
    meetsLetter (near ++ far) = meetsLetter near := by
  induction near with
  | nil => exact unmet
  | cons head rest inductionHypothesis =>
      simp only [List.cons_append, meetsLetter, inductionHypothesis]

/-- One character sees its neighbours only through the letters they begin with. -/
theorem lowerAt_congr
    {before before' after after' : List Char}
    (sameBefore : meetsLetter before = meetsLetter before')
    (sameAfter : meetsLetter after = meetsLetter after')
    (c : Char) :
    lowerAt before c after = lowerAt before' c after' := by
  have sameEnd : endsWord before after = endsWord before' after' := by
    rw [endsWord, endsWord, sameBefore, sameAfter]
  rw [lowerAt, lowerAt, sameEnd]

theorem lowerAfter_congr
    {before before' : List Char}
    (same : meetsLetter before = meetsLetter before')
    (chars : List Char) :
    lowerAfter before chars = lowerAfter before' chars := by
  induction chars generalizing before before' with
  | nil => rfl
  | cons c rest inductionHypothesis =>
      have sameNext : meetsLetter (c :: before) = meetsLetter (c :: before') := by
        simp only [meetsLetter, same]
      simp only [lowerAfter, inductionHypothesis sameNext, lowerAt_congr same rfl c]

theorem lowerAfter_append_separator {c : Char} (separates : isSeparator c = true)
    (before chars rest : List Char) :
    lowerAfter before (chars ++ c :: rest) =
      lowerAfter before chars ++ lowerAfter [] (c :: rest) := by
  induction chars generalizing before with
  | nil =>
      have noSigma : c.toNat ≠ 0x3a3 := by
        intro isSigma
        have cased : isCased c = true := by
          simp only [isCased, isSigma]
          decide
        simp [isSeparator, cased] at separates
      have sameNext : meetsLetter (c :: before) = meetsLetter [c] := by
        rw [meetsLetter_of_separator separates, meetsLetter_of_separator separates]
      simp only [List.nil_append, lowerAfter, lowerAfter_congr sameNext,
        lowerAt_eq_of_ne_sigma c noSigma before rest [] rest]
  | cons head tail inductionHypothesis =>
      have sameAfter : meetsLetter (tail ++ c :: rest) = meetsLetter tail :=
        meetsLetter_append (meetsLetter_of_separator separates rest) tail
      simp only [List.cons_append, lowerAfter, inductionHypothesis, List.append_assoc,
        lowerAt_congr rfl sameAfter head]

/-! ## Marks -/

/-- The codes that the two special forms of lower-casing read or write. -/
def specialCodes : List Nat :=
  [0x69, 0x130, 0x307, 0x3a3, 0x3c2, 0x3c3]

/-- A code that belongs to no run, neither as an upper-case form nor as a partner. -/
def isOutside (run : Run) (code : Nat) : Bool :=
  (code < run.first || run.last < code)
    && (Int.ofNat code < Int.ofNat run.first + run.offset
      || Int.ofNat run.last + run.offset < Int.ofNat code)

/-- A character that lower-casing neither changes nor writes for another one. -/
def isMark (c : Char) : Bool :=
  0 < c.toNat && !specialCodes.contains c.toNat && runs.all (isOutside · c.toNat)

theorem partner?_eq_some {table : List Run} {code partner : Nat}
    (found : partner? table code = some partner) :
    ∃ run ∈ table, run.first ≤ code ∧ code ≤ run.last ∧
      partner = Int.toNat (Int.ofNat code + run.offset) := by
  induction table with
  | nil => simp [partner?] at found
  | cons run rest inductionHypothesis =>
      simp only [partner?] at found
      split at found
      · simp at found
      · cases inRun : run.partnerOf? code with
        | some own =>
            simp only [inRun, Option.orElse_some, Option.some.injEq] at found
            simp only [Run.partnerOf?, Option.ite_none_right_eq_some, Option.some.injEq] at inRun
            obtain ⟨⟨fromFirst, toLast, _⟩, partnerEq⟩ := inRun
            exact ⟨run, by simp, fromFirst, toLast, by rw [← found, partnerEq]⟩
        | none =>
            simp only [inRun, Option.orElse_none] at found
            obtain ⟨other, member, facts⟩ := inductionHypothesis found
            exact ⟨other, by simp [member], facts⟩

private theorem mark_outside {mark : Char} (marked : isMark mark = true) {run : Run}
    (member : run ∈ runs) :
    isOutside run mark.toNat = true := by
  simp only [isMark, Bool.and_eq_true, List.all_eq_true] at marked
  exact marked.2 run member

private theorem mark_not_special {mark : Char} (marked : isMark mark = true) :
    0 < mark.toNat ∧ mark.toNat ∉ specialCodes := by
  simp only [isMark, Bool.and_eq_true, decide_eq_true_eq, Bool.not_eq_true',
    List.contains_eq_mem, decide_eq_false_iff_not] at marked
  exact marked.1

/-- The first 128 characters change only inside the first run. -/
private theorem ascii_toLower (c : Char) (ascii : c.toNat < 128) :
    c.toLower = c ∨ (65 ≤ c.toNat ∧ c.toNat ≤ 90 ∧ c.toLower.toNat = c.toNat + 32) := by
  have table : ∀ code < 128,
      (Char.ofNat code).toLower = Char.ofNat code ∨
        (65 ≤ code ∧ code ≤ 90 ∧ (Char.ofNat code).toLower.toNat = code + 32) := by
    decide +kernel
  have atCode := table c.toNat ascii
  rwa [Char.ofNat_toNat] at atCode

private theorem ascii_toLower_mark (c : Char) (ascii : c.toNat < 128)
    (marked : isMark c = true ∨ isMark c.toLower = true) :
    c.toLower = c := by
  rcases ascii_toLower c ascii with same | ⟨fromFirst, toLast, shifted⟩
  · exact same
  · have member : (⟨65, 90, 1, 32⟩ : Run) ∈ runs := .head _
    rcases marked with marked | marked
    · have outside := mark_outside marked member
      simp only [isOutside, Bool.and_eq_true, Bool.or_eq_true, decide_eq_true_eq] at outside
      omega
    · have outside := mark_outside marked member
      simp only [isOutside, Bool.and_eq_true, Bool.or_eq_true, decide_eq_true_eq,
        Int.ofNat_eq_natCast] at outside
      omega

private theorem toNat_ofNat_or (code : Nat) :
    (Char.ofNat code).toNat = code ∨ (Char.ofNat code).toNat = 0 := by
  by_cases valid : code.isValidChar
  · rw [Char.ofNat, dif_pos valid]
    exact .inl rfl
  · rw [Char.ofNat, dif_neg valid]
    exact .inr rfl

theorem simpleLower_mark {mark : Char} (marked : isMark mark = true) :
    simpleLower mark = mark := by
  unfold simpleLower
  split
  · rename_i ascii
    exact ascii_toLower_mark mark ascii (.inl marked)
  · cases found : partner? runs mark.toNat with
    | none => rfl
    | some partner =>
        obtain ⟨run, member, fromFirst, toLast, _⟩ := partner?_eq_some found
        have outside := mark_outside marked member
        simp only [isOutside, Bool.and_eq_true, Bool.or_eq_true, decide_eq_true_eq] at outside
        omega

/-- The lower-case form of a character is a mark only if the character is that mark. -/
theorem eq_mark_of_simpleLower {c mark : Char} (marked : isMark mark = true)
    (lowers : simpleLower c = mark) :
    c = mark := by
  unfold simpleLower at lowers
  split at lowers
  · rename_i ascii
    rw [← lowers] at marked
    rw [← lowers]
    exact (ascii_toLower_mark c ascii (.inr marked)).symm
  · cases found : partner? runs c.toNat with
    | none => simpa [found] using lowers
    | some partner =>
        obtain ⟨run, member, fromFirst, toLast, partnerEq⟩ := partner?_eq_some found
        have outside := mark_outside marked member
        have positive := (mark_not_special marked).1
        have codeEq : mark.toNat = partner ∨ mark.toNat = 0 := by
          rw [← lowers, found]
          exact toNat_ofNat_or partner
        simp only [isOutside, Bool.and_eq_true, Bool.or_eq_true, decide_eq_true_eq,
          Int.ofNat_eq_natCast] at outside partnerEq
        omega

theorem lowerAt_mark {mark : Char} (marked : isMark mark = true) (before after : List Char) :
    lowerAt before mark after = [mark] := by
  have notSpecial := (mark_not_special marked).2
  simp only [specialCodes, List.mem_cons, List.not_mem_nil, or_false, not_or] at notSpecial
  simp [lowerAt, notSpecial, simpleLower_mark marked]

theorem eq_mark_of_mem_lowerAt {c mark : Char} (marked : isMark mark = true)
    {before after : List Char}
    (member : mark ∈ lowerAt before c after) :
    c = mark := by
  have notSpecial := (mark_not_special marked).2
  unfold lowerAt at member
  split at member
  · split at member <;>
      (rw [List.mem_singleton] at member; subst member; exact absurd (by decide) notSpecial)
  · split at member
    · simp only [List.mem_cons, List.not_mem_nil, or_false] at member
      rcases member with rfl | rfl <;> exact absurd (by decide) notSpecial
    · exact eq_mark_of_simpleLower marked (List.mem_singleton.1 member).symm

theorem mem_lowerAfter_mark {mark : Char} (marked : isMark mark = true)
    (before chars : List Char) :
    mark ∈ lowerAfter before chars ↔ mark ∈ chars := by
  induction chars generalizing before with
  | nil => rfl
  | cons c rest inductionHypothesis =>
      rw [lowerAfter, List.mem_append, inductionHypothesis, List.mem_cons]
      refine or_congr ⟨fun member => (eq_mark_of_mem_lowerAt marked member).symm, ?_⟩ Iff.rfl
      rintro rfl
      simp [lowerAt_mark marked]

/-- A mark at the end that is no letter does not change what stands before it. -/
theorem lowerAfter_append_mark {mark : Char} (marked : isMark mark = true)
    (unmet : meetsLetter [mark] = false) (before chars : List Char) :
    lowerAfter before (chars ++ [mark]) = lowerAfter before chars ++ [mark] := by
  induction chars generalizing before with
  | nil =>
      rw [List.nil_append, lowerAfter, lowerAfter, lowerAt_mark marked]
      rfl
  | cons head rest inductionHypothesis =>
      have sameAfter : meetsLetter (rest ++ [mark]) = meetsLetter rest :=
        meetsLetter_append unmet rest
      rw [List.cons_append, lowerAfter, inductionHypothesis, lowerAt_congr rfl sameAfter head,
        lowerAfter, List.append_assoc]

/-! ## Words without capital letters -/

/-- A word of characters that stay as they are, whatever their neighbours. -/
def IsSettled (word : List Char) : Prop :=
  ∀ c ∈ word, ∀ before after, lowerAt before c after = [c]

-- A test by way of the list: there are finitely many characters, but far too many.
/-- Only the capital sigma looks at its neighbours. -/
theorem isSettled_of_alone {word : List Char}
    (alone : word.all (fun c => c.toNat != 0x3a3 && lowerAt [] c [] == [c]) = true) :
    IsSettled word := by
  intro c member before after
  have atChar := List.all_eq_true.1 alone c member
  rw [Bool.and_eq_true, bne_iff_ne, beq_iff_eq] at atChar
  rw [lowerAt_eq_of_ne_sigma c atChar.1 before after [] [], atChar.2]

theorem lowerAfter_append_settled {word : List Char} (settled : IsSettled word)
    (before rest : List Char) :
    lowerAfter before (word ++ rest) = word ++ lowerAfter (word.reverse ++ before) rest := by
  induction word generalizing before with
  | nil => rfl
  | cons c tail inductionHypothesis =>
      have tailSettled : IsSettled tail := fun d member => settled d (by simp [member])
      rw [List.cons_append, lowerAfter, settled c (by simp), inductionHypothesis tailSettled]
      simp

end Case

/-- Lower-casing works before a separator and from it on on its own. -/
theorem lower_append_separator {c : Char} (separates : Case.isSeparator c = true)
    (chars rest : List Char) :
    lower (chars ++ c :: rest) = lower chars ++ lower (c :: rest) :=
  Case.lowerAfter_append_separator separates [] chars rest

/-- A mark that separates stays in front of the lower-case form of the rest. -/
theorem lower_cons_mark {c : Char} (separates : Case.isSeparator c = true)
    (marked : Case.isMark c = true) (rest : List Char) :
    lower (c :: rest) = c :: lower rest := by
  have sameNext : Case.meetsLetter [c] = Case.meetsLetter [] :=
    Case.meetsLetter_of_separator separates []
  simp only [lower, Case.lowerAfter, Case.lowerAt_mark marked, List.singleton_append,
    Case.lowerAfter_congr sameNext]

/-- Text between two marks of one kind, such as quotes, is lower-cased on its own, even if
these marks are stepped over when a neighbouring letter is looked for. -/
theorem lower_enclosed {mark : Char} (marked : Case.isMark mark = true)
    (unmet : Case.meetsLetter [mark] = false) (inner : List Char) :
    lower (mark :: inner ++ [mark]) = mark :: lower inner ++ [mark] := by
  have sameNext : Case.meetsLetter [mark] = Case.meetsLetter [] := unmet
  rw [lower, List.cons_append, Case.lowerAfter, Case.lowerAt_mark marked,
    Case.lowerAfter_append_mark marked unmet, Case.lowerAfter_congr sameNext]
  rfl

theorem mem_lower_mark {mark : Char} (marked : Case.isMark mark = true) (chars : List Char) :
    mark ∈ lower chars ↔ mark ∈ chars :=
  Case.mem_lowerAfter_mark marked [] chars

/-! ## White space -/

/-- The codes of white space. -/
def blankCodes : List Nat :=
  [9, 10, 11, 12, 13, 28, 29, 30, 31, 32, 0x85, 0xa0, 0x1680, 0x2000, 0x2001, 0x2002, 0x2003,
    0x2004, 0x2005, 0x2006, 0x2007, 0x2008, 0x2009, 0x200a, 0x2028, 0x2029, 0x202f, 0x205f, 0x3000]

theorem mem_blankCodes_of_isBlank {c : Char} (blank : isBlank c = true) :
    c.toNat ∈ blankCodes := by
  simp only [isBlank, Bool.or_eq_true, Bool.and_eq_true, decide_eq_true_eq, beq_iff_eq] at blank
  simp only [blankCodes, List.mem_cons, List.not_mem_nil, or_false]
  omega

/-- White space separates, and has no other form. -/
theorem blank_separates {c : Char} (blank : isBlank c = true) :
    Case.isSeparator c = true ∧ Case.isMark c = true := by
  have table : ∀ code ∈ blankCodes,
      Case.isSeparator (Char.ofNat code) = true ∧ Case.isMark (Char.ofNat code) = true := by
    decide +kernel
  have atCode := table c.toNat (mem_blankCodes_of_isBlank blank)
  rwa [Char.ofNat_toNat] at atCode

theorem isBlank_eq_of_mem_lowerAt {before after : List Char} {c d : Char}
    (member : d ∈ Case.lowerAt before c after) :
    isBlank d = isBlank c := by
  by_cases blank : isBlank d = true
  · rw [Case.eq_mark_of_mem_lowerAt (blank_separates blank).2 member]
  · by_cases sourceBlank : isBlank c = true
    · rw [Case.lowerAt_mark (blank_separates sourceBlank).2, List.mem_singleton] at member
      rw [member]
    · simp [blank, sourceBlank]

theorem lowerAt_ne_nil (before : List Char) (c : Char) (after : List Char) :
    Case.lowerAt before c after ≠ [] := by
  unfold Case.lowerAt
  split
  · simp
  · split <;> simp

theorem dropWhile_isBlank_lower (chars : List Char) :
    (lower chars).dropWhile isBlank = lower (chars.dropWhile isBlank) := by
  induction chars with
  | nil => rfl
  | cons c rest inductionHypothesis =>
      by_cases blank : isBlank c = true
      · have separates := blank_separates blank
        rw [lower_cons_mark separates.1 separates.2, List.dropWhile_cons_of_pos blank,
          List.dropWhile_cons_of_pos blank, inductionHypothesis]
      · rw [List.dropWhile_cons_of_neg blank]
        obtain ⟨head, tail, headTail⟩ := List.exists_cons_of_ne_nil (lowerAt_ne_nil [] c rest)
        have headMember : head ∈ Case.lowerAt [] c rest := by simp [headTail]
        have headBlank : isBlank head = isBlank c := isBlank_eq_of_mem_lowerAt headMember
        simp only [lower, Case.lowerAfter, headTail, List.cons_append]
        exact List.dropWhile_cons_of_neg (by rw [headBlank]; exact blank)

theorem trimRight_append_blank {c : Char} (blank : isBlank c = true) (chars : List Char) :
    trimRight (chars ++ [c]) = trimRight chars := by
  simp [trimRight, blank]

theorem trimRight_append_of_not_blank {c : Char} (blank : ¬isBlank c = true)
    (chars : List Char) :
    trimRight (chars ++ [c]) = chars ++ [c] := by
  simp [trimRight, blank]

/-- The lower-case form ends with that of the last character. -/
private theorem lowerAfter_append_singleton (before chars : List Char) (c : Char) :
    ∃ front context,
      Case.lowerAfter before (chars ++ [c]) = front ++ Case.lowerAt context c [] := by
  induction chars generalizing before with
  | nil => exact ⟨[], before, by simp [Case.lowerAfter]⟩
  | cons head rest inductionHypothesis =>
      obtain ⟨front, context, split⟩ := inductionHypothesis (head :: before)
      exact ⟨Case.lowerAt before head (rest ++ [c]) ++ front, context,
        by simp only [List.cons_append, Case.lowerAfter, split, List.append_assoc]⟩

theorem trimRight_lower (chars : List Char) :
    trimRight (lower chars) = lower (trimRight chars) := by
  rw [← List.reverse_reverse chars]
  induction chars.reverse with
  | nil => rfl
  | cons c rest inductionHypothesis =>
      rw [List.reverse_cons]
      by_cases blank : isBlank c = true
      · have separates := blank_separates blank
        rw [lower_append_separator separates.1, lower_cons_mark separates.1 separates.2,
          lower_nil, trimRight_append_blank blank, trimRight_append_blank blank,
          inductionHypothesis]
      · obtain ⟨front, context, split⟩ := lowerAfter_append_singleton [] rest.reverse c
        have lastForm := List.dropLast_concat_getLast (lowerAt_ne_nil context c [])
        have lastBlank :
            isBlank ((Case.lowerAt context c []).getLast (lowerAt_ne_nil context c [])) =
              isBlank c :=
          isBlank_eq_of_mem_lowerAt (List.getLast_mem _)
        rw [trimRight_append_of_not_blank blank, lower, split, ← lastForm, ← List.append_assoc,
          trimRight_append_of_not_blank (by rw [lastBlank]; exact blank)]

theorem trim_lower (chars : List Char) :
    trim (lower chars) = lower (trim chars) := by
  rw [trim, dropWhile_isBlank_lower, trimRight_lower, trim]

end XmlCollation.Text
