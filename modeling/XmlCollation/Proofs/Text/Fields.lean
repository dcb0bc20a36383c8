import XmlCollation.Proofs.Text.Lowering
import XmlCollation.Text.Fields

/-!
Contract: text that is cut at a separator and trimmed.

Owns:
- laws of trimming: what it leaves, and text that lower-casing shows to be trimmed;
- cutting as the splitting of lists: fields of joined text, and the last field;
- fields that are trimmed, for which the white space at the end of the text does not count.

Does not own: what the fields are read as.
-/

namespace XmlCollation.Text

/-! ## Trimming -/

theorem trimRight_begins (chars : List Char) : trimRight chars <+: chars := by
  rw [trimRight, ← List.reverse_suffix, List.reverse_reverse]
  exact List.dropWhile_suffix isBlank

theorem trim_sublist (chars : List Char) : (trim chars).Sublist chars :=
  (trimRight_begins _).sublist.trans (List.dropWhile_sublist isBlank)

theorem trim_cons_blank {c : Char} (blank : isBlank c = true) (rest : List Char) :
    trim (c :: rest) = trim rest := by
  rw [trim, List.dropWhile_cons_of_pos blank, ← trim]

theorem trim_cons_of_not_blank {c : Char} (visible : ¬isBlank c = true) (rest : List Char) :
    trim (c :: rest) = trimRight (c :: rest) := by
  rw [trim, List.dropWhile_cons_of_neg visible]

theorem trim_append_blank {c : Char} (blank : isBlank c = true) (chars : List Char) :
    trim (chars ++ [c]) = trim chars := by
  induction chars with
  | nil => rw [List.nil_append, trim_cons_blank blank]
  | cons head rest inductionHypothesis =>
      by_cases headBlank : isBlank head = true
      · rw [List.cons_append, trim_cons_blank headBlank, trim_cons_blank headBlank,
          inductionHypothesis]
      · rw [List.cons_append, trim_cons_of_not_blank headBlank, trim_cons_of_not_blank headBlank,
          ← List.cons_append, trimRight_append_blank blank]

/-- In front of a visible character, nothing is taken off at the end. -/
theorem trimRight_cons {c : Char} (visible : ¬isBlank c = true) (rest : List Char) :
    trimRight (c :: rest) = c :: trimRight rest := by
  rw [← List.reverse_reverse rest]
  induction rest.reverse with
  | nil => exact trimRight_append_of_not_blank visible []
  | cons last front inductionHypothesis =>
      rw [List.reverse_cons, ← List.cons_append]
      by_cases blank : isBlank last = true
      · rw [trimRight_append_blank blank, trimRight_append_blank blank, inductionHypothesis]
      · rw [trimRight_append_of_not_blank blank, trimRight_append_of_not_blank blank,
          List.cons_append]

/-- Trimming takes off white space only. -/
theorem mem_trim {c : Char} (visible : isBlank c = false) (chars : List Char) :
    c ∈ trim chars ↔ c ∈ chars := by
  have notDropped (text : List Char) : c ∈ text.dropWhile isBlank ↔ c ∈ text := by
    induction text with
    | nil => rfl
    | cons head rest inductionHypothesis =>
        by_cases blank : isBlank head = true
        · rw [List.dropWhile_cons_of_pos blank, inductionHypothesis, List.mem_cons]
          refine (or_iff_right ?_).symm
          rintro rfl
          rw [visible] at blank
          cases blank
        · rw [List.dropWhile_cons_of_neg blank]
  rw [trim, trimRight, List.mem_reverse, notDropped, List.mem_reverse, notDropped]

/-- Nothing is taken off text that begins and ends with visible characters. -/
theorem trim_eq_self_of_ends {chars : List Char}
    (begins : ∀ c rest, chars = c :: rest → ¬isBlank c = true)
    (ends : ∀ front c, chars = front ++ [c] → ¬isBlank c = true) : trim chars = chars := by
  cases chars with
  | nil => rfl
  | cons c rest =>
      rw [trim_cons_of_not_blank (begins c rest rfl)]
      have split := List.dropLast_concat_getLast (List.cons_ne_nil c rest)
      rw [← split, trimRight_append_of_not_blank (ends _ _ split.symm)]

/-- Text is trimmed if its lower-case form is. -/
theorem trim_eq_self_of_lower {chars : List Char} (same : lower (trim chars) = lower chars) :
    trim chars = chars := by
  -- White space at an end would make the lower-case form longer than what is left of it.
  rw [← trim_lower] at same
  refine trim_eq_self_of_ends ?_ ?_
  · rintro c rest rfl blank
    have separates := blank_separates blank
    rw [lower_cons_mark separates.1 separates.2, trim_cons_blank blank] at same
    have shorter := (trim_sublist (lower rest)).length_le
    rw [same, List.length_cons] at shorter
    omega
  · rintro front c rfl blank
    have separates := blank_separates blank
    rw [lower_append_separator separates.1, lower_cons_mark separates.1 separates.2, lower_nil,
      trim_append_blank blank] at same
    have shorter := (trim_sublist (lower front)).length_le
    rw [same, List.length_append, List.length_singleton] at shorter
    omega

/-! ## Fields -/

theorem fields_eq_splitOn (separator : Char) (chars : List Char) :
    fields separator chars = chars.splitOn separator := by
  induction chars with
  | nil => rfl
  | cons c rest inductionHypothesis =>
      rw [List.splitOn_cons_eq_if_modifyHead, fields, inductionHypothesis]
      cases split : rest.splitOn separator with
      | nil => exact absurd split (List.splitOn_ne_nil separator rest)
      | cons part more =>
          by_cases same : c = separator
          · simp [same]
          · simp [same]

theorem fields_of_notMem {separator : Char} {chars : List Char} (absent : separator ∉ chars) :
    fields separator chars = [chars] := by
  rw [fields_eq_splitOn, List.splitOn_eq_singleton absent]

theorem fields_append_cons (separator : Char) (front rest : List Char) :
    fields separator (front ++ separator :: rest) =
      fields separator front ++ fields separator rest := by
  rw [fields_eq_splitOn, fields_eq_splitOn, fields_eq_splitOn, List.splitOn_append_cons_self]

/-- The fields of texts that are joined by the separator are those of each text in turn. -/
theorem fields_intercalate (separator : Char) {texts : List (List Char)} (nonempty : texts ≠ []) :
    fields separator ([separator].intercalate texts) = texts.flatMap (fields separator) := by
  induction texts with
  | nil => exact absurd rfl nonempty
  | cons text others inductionHypothesis =>
      cases others with
      | nil => rw [List.intercalate_singleton, List.flatMap_singleton]
      | cons other others =>
          rw [List.intercalate_cons_of_ne_nil (List.cons_ne_nil other others), List.append_assoc,
            List.singleton_append, fields_append_cons, List.flatMap_cons,
            inductionHypothesis (List.cons_ne_nil other others)]

/-- Text that holds a separator ends with what follows the last one. -/
theorem split_at_last (separator : Char) (chars : List Char) :
    separator ∉ chars ∨
      ∃ front last, chars = front ++ separator :: last ∧ separator ∉ last := by
  by_cases member : separator ∈ chars
  · obtain ⟨before, after, split, absent⟩ :=
      List.eq_append_cons_of_mem (List.mem_reverse.2 member)
    refine .inr ⟨after.reverse, before.reverse, ?_, fun inLast => absent (List.mem_reverse.1 inLast)⟩
    rw [← List.reverse_reverse chars, split]
    simp
  · exact .inl member

/-- White space at the end of a text does not show in its trimmed fields. -/
theorem map_trim_fields_trimRight {separator : Char} (visible : isBlank separator = false)
    (chars : List Char) :
    (fields separator (trimRight chars)).map trim = (fields separator chars).map trim := by
  have withBlank (front : List Char) {c : Char} (blank : isBlank c = true) :
      (fields separator (front ++ [c])).map trim = (fields separator front).map trim := by
    have notSeparator : separator ∉ [c] := by
      rw [List.mem_singleton]
      rintro rfl
      rw [visible] at blank
      cases blank
    rcases split_at_last separator front with absent | ⟨before, last, rfl, absent⟩
    · have stillAbsent : separator ∉ front ++ [c] := by
        rw [List.mem_append]
        exact fun member => member.elim absent notSeparator
      rw [fields_of_notMem absent, fields_of_notMem stillAbsent, List.map_singleton,
        List.map_singleton, trim_append_blank blank]
    · have stillAbsent : separator ∉ last ++ [c] := by
        rw [List.mem_append]
        exact fun member => member.elim absent notSeparator
      rw [List.append_assoc, List.cons_append, fields_append_cons, fields_append_cons,
        fields_of_notMem absent, fields_of_notMem stillAbsent, List.map_append, List.map_append,
        List.map_singleton, List.map_singleton, trim_append_blank blank]
  rw [← List.reverse_reverse chars]
  induction chars.reverse with
  | nil => rfl
  | cons c rest inductionHypothesis =>
      rw [List.reverse_cons]
      by_cases blank : isBlank c = true
      · rw [trimRight_append_blank blank, inductionHypothesis, withBlank _ blank]
      · rw [trimRight_append_of_not_blank blank]

end XmlCollation.Text
