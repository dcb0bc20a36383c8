/-!
Contract: text cut at a separator.

Owns: the parts before, between and after all separators, of which there is always
one more than there are separators.

Does not own: trimming, or what an empty part means.
-/

namespace XmlCollation.Text

def fields (separator : Char) : List Char → List (List Char)
  | [] => [[]]
  | c :: rest =>
      match fields separator rest with
      | [] => [[c]]
      | part :: more => if c = separator then [] :: part :: more else (c :: part) :: more

theorem fields_ne_nil (separator : Char) (chars : List Char) : fields separator chars ≠ [] := by
  cases chars with
  | nil => simp [fields]
  | cons c rest =>
      unfold fields
      split
      · simp
      · split <;> simp

/-- There is one more part than there are separators. -/
theorem length_fields (separator : Char) (chars : List Char) :
    (fields separator chars).length = chars.count separator + 1 := by
  induction chars with
  | nil => rfl
  | cons c rest inductionHypothesis =>
      unfold fields
      split
      · next empty => exact absurd empty (fields_ne_nil separator rest)
      · next part more found =>
          rw [found] at inductionHypothesis
          by_cases same : c = separator
          · subst same
            simpa using inductionHypothesis
          · simpa [same] using inductionHypothesis

end XmlCollation.Text
