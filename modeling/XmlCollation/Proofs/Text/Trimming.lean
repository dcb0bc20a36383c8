import Mathlib.Data.List.DropRight
import XmlCollation.Text.Blank

/-!
Contract: text as white space around what trimming leaves.

Owns:
- solid text, which begins and ends with visible characters;
- text that is not all white space: a solid core with white space on either side, of which
  trimming leaves the core;
- the white space on either side of the core.

Does not own: where texts come from.
-/

namespace XmlCollation.Text

/-- Text that begins and ends with a visible character. -/
structure IsSolid (chars : List Char) : Prop where
  begins : ∃ c rest, chars = c :: rest ∧ isBlank c = false
  ends : ∃ front c, chars = front ++ [c] ∧ isBlank c = false

section Core

variable {leading core trailing chars : List Char}

theorem blank_append (blank : leading.all isBlank = true) (blank' : trailing.all isBlank = true) :
    (leading ++ trailing).all isBlank = true := by
  rw [List.all_append, blank, blank']
  rfl

theorem IsSolid.ne_nil (solid : IsSolid core) : core ≠ [] := by
  obtain ⟨c, rest, rfl, _⟩ := solid.begins
  exact List.cons_ne_nil c rest

theorem IsSolid.not_blank (solid : IsSolid core) : ¬core.all isBlank = true := by
  obtain ⟨c, rest, rfl, visible⟩ := solid.begins
  rw [List.all_cons, visible, Bool.false_and]
  exact Bool.false_ne_true

/-- What is between two solid texts does not matter for their being solid together. -/
theorem IsSolid.append {front back : List Char} (solid : IsSolid front) (middle : List Char)
    (solid' : IsSolid back) : IsSolid (front ++ middle ++ back) := by
  obtain ⟨⟨c, rest, split, visible⟩, _⟩ := solid
  obtain ⟨_, ⟨before, c', split', visible'⟩⟩ := solid'
  constructor
  · exact ⟨c, rest ++ middle ++ back, by rw [split]; rfl, visible⟩
  · exact ⟨front ++ middle ++ before, c', by rw [split']; simp, visible'⟩

/-- The white space in front of a solid core. -/
theorem takeWhile_around (blank : leading.all isBlank = true) (solid : IsSolid core)
    (rest : List Char) : (leading ++ core ++ rest).takeWhile isBlank = leading := by
  obtain ⟨c, more, rfl, visible⟩ := solid.begins
  rw [List.append_assoc, List.takeWhile_append_of_pos (List.all_eq_true.1 blank), List.cons_append,
    List.takeWhile_cons_of_neg (by rw [visible]; exact Bool.false_ne_true), List.append_nil]

theorem dropWhile_around (blank : leading.all isBlank = true) (solid : IsSolid core)
    (rest : List Char) : (leading ++ core ++ rest).dropWhile isBlank = core ++ rest := by
  obtain ⟨c, more, rfl, visible⟩ := solid.begins
  rw [List.append_assoc, List.dropWhile_append_of_pos (List.all_eq_true.1 blank), List.cons_append,
    List.dropWhile_cons_of_neg (by rw [visible]; exact Bool.false_ne_true)]

/-- Read backwards, solid text is solid. -/
theorem IsSolid.reverse (solid : IsSolid core) : IsSolid core.reverse := by
  obtain ⟨⟨c, rest, rfl, visible⟩, ⟨front, c', split, visible'⟩⟩ := solid
  constructor
  · exact ⟨c', front.reverse, by rw [split]; simp, visible'⟩
  · exact ⟨rest.reverse, c, by simp, visible⟩

/-- The white space behind a solid core. -/
theorem rtakeWhile_around (front : List Char) (solid : IsSolid core)
    (blank : trailing.all isBlank = true) :
    (front ++ core ++ trailing).rtakeWhile isBlank = trailing := by
  have blankBackwards : trailing.reverse.all isBlank = true := by rwa [List.all_reverse]
  rw [List.rtakeWhile, List.reverse_append, List.reverse_append, ← List.append_assoc,
    takeWhile_around blankBackwards solid.reverse, List.reverse_reverse]

/-- Trimming leaves the solid core. -/
theorem trim_around (blank : leading.all isBlank = true) (solid : IsSolid core)
    (blank' : trailing.all isBlank = true) : trim (leading ++ core ++ trailing) = core := by
  have blankBackwards : trailing.reverse.all isBlank = true := by rwa [List.all_reverse]
  rw [trim, dropWhile_around blank solid, trimRight, List.reverse_append,
    ← List.append_nil core.reverse, ← List.append_assoc,
    dropWhile_around blankBackwards solid.reverse, List.append_nil, List.reverse_reverse]

theorem IsSolid.trim_eq (solid : IsSolid core) : trim core = core := by
  have blank : [].all isBlank = true := rfl
  have around := trim_around blank solid blank
  rwa [List.nil_append, List.append_nil] at around

/-- Behind the white space at its beginning, text that is not all white space is visible. -/
theorem exists_visible (visible : ¬chars.all isBlank = true) :
    ∃ c rest, chars.dropWhile isBlank = c :: rest ∧ isBlank c = false := by
  cases behind : chars.dropWhile isBlank with
  | nil =>
      refine absurd ?_ visible
      rw [List.all_eq_true]
      exact List.dropWhile_eq_nil_iff.1 behind
  | cons c rest =>
      have stops := List.head?_dropWhile_not isBlank chars
      rw [behind] at stops
      exact ⟨c, rest, rfl, stops⟩

/-- Text that is not all white space has a solid core. -/
theorem exists_core (visible : ¬chars.all isBlank = true) :
    ∃ leading core trailing, chars = leading ++ core ++ trailing ∧
      leading.all isBlank = true ∧ IsSolid core ∧ trailing.all isBlank = true := by
  obtain ⟨c, rest, behind, visibleFirst⟩ := exists_visible visible
  have notBlank : ¬(c :: rest).reverse.all isBlank = true := by
    rw [List.all_reverse, List.all_cons, visibleFirst, Bool.false_and]
    exact Bool.false_ne_true
  obtain ⟨d, front, behindBackwards, visibleLast⟩ := exists_visible notBlank
  have whole := List.takeWhile_append_dropWhile (p := isBlank) (l := chars)
  have wholeBackwards := List.takeWhile_append_dropWhile (p := isBlank) (l := (c :: rest).reverse)
  have core : c :: rest =
      front.reverse ++ [d] ++ ((c :: rest).reverse.takeWhile isBlank).reverse := by
    rw [behindBackwards] at wholeBackwards
    have forwards := congrArg List.reverse wholeBackwards
    rw [List.reverse_reverse, List.reverse_append, List.reverse_cons] at forwards
    exact forwards.symm
  refine ⟨chars.takeWhile isBlank, front.reverse ++ [d],
    ((c :: rest).reverse.takeWhile isBlank).reverse, ?_, List.all_takeWhile, ⟨?_, ?_⟩, ?_⟩
  · rw [List.append_assoc, ← core, ← behind, whole]
  · cases inner : front.reverse ++ [d] with
    | nil => exact absurd inner (List.append_ne_nil_of_right_ne_nil _ (List.cons_ne_nil d []))
    | cons first more =>
        rw [inner, List.cons_append, List.cons.injEq] at core
        exact ⟨first, more, rfl, core.1 ▸ visibleFirst⟩
  · exact ⟨front.reverse, d, rfl, visibleLast⟩
  · rw [List.all_reverse]
    exact List.all_takeWhile

/-- What trimming leaves is nothing, or solid. -/
theorem isSolid_trim (visible : ¬chars.all isBlank = true) : IsSolid (trim chars) := by
  obtain ⟨leading, core, trailing, rfl, blank, solid, blank'⟩ := exists_core visible
  rwa [trim_around blank solid blank']

end Core

end XmlCollation.Text
