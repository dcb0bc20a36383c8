import XmlCollation.Proofs.Text.Trimming
import XmlCollation.Tree.Build

/-!
Contract: the text of an element, piece by piece.

Owns:
- the character data in front of the first child of an element, and that behind each child,
  which are its pieces: whatever is not character data parts them;
- pieces joined one after the other, of which those that are white space do not count;
- joined text, which is empty or solid.

Does not own: which children an element has.
-/

namespace XmlCollation.Tree

open XmlCollation.Text
open XmlCollation.Markup

/-! ## Pieces -/

/-- The character data in front of the first child, whatever that is. -/
def ownText : List Item → String
  | [] => ""
  | .text chars :: rest => chars ++ ownText rest
  | .aside _ :: _ => ""
  | .element _ _ :: _ => ""

/-- For each child, whatever it is, the character data behind it, up to the next one. -/
def tails : List Item → List String
  | [] => []
  | .text _ :: rest => tails rest
  | .aside _ :: rest => ownText rest :: tails rest
  | .element _ _ :: rest => ownText rest :: tails rest

/-- The item parts the character data in front of it from that behind it. -/
structure PartsText (item : Item) : Prop where
  piecesFrom_eq : ∀ current rest, piecesFrom current (item :: rest) = current :: piecesFrom [] rest
  ownText_eq : ∀ rest, ownText (item :: rest) = ""
  tails_eq : ∀ rest, tails (item :: rest) = ownText rest :: tails rest

theorem partsText_aside (kind : Aside) : PartsText (.aside kind) where
  piecesFrom_eq _ _ := rfl
  ownText_eq _ := rfl
  tails_eq _ := rfl

theorem partsText_element (head : Head) (items : List Item) : PartsText (.element head items) where
  piecesFrom_eq _ _ := rfl
  ownText_eq _ := rfl
  tails_eq _ := rfl

/-- Whatever is not character data parts the text around it. -/
theorem exists_text_or_partsText (item : Item) :
    (∃ chars, item = .text chars) ∨ PartsText item := by
  cases item with
  | text chars => exact .inl ⟨chars, rfl⟩
  | aside kind => exact .inr (partsText_aside kind)
  | element head items => exact .inr (partsText_element head items)

theorem piecesFrom_eq (current : List Char) (items : List Item) :
    piecesFrom current items =
      (current ++ (ownText items).toList) :: (tails items).map String.toList := by
  induction items generalizing current with
  | nil => rw [piecesFrom, ownText, tails, String.toList_empty, List.append_nil, List.map_nil]
  | cons item rest inductionHypothesis =>
      rcases exists_text_or_partsText item with ⟨chars, rfl⟩ | parts
      · rw [piecesFrom, inductionHypothesis, ownText, tails, String.toList_append,
          List.append_assoc]
      · rw [parts.piecesFrom_eq, inductionHypothesis, parts.ownText_eq, parts.tails_eq,
          String.toList_empty, List.append_nil, List.nil_append, List.map_cons]

theorem pieces_eq (items : List Item) :
    pieces items = (ownText items :: tails items).map String.toList := by
  rw [pieces, piecesFrom_eq, List.nil_append, List.map_cons]

/-- The text of an element is its own text and the tails of all its children, trimmed, joined by
single spaces where they are not empty. -/
theorem textOf_eq (items : List Item) :
    textOf items =
      " ".intercalate (((ownText items :: tails items).map trimmed).filter (· != "")) := by
  have sameTrimmed : String.toList ∘ trimmed = trim ∘ String.toList := funext trimmed_toList
  have sameKept : (fun part : List Char => !part.isEmpty) ∘ trim ∘ String.toList =
      (· != "") ∘ trimmed := by
    funext part
    show (!(trim part.toList).isEmpty) = (trimmed part != "")
    rw [trimmed, Bool.eq_iff_iff, bne_iff_ne, ne_eq, String.ofList_eq_empty_iff, Bool.not_eq_true',
      List.isEmpty_eq_false_iff]
  rw [textOf, pieces_eq, ← String.toList_inj, String.toList_ofList, String.toList_intercalate,
    joinPieces, List.map_map, List.filter_map, List.filter_map, List.map_map, sameTrimmed,
    sameKept]
  rfl

/-! ## Joined text -/

/-- Two texts with a space between them, unless one of them is empty. -/
def glue (front back : List Char) : List Char :=
  if front = [] then back else if back = [] then front else front ++ ' ' :: back

theorem joinPieces_nil : joinPieces [] = [] :=
  rfl

theorem joinPieces_cons (part : List Char) (rest : List (List Char)) :
    joinPieces (part :: rest) = glue (trim part) (joinPieces rest) := by
  rw [joinPieces, joinPieces, List.map_cons, glue]
  by_cases empty : trim part = []
  · rw [if_pos empty, List.filter_cons_of_neg (by simp [empty])]
  · rw [if_neg empty, List.filter_cons_of_pos (by simp [empty])]
    cases kept : (rest.map trim).filter (!·.isEmpty) with
    | nil => simp
    | cons next later =>
        have nextNonempty : next ≠ [] := by
          have member : next ∈ (rest.map trim).filter (!·.isEmpty) := by
            rw [kept]
            exact List.mem_cons_self
          simpa using (List.mem_filter.1 member).2
        have restNonempty : ((next :: later).intersperse [' ']).flatten ≠ [] := by
          cases later with
          | nil => simpa using nextNonempty
          | cons third later => simp [nextNonempty]
        rw [if_neg restNonempty, List.intersperse_cons_cons, List.flatten_cons, List.flatten_cons,
          List.singleton_append]

theorem glue_nil_left (back : List Char) : glue [] back = back :=
  rfl

theorem glue_nil_right (front : List Char) : glue front [] = front := by
  rw [glue]
  split
  · rename_i empty
    exact empty.symm
  · rfl

theorem glue_of_ne_nil {front back : List Char} (nonempty : front ≠ []) (nonempty' : back ≠ []) :
    glue front back = front ++ ' ' :: back := by
  rw [glue, if_neg nonempty, if_neg nonempty']

theorem glue_eq_nil_iff {front back : List Char} :
    glue front back = [] ↔ front = [] ∧ back = [] := by
  by_cases empty : front = []
  · rw [empty, glue_nil_left, and_iff_right rfl]
  · by_cases empty' : back = []
    · rw [empty', glue_nil_right, and_iff_left rfl]
    · rw [glue_of_ne_nil empty empty']
      simp [empty]

/-- What is in front can be cancelled. -/
theorem glue_right_inj {front back back' : List Char} :
    glue front back = glue front back' ↔ back = back' := by
  refine ⟨fun same => ?_, congrArg (glue front)⟩
  by_cases empty : front = []
  · rwa [empty, glue_nil_left, glue_nil_left] at same
  · by_cases back_empty : back = []
    · by_cases back'_empty : back' = []
      · rw [back_empty, back'_empty]
      · rw [back_empty, glue_nil_right, glue_of_ne_nil empty back'_empty, List.self_eq_append_right]
          at same
        cases same
    · by_cases back'_empty : back' = []
      · rw [back'_empty, glue_nil_right, glue_of_ne_nil empty back_empty, List.append_right_eq_self]
          at same
        cases same
      · rw [glue_of_ne_nil empty back_empty, glue_of_ne_nil empty back'_empty,
          List.append_cancel_left_eq, List.cons.injEq] at same
        exact same.2

theorem glue_assoc (first second third : List Char) :
    glue (glue first second) third = glue first (glue second third) := by
  by_cases empty : first = []
  · rw [empty, glue_nil_left, glue_nil_left]
  · by_cases empty' : second = []
    · rw [empty', glue_nil_left, glue_nil_right]
    · by_cases empty'' : third = []
      · rw [empty'', glue_nil_right, glue_nil_right]
      · have front : glue first second ≠ [] := fun none => empty (glue_eq_nil_iff.1 none).1
        have back : glue second third ≠ [] := fun none => empty' (glue_eq_nil_iff.1 none).1
        rw [glue_of_ne_nil front empty'', glue_of_ne_nil empty back, glue_of_ne_nil empty empty',
          glue_of_ne_nil empty' empty'', List.append_assoc, List.cons_append]

theorem joinPieces_append (parts others : List (List Char)) :
    joinPieces (parts ++ others) = glue (joinPieces parts) (joinPieces others) := by
  induction parts with
  | nil => rfl
  | cons part rest inductionHypothesis =>
      rw [List.cons_append, joinPieces_cons, joinPieces_cons, inductionHypothesis, glue_assoc]

/-- Nothing is joined exactly if all pieces are white space. -/
theorem joinPieces_eq_nil_iff (parts : List (List Char)) :
    joinPieces parts = [] ↔ ∀ part ∈ parts, part.all isBlank = true := by
  induction parts with
  | nil => simp [joinPieces_nil]
  | cons part rest inductionHypothesis =>
      rw [joinPieces_cons, glue_eq_nil_iff, inductionHypothesis, trim_eq_nil_iff,
        List.forall_mem_cons]

theorem joinPieces_ne_nil {parts : List (List Char)} {part : List Char} (member : part ∈ parts)
    (visible : ¬part.all isBlank = true) : joinPieces parts ≠ [] :=
  fun none => visible ((joinPieces_eq_nil_iff parts).1 none part member)

/-- Joined text is empty or solid. -/
theorem joinPieces_solid {parts : List (List Char)} (nonempty : joinPieces parts ≠ []) :
    IsSolid (joinPieces parts) := by
  induction parts with
  | nil => exact absurd joinPieces_nil nonempty
  | cons part rest inductionHypothesis =>
      rw [joinPieces_cons] at nonempty ⊢
      by_cases blank : part.all isBlank = true
      · rw [(trim_eq_nil_iff part).2 blank, glue_nil_left] at nonempty ⊢
        exact inductionHypothesis nonempty
      · have solid := isSolid_trim blank
        by_cases empty : joinPieces rest = []
        · rwa [empty, glue_nil_right]
        · rw [glue_of_ne_nil solid.ne_nil empty]
          have around := solid.append [' '] (inductionHypothesis empty)
          rwa [List.append_assoc, List.singleton_append] at around

theorem trim_joinPieces (parts : List (List Char)) :
    trim (joinPieces parts) = joinPieces parts := by
  by_cases empty : joinPieces parts = []
  · rw [empty, trim_nil]
  · exact (joinPieces_solid empty).trim_eq

/-- The text of an element has no white space at its ends. -/
theorem trimmed_textOf (items : List Item) : trimmed (textOf items) = textOf items := by
  rw [trimmed, textOf, String.toList_ofList, trim_joinPieces]

end XmlCollation.Tree
