import XmlCollation.Proofs.Markup.Remarks
import XmlCollation.Proofs.Tree.Pieces

/-!
Contract: text around an item that is taken away.

Owns:
- texts that meet seamlessly: joined as pieces they are what they are as one piece;
- the text of an element from which one aside is taken away;
- the text of content without remarks.

Does not own: what counts as a remark, and the tree around the text.

## Seams

Pieces are trimmed and joined by a space, so that an aside between two visible characters shows
as a single space.  Where it is taken away, the white space on its two sides comes together.  If
that is a single space, nothing changes.
-/

namespace XmlCollation.Tree

open XmlCollation.Text
open XmlCollation.Markup

/-! ## Seamless texts -/

/-- One of two texts is white space, or the white space where they meet is a single space. -/
def MeetSeamlessly (front back : List Char) : Prop :=
  front.all isBlank = true ∨ back.all isBlank = true ∨
    front.rtakeWhile isBlank ++ back.takeWhile isBlank = [' ']

instance (front back : List Char) : Decidable (MeetSeamlessly front back) := by
  unfold MeetSeamlessly
  infer_instance

section Meet

variable {front middle back : List Char}

theorem all_append_of_not_blank (visible : ¬back.all isBlank = true) (front : List Char) :
    ¬(front ++ back).all isBlank = true := by
  rw [List.all_append, Bool.and_eq_true, not_and]
  exact fun _ => visible

/-- White space behind a visible text goes on with what is white space. -/
theorem rtakeWhile_append_blank (visible : ¬front.all isBlank = true)
    (blank : middle.all isBlank = true) :
    (front ++ middle).rtakeWhile isBlank = front.rtakeWhile isBlank ++ middle := by
  obtain ⟨leading, core, trailing, rfl, _, solid, blank'⟩ := exists_core visible
  have blankBoth := blank_append blank' blank
  rw [rtakeWhile_around leading solid blank', List.append_assoc _ trailing,
    rtakeWhile_around leading solid blankBoth]

/-- White space behind a text ends with the last visible text. -/
theorem rtakeWhile_append_visible (front : List Char) (visible : ¬middle.all isBlank = true) :
    (front ++ middle).rtakeWhile isBlank = middle.rtakeWhile isBlank := by
  obtain ⟨leading, core, trailing, rfl, _, solid, blank⟩ := exists_core visible
  rw [rtakeWhile_around leading solid blank, ← List.append_assoc, ← List.append_assoc,
    rtakeWhile_around (front ++ leading) solid blank]

/-- Text that is put in front of another one does not count for where that one meets a third
one, if it meets the two together seamlessly. -/
theorem meetSeamlessly_append_iff (meet : MeetSeamlessly front (middle ++ back)) :
    MeetSeamlessly (front ++ middle) back ↔ MeetSeamlessly middle back := by
  by_cases backBlank : back.all isBlank = true
  · exact iff_of_true (.inr (.inl backBlank)) (.inr (.inl backBlank))
  by_cases middleBlank : middle.all isBlank = true
  · refine iff_of_true ?_ (.inl middleBlank)
    rcases meet with frontBlank | bothBlank | space
    · exact .inl (blank_append frontBlank middleBlank)
    · exact absurd bothBlank (all_append_of_not_blank backBlank middle)
    · by_cases frontBlank : front.all isBlank = true
      · exact .inl (blank_append frontBlank middleBlank)
      · refine .inr (.inr ?_)
        rw [rtakeWhile_append_blank frontBlank middleBlank, List.append_assoc, ← space,
          List.takeWhile_append_of_pos (List.all_eq_true.1 middleBlank)]
  · have visible := all_append_of_not_blank middleBlank front
    rw [MeetSeamlessly, MeetSeamlessly, rtakeWhile_append_visible front middleBlank,
      or_iff_right visible, or_iff_right middleBlank]

/-! ## Pieces that meet -/

theorem trim_append_of_blank_left (blank : front.all isBlank = true) (back : List Char) :
    trim (front ++ back) = trim back := by
  rw [trim, List.dropWhile_append_of_pos (List.all_eq_true.1 blank), ← trim]

theorem trim_append_of_blank_right (front : List Char) (blank : back.all isBlank = true) :
    trim (front ++ back) = trim front := by
  by_cases frontBlank : front.all isBlank = true
  · rw [trim_append_of_blank_left frontBlank, (trim_eq_nil_iff front).2 frontBlank,
      (trim_eq_nil_iff back).2 blank]
  · obtain ⟨leading, core, trailing, rfl, blank', solid, blank''⟩ := exists_core frontBlank
    have blankBoth := blank_append blank'' blank
    rw [trim_around blank' solid blank'', List.append_assoc _ trailing,
      trim_around blank' solid blankBoth]

theorem glue_append_left {front middle back : List Char} (nonempty : middle ≠ []) :
    glue (front ++ middle) back = front ++ glue middle back := by
  have nonemptyBoth : front ++ middle ≠ [] := List.append_ne_nil_of_right_ne_nil front nonempty
  by_cases empty : back = []
  · rw [empty, glue_nil_right, glue_nil_right]
  · rw [glue_of_ne_nil nonemptyBoth empty, glue_of_ne_nil nonempty empty, List.append_assoc]

/-- A space before a solid text is white space before a solid text in one way only. -/
theorem space_cons_eq_iff {joined merged gap : List Char} (solid : IsSolid joined)
    (solid' : IsSolid merged) (blank : gap.all isBlank = true) :
    ' ' :: joined = gap ++ merged ↔ gap = [' '] ∧ joined = merged := by
  have spaceBlank : [' '].all isBlank = true := by decide
  have left := takeWhile_around spaceBlank solid []
  have right := takeWhile_around blank solid' []
  rw [List.append_nil, List.singleton_append] at left
  rw [List.append_nil] at right
  constructor
  · intro same
    rw [same, right] at left
    rw [left, List.singleton_append, List.cons.injEq] at same
    exact ⟨left, same.2⟩
  · rintro ⟨rfl, rfl⟩
    rfl

/-- A piece can be merged with the next one exactly if the two meet seamlessly, whatever comes
behind them. -/
theorem glue_trim_eq_iff {piece next joined : List Char} {rest : List (List Char)}
    (solid : joined ≠ [] → IsSolid joined)
    (visible : ¬next.all isBlank = true → joined ≠ []) :
    glue (trim piece) joined = joinPieces ((piece ++ next) :: rest) ↔
      MeetSeamlessly piece next ∧ joined = joinPieces (next :: rest) := by
  rw [joinPieces_cons, joinPieces_cons]
  by_cases pieceBlank : piece.all isBlank = true
  · rw [trim_append_of_blank_left pieceBlank, (trim_eq_nil_iff piece).2 pieceBlank, glue_nil_left,
      and_iff_right (.inl pieceBlank)]
  by_cases nextBlank : next.all isBlank = true
  · rw [trim_append_of_blank_right piece nextBlank, (trim_eq_nil_iff next).2 nextBlank,
      glue_nil_left, glue_right_inj, and_iff_right (.inr (.inl nextBlank))]
  obtain ⟨leading, core, trailing, rfl, blank, coreSolid, blank'⟩ := exists_core pieceBlank
  obtain ⟨leading', core', trailing', rfl, blank'', coreSolid', blank'''⟩ := exists_core nextBlank
  have gapBlank := blank_append blank' blank''
  have merged : trim (leading ++ core ++ trailing ++ (leading' ++ core' ++ trailing')) =
      core ++ (trailing ++ leading') ++ core' := by
    rw [← trim_around blank (coreSolid.append (trailing ++ leading') coreSolid') blank''']
    simp only [List.append_assoc]
  have joinedNonempty := visible nextBlank
  have mergedSolid : IsSolid (glue core' (joinPieces rest)) := by
    rw [← coreSolid'.trim_eq, ← joinPieces_cons]
    exact joinPieces_solid (joinPieces_ne_nil List.mem_cons_self coreSolid'.not_blank)
  have seam : MeetSeamlessly (leading ++ core ++ trailing) (leading' ++ core' ++ trailing') ↔
      trailing ++ leading' = [' '] := by
    rw [MeetSeamlessly, or_iff_right pieceBlank, or_iff_right nextBlank,
      rtakeWhile_around leading coreSolid blank', takeWhile_around blank'' coreSolid' trailing']
  rw [merged, trim_around blank coreSolid blank', trim_around blank'' coreSolid' blank''', seam,
    glue_of_ne_nil coreSolid.ne_nil joinedNonempty, glue_append_left coreSolid'.ne_nil,
    List.append_assoc, List.append_cancel_left_eq,
    space_cons_eq_iff (solid joinedNonempty) mergedSolid gapBlank]

end Meet

/-! ## Without an aside -/

/-- The character data at the end of items: the tail of the last child, or the own text if there
is no child. -/
def closingText (items : List Item) : String :=
  (tails items).getLastD (ownText items)

/-- What follows text at the end of items belongs to the last piece. -/
theorem exists_pieces_before (before : List Item) :
    ∃ earlier, ownText before :: tails before = earlier ++ [closingText before] ∧
      ∀ after, ownText (before ++ after) :: tails (before ++ after) =
        earlier ++ (closingText before ++ ownText after) :: tails after := by
  induction before with
  | nil =>
      refine ⟨[], rfl, fun after => ?_⟩
      have nothing : closingText [] = "" := rfl
      rw [nothing, String.empty_append]
      rfl
  | cons item rest inductionHypothesis =>
      obtain ⟨earlier, split, further⟩ := inductionHypothesis
      rcases exists_text_or_partsText item with ⟨chars, rfl⟩ | parts
      · cases earlier with
        | nil =>
            obtain ⟨own, none⟩ := List.cons.inj split
            have closing : closingText (.text chars :: rest) = chars ++ closingText rest := by
              rw [closingText, tails, none, ownText, own]
              rfl
            refine ⟨[], ?_, fun after => ?_⟩
            · rw [ownText, tails, none, closing, own, List.nil_append]
            · obtain ⟨ownAfter, tailsAfter⟩ := List.cons.inj (further after)
              rw [List.cons_append, ownText, tails, ownAfter, tailsAfter, closing,
                String.append_assoc]
              rfl
        | cons first more =>
            obtain ⟨own, behind⟩ := List.cons.inj split
            have closing : closingText (.text chars :: rest) = closingText rest := by
              rw [closingText, tails, behind, List.append_eq, List.getLastD_concat]
            refine ⟨(chars ++ first) :: more, ?_, fun after => ?_⟩
            · rw [ownText, tails, behind, closing, own]
              rfl
            · obtain ⟨ownAfter, tailsAfter⟩ := List.cons.inj (further after)
              rw [List.cons_append, ownText, tails, ownAfter, tailsAfter, closing]
              rfl
      · -- The pieces of the rest follow the one in front of the item, which is empty.
        have closing : closingText (item :: rest) = closingText rest := by
          rw [closingText, parts.tails_eq, List.getLastD_cons]
          rfl
        refine ⟨"" :: earlier, ?_, fun after => ?_⟩
        · rw [closing, parts.ownText_eq, parts.tails_eq, split]
          rfl
        · rw [List.cons_append, parts.ownText_eq, parts.tails_eq, further, closing]
          rfl

theorem ownText_append_of_no_child {items : List Item} (noChild : tails items = [])
    (after : List Item) : ownText (items ++ after) = ownText items ++ ownText after := by
  obtain ⟨earlier, split, further⟩ := exists_pieces_before items
  have closing : closingText items = ownText items := by rw [closingText, noChild]; rfl
  rw [noChild] at split
  cases earlier with
  | nil => rw [← closing]; exact (List.cons.inj (further after)).1
  | cons first more => simp at split

theorem ownText_append_aside (before after : List Item) (kind : Aside) :
    ownText (before ++ .aside kind :: after) :: tails (before ++ .aside kind :: after) =
      (ownText before :: tails before) ++ (ownText after :: tails after) := by
  obtain ⟨earlier, split, further⟩ := exists_pieces_before before
  rw [further, split, ownText, tails, String.append_empty, List.append_assoc,
    List.singleton_append]

/-- The text of an element stays what it is without an aside if and only if the pieces before
and behind the aside meet seamlessly. -/
theorem textOf_without_aside_iff (before after : List Item) (kind : Aside) :
    textOf (before ++ after) = textOf (before ++ .aside kind :: after) ↔
      MeetSeamlessly (closingText before).toList (ownText after).toList := by
  obtain ⟨earlier, split, further⟩ := exists_pieces_before before
  rw [textOf, textOf, String.ofList_inj, pieces_eq, pieces_eq, ownText_append_aside, split, further,
    List.append_assoc, List.map_append, List.map_append, joinPieces_append, joinPieces_append,
    glue_right_inj, List.singleton_append, List.map_cons, List.map_cons, List.map_cons,
    joinPieces_cons (closingText before).toList, String.toList_append, eq_comm,
    glue_trim_eq_iff joinPieces_solid (joinPieces_ne_nil List.mem_cons_self), and_iff_left rfl]

/-! ## Without remarks -/

/-- At every remark, what is left of the texts before and behind it meets seamlessly. -/
def AreSeamless (items : List Item) : Prop :=
  ∀ before kind after, items = before ++ .aside kind :: after → kind.isRemark = true →
    MeetSeamlessly (closingText (withoutRemarksAll before)).toList
      (ownText (withoutRemarksAll after)).toList

/-- The same behind some text in front of the items. -/
def AreSeamlessBehind (front : List Char) (items : List Item) : Prop :=
  ∀ before kind after, items = before ++ .aside kind :: after → kind.isRemark = true →
    MeetSeamlessly ((piecesFrom front (withoutRemarksAll before)).getLastD [])
      (ownText (withoutRemarksAll after)).toList

theorem getLastD_pieces (items : List Item) :
    (piecesFrom [] items).getLastD [] = (closingText items).toList := by
  obtain ⟨earlier, split, _⟩ := exists_pieces_before items
  rw [piecesFrom_eq, List.nil_append, ← List.map_cons, split, List.map_append, List.map_singleton,
    List.getLastD_concat]

theorem areSeamless_iff (items : List Item) : AreSeamless items ↔ AreSeamlessBehind [] items := by
  simp only [AreSeamless, AreSeamlessBehind, getLastD_pieces]

/-- Items are cut at an aside at their beginning, or further on. -/
theorem forall_cut_cons {item : Item} {rest : List Item}
    {holds : List Item → Aside → List Item → Prop} :
    (∀ before kind after, item :: rest = before ++ .aside kind :: after →
        holds before kind after) ↔
      (∀ kind, item = .aside kind → holds [] kind rest) ∧
        ∀ before kind after, rest = before ++ .aside kind :: after →
          holds (item :: before) kind after := by
  constructor
  · intro all
    refine ⟨fun kind first => all [] kind rest (by rw [first]; rfl), ?_⟩
    intro before kind after split
    exact all (item :: before) kind after (by rw [split]; rfl)
  · rintro ⟨first, later⟩ before kind after split
    cases before with
    | nil =>
        obtain ⟨rfl, rfl⟩ := List.cons.inj split
        exact first kind rfl
    | cons other before =>
        obtain ⟨rfl, behind⟩ := List.cons.inj split
        exact later before kind after behind

/-- The item parts the text around it, and so does what is left of it without remarks. -/
structure IsKept (item left : Item) : Prop where
  withoutRemarksAll_eq : ∀ rest, withoutRemarksAll (item :: rest) = left :: withoutRemarksAll rest
  partsText : PartsText item
  partsText_left : PartsText left
  not_isRemark : ∀ kind, item = .aside kind → ¬kind.isRemark = true

/-- An item is character data or a remark, or it is kept. -/
theorem exists_text_or_remark_or_isKept (item : Item) :
    (∃ chars, item = .text chars) ∨ (∃ kind, item = .aside kind ∧ kind.isRemark = true) ∨
      ∃ left, IsKept item left := by
  cases item with
  | text chars => exact .inl ⟨chars, rfl⟩
  | aside kind =>
      by_cases remark : kind.isRemark = true
      · exact .inr (.inl ⟨kind, rfl, remark⟩)
      · refine .inr (.inr ⟨.aside kind, withoutRemarksAll_reference remark, partsText_aside kind,
          partsText_aside kind, ?_⟩)
        rintro _ ⟨⟩
        exact remark
  | element head items =>
      refine .inr (.inr ⟨.element head (withoutRemarksAll items),
        withoutRemarksAll_element head items, partsText_element head items,
        partsText_element head _, ?_⟩)
      rintro _ ⟨⟩

section Behind

variable {front : List Char} {rest : List Item}

/-- The last piece behind a child is found among the pieces behind it. -/
theorem getLastD_cons_pieces (front : List Char) (items : List Item) :
    (front :: piecesFrom [] items).getLastD [] = (piecesFrom [] items).getLastD [] := by
  rw [piecesFrom_eq, List.getLastD_cons, List.getLastD_cons, List.getLastD_cons]

theorem areSeamlessBehind_nil (front : List Char) : AreSeamlessBehind front [] := by
  intro before kind after split
  cases before with
  | nil => cases split
  | cons item before => cases split

theorem areSeamlessBehind_text (chars : String) :
    AreSeamlessBehind front (.text chars :: rest) ↔
      AreSeamlessBehind (front ++ chars.toList) rest := by
  rw [AreSeamlessBehind, forall_cut_cons]
  simp only [withoutRemarksAll_text, piecesFrom]
  exact and_iff_right (fun kind same => by cases same)

theorem areSeamlessBehind_kept {item left : Item} (kept : IsKept item left) :
    AreSeamlessBehind front (item :: rest) ↔ AreSeamlessBehind [] rest := by
  rw [AreSeamlessBehind, forall_cut_cons]
  simp only [kept.withoutRemarksAll_eq, kept.partsText_left.piecesFrom_eq, getLastD_cons_pieces]
  exact and_iff_right fun kind same remark => absurd remark (kept.not_isRemark kind same)

/-- At a remark, the text in front of it meets what follows, and counts for nothing further on. -/
theorem areSeamlessBehind_remark {kind : Aside} (remark : kind.isRemark = true) :
    AreSeamlessBehind front (.aside kind :: rest) ↔
      MeetSeamlessly front (ownText (withoutRemarksAll rest)).toList ∧
        AreSeamlessBehind [] rest := by
  rw [AreSeamlessBehind, forall_cut_cons]
  simp only [withoutRemarksAll_remark remark]
  have atFirst : (∀ other, Item.aside kind = .aside other → other.isRemark = true →
      MeetSeamlessly ((piecesFrom front (withoutRemarksAll [])).getLastD [])
        (ownText (withoutRemarksAll rest)).toList) ↔
      MeetSeamlessly front (ownText (withoutRemarksAll rest)).toList :=
    ⟨fun meet => meet kind rfl remark, fun meet _ _ _ => meet⟩
  rw [atFirst]
  refine and_congr_right fun meet => ?_
  -- What is in front counts further on only if no child comes between.
  refine forall₃_congr fun before other after => imp_congr_right fun split =>
    imp_congr_right fun isRemark => ?_
  rw [piecesFrom_eq, piecesFrom_eq, List.getLastD_cons, List.getLastD_cons, List.nil_append]
  cases behind : tails (withoutRemarksAll before) with
  | nil =>
      rw [split, withoutRemarksAll_append, withoutRemarksAll_remark isRemark,
        ownText_append_of_no_child behind, String.toList_append] at meet
      exact meetSeamlessly_append_iff meet
  | cons tail more =>
      rw [List.map_cons, List.getLastD_cons, List.getLastD_cons]

end Behind

/-- Pieces are white space altogether with and without the remarks between them. -/
theorem joinPieces_withoutRemarks_eq_nil_iff (front : List Char) (items : List Item) :
    joinPieces (piecesFrom front (withoutRemarksAll items)) = [] ↔
      joinPieces (piecesFrom front items) = [] := by
  induction items generalizing front with
  | nil => exact Iff.rfl
  | cons item rest inductionHypothesis =>
      rcases exists_text_or_remark_or_isKept item with
        ⟨chars, rfl⟩ | ⟨kind, rfl, remark⟩ | ⟨left, kept⟩
      · rw [withoutRemarksAll_text, piecesFrom, piecesFrom]
        exact inductionHypothesis _
      · rw [withoutRemarksAll_remark remark, piecesFrom, joinPieces_cons, glue_eq_nil_iff,
          ← inductionHypothesis [], piecesFrom_eq, piecesFrom_eq, joinPieces_cons,
          joinPieces_cons, glue_eq_nil_iff, glue_eq_nil_iff, trim_eq_nil_iff, trim_eq_nil_iff,
          trim_eq_nil_iff, List.all_append, Bool.and_eq_true, List.nil_append, and_assoc]
      · rw [kept.withoutRemarksAll_eq, kept.partsText.piecesFrom_eq,
          kept.partsText_left.piecesFrom_eq, joinPieces_cons, joinPieces_cons, glue_eq_nil_iff,
          glue_eq_nil_iff, inductionHypothesis]

/-- Behind any text, remarks can be left out without a change if and only if all texts around
them meet seamlessly. -/
theorem joinPieces_withoutRemarks_iff (front : List Char) (items : List Item) :
    joinPieces (piecesFrom front (withoutRemarksAll items)) = joinPieces (piecesFrom front items) ↔
      AreSeamlessBehind front items := by
  induction items generalizing front with
  | nil => exact iff_of_true rfl (areSeamlessBehind_nil front)
  | cons item rest inductionHypothesis =>
      rcases exists_text_or_remark_or_isKept item with
        ⟨chars, rfl⟩ | ⟨kind, rfl, remark⟩ | ⟨left, kept⟩
      · rw [withoutRemarksAll_text, piecesFrom, piecesFrom, areSeamlessBehind_text]
        exact inductionHypothesis _
      · have apart : piecesFrom front (withoutRemarksAll rest) =
            (front ++ (ownText (withoutRemarksAll rest)).toList) ::
              (tails (withoutRemarksAll rest)).map String.toList := piecesFrom_eq _ _
        have visible : ¬(ownText (withoutRemarksAll rest)).toList.all isBlank = true →
            joinPieces (piecesFrom [] rest) ≠ [] := by
          intro visible
          rw [ne_eq, ← joinPieces_withoutRemarks_eq_nil_iff, piecesFrom_eq, List.nil_append]
          exact joinPieces_ne_nil List.mem_cons_self visible
        rw [withoutRemarksAll_remark remark, apart, piecesFrom, joinPieces_cons front, eq_comm,
          glue_trim_eq_iff joinPieces_solid visible, areSeamlessBehind_remark remark,
          ← inductionHypothesis [], piecesFrom_eq [] (withoutRemarksAll rest), List.nil_append,
          eq_comm (a := joinPieces (piecesFrom [] rest))]
      · rw [kept.withoutRemarksAll_eq, kept.partsText.piecesFrom_eq,
          kept.partsText_left.piecesFrom_eq, areSeamlessBehind_kept kept, joinPieces_cons,
          joinPieces_cons, glue_right_inj]
        exact inductionHypothesis []

/-- The text of an element is the same without remarks if and only if all texts around remarks
meet seamlessly. -/
theorem textOf_withoutRemarks_iff (items : List Item) :
    textOf (withoutRemarksAll items) = textOf items ↔ AreSeamless items := by
  rw [textOf, textOf, String.ofList_inj, pieces, pieces, joinPieces_withoutRemarks_iff,
    areSeamless_iff]

end XmlCollation.Tree
