import XmlCollation.Proofs.Rules.Parallel
import XmlCollation.Proofs.Text.Fields
import XmlCollation.Proofs.Tree.Reading

/-!
Contract: the tags on the way to an element, written as a selector.

Owns:
- written selectors, whose segments are the trimmed fields between slashes;
- wildcards without special characters, which match themselves only;
- the paths of a parsed tree that select themselves when they are written as selectors.

Does not own: selectors with wildcards.

## Tags that cannot be written

A selector is cut at every slash, also at those in a namespace, and its segments are trimmed.
So a tag that holds a slash, or that begins or ends with white space, matches no selector that
is made of it.
-/

namespace XmlCollation.Rules

open XmlCollation.Text
open XmlCollation.Tree
open XmlCollation.Markup

/-! ## Written selectors -/

/-- What stands between the slashes of a selector, trimmed. -/
def segmentsOf (body : List Char) : List (List Char) :=
  (fields '/' body).map trim

/-- The selector with the segments of a text, all of which have to be given. -/
def Selector.ofBody (anchored : Bool) (body : List Char) : Option Selector :=
  if (segmentsOf body).any List.isEmpty then none
  else some ⟨(segmentsOf body).map String.ofList, anchored⟩

theorem segmentsOf_trimRight (body : List Char) : segmentsOf (trimRight body) = segmentsOf body :=
  map_trim_fields_trimRight (by decide) body

theorem segmentsOf_ne_nil (body : List Char) : segmentsOf body ≠ [] := by
  rw [segmentsOf, ne_eq, List.map_eq_nil_iff]
  exact fields_ne_nil '/' body

/-- Two slashes in front of a text mean nothing. -/
theorem Selector.parse_unanchored (body : String) :
    Selector.parse ("//" ++ body) = Selector.ofBody false body.toList := by
  have written : trim ("//" ++ body).toList = '/' :: '/' :: trimRight body.toList := by
    rw [String.toList_append]
    show trim ('/' :: '/' :: body.toList) = _
    rw [trim_cons_of_not_blank (by decide), trimRight_cons (by decide), trimRight_cons (by decide)]
  rw [Selector.parse, written, Selector.ofBody, ← segmentsOf_trimRight]
  rfl

/-- One slash in front of a text, which does not begin with another one, anchors it. -/
theorem Selector.parse_anchored {body : String} (noSlash : ∀ rest, body.toList ≠ '/' :: rest) :
    Selector.parse ("/" ++ body) = Selector.ofBody true body.toList := by
  have written : trim ("/" ++ body).toList = '/' :: trimRight body.toList := by
    rw [String.toList_append]
    show trim ('/' :: body.toList) = _
    rw [trim_cons_of_not_blank (by decide), trimRight_cons (by decide)]
  have stillNoSlash : ∀ rest, trimRight body.toList ≠ '/' :: rest := by
    intro rest trimmed
    obtain ⟨tail, whole⟩ := trimRight_begins body.toList
    rw [trimmed] at whole
    exact noSlash (rest ++ tail) whole.symm
  rw [Selector.parse, written, Selector.ofBody, ← segmentsOf_trimRight]
  split
  rename_i anchored rest found
  have anchoredHere : (true, trimRight body.toList) = (anchored, rest) := by
    rw [← found]
    split
    · rename_i twoSlashes
      rw [List.cons.injEq] at twoSlashes
      exact absurd twoSlashes.2 (stillNoSlash _)
    · rename_i oneSlash
      rw [List.cons.injEq] at oneSlash
      rw [oneSlash.2]
    · rename_i notTwo notOne
      exact (notOne _ rfl).elim
  cases anchoredHere
  rfl

theorem Selector.ofBody_eq_some {anchored : Bool} {body : List Char} {selector : Selector} :
    Selector.ofBody anchored body = some selector ↔
      [] ∉ segmentsOf body ∧ selector = ⟨(segmentsOf body).map String.ofList, anchored⟩ := by
  have missing : (segmentsOf body).any List.isEmpty = true ↔ [] ∈ segmentsOf body := by
    simp only [List.any_eq_true, List.isEmpty_iff, exists_eq_right]
  rw [Selector.ofBody]
  split
  · rename_i isMissing
    simp [missing.1 isMissing]
  · rename_i notMissing
    rw [missing] at notMissing
    rw [Option.some.injEq, eq_comm (b := selector)]
    exact (and_iff_right notMissing).symm

/-! ## Wildcards without special characters -/

/-- Text without the characters that are special in wildcards. -/
def IsLiteral (chars : List Char) : Prop :=
  '*' ∉ chars ∧ '?' ∉ chars ∧ '[' ∉ chars

theorem IsLiteral.of_subset {chars others : List Char} (literal : IsLiteral chars)
    (subset : others ⊆ chars) : IsLiteral others :=
  ⟨fun member => literal.1 (subset member), fun member => literal.2.1 (subset member),
    fun member => literal.2.2 (subset member)⟩

theorem IsLiteral.lower {chars : List Char} (literal : IsLiteral chars) :
    IsLiteral (lower chars) := by
  rw [IsLiteral, mem_lower_mark (by decide), mem_lower_mark (by decide),
    mem_lower_mark (by decide)]
  exact literal

/-- Such text stands for itself, character by character. -/
theorem piecesFrom_literal {chars : List Char} (literal : IsLiteral chars) {fuel : Nat}
    (enough : chars.length ≤ fuel) : piecesFrom fuel chars = chars.map Piece.one := by
  induction chars generalizing fuel with
  | nil => cases fuel <;> rfl
  | cons c rest inductionHypothesis =>
      cases fuel with
      | zero => cases enough
      | succ fuel =>
          have notStar : c ≠ '*' := fun star => literal.1 (star ▸ List.mem_cons_self)
          have notQuestion : c ≠ '?' := fun mark => literal.2.1 (mark ▸ List.mem_cons_self)
          have notBracket : c ≠ '[' := fun bracket => literal.2.2 (bracket ▸ List.mem_cons_self)
          have below : piecesFrom fuel rest = rest.map Piece.one :=
            inductionHypothesis (literal.of_subset (List.subset_cons_self c rest))
              (Nat.le_of_succ_le_succ enough)
          rw [piecesFrom, below, List.map_cons]
          · exact notStar
          · exact notQuestion
          · exact notBracket

theorem matchesName_ones (chars name : List Char) :
    matchesName (chars.map Piece.one) name = true ↔ name = chars := by
  induction chars generalizing name with
  | nil => rw [List.map_nil, matchesName, List.isEmpty_iff]
  | cons c rest inductionHypothesis =>
      cases name with
      | nil => simp [matchesName]
      | cons d name =>
          rw [List.map_cons, matchesName, Bool.and_eq_true, inductionHypothesis, List.cons.injEq,
            Piece.holds, beq_iff_eq]
          exact fun star => Piece.noConfusion star

/-- A segment without special characters matches its own name, letter case left out of
account. -/
theorem segmentMatches_literal {segment : List Char} (literal : IsLiteral segment) (node : Node) :
    segmentMatches (String.ofList segment) node = true ↔
      lower node.localName.toList = lower segment ∨ lower node.tag.toList = lower segment := by
  rw [segmentMatches, String.toList_ofList, wildcard,
    piecesFrom_literal literal.lower (Nat.le_refl _), Bool.or_eq_true, matchesName_ones,
    matchesName_ones]

/-! ## Tags as segments -/

/-- A tag that a selector can show: it is not cut at a slash, and not trimmed. -/
def IsSelectable (tag : List Char) : Prop :=
  '/' ∉ tag ∧ trim tag = tag

theorem segmentsOf_of_notMem {tag : List Char} (noSlash : '/' ∉ tag) :
    segmentsOf tag = [trim tag] := by
  rw [segmentsOf, fields_of_notMem noSlash, List.map_singleton]

section Tags

variable {node : Node}

/-- A tag matches itself. -/
theorem segmentMatches_tag (literal : IsLiteral node.tag.toList) :
    segmentMatches (String.ofList node.tag.toList) node = true :=
  (segmentMatches_literal literal node).2 (.inr rfl)

theorem localName_toList (node : Node) : node.localName.toList = localPart node.tag.toList := by
  rw [Node.localName, String.toList_ofList]

/-- A trimmed tag matches only if nothing was trimmed. -/
theorem trim_eq_self_of_segmentMatches (resolved : IsResolvedName node.tag.toList)
    (literal : IsLiteral node.tag.toList)
    (matching : segmentMatches (String.ofList (trim node.tag.toList)) node = true) :
    trim node.tag.toList = node.tag.toList := by
  rw [segmentMatches_literal (literal.of_subset (trim_sublist _).subset), localName_toList]
    at matching
  rcases matching with byLocalName | byTag
  · rcases resolved with plain | ⟨space, plain, expanded, named, -⟩
    · have noBrace : '\x7d' ∉ node.tag.toList :=
        notMem_of_isName (isName_of_isPlainName plain) (by decide)
      rw [localPart_of_notMem noBrace] at byLocalName
      exact trim_eq_self_of_lower byLocalName.symm
    · -- The brace in front of the namespace is not part of the local name.
      have noBrace {brace : Char} (foreign : isNameChar brace = false) : brace ∉ plain :=
        notMem_of_isName (isName_of_isPlainName named) foreign
      rw [expanded, localPart_append (noBrace (by decide)), ← expanded] at byLocalName
      have braceInTag : '\x7b' ∈ lower (trim node.tag.toList) := by
        rw [mem_lower_mark (by decide), mem_trim (by decide), expanded]
        exact List.mem_cons_self
      rw [← byLocalName, mem_lower_mark (by decide)] at braceInTag
      exact absurd braceInTag (noBrace (by decide))
  · exact trim_eq_self_of_lower byTag.symm

/-- Of two marks in a text, one behind which the other is not found comes later. -/
theorem mem_behind_of_notMem {mark other : Char} {front behind front' behind' : List Char}
    (equal : front ++ mark :: behind = front' ++ other :: behind') (different : mark ≠ other)
    (absent : mark ∉ behind') : other ∈ behind := by
  rcases List.append_eq_append_iff.1 equal with
    ⟨between, _, fromMark⟩ | ⟨between, _, fromOther⟩
  · cases between with
    | nil => exact absurd (List.cons.inj fromMark).1 different
    | cons first between =>
        rw [(List.cons.inj fromMark).2]
        exact List.mem_append_right _ List.mem_cons_self
  · cases between with
    | nil => exact absurd (List.cons.inj fromOther).1.symm different
    | cons first between =>
        rw [(List.cons.inj fromOther).2] at absent
        exact absurd (List.mem_append_right _ List.mem_cons_self) absent

/-- What follows the last slash in a tag does not match it. -/
theorem not_segmentMatches_last (resolved : IsResolvedName node.tag.toList)
    (literal : IsLiteral node.tag.toList) {front last : List Char}
    (split : node.tag.toList = front ++ '/' :: last) (noSlash : '/' ∉ last) :
    segmentMatches (String.ofList (trim last)) node = false := by
  have inTag : last ⊆ node.tag.toList := by
    rw [split]
    exact fun c member => List.mem_append_right _ (List.mem_cons_of_mem _ member)
  have slashInTag : '/' ∈ node.tag.toList := by
    rw [split]
    exact List.mem_append_right _ List.mem_cons_self
  rw [Bool.eq_false_iff]
  intro matching
  rw [segmentMatches_literal (literal.of_subset (List.Subset.trans (trim_sublist _).subset inTag)),
    localName_toList] at matching
  rcases matching with byLocalName | byTag
  · rcases resolved with plain | ⟨space, plain, expanded, named, -⟩
    · exact notMem_of_isName (isName_of_isPlainName plain) (by decide) slashInTag
    · -- The brace behind the namespace comes after the last slash.
      have absent {mark : Char} (foreign : isNameChar mark = false) : mark ∉ plain :=
        notMem_of_isName (isName_of_isPlainName named) foreign
      rw [expanded, localPart_append (absent (by decide))] at byLocalName
      have braceInLast : '\x7d' ∈ last :=
        mem_behind_of_notMem (split.symm.trans expanded) (by decide) (absent (by decide))
      have braceInSegment : '\x7d' ∈ lower (trim last) := by
        rw [mem_lower_mark (by decide), mem_trim (by decide)]
        exact braceInLast
      rw [← byLocalName, mem_lower_mark (by decide)] at braceInSegment
      exact absent (by decide) braceInSegment
  · have slashInSegment : '/' ∈ lower (trim last) := by
      rw [← byTag, mem_lower_mark (by decide)]
      exact slashInTag
    rw [mem_lower_mark (by decide), mem_trim (by decide)] at slashInSegment
    exact noSlash slashInSegment

end Tags

/-! ## Paths as selectors -/

/-- The last segment of a selector has to match the node at the end of a path. -/
theorem Selector.segmentMatches_of_selects {segments : List String} {segment : String}
    {anchored : Bool} {above : List Node} {last : Node}
    (selects : Selector.selects ⟨segments ++ [segment], anchored⟩ (above ++ [last]) = true) :
    segmentMatches segment last = true := by
  rw [Selector.selects, Bool.and_eq_true, Bool.and_eq_true, decide_eq_true_iff] at selects
  obtain ⟨⟨notLonger, _⟩, matching⟩ := selects
  simp only [List.length_append, List.length_singleton] at notLonger matching
  have sameEnd : (above ++ [last]).drop (above.length + 1 - (segments.length + 1)) =
      above.drop (above.length - segments.length) ++ [last] := by
    rw [Nat.add_sub_add_right, List.drop_append_of_le_length (Nat.sub_le _ _)]
  have sameLength : segments.length = (above.drop (above.length - segments.length)).length := by
    rw [List.length_drop]
    omega
  rw [sameEnd, List.zip_append sameLength, List.all_append, Bool.and_eq_true] at matching
  have lastMatches := matching.2
  rwa [List.zip_cons_cons, List.all_cons, List.zip_nil_left, List.all_nil, Bool.and_true]
    at lastMatches

/-- A single segment that is not anchored asks for the last node only. -/
theorem Selector.selects_single (segment : String) (above : List Node) (last : Node) :
    Selector.selects ⟨[segment], false⟩ (above ++ [last]) = segmentMatches segment last := by
  rw [Selector.selects]
  simp

/-- An anchored selector asks for as many nodes as it has segments, each of which has to match. -/
theorem Selector.selects_anchored (segments : List String) (path : List Node) :
    Selector.selects ⟨segments, true⟩ path = true ↔
      segments.length = path.length ∧
        ∀ entry ∈ segments.zip path, segmentMatches entry.1 entry.2 = true := by
  rw [Selector.selects]
  simp only [Bool.and_eq_true, decide_eq_true_iff, Bool.not_true, Bool.false_or, beq_iff_eq,
    List.all_eq_true]
  constructor
  · rintro ⟨⟨_, sameLength⟩, matching⟩
    rw [sameLength, Nat.sub_self, List.drop_zero] at matching
    exact ⟨sameLength.symm, matching⟩
  · rintro ⟨sameLength, matching⟩
    rw [sameLength, Nat.sub_self, List.drop_zero]
    exact ⟨⟨Nat.le_refl _, rfl⟩, matching⟩

/-- The tags of a path, joined by slashes. -/
def joinedTags (path : List Node) : String :=
  String.intercalate "/" (path.map Node.tag)

theorem joinedTags_toList (path : List Node) :
    (joinedTags path).toList = ['/'].intercalate (path.map fun step => step.tag.toList) := by
  rw [joinedTags, String.toList_intercalate, List.map_map]
  rfl

/-- The segments of a written path are those of its tags. -/
theorem segmentsOf_joinedTags {path : List Node} (nonempty : path ≠ []) :
    segmentsOf (joinedTags path).toList = path.flatMap fun step => segmentsOf step.tag.toList := by
  have someTags : (path.map fun step => step.tag.toList) ≠ [] := by
    rwa [ne_eq, List.map_eq_nil_iff]
  rw [joinedTags_toList, segmentsOf, fields_intercalate '/' someTags, List.flatMap_map,
    List.map_flatMap]
  rfl

/-- A resolved tag begins with a character that is not a slash. -/
theorem exists_cons_of_isResolvedName {tag : List Char} (resolved : IsResolvedName tag) :
    ∃ first rest, tag = first :: rest ∧ first ≠ '/' := by
  rcases resolved with plain | ⟨space, plain, rfl, _⟩
  · obtain ⟨first, rest, rfl, follow⟩ := exists_cons_of_isName (isName_of_isPlainName plain)
    exact ⟨first, rest, rfl, (ne_bracket_of_isNameChar (follow first List.mem_cons_self)).2.2⟩
  · exact ⟨'\x7b', _, rfl, by decide⟩

theorem joinedTags_ne_slash {path : List Node}
    (resolved : ∀ step ∈ path, IsResolvedName step.tag.toList) (rest : List Char) :
    (joinedTags path).toList ≠ '/' :: rest := by
  rw [joinedTags_toList]
  cases path with
  | nil =>
      intro impossible
      cases impossible
  | cons top others =>
      obtain ⟨first, tail, begins, notSlash⟩ :=
        exists_cons_of_isResolvedName (resolved top List.mem_cons_self)
      intro slash
      cases others with
      | nil =>
          rw [List.map_singleton, List.intercalate_singleton, begins, List.cons.injEq] at slash
          exact notSlash slash.1
      | cons other others =>
          rw [List.map_cons, List.map_cons, List.intercalate_cons_cons, begins, List.cons_append,
            List.cons_append, List.cons.injEq] at slash
          exact notSlash slash.1

/-- If every entry gives something and together they give as much as there are entries, each
gives one thing. -/
theorem length_eq_one_of_length_flatMap {α β : Type} {give : α → List β} {entries : List α}
    (something : ∀ entry ∈ entries, give entry ≠ [])
    (asMany : (entries.flatMap give).length = entries.length) :
    ∀ entry ∈ entries, (give entry).length = 1 := by
  have atLeast (entries : List α) (something : ∀ entry ∈ entries, give entry ≠ []) :
      entries.length ≤ (entries.flatMap give).length := by
    induction entries with
    | nil => exact Nat.le_refl _
    | cons entry rest inductionHypothesis =>
        have here := List.length_pos_iff.2 (something entry List.mem_cons_self)
        have below := inductionHypothesis fun other member =>
          something other (List.mem_cons_of_mem _ member)
        rw [List.flatMap_cons, List.length_append, List.length_cons]
        omega
  induction entries with
  | nil => simp
  | cons entry rest inductionHypothesis =>
      have restSomething : ∀ other ∈ rest, give other ≠ [] := fun other member =>
        something other (List.mem_cons_of_mem _ member)
      have here := List.length_pos_iff.2 (something entry List.mem_cons_self)
      have below := atLeast rest restSomething
      rw [List.flatMap_cons, List.length_append, List.length_cons] at asMany
      intro other member
      rcases List.mem_cons.1 member with rfl | inRest
      · omega
      · exact inductionHypothesis restSomething (by omega) other inRest

/-- Tags without slashes are the segments of their path, once they are trimmed. -/
theorem segmentsOf_joinedTags_of_notMem {path : List Node} (nonempty : path ≠ [])
    (noSlash : ∀ step ∈ path, '/' ∉ step.tag.toList) :
    segmentsOf (joinedTags path).toList = path.map fun step => trim step.tag.toList := by
  rw [segmentsOf_joinedTags nonempty, List.flatMap_def,
    List.map_congr_left fun step member => segmentsOf_of_notMem (noSlash step member),
    ← List.flatMap_def, List.map_eq_flatMap]

/-- Segments that are read off the nodes of a path match it node by node. -/
theorem Selector.selects_map {path : List Node} (segmentOf : Node → String) :
    Selector.selects ⟨path.map segmentOf, true⟩ path = true ↔
      ∀ step ∈ path, segmentMatches (segmentOf step) step = true := by
  have pairs : (path.map segmentOf).zip path = path.map fun step => (segmentOf step, step) := by
    have zipped := @List.zip_map' _ _ _ segmentOf id path
    rwa [List.map_id] at zipped
  rw [Selector.selects_anchored, pairs, List.forall_mem_map]
  exact and_iff_right (List.length_map _)

section Paths

variable {path above : List Node} {last : Node}

/-- A path that is written as an anchored selector is selected by it if and only if all its
tags can be shown. -/
theorem exists_anchored_selects_iff (nonempty : path ≠ [])
    (resolved : ∀ step ∈ path, IsResolvedName step.tag.toList)
    (literal : ∀ step ∈ path, IsLiteral step.tag.toList) :
    (∃ selector, Selector.parse ("/" ++ joinedTags path) = some selector ∧
        selector.selects path = true) ↔
      ∀ step ∈ path, IsSelectable step.tag.toList := by
  rw [Selector.parse_anchored (joinedTags_ne_slash resolved)]
  simp only [Selector.ofBody_eq_some]
  constructor
  · rintro ⟨_, ⟨_, rfl⟩, selects⟩
    have asMany := ((Selector.selects_anchored _ path).1 selects).1
    rw [List.length_map, segmentsOf_joinedTags nonempty] at asMany
    have noSlash : ∀ step ∈ path, '/' ∉ step.tag.toList := by
      intro step member
      have single := length_eq_one_of_length_flatMap
        (fun step _ => segmentsOf_ne_nil step.tag.toList) asMany step member
      rw [segmentsOf, List.length_map, length_fields] at single
      rw [← List.count_eq_zero]
      omega
    rw [segmentsOf_joinedTags_of_notMem nonempty noSlash, List.map_map,
      Selector.selects_map] at selects
    exact fun step member => ⟨noSlash step member,
      trim_eq_self_of_segmentMatches (resolved step member) (literal step member)
        (selects step member)⟩
  · intro selectable
    have noSlash : ∀ step ∈ path, '/' ∉ step.tag.toList := fun step member =>
      (selectable step member).1
    have segments : segmentsOf (joinedTags path).toList =
        path.map fun step => step.tag.toList := by
      rw [segmentsOf_joinedTags_of_notMem nonempty noSlash]
      exact List.map_congr_left fun step member => (selectable step member).2
    rw [segments]
    refine ⟨_, ⟨?_, rfl⟩, ?_⟩
    · intro empty
      obtain ⟨step, member, isEmpty⟩ := List.mem_map.1 empty
      obtain ⟨first, rest, begins, _⟩ := exists_cons_of_isResolvedName (resolved step member)
      rw [begins] at isEmpty
      cases isEmpty
    · rw [List.map_map, Selector.selects_map]
      exact fun step member => segmentMatches_tag (literal step member)

/-- A tag that is written as a selector selects the nodes with this tag, on whatever path, if
and only if it can be shown. -/
theorem exists_unanchored_selects_iff (resolved : IsResolvedName last.tag.toList)
    (literal : IsLiteral last.tag.toList) :
    (∃ selector, Selector.parse ("//" ++ last.tag) = some selector ∧
        selector.selects (above ++ [last]) = true) ↔
      IsSelectable last.tag.toList := by
  rw [Selector.parse_unanchored]
  simp only [Selector.ofBody_eq_some]
  constructor
  · rintro ⟨_, ⟨_, rfl⟩, selects⟩
    rcases split_at_last '/' last.tag.toList with noSlash | ⟨front, behind, split, noSlash⟩
    · rw [segmentsOf_of_notMem noSlash, List.map_singleton, Selector.selects_single] at selects
      exact ⟨noSlash, trim_eq_self_of_segmentMatches resolved literal selects⟩
    · rw [split, segmentsOf, fields_append_cons, fields_of_notMem noSlash, List.map_append,
        List.map_append, List.map_singleton, List.map_singleton] at selects
      have matching := Selector.segmentMatches_of_selects selects
      rw [not_segmentMatches_last resolved literal split noSlash] at matching
      cases matching
  · rintro ⟨noSlash, trimmed⟩
    obtain ⟨first, rest, begins, _⟩ := exists_cons_of_isResolvedName resolved
    rw [segmentsOf_of_notMem noSlash, trimmed]
    refine ⟨_, ⟨?_, rfl⟩, ?_⟩
    · rw [begins]
      simp
    · rw [List.map_singleton, Selector.selects_single]
      exact segmentMatches_tag literal

end Paths

/-- The path to a node of a parsed tree, written as an anchored selector, is accepted and
selected if and only if no tag on it holds a slash or white space at an end.  Written with two
slashes in front, the tag of the node is accepted and selects the nodes with this tag under the
same condition. -/
theorem selects_own_path_iff {content : Content} {root : Node}
    (read : parse content = .ok root) {trail : List Node} {node : Node}
    (leads : root.LeadsTo trail node) (literal : ∀ step ∈ trail, IsLiteral step.tag.toList) :
    ((∃ selector, Selector.parse ("/" ++ joinedTags trail) = some selector ∧
        selector.selects trail = true) ↔
      ∀ step ∈ trail, IsSelectable step.tag.toList) ∧
    ∀ (above : List Node) (last : Node), last.tag = node.tag →
      ((∃ selector, Selector.parse ("//" ++ node.tag) = some selector ∧
          selector.selects (above ++ [last]) = true) ↔
        IsSelectable node.tag.toList) := by
  have resolved : ∀ step ∈ trail, IsResolvedName step.tag.toList := fun step member =>
    (isResolvedName_of_parse read (leads.mem_preorder_of_mem member)).1
  constructor
  · exact exists_anchored_selects_iff (List.ne_nil_of_mem leads.last_mem) resolved literal
  · intro above last sameTag
    have lastResolved := resolved node leads.last_mem
    have lastLiteral := literal node leads.last_mem
    rw [← sameTag] at lastResolved lastLiteral ⊢
    exact exists_unanchored_selects_iff lastResolved lastLiteral

section Written

/-- `<e/>` in a namespace, inside an element of the same one -/
def shopItem : Node :=
  ⟨"\x7burn:shop\x7de", [], [], "", [0], some 1⟩

/-- `<r xmlns="urn:shop"><e/></r>` -/
def shop : Node :=
  ⟨"\x7burn:shop\x7dr", [], [shopItem], "", [], some 1⟩

/-- A namespace without slashes can be written. -/
theorem shop_selects_own_path :
    (∃ selector, Selector.parse "/\x7burn:shop\x7dr/\x7burn:shop\x7de" = some selector ∧
        selector.selects [shop, shopItem] = true) ∧
      ∃ selector, Selector.parse "//\x7burn:shop\x7de" = some selector ∧
        selector.selects [shopItem] = true := by
  have read : parse (.text "<r xmlns=\"urn:shop\"><e/></r>") = .ok shop := by decide +kernel
  have leads : shop.LeadsTo [shop, shopItem] shopItem :=
    .through List.mem_cons_self (.here shopItem)
  have literal : ∀ step ∈ [shop, shopItem], IsLiteral step.tag.toList := by
    simp only [IsLiteral]
    decide +kernel
  have selectable : ∀ step ∈ [shop, shopItem], IsSelectable step.tag.toList := by
    simp only [IsSelectable]
    decide +kernel
  have facts := selects_own_path_iff read leads literal
  exact ⟨facts.1.2 selectable, (facts.2 [] shopItem rfl).2 (selectable shopItem (by simp))⟩

/-- `<r/>` in the namespace `http://x/y` -/
def slashed : Node :=
  ⟨"\x7bhttp://x/y\x7dr", [], [], "", [], some 1⟩

/-- `<a\u1680/>`, whose name ends with a character that counts as white space -/
def spaced : Node :=
  ⟨"a\u1680", [], [], "", [], some 1⟩

/-- A namespace with slashes makes selectors that are refused, and a name that ends with white
space makes selectors that do not match. -/
theorem not_selects_own_path :
    (parse (.text "<r xmlns=\"http://x/y\"/>") = .ok slashed ∧
      Selector.parse ("/" ++ joinedTags [slashed]) = none ∧
      Selector.parse ("//" ++ slashed.tag) = none) ∧
    parse (.text "<a\u1680/>") = .ok spaced ∧
      (∃ selector, Selector.parse ("/" ++ joinedTags [spaced]) = some selector ∧
        selector.selects [spaced] = false) ∧
      ∃ selector, Selector.parse ("//" ++ spaced.tag) = some selector ∧
        selector.selects [spaced] = false := by
  refine ⟨⟨?_, ?_, ?_⟩, ?_, ⟨⟨["a"], true⟩, ?_, ?_⟩, ⟨["a"], false⟩, ?_, ?_⟩
  · decide +kernel
  · decide +kernel
  · decide +kernel
  · decide +kernel
  · decide +kernel
  · decide +kernel
  · decide +kernel
  · decide +kernel

end Written

end XmlCollation.Rules
