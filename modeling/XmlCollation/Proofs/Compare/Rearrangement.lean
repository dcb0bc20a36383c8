import XmlCollation.Proofs.Compare.Localization

/-!
Contract: the order in which a policy lists its pairs.

Owns:
- policies that list the pairs of another policy in an order of their own;
- journals of two policies that settle the same pairs below every place: they have the same
  entries, so the same records are left, whichever entry comes first;
- matchings and comparisons by a policy that lists the pairs of an offered one.

Does not own: which pairs a policy gives.
-/

namespace XmlCollation.Compare

open XmlCollation.Tree
open XmlCollation.Rules (Rule applyRules)

/-! ## Other orders -/

/-- The policy gives the pairs of another one, at each level in an order of its own.  Like the
other one, it leaves sound caches sound. -/
structure Policy.Rearranges (policy other : Policy) : Prop where
  perm : ∀ {outlook : Outlook} {firstRoot secondRoot : Node} {left right : List Place}
    {caches : Caches}, outlook.Surveys firstRoot secondRoot left right caches →
      (policy.pair outlook left right caches).1.Perm (other.pair outlook left right caches).1
  sound : ∀ {outlook : Outlook} {firstRoot secondRoot : Node} {left right : List Place}
    {caches : Caches}, outlook.Surveys firstRoot secondRoot left right caches →
      (policy.pair outlook left right caches).2.Sound outlook firstRoot secondRoot

/-- The policy that lists the last pair first. -/
def Policy.backwards (policy : Policy) : Policy where
  pair outlook left right caches :=
    ((policy.pair outlook left right caches).1.reverse,
      (policy.pair outlook left right caches).2)

section Orders

variable {policy other : Policy}

theorem Policy.IsLawful.backwards_rearranges (lawful : policy.IsLawful) :
    policy.backwards.Rearranges policy where
  perm _ := List.reverse_perm _
  sound surveys := lawful.sound surveys

/-- A lawful policy is lawful in any order. -/
theorem Policy.Rearranges.isLawful (rearranges : policy.Rearranges other)
    (lawful : other.IsLawful) : policy.IsLawful where
  valid surveys pair member :=
    lawful.valid surveys pair ((rearranges.perm surveys).mem_iff.1 member)
  once surveys side := ((rearranges.perm surveys).map _).nodup_iff.2 (lawful.once surveys side)
  sound surveys := rearranges.sound surveys

end Orders

/-! ## What is settled below a place -/

section Settled

variable {start : Comparison} {policy other : Policy} {above : String}
  {siblings : Side → List Node} {tops others : List Settlement}

/-- What is settled in one order is settled in the other. -/
theorem Policy.Rearranges.settles (rearranges : policy.Rearranges other)
    (settles : policy.Settles start above siblings tops) :
    other.Settles start above siblings tops := by
  obtain ⟨_, ⟨state, lefts, rights, continues, level, rfl⟩, given, covered⟩ := settles
  have perm := rearranges.perm (level.surveys continues)
  refine ⟨_, ⟨state, lefts, rights, continues, level, rfl⟩, ?_, ?_⟩
  · intro pair member
    exact given pair (perm.mem_iff.2 member)
  · intro top member
    obtain ⟨pair, pairMember, isAt⟩ := covered top member
    exact ⟨pair, perm.mem_iff.1 pairMember, isAt⟩

theorem Policy.Settles.signature_eq (settles : policy.Settles start above siblings tops)
    {top : Settlement} (member : top ∈ tops) :
    top.signature = above ++ start.outlook.signature .first (top.node .first) := by
  obtain ⟨_, _, _, covered⟩ := settles
  obtain ⟨_, _, isAt⟩ := covered top member
  exact isAt.signature_eq

/-- Whenever an offered policy comes to siblings, it settles the same pairs of them. -/
theorem Policy.Settles.subset (offered : policy.Offered)
    (prepared : ∀ side, (start.view side).visits.Prepared)
    (settles : policy.Settles start above siblings tops)
    (settlesAgain : policy.Settles start above siblings others) : tops ⊆ others := by
  obtain ⟨choice, pairing, follows⟩ := offered.choice
  intro top member
  have pairs := (settles.pairs_iff pairing follows prepared top.node).2 ⟨top, member, rfl⟩
  obtain ⟨again, againMember, sameNodes⟩ :=
    (settlesAgain.pairs_iff pairing follows prepared top.node).1 pairs
  have sameSignature : again.signature = top.signature := by
    rw [settlesAgain.signature_eq againMember, settles.signature_eq member, sameNodes]
  obtain ⟨signature, nodes⟩ := again
  obtain rfl : signature = top.signature := sameSignature
  obtain rfl : nodes = top.node := sameNodes
  exact againMember

end Settled

/-! ## Journals of the same pairs -/

namespace TreeJournal

variable {start after after' : Comparison} {policy policy' : Policy}
  {tops entries tops' entries' : List Settlement}

/-- If a second policy settles below every place what the first one settles there, its journal
has the entries of the first. -/
theorem entries_subset (journal : TreeJournal start after policy tops entries)
    (journal' : TreeJournal start after' policy' tops' entries')
    (agree : ∀ above siblings settled settled', policy.Settles start above siblings settled →
      policy'.Settles start above siblings settled' → settled ⊆ settled') :
    entries ⊆ entries' := by
  intro entry member
  induction journal.grown entry member with
  | top topMember =>
      exact journal'.tops_subset (agree _ _ _ _ journal.settles journal'.settles topMember)
  | child _ parentMember unequal settles given inductionHypothesis =>
      obtain ⟨children, settles', included⟩ :=
        journal'.closed _ (inductionHypothesis parentMember) unequal
      exact included (agree _ _ _ _ settles settles' given)

/-- Each position has the record that its entry leaves, or the one from before. -/
theorem recorded_congr (journal : TreeJournal start after policy tops entries)
    (journal' : TreeJournal start after' policy' tops' entries')
    (same : ∀ entry, entry ∈ entries ↔ entry ∈ entries') (side : Side) (position : Position) :
    (after.view side).visits.recorded position = (after'.view side).visits.recorded position := by
  by_cases isEntry : ∃ entry ∈ entries, entry.position side = position
  · obtain ⟨entry, member, rfl⟩ := isEntry
    rw [journal.recorded entry member side, journal'.recorded entry ((same entry).1 member) side]
  · have untouched : Untouched start after side position :=
      journal.untouched side position fun entry member at_entry => isEntry ⟨entry, member, at_entry⟩
    have untouched' : Untouched start after' side position :=
      journal'.untouched side position fun entry member at_entry =>
        isEntry ⟨entry, (same entry).2 member, at_entry⟩
    exact Eq.trans untouched untouched'.symm

end TreeJournal

/-! ## Whole comparisons -/

/-- The same records lead to the same trace. -/
theorem trace_collectBoth_congr {start after after' : Comparison}
    (continues : start.Continues after) (continues' : start.Continues after')
    (same : ∀ side position,
      (after.view side).visits.recorded position = (after'.view side).visits.recorded position) :
    after.collectBoth.trace = after'.collectBoth.trace := by
  have differences (side : Side) :
      (after.view side).differences side = (after'.view side).differences side := by
    rw [View.differences, View.differences, continues.root, continues'.root]
    exact Visits.differences_congr side "" _ fun position _ => same side position
  have collected (matched : Comparison) : matched.collectBoth.trace =
      { matched.trace with
        differences := matched.trace.differences ++ (matched.view .first).differences .first ++
          (matched.view .second).differences .second } := rfl
  rw [collected, collected, differences, differences, continues.trace, continues'.trace]

section Whole

variable {config : Config} {policy other : Policy} {firstRules secondRules : List Rule}
  {first second : Node}

/-- If a policy lists the pairs of an offered one in an order of its own, matching leaves the same
records in both trees as by the offered one, and the comparison has the same trace. -/
theorem compareTrees_rearranged (offered : other.Offered) (rearranges : policy.Rearranges other)
    (firstDistinct : first.HasDistinctPositions) (secondDistinct : second.HasDistinctPositions)
    (trace : Trace) :
    (∀ side position,
      (((applyRules firstRules secondRules
          (Comparison.start config first second trace)).matchTrees policy).view
            side).visits.recorded position =
        (((applyRules firstRules secondRules
          (Comparison.start config first second trace)).matchTrees other).view
            side).visits.recorded position) ∧
      (compareTrees config policy firstRules secondRules first second trace).trace =
        (compareTrees config other firstRules secondRules first second trace).trace := by
  have ready := @isReady_applyRules config firstRules secondRules first second firstDistinct
    secondDistinct trace
  have compared (used : Policy) : compareTrees config used firstRules secondRules first second
      trace = ((applyRules firstRules secondRules
        (Comparison.start config first second trace)).matchTrees used).collectBoth := rfl
  rw [compared, compared]
  generalize applyRules firstRules secondRules (Comparison.start config first second trace) =
    start at *
  obtain ⟨tops, entries, journal⟩ :=
    exists_treeJournal (rearranges.isLawful offered.isLawful) ready
  obtain ⟨otherTops, otherEntries, otherJournal⟩ := exists_treeJournal offered.isLawful ready
  have sameEntries (entry : Settlement) : entry ∈ entries ↔ entry ∈ otherEntries := by
    refine ⟨fun member => ?_, fun member => ?_⟩
    · exact journal.entries_subset otherJournal (fun _ _ _ _ settles otherSettles =>
        (rearranges.settles settles).subset offered ready.prepared otherSettles) member
    · exact otherJournal.entries_subset journal (fun _ _ _ _ otherSettles settles =>
        otherSettles.subset offered ready.prepared (rearranges.settles settles)) member
  have sameRecords := journal.recorded_congr otherJournal sameEntries
  exact ⟨sameRecords, trace_collectBoth_congr journal.continues otherJournal.continues sameRecords⟩

end Whole

/-- `<r><a>…</a><b>…</b></r>`, both with some text. -/
def pairOfTexts (text : String) : Node :=
  ⟨"r", [], [⟨"a", [], [], text, [0], none⟩, ⟨"b", [], [], text, [1], none⟩], "", [], none⟩

/-- The second pair of siblings is settled first, and its difference comes second still. -/
theorem compareTrees_backwards :
    Policy.greedy.backwards.Rearranges .greedy ∧
      (∀ side position,
        (((applyRules [] [] (Comparison.start .standard (pairOfTexts "1") (pairOfTexts "2")
            {})).matchTrees Policy.greedy.backwards).view side).visits.recorded position =
          (((applyRules [] [] (Comparison.start .standard (pairOfTexts "1") (pairOfTexts "2")
            {})).matchTrees Policy.greedy).view side).visits.recorded position) ∧
      (compareTrees .standard Policy.greedy.backwards [] [] (pairOfTexts "1") (pairOfTexts "2")
          {}).trace =
        (compareTrees .standard Policy.greedy [] [] (pairOfTexts "1") (pairOfTexts "2") {}).trace ∧
      findings .standard Policy.greedy.backwards [] [] (pairOfTexts "1") (pairOfTexts "2") =
        [⟨"Text of XML node <r><a>", "1", "2"⟩, ⟨"Text of XML node <r><b>", "1", "2"⟩] := by
  have rearranges : Policy.greedy.backwards.Rearranges .greedy :=
    Policy.Offered.greedy.isLawful.backwards_rearranges
  obtain ⟨sameRecords, sameTrace⟩ := @compareTrees_rearranged .standard _ _ [] [] (pairOfTexts "1")
    (pairOfTexts "2") .greedy rearranges (by decide) (by decide) {}
  exact ⟨rearranges, sameRecords, sameTrace, by decide +kernel⟩

end XmlCollation.Compare
