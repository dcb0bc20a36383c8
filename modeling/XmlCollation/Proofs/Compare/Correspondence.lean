import Mathlib.Logic.Equiv.Defs
import XmlCollation.Proofs.Compare.Journal

/-!
Contract: nodes of both trees that correspond to one another.

Owns:
- bijections between nodes of both trees, made of a relation that is unambiguous on
  either side;
- what the journal of two trees says of a matched state: the visited nodes that were kept
  are those of the entries, with their marks and recorded differences, and entries lie
  below entries on both sides.

Does not own: what a bijection preserves.
-/

namespace XmlCollation.Compare

open XmlCollation.Tree
open XmlCollation.Rules (otherSide)

/-! ## Bijections -/

/-- Two nodes that a bijection maps to each other. -/
def ArePartners {counted counted' : Node → Prop}
    (partner : {node // counted node} ≃ {node // counted' node}) (nodes : Side → Node) : Prop :=
  ∃ node, node.1 = nodes .first ∧ (partner node).1 = nodes .second

/-- What relates the nodes that count, and relates none of them twice, is a bijection. -/
theorem exists_bijection {counted : Side → Node → Prop} {related : (Side → Node) → Prop}
    (covers : ∀ side node, counted side node ↔ ∃ nodes, related nodes ∧ nodes side = node)
    (unique : ∀ side nodes others, related nodes → related others → nodes side = others side →
      nodes = others) :
    ∃ partner : {node // counted .first node} ≃ {node // counted .second node},
      ∀ nodes, ArePartners partner nodes ↔ related nodes := by
  have related_of (side : Side) (node : {node // counted side node}) :=
    (covers side node.1).1 node.2
  have counted_of {nodes : Side → Node} (isRelated : related nodes) (side : Side) :
      counted side (nodes side) := (covers side (nodes side)).2 ⟨nodes, isRelated, rfl⟩
  choose nodesOf isRelated atSide using related_of
  refine ⟨⟨fun node => ⟨nodesOf .first node .second, counted_of (isRelated .first node) .second⟩,
    fun node => ⟨nodesOf .second node .first, counted_of (isRelated .second node) .first⟩,
    ?_, ?_⟩, ?_⟩
  · intro node
    apply Subtype.ext
    refine Eq.trans (congrFun ?_ Side.first) (atSide .first node)
    exact unique .second _ _ (isRelated .second _) (isRelated .first node) (atSide .second _)
  · intro node
    apply Subtype.ext
    refine Eq.trans (congrFun ?_ Side.second) (atSide .second node)
    exact unique .first _ _ (isRelated .first _) (isRelated .second node) (atSide .first _)
  · intro nodes
    constructor
    · rintro ⟨node, isFirst, isSecond⟩
      have same : nodesOf .first node = nodes := by
        funext side
        cases side with
        | first => exact (atSide .first node).trans isFirst
        | second => exact isSecond
      exact same ▸ isRelated .first node
    · intro isPair
      refine ⟨⟨nodes .first, counted_of isPair .first⟩, rfl, ?_⟩
      exact congrFun (unique .first _ _ (isRelated .first _) isPair (atSide .first _)) .second

/-! ## Entries -/

namespace TreeJournal

variable {start after : Comparison} {policy : Policy} {tops entries : List Settlement}
  {entry other : Settlement}

theorem top_eq (journal : TreeJournal start after policy tops entries) (member : entry ∈ tops)
    (side : Side) : entry.node side = (start.view side).root :=
  List.mem_singleton.1 (journal.settles.mem member side)

theorem inTree (journal : TreeJournal start after policy tops entries) (member : entry ∈ entries)
    (side : Side) : entry.node side ∈ (start.view side).root.preorder := by
  obtain ⟨top, topMember, inTop⟩ := journal.within entry member side
  rwa [journal.top_eq topMember side] at inTop

theorem kept_and_signature (journal : TreeJournal start after policy tops entries)
    (member : entry ∈ entries) :
    (∀ side, (start.view side).visits.isSkipped (entry.node side) = false) ∧
      (start.outlook.keys .first (entry.node .first)).signature =
        (start.outlook.keys .second (entry.node .second)).signature := by
  cases journal.grown entry member with
  | top topMember =>
      exact journal.settles.kept_and_signature journal.lawful journal.ready.prepared topMember
  | child _ _ _ settles given =>
      exact settles.kept_and_signature journal.lawful journal.ready.prepared given

/-- No node is in two entries. -/
theorem eq_of_node_eq (journal : TreeJournal start after policy tops entries)
    (member : entry ∈ entries) (otherMember : other ∈ entries) {side : Side}
    (same : entry.node side = other.node side) : entry = other :=
  List.inj_on_of_nodup_map (journal.once side) member otherMember (congrArg Node.position same)

/-- An entry that is no pair of roots lies below an entry of unequal content, on both sides. -/
theorem parent_or_top (journal : TreeJournal start after policy tops entries)
    (member : entry ∈ entries) :
    (∀ side, entry.node side = (start.view side).root) ∨
      ∃ parent ∈ entries, parent.isEqual start.outlook = false ∧
        ∀ side, entry.node side ∈ parent.children side := by
  cases journal.grown entry member with
  | top topMember => exact .inl (journal.top_eq topMember)
  | child _ parentMember unequal settles given =>
      exact .inr ⟨_, parentMember, unequal, settles.mem given⟩

/-- An entry with a root on one side has roots on both. -/
theorem atRoots (journal : TreeJournal start after policy tops entries)
    (member : entry ∈ entries) (side : Side) (atRoot : entry.node side = (start.view side).root)
    (walked : Side) : entry.node walked = (start.view walked).root := by
  rcases journal.parent_or_top member with isTop | ⟨parent, parentMember, _, children⟩
  · exact isTop walked
  · have below := children side
    rw [atRoot] at below
    exact (root_notMem_children (journal.ready.distinct side)
      (journal.inTree parentMember side) below).elim

/-- Whatever lies above a node of an entry on one side, lies above it as an entry on both. -/
theorem exists_parent (journal : TreeJournal start after policy tops entries)
    (member : entry ∈ entries) {side : Side} {upper : Node}
    (upperIn : upper ∈ (start.view side).root.preorder) (below : entry.node side ∈ upper.children) :
    ∃ parent ∈ entries, parent.node side = upper ∧ parent.isEqual start.outlook = false ∧
      ∀ walked, entry.node walked ∈ parent.children walked := by
  have distinct := journal.ready.distinct side
  rcases journal.parent_or_top member with isTop | ⟨parent, parentMember, unequal, children⟩
  · rw [isTop] at below
    exact (root_notMem_children distinct upperIn below).elim
  · refine ⟨parent, parentMember, ?_, unequal, children⟩
    exact parent_unique distinct (journal.inTree parentMember side) upperIn (children side) below

theorem keys_eq (journal : TreeJournal start after policy tops entries) (side : Side)
    (node : Node) : after.outlook.keys side node = start.outlook.keys side node :=
  congrFun (journal.continues.outlook_keys_eq side) node

/-! ## Records -/

theorem mark_eq (journal : TreeJournal start after policy tops entries)
    (member : entry ∈ entries) (side : Side) :
    (after.view side).visits.markOf (entry.node side) =
      if entry.isEqual start.outlook then .deep else .shallow := by
  have recorded := journal.recorded entry member side
  rw [Settlement.position, Settlement.stamp] at recorded
  rw [Visits.markOf, recorded]
  split <;> rfl

theorem isUnvisited_eq (journal : TreeJournal start after policy tops entries)
    (member : entry ∈ entries) (side : Side) :
    (after.view side).visits.isUnvisited (entry.node side) = false := by
  rw [Visits.isUnvisited, journal.mark_eq member]
  split <;> rfl

theorem differenceOf_eq (journal : TreeJournal start after policy tops entries)
    (member : entry ∈ entries) (side : Side) :
    (after.view side).visits.differenceOf (entry.node side) =
      if entry.isEqual start.outlook then none
      else recordedDifference start.config entry.signature (entry.node .first)
        (entry.node .second) side := by
  have recorded := journal.recorded entry member side
  rw [Settlement.position, Settlement.stamp] at recorded
  rw [Visits.differenceOf, recorded]
  split
  · exact (journal.ready.prepared side).difference_eq _
  · rfl

theorem isSkipped_eq (journal : TreeJournal start after policy tops entries) (side : Side)
    (node : Node) :
    (after.view side).visits.isSkipped node = (start.view side).visits.isSkipped node :=
  (journal.continues.alike side).isSkipped_eq node

/-- A position is that of an entry, or its record is as it was. -/
theorem untouched_or_entry (journal : TreeJournal start after policy tops entries) (side : Side)
    (position : Position) :
    (∃ entry ∈ entries, entry.position side = position) ∨
      (after.view side).visits.recorded position = (start.view side).visits.recorded position := by
  by_cases isEntry : ∃ entry ∈ entries, entry.position side = position
  · exact .inl isEntry
  · refine .inr (journal.untouched side position fun entry member same => isEntry ?_)
    exact ⟨entry, member, same⟩

/-- A position that a rule took out has the record that the rule left. -/
theorem recorded_of_skipped (journal : TreeJournal start after policy tops entries) {side : Side}
    {position : Position} (skipped : ((start.view side).visits.recorded position).skipped = true) :
    (after.view side).visits.recorded position = (start.view side).visits.recorded position := by
  rcases journal.untouched_or_entry side position with ⟨entry, member, rfl⟩ | same
  · have kept := (journal.kept_and_signature member).1 side
    exact (Bool.false_ne_true (kept.symm.trans skipped)).elim
  · exact same

theorem isEqual_of_shallow (journal : TreeJournal start after policy tops entries)
    (member : entry ∈ entries) (side : Side)
    (shallow : (after.view side).visits.markOf (entry.node side) = .shallow) :
    entry.isEqual start.outlook = false := by
  rw [journal.mark_eq member] at shallow
  cases equal : entry.isEqual start.outlook with
  | false => rfl
  | true =>
      rw [equal, if_pos rfl] at shallow
      cases shallow

theorem second_silent (journal : TreeJournal start after policy tops entries)
    (position : Position) : (after.second.visits.recorded position).difference = none := by
  rcases journal.untouched_or_entry .second position with ⟨entry, member, rfl⟩ | same
  · have difference_eq := journal.differenceOf_eq member .second
    rw [recordedDifference, bySide, ite_self] at difference_eq
    exact difference_eq
  · have before := (journal.ready.prepared .second).difference_eq position
    rw [← same] at before
    exact before

theorem mark_of_skipped (journal : TreeJournal start after policy tops entries) {side : Side}
    {node : Node} (skipped : (start.view side).visits.isSkipped node = true) :
    (after.view side).visits.markOf node = .deep := by
  rw [Visits.markOf, journal.recorded_of_skipped skipped, (journal.ready.prepared side).mark_eq]
  exact if_pos skipped

/-- What is not marked deeply was kept. -/
theorem kept_of_mark (journal : TreeJournal start after policy tops entries) (side : Side)
    {node : Node} (notDeep : (after.view side).visits.markOf node ≠ .deep) :
    (start.view side).visits.isSkipped node = false := by
  cases skipped : (start.view side).visits.isSkipped node with
  | false => rfl
  | true => exact (notDeep (journal.mark_of_skipped skipped)).elim

/-- A node that was kept and visited is a node of an entry. -/
theorem exists_entry (journal : TreeJournal start after policy tops entries) (side : Side)
    {node : Node} (inTree : node ∈ (start.view side).root.preorder)
    (kept : (start.view side).visits.isSkipped node = false)
    (visited : (after.view side).visits.isUnvisited node = false) :
    ∃ entry ∈ entries, entry.node side = node := by
  rcases journal.untouched_or_entry side node.position with ⟨entry, member, same⟩ | asBefore
  · refine ⟨entry, member, ?_⟩
    exact eq_of_position_eq (journal.ready.distinct side) (journal.inTree member side) inTree same
  · rw [Visits.isUnvisited, Visits.markOf, asBefore, ← Visits.markOf, ← Visits.isUnvisited,
      (journal.ready.prepared side).isUnvisited_eq, kept] at visited
    cases visited

/-- A node that is marked shallowly is a node of an entry of unequal content. -/
theorem exists_entry_of_shallow (journal : TreeJournal start after policy tops entries)
    (side : Side) {node : Node} (inTree : node ∈ (start.view side).root.preorder)
    (shallow : (after.view side).visits.markOf node = .shallow) :
    ∃ entry ∈ entries, entry.node side = node ∧ entry.isEqual start.outlook = false := by
  have kept : (start.view side).visits.isSkipped node = false := by
    apply journal.kept_of_mark
    rw [shallow]
    decide
  have visited : (after.view side).visits.isUnvisited node = false := by
    rw [Visits.isUnvisited, shallow]
    rfl
  obtain ⟨entry, member, rfl⟩ := journal.exists_entry side inTree kept visited
  exact ⟨entry, member, rfl, journal.isEqual_of_shallow member side shallow⟩

/-- A kept and visited child of an entry is the node of an entry below it. -/
theorem exists_child_entry (journal : TreeJournal start after policy tops entries)
    (member : entry ∈ entries) {side : Side} {child : Node}
    (childMember : child ∈ entry.children side)
    (kept : (start.view side).visits.isSkipped child = false)
    (visited : (after.view side).visits.isUnvisited child = false) :
    ∃ other ∈ entries, other.node side = child ∧
      ∀ walked, other.node walked ∈ entry.children walked := by
  have upperIn := journal.inTree member side
  have childIn := Node.mem_preorder_trans upperIn (Node.child_mem_preorder childMember)
  obtain ⟨other, otherMember, rfl⟩ := journal.exists_entry side childIn kept visited
  obtain ⟨parent, parentMember, same, _, children⟩ :=
    journal.exists_parent otherMember upperIn childMember
  obtain rfl : parent = entry := journal.eq_of_node_eq parentMember member same
  exact ⟨other, otherMember, rfl, children⟩

end TreeJournal

end XmlCollation.Compare
