import Mathlib.Data.List.TakeWhile
import XmlCollation.Proofs.Compare.StartTags
import XmlCollation.Proofs.Rules.Union
import XmlCollation.Proofs.Text.Fields

/-!
Contract: nodes of two trees to which the same tags lead.

Owns:
- selectors, which tell paths apart by the lower-cased tags on them alone;
- parallel nodes, to whose parents the same tags lead: nodes of one signature have
  parallel children, and are selected together.

Does not own: what rules ask of the nodes that they select.
-/

namespace XmlCollation.Rules

open XmlCollation.Text
open XmlCollation.Tree
open XmlCollation.Markup
open XmlCollation.Compare

/-! ## Tags -/

/-- The tag of a node in lower case. -/
def lowerTag (node : Node) : List Char :=
  lower node.tag.toList

theorem localPart_of_notMem {tag : List Char} (noBrace : '\x7d' ∉ tag) : localPart tag = tag := by
  have whole : tag.reverse.takeWhile (· != '\x7d') = tag.reverse := by
    rw [List.takeWhile_eq_self_iff]
    intro c member
    rw [bne_iff_ne]
    rintro rfl
    exact noBrace (List.mem_reverse.1 member)
  rw [localPart, whole, List.reverse_reverse]

theorem localPart_append {plain : List Char} (noBrace : '\x7d' ∉ plain) (front : List Char) :
    localPart (front ++ '\x7d' :: plain) = plain := by
  have before : ∀ c ∈ plain.reverse, (c != '\x7d') = true := by
    intro c member
    rw [bne_iff_ne]
    rintro rfl
    exact noBrace (List.mem_reverse.1 member)
  rw [localPart, List.reverse_append, List.reverse_cons, List.append_assoc,
    List.takeWhile_append_of_pos before, List.singleton_append,
    List.takeWhile_cons_of_neg (by decide), List.append_nil, List.reverse_reverse]

/-- The closing brace of a namespace stays where it is in lower case. -/
theorem lower_localPart (tag : List Char) : lower (localPart tag) = localPart (lower tag) := by
  have marked : Case.isMark '\x7d' = true := by decide
  rcases split_at_last '\x7d' tag with noBrace | ⟨front, plain, rfl, noBrace⟩
  · rw [localPart_of_notMem noBrace,
      localPart_of_notMem fun member => noBrace ((mem_lower_mark marked _).1 member)]
  · rw [localPart_append noBrace, lower_append_separator (by decide),
      lower_cons_mark (by decide) marked,
      localPart_append fun member => noBrace ((mem_lower_mark marked _).1 member)]

/-- A wildcard matches a tag as a whole, or what follows its namespace. -/
def tagMatches (segment : String) (tag : List Char) : Bool :=
  matchesName (wildcard (lower segment.toList)) (localPart tag) ||
    matchesName (wildcard (lower segment.toList)) tag

theorem segmentMatches_eq (segment : String) (node : Node) :
    segmentMatches segment node = tagMatches segment (lowerTag node) := by
  rw [segmentMatches, tagMatches, Node.localName, String.toList_ofList, lower_localPart]
  rfl

/-- A selector tells paths apart by the lower-cased tags on them alone. -/
theorem selects_congr {path path' : List Node} (sameTags : path.map lowerTag = path'.map lowerTag)
    (selector : Selector) : selector.selects path = selector.selects path' := by
  have sameLength : path.length = path'.length := by
    have counted := congrArg List.length sameTags
    rwa [List.length_map, List.length_map] at counted
  have byTags (path : List Node) (above : Nat) :
      ((selector.segments.zip (path.drop above)).all fun entry =>
          segmentMatches entry.1 entry.2) =
        (selector.segments.zip ((path.map lowerTag).drop above)).all fun entry =>
          tagMatches entry.1 entry.2 := by
    rw [← List.map_drop, List.zip_map_right, List.all_map]
    simp only [segmentMatches_eq]
    rfl
  rw [Selector.selects, Selector.selects, byTags, byTags, sameLength, sameTags]

/-! ## Parallel nodes -/

/-- Two trees lead to the parents of two nodes by the same tags, letter case left out of
account. -/
def Parallel (first second node other : Node) : Prop :=
  ∃ above above' : List Node, above.map lowerTag = above'.map lowerTag ∧
    first.LeadsTo (above ++ [node]) node ∧ second.LeadsTo (above' ++ [other]) other

section Parallel

variable {first second node other : Node}

theorem parallel_roots (first second : Node) : Parallel first second first second :=
  ⟨[], [], rfl, .here first, .here second⟩

theorem Parallel.below (parallel : Parallel first second node other)
    (sameTag : lowerTag node = lowerTag other) {child partner : Node}
    (childIn : child ∈ node.children) (partnerIn : partner ∈ other.children) :
    Parallel first second child partner := by
  obtain ⟨above, above', sameTags, leads, leads'⟩ := parallel
  refine ⟨above ++ [node], above' ++ [other], ?_, leads.append_child childIn,
    leads'.append_child partnerIn⟩
  rw [List.map_append, List.map_append, sameTags, List.map_singleton, List.map_singleton, sameTag]

theorem Parallel.mem_preorder (parallel : Parallel first second node other) :
    node ∈ first.preorder ∧ other ∈ second.preorder := by
  obtain ⟨_, _, _, leads, leads'⟩ := parallel
  exact ⟨leads.mem_preorder, leads'.mem_preorder⟩

/-- Nodes of one signature have one tag, letter case left out of account. -/
theorem lowerTag_eq_of_signature {config : Config} {visits visits' : Visits}
    (parsed : HasParsedNames node) (otherParsed : HasParsedNames other)
    (signature : visits.signatureKey config node = visits'.signatureKey config other) :
    lowerTag node = lowerTag other := by
  have tags := (fold_tagInside_eq_iff config (parsed_at_node parsed) (parsed_at_node otherParsed)).1
    ((signatureKey_eq_iff config visits visits' node other).1 signature)
  exact config.lower_eq_of_fold_eq tags.1

/-! ## Selected nodes -/

/-- A selector selects the trail that leads to a node of a tree. -/
def Selector.Picks (selector : Selector) (root node : Node) : Prop :=
  ∃ trail, root.LeadsTo trail node ∧ selector.selects trail = true

theorem Selector.picks_iff {trail : List Node} (distinct : first.HasDistinctPositions)
    (leads : first.LeadsTo trail node) (selector : Selector) :
    selector.Picks first node ↔ selector.selects trail = true := by
  constructor
  · rintro ⟨trail', leads', selected⟩
    obtain ⟨rfl, _⟩ := leads'.unique distinct leads rfl
    exact selected
  · intro selected
    exact ⟨trail, leads, selected⟩

/-- Parallel nodes of one tag are selected together. -/
theorem Parallel.picks_iff (firstDistinct : first.HasDistinctPositions)
    (secondDistinct : second.HasDistinctPositions) (parallel : Parallel first second node other)
    (sameTag : lowerTag node = lowerTag other) (selector : Selector) :
    selector.Picks first node ↔ selector.Picks second other := by
  obtain ⟨above, above', sameTags, leads, leads'⟩ := parallel
  have whole : (above ++ [node]).map lowerTag = (above' ++ [other]).map lowerTag := by
    rw [List.map_append, List.map_append, sameTags, List.map_singleton, List.map_singleton, sameTag]
  rw [selector.picks_iff firstDistinct leads, selector.picks_iff secondDistinct leads',
    selects_congr whole]

end Parallel

end XmlCollation.Rules
