import Mathlib.Data.List.Perm.Basic
import XmlCollation.Proofs.Compare.Exactness

/-!
Contract: trees that are equal up to the order of siblings.

Owns:
- resemblance of two nodes under the records of their trees: equal keys of signature and
  text, and kept children that are paired off so that each pair resembles again;
- resemblance and agreement are equivalence relations across trees, each tree with its
  own records;
- nodes of equal content resemble each other, if their names are parsed ones.

Does not own: which comparisons find resembling trees equal.
-/

namespace XmlCollation.Compare

open XmlCollation.Tree
open XmlCollation.Markup

/-! ## Resemblance -/

/-- Two nodes have equal keys of signature and text, and their kept children can be paired
off, in any order, so that the nodes of each pair resemble each other. -/
inductive Resembles (config : Config) (visits visits' : Visits) : Node → Node → Prop where
  | intro {node other : Node}
      (signature : visits.signatureKey config node = visits'.signatureKey config other)
      (text : textKey config node = textKey config other)
      (pairs : List (Node × Node))
      (firsts : (pairs.map Prod.fst).Perm (visits.kept node.children))
      (seconds : (pairs.map Prod.snd).Perm (visits'.kept other.children))
      (children : ∀ pair ∈ pairs, Resembles config visits visits' pair.1 pair.2) :
      Resembles config visits visits' node other

section Resembles

variable {config : Config} {visits visits' visits'' : Visits} {node other third : Node}

theorem Resembles.signature (resembles : Resembles config visits visits' node other) :
    visits.signatureKey config node = visits'.signatureKey config other := by
  cases resembles
  assumption

theorem Resembles.refl (config : Config) (visits : Visits) (node : Node) :
    Resembles config visits visits node node := by
  induction node using Node.childInduction with
  | step node inductionHypothesis =>
      have project (part : Node × Node → Node) (same : ∀ child, part (child, child) = child) :
          (((visits.kept node.children).map fun child => (child, child)).map part).Perm
            (visits.kept node.children) := by
        rw [List.map_map, show part ∘ (fun child => (child, child)) = id from funext same,
          List.map_id]
      refine .intro rfl rfl _ (project Prod.fst fun _ => rfl) (project Prod.snd fun _ => rfl) ?_
      intro pair member
      obtain ⟨child, isKept, rfl⟩ := List.mem_map.1 member
      exact inductionHypothesis child (Visits.mem_kept.1 isKept).1

theorem Resembles.symm (resembles : Resembles config visits visits' node other) :
    Resembles config visits' visits other node := by
  induction resembles with
  | intro signature text pairs firsts seconds _ inductionHypothesis =>
      refine .intro signature.symm text.symm (pairs.map Prod.swap) ?_ ?_ ?_
      · rw [List.map_map]
        exact seconds
      · rw [List.map_map]
        exact firsts
      · intro pair member
        obtain ⟨source, inPairs, rfl⟩ := List.mem_map.1 member
        exact inductionHypothesis source inPairs

/-- Pairs whose second nodes are the first nodes of other pairs, in some order, are joined
to pairs of the outer nodes. -/
theorem exists_joined {pairs others : List (Node × Node)}
    (meet : (pairs.map Prod.snd).Perm (others.map Prod.fst)) :
    ∃ joined : List (Node × Node), joined.map Prod.fst = pairs.map Prod.fst ∧
      (joined.map Prod.snd).Perm (others.map Prod.snd) ∧
        ∀ pair ∈ joined, ∃ middle, (pair.1, middle) ∈ pairs ∧ (middle, pair.2) ∈ others := by
  have related : List.Forall₂ (fun middle last => (middle, last) ∈ others)
      (others.map Prod.fst) (others.map Prod.snd) := by
    rw [List.forall₂_map_left_iff, List.forall₂_map_right_iff, List.forall₂_same]
    exact fun _ member => member
  obtain ⟨lasts, inOrder, rearranged⟩ := List.perm_comp_forall₂ meet related
  rw [List.forall₂_map_left_iff] at inOrder
  have sameLength : pairs.length = lasts.length := inOrder.length_eq
  refine ⟨(pairs.map Prod.fst).zip lasts, ?_, ?_, ?_⟩
  · exact List.map_fst_zip (Nat.le_of_eq ((List.length_map _).trans sameLength))
  · rw [List.map_snd_zip (Nat.le_of_eq ((List.length_map _).trans sameLength).symm)]
    exact rearranged
  · intro pair member
    rw [List.zip_map_left] at member
    obtain ⟨⟨source, last⟩, inZip, rfl⟩ := List.mem_map.1 member
    exact ⟨source.2, List.of_mem_zip inZip |>.1, List.forall₂_zip inOrder inZip⟩

theorem Resembles.trans (left : Resembles config visits visits' node other)
    (right : Resembles config visits' visits'' other third) :
    Resembles config visits visits'' node third := by
  induction left generalizing third with
  | intro signature text pairs firsts seconds _ inductionHypothesis =>
      cases right with
      | intro signature' text' others middles lasts children =>
          obtain ⟨joined, joinedFirsts, joinedLasts, parts⟩ :=
            exists_joined (seconds.trans middles.symm)
          refine .intro (signature.trans signature') (text.trans text') joined ?_ ?_ ?_
          · rw [joinedFirsts]
            exact firsts
          · exact joinedLasts.trans lasts
          · intro pair member
            obtain ⟨middle, inPairs, inOthers⟩ := parts pair member
            exact inductionHypothesis _ inPairs (children _ inOthers)

/-- Nodes of equal content resemble each other: their children do, one after the other. -/
theorem resembles_of_sameContent {outlook : Outlook} (parsed : HasParsedNames node)
    (otherParsed : HasParsedNames other)
    (same : outlook.sameContent .first node other = true) :
    Resembles outlook.config outlook.first outlook.second node other := by
  induction node using Node.childInduction generalizing other with
  | step node inductionHypothesis =>
      obtain ⟨signature, text, children⟩ := parts_of_sameContent parsed otherParsed same
      refine .intro signature text
        ((outlook.kept .first node.children).zip (outlook.kept .second other.children)) ?_ ?_ ?_
      · rw [List.map_fst_zip (Nat.le_of_eq children.length_eq)]
        rfl
      · rw [List.map_snd_zip (Nat.le_of_eq children.length_eq.symm)]
        rfl
      · rintro ⟨child, partner⟩ member
        have inNode := (Visits.mem_kept.1 (List.of_mem_zip member).1).1
        have inOther := (Visits.mem_kept.1 (List.of_mem_zip member).2).1
        exact inductionHypothesis child inNode (hasParsedNames_of_mem_children parsed inNode)
          (hasParsedNames_of_mem_children otherParsed inOther)
          (List.forall₂_zip children member)

end Resembles

/-! ## Agreement -/

section Agrees

variable {config : Config} {visits visits' visits'' : Visits} {node other third : Node}

theorem Agrees.refl (config : Config) (visits : Visits) (node : Node) :
    Agrees ⟨config, visits, visits⟩ node node := by
  induction node using Node.childInduction with
  | step node inductionHypothesis =>
      refine .intro rfl rfl (fun _ => rfl) ?_
      intro key rank child partner atChild atPartner
      obtain rfl : child = partner := Option.some.inj (atChild.symm.trans atPartner)
      have isKept := (List.mem_filter.1 (List.mem_of_getElem? atChild)).1
      exact inductionHypothesis child (Visits.mem_kept.1 isKept).1

theorem Agrees.symm (agrees : Agrees ⟨config, visits, visits'⟩ node other) :
    Agrees ⟨config, visits', visits⟩ other node := by
  induction agrees with
  | intro signature text length _ inductionHypothesis =>
      refine .intro signature.symm text.symm (fun key => (length key).symm) ?_
      intro key rank child partner atChild atPartner
      exact inductionHypothesis key rank partner child atPartner atChild

theorem Agrees.trans (left : Agrees ⟨config, visits, visits'⟩ node other)
    (right : Agrees ⟨config, visits', visits''⟩ other third) :
    Agrees ⟨config, visits, visits''⟩ node third := by
  induction left generalizing third with
  | @intro node other signature text length _ inductionHypothesis =>
      cases right with
      | intro signature' text' length' children' =>
          refine .intro (signature.trans signature') (text.trans text')
            (fun key => (length key).trans (length' key)) ?_
          intro key rank child partner atChild atPartner
          -- The child of the tree between is the one of the same key and rank.
          have inRange : rank <
              (Outlook.ofKey ⟨config, visits, visits'⟩ .second key other.children).length := by
            rw [← length key]
            exact (List.getElem?_eq_some_iff.1 atChild).1
          have between := List.getElem?_eq_getElem inRange
          exact inductionHypothesis key rank child _ atChild between
            (children' key rank _ partner between atPartner)

end Agrees

end XmlCollation.Compare
