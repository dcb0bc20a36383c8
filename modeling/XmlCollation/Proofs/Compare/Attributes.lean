import Mathlib.Data.List.Sort
import Mathlib.Data.Prod.Lex
import Mathlib.Data.String.Basic
import XmlCollation.Compare.Fingerprint
import XmlCollation.Proofs.Markup.Escaping

/-!
Contract: attributes in order, and start tags in lower case.

Owns:
- the order of attributes as that of a key, and their sorting as insertion, with or without
  those that are left out, and which attributes count;
- attributes of distinct names, which have one order however they are listed, and pairs of
  attributes that are in order on both sides;
- the lower-case form of what stands in a start tag, attribute by attribute.

Does not own: why an attribute is left out of account.
-/

namespace XmlCollation.Compare

open XmlCollation.Text
open XmlCollation.Tree
open XmlCollation.Markup

/-! ## The order of attributes -/

/-- What attributes are ordered by: the lower-cased name first, then the name. -/
def attributeKey (entry : String × String) : String ×ₗ String :=
  toLex (lowered entry.1, entry.1)

theorem attributeLe_iff {left right : String × String} :
    attributeLe left right = true ↔ attributeKey left ≤ attributeKey right := by
  rw [attributeKey, attributeKey, Prod.Lex.toLex_le_toLex, attributeLe]
  rcases lt_trichotomy (lowered left.1) (lowered right.1) with before | same | behind
  · simp [before]
  · simp only [same, lt_irrefl, ↓reduceIte, false_or, true_and, Bool.not_eq_true',
      decide_eq_false_iff_not, not_lt]
  · simp [behind, behind.not_gt, behind.ne']

instance : Std.Total fun left right : String × String => attributeLe left right = true where
  total left right := by
    rw [attributeLe_iff, attributeLe_iff]
    exact le_total _ _

instance : IsTrans (String × String) fun left right => attributeLe left right = true where
  trans left middle right := by
    rw [attributeLe_iff, attributeLe_iff, attributeLe_iff]
    exact le_trans

theorem sortAttributes_eq (entries : List (String × String)) :
    sortAttributes entries =
      entries.insertionSort fun left right => attributeLe left right = true := by
  have insert_eq (entry : String × String) (sorted : List (String × String)) :
      insertAttribute entry sorted =
        sorted.orderedInsert (fun left right => attributeLe left right = true) entry := by
    induction sorted with
    | nil => rfl
    | cons other rest inductionHypothesis =>
        rw [insertAttribute, List.orderedInsert_cons, inductionHypothesis]
  induction entries with
  | nil => rfl
  | cons entry rest inductionHypothesis =>
      rw [sortAttributes, List.foldr_cons, ← sortAttributes, insert_eq, inductionHypothesis,
        List.insertionSort_cons]

theorem mem_sortAttributes {entry : String × String} {entries : List (String × String)} :
    entry ∈ sortAttributes entries ↔ entry ∈ entries := by
  rw [sortAttributes_eq, List.mem_insertionSort]

/-- An attribute is kept unless its lower-cased name is excluded. -/
theorem mem_filter_excluded {entry : String × String} {excluded : List String}
    {attributes : List (String × String)} :
    (entry ∈ attributes.filter fun entry => !excluded.contains (lowered entry.1)) ↔
      entry ∈ attributes ∧ lowered entry.1 ∉ excluded := by
  rw [List.mem_filter, Bool.not_eq_true', List.contains_eq_mem, decide_eq_false_iff_not]

theorem mem_countedAttributes {entry : String × String} {excluded : List String} {node : Node} :
    entry ∈ countedAttributes excluded node ↔
      entry ∈ node.attributes ∧ lowered entry.1 ∉ excluded := by
  rw [countedAttributes, mem_sortAttributes, mem_filter_excluded]

/-- Attributes of distinct names have one order, however they are listed. -/
theorem sortAttributes_perm {entries others : List (String × String)}
    (distinct : (entries.map Prod.fst).Nodup) (perm : entries.Perm others) :
    sortAttributes entries = sortAttributes others := by
  rw [sortAttributes_eq, sortAttributes_eq]
  refine List.Perm.eq_of_pairwise ?_ (List.pairwise_insertionSort _ entries)
    (List.pairwise_insertionSort _ others)
    ((List.perm_insertionSort _ entries).trans (perm.trans (List.perm_insertionSort _ others).symm))
  intro left right leftIn rightIn forth back
  rw [attributeLe_iff] at forth back
  have sameKey : attributeKey left = attributeKey right := le_antisymm forth back
  have sameName : left.1 = right.1 := (Prod.mk.inj (toLex.injective sameKey)).2
  rw [List.mem_insertionSort] at leftIn rightIn
  exact List.inj_on_of_nodup_map distinct leftIn (perm.mem_iff.2 rightIn) sameName

/-- What is left of a list in order, after an entry was put in, is what was left before, with
the entry put in or without it. -/
theorem filter_orderedInsert {α : Type} {before : α → α → Prop} [DecidableRel before]
    [IsTrans α before] {sorted : List α} (inOrder : sorted.Pairwise before) (keep : α → Bool)
    (entry : α) :
    (sorted.orderedInsert before entry).filter keep =
      if keep entry then (sorted.filter keep).orderedInsert before entry
      else sorted.filter keep := by
  induction sorted with
  | nil => cases kept : keep entry <;> simp [kept]
  | cons head rest inductionHypothesis =>
      obtain ⟨headBefore, restInOrder⟩ := List.pairwise_cons.1 inOrder
      have below := inductionHypothesis restInOrder
      rw [List.orderedInsert_cons]
      by_cases first : before entry head
      · rw [if_pos first]
        have inFront : (rest.filter keep).orderedInsert before entry =
            entry :: rest.filter keep := by
          cases left : rest.filter keep with
          | nil => rfl
          | cons other others =>
              have inRest : other ∈ rest.filter keep := by rw [left]; exact List.mem_cons_self
              exact List.orderedInsert_cons_of_le _ _ (IsTrans.trans entry head other first
                (headBefore other (List.mem_filter.1 inRest).1))
        cases kept : keep entry <;> cases keptHead : keep head <;>
          simp [kept, keptHead, first, inFront]
      · rw [if_neg first]
        cases kept : keep entry <;> cases keptHead : keep head <;>
          simp [keptHead, first, below, kept]

/-- Sorting attributes and leaving some of them out can be exchanged. -/
theorem sortAttributes_filter (keep : String × String → Bool) (entries : List (String × String)) :
    sortAttributes (entries.filter keep) = (sortAttributes entries).filter keep := by
  rw [sortAttributes_eq, sortAttributes_eq]
  induction entries with
  | nil => rfl
  | cons entry rest inductionHypothesis =>
      rw [List.insertionSort_cons, filter_orderedInsert (List.pairwise_insertionSort _ rest),
        ← inductionHypothesis, List.filter_cons]
      split
      · rw [List.insertionSort_cons]
      · rfl

/-- Pairs of attributes that are in the same order on both sides are those of the sorted
attributes, one by one. -/
theorem exists_sorted_pairs {pairs : List ((String × String) × (String × String))}
    {entries others : List (String × String)} (firsts : (pairs.map Prod.fst).Perm entries)
    (seconds : (pairs.map Prod.snd).Perm others) (distinct : (entries.map Prod.fst).Nodup)
    (othersDistinct : (others.map Prod.fst).Nodup)
    (sameOrder : ∀ pair ∈ pairs, ∀ pair' ∈ pairs,
      (attributeLe pair.1 pair'.1 = true ↔ attributeLe pair.2 pair'.2 = true)) :
    ∃ sorted : List ((String × String) × (String × String)), sorted.Perm pairs ∧
      sorted.map Prod.fst = sortAttributes entries ∧
        sorted.map Prod.snd = sortAttributes others := by
  refine ⟨pairs.insertionSort fun pair pair' => attributeLe pair.1 pair'.1 = true,
    List.perm_insertionSort _ pairs, ?_, ?_⟩
  · rw [List.map_insertionSort _ (fun left right => attributeLe left right = true) Prod.fst pairs
      fun _ _ _ _ => Iff.rfl, ← sortAttributes_eq]
    exact sortAttributes_perm (((firsts.map Prod.fst).nodup_iff).2 distinct) firsts
  · rw [List.map_insertionSort _ (fun left right => attributeLe left right = true) Prod.snd pairs
      sameOrder, ← sortAttributes_eq]
    exact sortAttributes_perm (((seconds.map Prod.fst).nodup_iff).2 othersDistinct) seconds

/-! ## Start tags -/

/-- What stands between the brackets of a start tag. -/
def tagInside (excluded : List String) (node : Node) : List Char :=
  node.tag.toList ++
    (countedAttributes excluded node).flatMap fun entry => (writtenAttribute entry).toList

theorem signatureWith_toList (excluded : List String) (node : Node) :
    (signatureWith excluded node).toList = '<' :: tagInside excluded node ++ ['>'] := by
  simp [signatureWith, tagInside, List.flatMap_map]

theorem writtenAttribute_toList (entry : String × String) :
    (writtenAttribute entry).toList =
      ' ' :: (entry.1.toList ++ '=' :: quoteValue entry.2.toList) := by
  simp [writtenAttribute]

/-- A start tag is lower-cased attribute by attribute: the marks between their parts
separate, and quotes are lower-cased with what they enclose. -/
theorem lower_tagInside (excluded : List String) (node : Node) :
    lower (tagInside excluded node) =
      lower node.tag.toList ++ (countedAttributes excluded node).flatMap fun entry =>
        ' ' :: (lower entry.1.toList ++ '=' :: quoteValue (lower entry.2.toList)) := by
  have oneByOne (entries : List (String × String)) (front : List Char) :
      lower (front ++ entries.flatMap fun entry => (writtenAttribute entry).toList) =
        lower front ++ entries.flatMap fun entry =>
          ' ' :: (lower entry.1.toList ++ '=' :: quoteValue (lower entry.2.toList)) := by
    induction entries generalizing front with
    | nil => simp
    | cons entry rest inductionHypothesis =>
        have inner : lower (entry.1.toList ++ '=' :: quoteValue entry.2.toList) =
            lower entry.1.toList ++ '=' :: quoteValue (lower entry.2.toList) := by
          rw [lower_append_separator (by decide), lower_cons_mark (by decide) (by decide),
            lower_quoteValue]
        rw [List.flatMap_cons, List.flatMap_cons, writtenAttribute_toList, List.cons_append,
          lower_append_separator (by decide), lower_cons_mark (by decide) (by decide),
          inductionHypothesis, inner, List.cons_append]
  exact oneByOne (countedAttributes excluded node) node.tag.toList

end XmlCollation.Compare
