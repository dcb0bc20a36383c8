import Mathlib.Data.Set.Basic
import XmlCollation.Proofs.Compare.StartTags

/-!
Contract: signatures, read back.

Owns:
- the attributes of a node that count, as a set, and those that are missing from its
  signature;
- equal signatures: the tags are equal, and so are the attributes that count, one after the
  other or as sets, in whatever order the document lists them.

Does not own: why an attribute is left out of account.
-/

namespace XmlCollation.Compare

open XmlCollation.Text
open XmlCollation.Tree
open XmlCollation.Markup

/-! ## The attributes that count -/

/-- Attributes that are kept have distinct names if all have. -/
theorem nodup_filter_excluded {attributes : List (String × String)}
    (distinct : (attributes.map Prod.fst).Nodup) (excluded : List String) :
    ((attributes.filter fun entry => !excluded.contains (lowered entry.1)).map Prod.fst).Nodup :=
  distinct.sublist (List.filter_sublist.map Prod.fst)

/-- The attributes of a node that its signature shows, without their order. -/
def Visits.counted (visits : Visits) (node : Node) : Set (String × String) :=
  {entry | entry ∈ node.attributes ∧ lowered entry.1 ∉ visits.excludedOf node}

/-- The attributes of a node that its signature does not show, as the document lists them. -/
def Visits.missing (visits : Visits) (node : Node) : List (String × String) :=
  node.attributes.filter fun entry =>
    !(countedAttributes (visits.excludedOf node) node).contains entry

/-- Attributes of distinct names count in one order, whatever order they are listed in. -/
theorem countedAttributes_perm {excluded : List String} {node : Node}
    (distinct : (node.attributes.map Prod.fst).Nodup) {attributes : List (String × String)}
    (perm : attributes.Perm node.attributes) :
    countedAttributes excluded { node with attributes } = countedAttributes excluded node := by
  have listedDistinct : (attributes.map Prod.fst).Nodup :=
    (perm.map Prod.fst).nodup_iff.2 distinct
  exact sortAttributes_perm (nodup_filter_excluded listedDistinct excluded) (perm.filter _)

/-- Attributes of distinct names that count are equal as lists if they are as sets. -/
theorem countedAttributes_eq_iff {excluded excluded' : List String} {node other : Node}
    (distinct : (node.attributes.map Prod.fst).Nodup)
    (otherDistinct : (other.attributes.map Prod.fst).Nodup) :
    countedAttributes excluded node = countedAttributes excluded' other ↔
      ∀ entry, (entry ∈ node.attributes ∧ lowered entry.1 ∉ excluded) ↔
        (entry ∈ other.attributes ∧ lowered entry.1 ∉ excluded') := by
  constructor
  · intro equal entry
    rw [← mem_countedAttributes, equal, mem_countedAttributes]
  · intro sameMembers
    have here := nodup_filter_excluded distinct excluded
    have there := nodup_filter_excluded otherDistinct excluded'
    refine sortAttributes_perm here ?_
    rw [List.perm_ext_iff_of_nodup here.of_map there.of_map]
    intro entry
    rw [mem_filter_excluded, mem_filter_excluded]
    exact sameMembers entry

/-! ## Equal signatures -/

/-- Settings under which texts are seen as they are written. -/
def Config.exact : Config := { Config.standard with ignoreCase := false }

theorem shownAttribute_exact_injective : Function.Injective (shownAttribute Config.exact) := by
  intro left right equal
  have written : left.1.toList = right.1.toList ∧
      quoteValue left.2.toList = quoteValue right.2.toList :=
    Prod.mk.inj equal
  exact Prod.ext (String.toList_inj.1 written.1)
    (String.toList_inj.1 (quoteValue_injective written.2))

/-- Signatures of nodes with parsed names are equal if and only if their tags are, and the
attributes that count, one after the other. -/
theorem signature_eq_iff {visits visits' : Visits} {node other : Node}
    (parsed : HasParsedHead node) (otherParsed : HasParsedHead other) :
    visits.signature node = visits'.signature other ↔
      node.tag = other.tag ∧
        countedAttributes (visits.excludedOf node) node =
          countedAttributes (visits'.excludedOf other) other := by
  have asKeys : visits.signature node = visits'.signature other ↔
      visits.signatureKey Config.exact node = visits'.signatureKey Config.exact other := by
    rw [← String.toList_inj, ← String.toList_inj, signatureKey_toList, signatureKey_toList]
    rfl
  rw [asKeys, signatureKey_eq_iff, fold_tagInside_eq_iff Config.exact parsed otherParsed,
    shownAttribute_exact_injective.list_map.eq_iff]
  exact and_congr_left' String.toList_inj

/-- Signatures are canonical: they are equal if and only if the tags are equal and the same
attributes count, and they do not depend on the order in which a document lists attributes. -/
theorem signature_eq_iff_counted {visits visits' : Visits} {node other : Node}
    (parsed : HasParsedHead node) (otherParsed : HasParsedHead other)
    (distinct : (node.attributes.map Prod.fst).Nodup)
    (otherDistinct : (other.attributes.map Prod.fst).Nodup) :
    (visits.signature node = visits'.signature other ↔
      node.tag = other.tag ∧ visits.counted node = visits'.counted other) ∧
    ∀ attributes : List (String × String), attributes.Perm node.attributes →
      visits.signature { node with attributes } = visits.signature node := by
  constructor
  · rw [signature_eq_iff parsed otherParsed, countedAttributes_eq_iff distinct otherDistinct,
      Set.ext_iff]
    rfl
  · intro attributes perm
    have sameExcluded : visits.excludedOf { node with attributes } = visits.excludedOf node := rfl
    rw [Visits.signature, Visits.signature, sameExcluded, signatureWith, signatureWith,
      countedAttributes_perm distinct perm]

section Listings

/-- An element whose values hold quotes of both kinds, and which has an attribute `id` in some
spelling. -/
def quotingElement (identifier : String) (attributes : List (String × String)) : Node :=
  ⟨"\x7burn:shop\x7ditem", (identifier, "7") :: attributes, [], "", [], none⟩

/-- On the root, the attribute `id` is left out of account. -/
def withoutId : Visits := [([], { excluded := ["id"] })]

/-- Without the identifier, the order of the other attributes does not show. -/
theorem counted_quotingElement :
    withoutId.counted (quotingElement "ID" [("a", "it's"), ("B", "say \"it's\"")]) =
      withoutId.counted (quotingElement "id" [("B", "say \"it's\""), ("a", "it's")]) :=
  ((signature_eq_iff_counted (by decide +kernel) (by decide +kernel) (by decide)
    (by decide)).1.1 (by decide +kernel)).2

end Listings

end XmlCollation.Compare
