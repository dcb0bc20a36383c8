import XmlCollation.Proofs.Compare.Augmenting
import XmlCollation.Proofs.Compare.Deletion
import XmlCollation.Proofs.Compare.Equivalence

/-!
Contract: trees that differ in letter case, and in the order of attributes.

Owns:
- variants of a tree: texts, tags, names and values of attributes are replaced by ones of
  the same lower-case form, and the attributes of an element are listed in any order;
- variants have equal signatures and contents in lower case, if attributes whose names
  differ in letter case only keep their order;
- nothing is found between such variants when letter case is ignored.

Does not own: the lower-case form of a text.
-/

namespace XmlCollation.Compare

open XmlCollation.Text
open XmlCollation.Tree
open XmlCollation.Markup
open XmlCollation.Rules (otherSide)

/-! ## Variants -/

/-- Attributes of one element, each with the one that takes its place in another element. -/
abbrev AttributePairs := List ((String × String) × (String × String))

/-- Each attribute is replaced by one whose name and value have the same lower-case form. -/
structure AttributePairs.Replace (pairs : AttributePairs)
    (entries others : List (String × String)) : Prop where
  firsts : (pairs.map Prod.fst).Perm entries
  seconds : (pairs.map Prod.snd).Perm others
  names : ∀ pair ∈ pairs, lowered pair.1.1 = lowered pair.2.1
  values : ∀ pair ∈ pairs, lowered pair.1.2 = lowered pair.2.2

/-- Where names differ in letter case only, the attributes that replace two others come in
the same order of names as these. -/
def AttributePairs.KeepOrder (pairs : AttributePairs) : Prop :=
  ∀ pair ∈ pairs, ∀ pair' ∈ pairs, lowered pair.1.1 = lowered pair'.1.1 →
    (pair.1.1 < pair'.1.1 ↔ pair.2.1 < pair'.2.1)

instance (pairs : AttributePairs) : Decidable pairs.KeepOrder := by
  unfold AttributePairs.KeepOrder
  infer_instance

/-- Trees of one shape, with the same lower-case forms in the same places.  The attributes
of an element are replaced in pairs of which something may be required. -/
inductive VariesInCase (required : AttributePairs → Prop) : Node → Node → Prop where
  | intro {node other : Node}
      (tag : lowered node.tag = lowered other.tag)
      (text : lowered node.text = lowered other.text)
      (pairs : AttributePairs)
      (replace : pairs.Replace node.attributes other.attributes)
      (fulfilled : required pairs)
      (sameLength : node.children.length = other.children.length)
      (children : ∀ pair ∈ node.children.zip other.children,
        VariesInCase required pair.1 pair.2) :
      VariesInCase required node other

/-- No element has two attributes of one name. -/
def HasDistinctAttributes (root : Node) : Prop :=
  ∀ node ∈ root.preorder, (node.attributes.map Prod.fst).Nodup

instance (root : Node) : Decidable (HasDistinctAttributes root) := by
  unfold HasDistinctAttributes
  infer_instance

theorem HasDistinctAttributes.child {root child : Node} (distinct : HasDistinctAttributes root)
    (member : child ∈ root.children) : HasDistinctAttributes child :=
  fun node inChild => distinct node
    (Node.mem_preorder_trans (Node.child_mem_preorder member) inChild)

/-! ## Signatures and contents of variants -/

section Variants

variable {config : Config} {pairs : AttributePairs} {entries others : List (String × String)}
  {node other : Node}

theorem lower_toList_congr {text text' : String} (same : lowered text = lowered text') :
    lower text.toList = lower text'.toList := by
  rw [← lowered_toList, ← lowered_toList, same]

theorem AttributePairs.Replace.sameOrder (replace : pairs.Replace entries others)
    (keepOrder : pairs.KeepOrder) : ∀ pair ∈ pairs, ∀ pair' ∈ pairs,
      (attributeLe pair.1 pair'.1 = true ↔ attributeLe pair.2 pair'.2 = true) := by
  intro pair member pair' member'
  rw [attributeLe_iff, attributeLe_iff, attributeKey, attributeKey, attributeKey, attributeKey,
    Prod.Lex.toLex_le_toLex, Prod.Lex.toLex_le_toLex, ← replace.names pair member,
    ← replace.names pair' member']
  refine or_congr Iff.rfl (and_congr_right fun same => ?_)
  rw [← not_lt, ← not_lt, keepOrder pair' member' pair member same.symm]

/-- Attributes that keep their order are the same ones in lower case, once they are sorted. -/
theorem AttributePairs.Replace.flatMap_sorted (replace : pairs.Replace entries others)
    (keepOrder : pairs.KeepOrder) (distinct : (entries.map Prod.fst).Nodup)
    (othersDistinct : (others.map Prod.fst).Nodup) (write : List Char → List Char → List Char) :
    ((sortAttributes entries).flatMap fun entry =>
        write (lower entry.1.toList) (lower entry.2.toList)) =
      (sortAttributes others).flatMap fun entry =>
        write (lower entry.1.toList) (lower entry.2.toList) := by
  obtain ⟨sorted, perm, firsts, seconds⟩ := exists_sorted_pairs replace.firsts replace.seconds
    distinct othersDistinct (replace.sameOrder keepOrder)
  rw [← firsts, ← seconds, List.flatMap_map, List.flatMap_map]
  refine List.flatMap_congr fun pair member => ?_
  rw [lower_toList_congr (replace.names pair (perm.mem_iff.1 member)),
    lower_toList_congr (replace.values pair (perm.mem_iff.1 member))]

theorem countedAttributes_nil (node : Node) :
    countedAttributes [] node = sortAttributes node.attributes :=
  congrArg sortAttributes (List.filter_eq_self.2 fun _ _ => rfl)

theorem VariesInCase.lower_tagInside_eq
    (varies : VariesInCase AttributePairs.KeepOrder node other)
    (distinct : (node.attributes.map Prod.fst).Nodup)
    (otherDistinct : (other.attributes.map Prod.fst).Nodup) :
    lower (tagInside [] node) = lower (tagInside [] other) := by
  cases varies with
  | intro tag _ pairs replace keepOrder _ _ =>
      rw [lower_tagInside, lower_tagInside, countedAttributes_nil, countedAttributes_nil,
        lower_toList_congr tag,
        replace.flatMap_sorted keepOrder distinct otherDistinct fun name value =>
          ' ' :: (name ++ '=' :: quoteValue value)]

/-- Variants have equal contents in lower case, part by part. -/
theorem VariesInCase.foldedContent_eq (ignoring : config.ignoreCase = true)
    (varies : VariesInCase AttributePairs.KeepOrder node other)
    (distinct : HasDistinctAttributes node) (otherDistinct : HasDistinctAttributes other) :
    foldedContent config [] node = foldedContent config [] other := by
  have folds (chars : List Char) : config.fold chars = lower chars := if_pos ignoring
  induction varies with
  | @intro node other tag text pairs replace keepOrder sameLength children inductionHypothesis =>
      have inside : lower (tagInside [] node) = lower (tagInside [] other) :=
        VariesInCase.lower_tagInside_eq
          (.intro tag text pairs replace keepOrder sameLength children)
          (distinct node node.mem_preorder_self) (otherDistinct other other.mem_preorder_self)
      have sameChildren : node.children.map (foldedContent config []) =
          other.children.map (foldedContent config []) := by
        rw [← List.forall₂_eq_eq_eq, List.forall₂_map_left_iff, List.forall₂_map_right_iff,
          List.forall₂_iff_zip]
        exact ⟨sameLength, fun inZip => inductionHypothesis _ inZip
          (distinct.child (List.of_mem_zip inZip).1)
          (otherDistinct.child (List.of_mem_zip inZip).2)⟩
      have nothing (nodes : List Node) : Visits.kept [] nodes = nodes := Visits.kept_nothing nodes
      have all (root : Node) : Visits.excludedOf [] root = [] := rfl
      simp only [Compare.foldedContent_eq, nothing, all, folds, inside, List.flatMap_def,
        sameChildren, lower_toList_congr tag, lower_toList_congr text]

theorem VariesInCase.keys_eq (ignoring : config.ignoreCase = true)
    (varies : VariesInCase AttributePairs.KeepOrder node other)
    (distinct : HasDistinctAttributes node) (otherDistinct : HasDistinctAttributes other) :
    (bareOutlook config).keys .first node = (bareOutlook config).keys .second other := by
  have signature : Visits.signatureKey [] config node = Visits.signatureKey [] config other := by
    have lowerSignature (root : Node) : (Visits.signatureKey [] config root).toList =
        '<' :: (lower (tagInside [] root) ++ lower ['>']) := by
      rw [signatureKey_toList, Config.fold, if_pos ignoring,
        show Visits.signature [] root = signatureWith [] root from rfl, signatureWith_toList,
        List.cons_append, lower_cons_mark (by decide) (by decide),
        lower_append_separator (by decide)]
    rw [← String.toList_inj, lowerSignature, lowerSignature,
      varies.lower_tagInside_eq (distinct node node.mem_preorder_self)
        (otherDistinct other other.mem_preorder_self)]
  have content : (bareOutlook config).sameContent .first node other = true :=
    (sameContent_iff .first node other).2
      (varies.foldedContent_eq ignoring distinct otherDistinct)
  rw [Outlook.sameContent, beq_iff_eq] at content
  rw [Outlook.keys, SiblingKeys.mk.injEq]
  exact ⟨signature, content⟩

end Variants

/-! ## Comparisons that ignore letter case -/

section Verdicts

variable {config : Config} {first second : ReadTree}

/-- Nothing is found between roots of equal keys, if a policy pairs them. -/
theorem foundEqual_of_keys_eq {policy : Policy} {choice : Choice} (offered : policy.Offered)
    (pairing : choice.IsPairing) (follows : policy.Follows choice)
    (joins : ∀ keys, choice [keys] [keys] ≠ [])
    (equal : (bareOutlook config).keys .first first.root =
      (bareOutlook config).keys .second second.root) :
    FoundEqual config policy [] [] first second := by
  let roots : Side → Node := bySide first.root second.root
  have prepared := bareOutlook_prepared config
  have kept (side : Side) : ((bareOutlook config).visits side).isSkipped (roots side) = false := by
    rw [bareVisits]
    rfl
  have sameContent (side : Side) :
      (bareOutlook config).sameContent side (roots side) (roots (otherSide side)) = true := by
    rw [sameContent_side, Outlook.sameContent, beq_iff_eq]
    exact congrArg SiblingKeys.content equal
  obtain ⟨pair, joined⟩ := List.exists_mem_of_ne_nil _
    (joins ((bareOutlook config).keys .second second.root))
  have inPairs : pair ∈ policy.keptPairing (bareOutlook config) fun side => [roots side] := by
    rw [keptPairing_roots follows prepared kept]
    exact equal ▸ joined
  have silent (side : Side) : sideDifferences policy (bareOutlook config) roots side = [] := by
    refine root_silent_of_pair pairing follows prepared inPairs ?_
    rw [walk_eq, sameContent side, if_pos rfl]
  rw [FoundEqual, findings_eq_sides offered first.distinct second.distinct, ruledOutlook_nil,
    silent .first, silent .second]
  rfl

/-- If letter case is ignored, nothing is found between a tree and one in which every tag,
text, name and value of an attribute is replaced by one of the same lower-case form and the
attributes are listed in any order, as long as attributes of an element whose names differ
in letter case only keep the order of their names.  A comparison by least cost needs no more
of its solver than that it assigns a lone row to a lone column. -/
theorem foundEqual_of_variesInCase (ignoring : config.ignoreCase = true)
    (distinct : HasDistinctAttributes first.root)
    (otherDistinct : HasDistinctAttributes second.root)
    (varies : VariesInCase AttributePairs.KeepOrder first.root second.root) :
    FoundEqual config .greedy [] [] first second ∧
      ∀ {α : Type} [Cost α] (solve : Solver α), solve.AssignsOnce → solve.AssignsLone →
        FoundEqual config (.optimalWith solve) [] [] first second := by
  have equal := varies.keys_eq ignoring distinct otherDistinct
  constructor
  · refine foundEqual_of_keys_eq .greedy greedyChoice_isPairing greedy_follows ?_ equal
    intro keys
    simp [greedyChoice, indexedSignatures, takeFirst]
  · intro α _ solve assignsOnce assignsLone
    refine foundEqual_of_keys_eq (.optimal solve assignsOnce) (optimalChoice_isPairing assignsOnce)
      (optimalWith_follows solve) ?_ equal
    intro keys
    rw [optimalChoice_lone assignsLone]
    exact List.cons_ne_nil _ _

/-- `<Log Level="Low" a="y" A="x"><e>ΟΔΟΣ</e></Log>` -/
def capitalLog : ReadTree where
  root := ⟨"Log", [("Level", "Low"), ("a", "y"), ("A", "x")],
    [⟨"e", [], [], "ΟΔΟΣ", [0], none⟩], "", [], none⟩
  distinct := by decide
  parsed := by decide +kernel

/-- `<log A="X" LEVEL="low" a="Y"><E>οδος</E></log>` -/
def smallLog : ReadTree where
  root := ⟨"log", [("A", "X"), ("LEVEL", "low"), ("a", "Y")],
    [⟨"E", [], [], "οδος", [0], none⟩], "", [], none⟩
  distinct := by decide
  parsed := by decide +kernel

theorem foundEqual_capital_small :
    HasDistinctAttributes capitalLog.root ∧ HasDistinctAttributes smallLog.root ∧
      VariesInCase AttributePairs.KeepOrder capitalLog.root smallLog.root ∧
      FoundEqual .standard .greedy [] [] capitalLog smallLog ∧
      FoundEqual .standard (.optimalWith (Assignment.shortestPaths : Solver Rat)) [] [] capitalLog
        smallLog ∧
      FoundEqual .standard (.optimalWith Assignment.exhaustive) [] [] capitalLog smallLog := by
  have distinct : HasDistinctAttributes capitalLog.root := by decide
  have otherDistinct : HasDistinctAttributes smallLog.root := by decide
  have entries : VariesInCase AttributePairs.KeepOrder ⟨"e", [], [], "ΟΔΟΣ", [0], none⟩
      ⟨"E", [], [], "οδος", [0], none⟩ := by
    refine .intro (by decide +kernel) (by decide +kernel) [] ⟨.nil, .nil, ?_, ?_⟩ ?_ rfl ?_
    · simp
    · simp
    · decide
    · simp
  have varies : VariesInCase AttributePairs.KeepOrder capitalLog.root smallLog.root := by
    refine .intro (by decide +kernel) rfl
      [(("Level", "Low"), ("LEVEL", "low")), (("a", "y"), ("a", "Y")), (("A", "x"), ("A", "X"))]
      ⟨.refl _, by decide, by decide +kernel, by decide +kernel⟩ (by decide +kernel) rfl ?_
    intro pair member
    obtain rfl := List.mem_singleton.1 member
    exact entries
  have ignoring : Config.standard.ignoreCase = true := rfl
  obtain ⟨greedy, optimal⟩ := foundEqual_of_variesInCase ignoring distinct otherDistinct varies
  exact ⟨distinct, otherDistinct, varies, greedy,
    optimal Assignment.shortestPaths Assignment.shortestPaths_assignsOnce
      (Assignment.shortestPaths_assignsLone rfl rfl),
    optimal Assignment.exhaustive exhaustive_isExact.assignsOnce exhaustive_isExact.assignsLone⟩

/-- `<r a="1" A="2"/>` -/
def smallFirst : ReadTree where
  root := ⟨"r", [("a", "1"), ("A", "2")], [], "", [], none⟩
  distinct := by decide
  parsed := by decide +kernel

/-- `<r A="1" a="2"/>` -/
def capitalFirst : ReadTree where
  root := ⟨"r", [("A", "1"), ("a", "2")], [], "", [], none⟩
  distinct := by decide
  parsed := by decide +kernel

/-- Names that differ in letter case only are told apart by the order of attributes. -/
theorem not_foundEqual_exchanged_names :
    Config.standard.ignoreCase = true ∧
      HasDistinctAttributes smallFirst.root ∧ HasDistinctAttributes capitalFirst.root ∧
      VariesInCase (fun _ => True) smallFirst.root capitalFirst.root ∧
      ¬FoundEqual .standard .greedy [] [] smallFirst capitalFirst ∧
      ¬FoundEqual .standard (.optimalWith Assignment.exhaustive) [] [] smallFirst capitalFirst := by
  refine ⟨rfl, by decide, by decide, ?_, by decide +kernel, by decide +kernel⟩
  refine .intro rfl rfl [(("a", "1"), ("A", "1")), (("A", "2"), ("a", "2"))]
    ⟨.refl _, .refl _, by decide +kernel, by decide +kernel⟩ trivial rfl ?_
  intro pair member
  exact absurd member List.not_mem_nil

end Verdicts

end XmlCollation.Compare
