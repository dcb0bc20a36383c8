import XmlCollation.Proofs.Compare.Silence
import XmlCollation.Proofs.Tree.Reading

/-!
Contract: being found equal, as a relation between trees.

Owns:
- trees as documents give them, and pairs of them between which a comparison finds nothing;
- a greedy comparison finds equal what agrees, an exact one only what resembles each other,
  and all of that which is not ambiguous;
- greedy comparisons find an equivalence, and optimal ones a reflexive relation, which is
  symmetric and transitive as far as nothing is ambiguous, and which holds wherever a greedy
  comparison finds nothing and nothing is ambiguous.

Does not own: the assignments that a solver chooses among those of least cost.
-/

namespace XmlCollation.Compare

open XmlCollation.Tree
open XmlCollation.Markup
open XmlCollation.Rules (Rule otherSide markRules)

/-- A tree as documents give it: no two nodes share a position, and names are parsed ones. -/
structure ReadTree where
  root : Node
  distinct : root.HasDistinctPositions
  parsed : HasParsedNames root

/-- The tree of a document without brackets in its names. -/
def ReadTree.ofParse {content : Content} {root : Node} (read : parse content = .ok root)
    (noBrackets : HasNoBrackets root) : ReadTree where
  root := root
  distinct := hasDistinctPositions_of_parse read
  parsed := hasParsedNames_of_parse read noBrackets

section Verdicts

variable (config : Config) (policy : Policy) (firstRules secondRules : List Rule)

/-- A comparison of two trees finds nothing. -/
def FoundEqual (first second : ReadTree) : Prop :=
  findings config policy firstRules secondRules first.root second.root = []

instance (first second : ReadTree) :
    Decidable (FoundEqual config policy firstRules secondRules first second) :=
  inferInstanceAs (Decidable (findings _ _ _ _ _ _ = []))

/-- Once the rules are applied, siblings for which no partner of equal content is left
resemble one another, wherever two nodes of the trees do. -/
def IsUnambiguous (first second : ReadTree) : Prop :=
  (ruledOutlook config firstRules secondRules first.root second.root).IsUnambiguous first.root
    second.root

/-- The records that the rules leave in a tree, whatever tree it is compared with. -/
def ReadTree.visits (tree : ReadTree) : Visits :=
  markRules (firstRules ++ secondRules) tree.root []

/-- The rules take out the root of a tree. -/
def ReadTree.IsSkipped (tree : ReadTree) : Prop :=
  (tree.visits firstRules secondRules).isSkipped tree.root = true

/-- The rules take out both roots, or neither and the trees are related. -/
def SkippedOr (related : ReadTree → ReadTree → Prop) (first second : ReadTree) : Prop :=
  (first.IsSkipped firstRules secondRules ∧ second.IsSkipped firstRules secondRules) ∨
    (¬first.IsSkipped firstRules secondRules ∧ ¬second.IsSkipped firstRules secondRules) ∧
      related first second

/-- The roots have equal signatures, and nothing is reported of them as a pair. -/
def ReadTree.SilentWith (first second : ReadTree) : Prop :=
  (first.visits firstRules secondRules).signatureKey config first.root =
      (second.visits firstRules secondRules).signatureKey config second.root ∧
    ∀ side, walk policy
      ⟨config, first.visits firstRules secondRules, second.visits firstRules secondRules⟩ side
      (sideReport config side) "" (bySide first.root second.root side)
      (bySide first.root second.root (otherSide side)) = []

/-- The trees agree, each under its own records. -/
def ReadTree.AgreesWith (first second : ReadTree) : Prop :=
  Agrees ⟨config, first.visits firstRules secondRules, second.visits firstRules secondRules⟩
    first.root second.root

/-- The trees resemble each other, each under its own records. -/
def ReadTree.IsLike (first second : ReadTree) : Prop :=
  Resembles config (first.visits firstRules secondRules) (second.visits firstRules secondRules)
    first.root second.root

end Verdicts

section Relations

variable {config : Config} {policy : Policy} {firstRules secondRules : List Rule}
  {first second third : ReadTree}

/-! ## Verdicts -/

theorem SkippedOr.imp {related other : ReadTree → ReadTree → Prop}
    (implies : related first second → other first second)
    (verdict : SkippedOr firstRules secondRules related first second) :
    SkippedOr firstRules secondRules other first second :=
  Or.imp id (And.imp id implies) verdict

/-- An equivalence of trees stays one if all trees with skipped roots are made equal. -/
theorem skippedOr_equivalence {related : ReadTree → ReadTree → Prop}
    (equivalence : Equivalence related) :
    Equivalence (SkippedOr firstRules secondRules related) where
  refl tree := by
    by_cases skipped : tree.IsSkipped firstRules secondRules
    · exact .inl ⟨skipped, skipped⟩
    · exact .inr ⟨⟨skipped, skipped⟩, equivalence.refl tree⟩
  symm := by
    rintro first second (skipped | ⟨kept, holds⟩)
    · exact .inl skipped.symm
    · exact .inr ⟨kept.symm, equivalence.symm holds⟩
  trans := by
    rintro first second third (skipped | ⟨kept, holds⟩) (skipped' | ⟨kept', holds'⟩)
    · exact .inl ⟨skipped.1, skipped'.2⟩
    · exact absurd skipped.2 kept'.1
    · exact absurd skipped'.1 kept.2
    · exact .inr ⟨⟨kept.1, kept'.2⟩, equivalence.trans holds holds'⟩

theorem agreesWith_equivalence :
    Equivalence (ReadTree.AgreesWith config firstRules secondRules) :=
  ⟨fun _ => .refl _ _ _, fun agrees => agrees.symm, fun left right => left.trans right⟩

theorem isLike_equivalence : Equivalence (ReadTree.IsLike config firstRules secondRules) :=
  ⟨fun _ => .refl _ _ _, fun like => like.symm, fun left right => left.trans right⟩

/-- What an exact comparison finds equal: both roots are skipped, or neither is and nothing
is reported of the pair. -/
theorem foundEqual_iff (exact : policy.IsExact) :
    FoundEqual config policy firstRules secondRules first second ↔
      SkippedOr firstRules secondRules
        (ReadTree.SilentWith config policy firstRules secondRules) first second := by
  obtain ⟨choice, pairing, maximal, follows⟩ := exact.choice
  have prepared := ruledOutlook_prepared config firstRules secondRules first.root second.root
  have sides (related : Side → Prop) : (∀ side, related side) ↔ related .first ∧ related .second :=
    ⟨fun both => ⟨both .first, both .second⟩,
      fun both side => by cases side; exacts [both.1, both.2]⟩
  have isKept (tree : ReadTree) :
      (tree.visits firstRules secondRules).isSkipped tree.root = false ↔
        ¬tree.IsSkipped firstRules secondRules := by
    rw [ReadTree.IsSkipped, Bool.not_eq_true]
  rw [FoundEqual, findings_eq_sides exact.offered first.distinct second.distinct,
    List.append_eq_nil_iff,
    ← sides fun side => sideDifferences policy _ (bySide first.root second.root) side = [],
    roots_silent_iff pairing maximal follows prepared, ruledOutlook_eq]
  refine or_congr (sides _) (and_congr ((sides _).trans ?_) Iff.rfl)
  exact and_congr (isKept first) (isKept second)

theorem ReadTree.prepared (config : Config) (firstRules secondRules : List Rule)
    (first second : ReadTree) :
    Outlook.Prepared
      ⟨config, first.visits firstRules secondRules, second.visits firstRules secondRules⟩ := by
  have prepared := ruledOutlook_prepared config firstRules secondRules first.root second.root
  rwa [ruledOutlook_eq] at prepared

/-- Nothing is reported of a tree and itself, since its content is its own. -/
theorem silentWith_self (tree : ReadTree) :
    tree.SilentWith config policy firstRules secondRules tree := by
  refine ⟨rfl, fun side => ?_⟩
  have sameContent : Outlook.sameContent ⟨config, tree.visits firstRules secondRules,
      tree.visits firstRules secondRules⟩ side (bySide tree.root tree.root side)
        (bySide tree.root tree.root (otherSide side)) = true := by
    cases side <;> exact BEq.rfl
  rw [walk_eq, sameContent, if_pos rfl]

theorem silentWith_greedy_iff :
    first.SilentWith config Policy.greedy firstRules secondRules second ↔
      first.AgreesWith config firstRules secondRules second := by
  have prepared := ReadTree.prepared config firstRules secondRules first second
  constructor
  · rintro ⟨signature, silent⟩
    exact agrees_of_silent prepared first.parsed second.parsed signature
      fun side => ⟨"", silent side⟩
  · intro agrees
    refine ⟨?_, fun side => isSilent_of_agrees prepared agrees side ""⟩
    cases agrees with
    | intro signature _ _ _ => exact signature

/-- Whatever the policy, trees of which nothing is reported are equal up to the order of
siblings. -/
theorem isLike_of_silentWith (exact : policy.IsExact)
    (silent : first.SilentWith config policy firstRules secondRules second) :
    first.IsLike config firstRules secondRules second := by
  obtain ⟨choice, pairing, _, follows⟩ := exact.choice
  exact resembles_of_silent pairing follows
    (ReadTree.prepared config firstRules secondRules first second) first.parsed second.parsed
    silent.1 fun side => ⟨"", silent.2 side⟩

/-- By least cost, nothing is reported of trees that are equal up to the order of siblings,
if nothing about them is ambiguous. -/
theorem silentWith_of_isLike {solve : Solver Rat} (exact : solve.IsExact)
    (like : first.IsLike config firstRules secondRules second)
    (unambiguous : IsUnambiguous config firstRules secondRules first second) :
    first.SilentWith config (Policy.optimalWith solve) firstRules secondRules second := by
  rw [IsUnambiguous, ruledOutlook_eq] at unambiguous
  refine ⟨like.signature, fun side => ?_⟩
  exact silent_of_resembles (optimalChoice_isPairing exact.assignsOnce)
    (optimalChoice_isMaximal exact) (optimalChoice_prefersEqual exact) (optimalWith_follows solve)
    (ReadTree.prepared config firstRules secondRules first second) first.parsed second.parsed
    like unambiguous side ""

/-! ## Comparisons by least cost -/

theorem isLike_of_foundEqual (exact : policy.IsExact)
    (equal : FoundEqual config policy firstRules secondRules first second) :
    SkippedOr firstRules secondRules (ReadTree.IsLike config firstRules secondRules) first second :=
  ((foundEqual_iff exact).1 equal).imp (isLike_of_silentWith exact)

theorem foundEqual_of_isLike {solve : Solver Rat} (exact : solve.IsExact)
    (like : SkippedOr firstRules secondRules (ReadTree.IsLike config firstRules secondRules) first
      second)
    (unambiguous : IsUnambiguous config firstRules secondRules first second) :
    FoundEqual config (Policy.optimalWith solve) firstRules secondRules first second :=
  (foundEqual_iff (.optimal solve exact)).2
    (like.imp fun isLike => silentWith_of_isLike exact isLike unambiguous)

/-- Being found equal by greedy comparisons is an equivalence.  Being found equal by optimal
ones is reflexive, and symmetric and transitive where the comparison that is concluded about
is not ambiguous: where two siblings of one signature both have no partner of equal content,
the assignment of least cost may join them crosswise, unless they resemble one another. -/
theorem foundEqual_equivalence (config : Config) (firstRules secondRules : List Rule) :
    Equivalence (FoundEqual config Policy.greedy firstRules secondRules) ∧
      ∀ solve : Solver Rat, solve.IsExact →
        (∀ tree, FoundEqual config (Policy.optimalWith solve) firstRules secondRules tree tree) ∧
        (∀ first second,
          FoundEqual config (Policy.optimalWith solve) firstRules secondRules first second →
            IsUnambiguous config firstRules secondRules second first →
              FoundEqual config (Policy.optimalWith solve) firstRules secondRules second first) ∧
        ∀ first second third,
          FoundEqual config (Policy.optimalWith solve) firstRules secondRules first second →
            FoundEqual config (Policy.optimalWith solve) firstRules secondRules second third →
              IsUnambiguous config firstRules secondRules first third →
                FoundEqual config (Policy.optimalWith solve) firstRules secondRules first
                  third := by
  have likeEquivalence : Equivalence (SkippedOr firstRules secondRules
      (ReadTree.IsLike config firstRules secondRules)) :=
    skippedOr_equivalence isLike_equivalence
  refine ⟨?_, fun solve exact => ⟨?_, ?_, ?_⟩⟩
  · have verdict : FoundEqual config Policy.greedy firstRules secondRules =
        SkippedOr firstRules secondRules (ReadTree.AgreesWith config firstRules secondRules) := by
      funext first second
      refine propext ((foundEqual_iff .greedy).trans ⟨?_, ?_⟩)
      · exact SkippedOr.imp silentWith_greedy_iff.1
      · exact SkippedOr.imp silentWith_greedy_iff.2
    rw [verdict]
    exact skippedOr_equivalence agreesWith_equivalence
  · intro tree
    refine (foundEqual_iff (.optimal solve exact)).2 ?_
    by_cases skipped : tree.IsSkipped firstRules secondRules
    · exact .inl ⟨skipped, skipped⟩
    · exact .inr ⟨⟨skipped, skipped⟩, silentWith_self tree⟩
  · intro first second equal unambiguous
    have like := isLike_of_foundEqual (.optimal solve exact) equal
    exact foundEqual_of_isLike exact (likeEquivalence.symm like) unambiguous
  · intro first second third equal equal' unambiguous
    have like := isLike_of_foundEqual (.optimal solve exact) equal
    have like' := isLike_of_foundEqual (.optimal solve exact) equal'
    exact foundEqual_of_isLike exact (likeEquivalence.trans like like') unambiguous

/-- An element of empty elements, given by their tags. -/
def elementOf (tag : String) (position : Int) (tags : List String) : Node :=
  ⟨tag, [], tags.zipIdx.map fun entry => ⟨entry.1, [], [], "", [position, entry.2], none⟩, "",
    [position], none⟩

/-- A list of such elements. -/
def listOf (items : List (String × List String)) : Node :=
  ⟨"r", [], items.zipIdx.map fun entry => elementOf entry.1.1 entry.2 entry.1.2, "", [], none⟩

/-- `<r><i><p/><q/></i><c/></r>` -/
def closedList : ReadTree where
  root := listOf [("i", ["p", "q"]), ("c", [])]
  distinct := by decide
  parsed := by decide +kernel

/-- `<r><c/><i><q/><p/></i></r>` -/
def openedList : ReadTree where
  root := listOf [("c", []), ("i", ["q", "p"])]
  distinct := by decide
  parsed := by decide +kernel

/-- `<r><i><q/><p/></i><c/></r>` -/
def turnedList : ReadTree where
  root := listOf [("i", ["q", "p"]), ("c", [])]
  distinct := by decide
  parsed := by decide +kernel

theorem foundEqual_reorderedLists :
    IsUnambiguous .standard [] [] openedList closedList ∧
      IsUnambiguous .standard [] [] closedList turnedList ∧
      FoundEqual .standard (.optimalWith Assignment.exhaustive) [] [] openedList closedList ∧
      FoundEqual .standard (.optimalWith Assignment.exhaustive) [] [] closedList turnedList := by
  have opened : IsUnambiguous .standard [] [] openedList closedList :=
    isUnambiguous_of_unique (by decide +kernel)
  have turned : IsUnambiguous .standard [] [] closedList turnedList :=
    isUnambiguous_of_unique (by decide +kernel)
  obtain ⟨_, optimal⟩ := foundEqual_equivalence .standard [] []
  obtain ⟨_, symmetric, transitive⟩ := optimal Assignment.exhaustive exhaustive_isExact
  have forth : FoundEqual .standard (.optimalWith Assignment.exhaustive) [] [] closedList
      openedList := by decide +kernel
  have back : FoundEqual .standard (.optimalWith Assignment.exhaustive) [] [] openedList
      turnedList := by decide +kernel
  exact ⟨opened, turned, symmetric closedList openedList forth opened,
    transitive closedList openedList turnedList forth back turned⟩

/-- `<r><i><p/><q/></i><i><s/><t/></i></r>` -/
def pairedLists : ReadTree where
  root := listOf [("i", ["p", "q"]), ("i", ["s", "t"])]
  distinct := by decide
  parsed := by decide +kernel

/-- `<r><i><q/><p/></i><i><t/><s/></i></r>` -/
def turnedLists : ReadTree where
  root := listOf [("i", ["q", "p"]), ("i", ["t", "s"])]
  distinct := by decide
  parsed := by decide +kernel

/-- `<r><i><t/><s/></i><i><q/><p/></i></r>` -/
def exchangedLists : ReadTree where
  root := listOf [("i", ["t", "s"]), ("i", ["q", "p"])]
  distinct := by decide
  parsed := by decide +kernel

/-- `<r><c/><i><p/><q/></i><i><s/><t/></i></r>` -/
def openedLists : ReadTree where
  root := listOf [("c", []), ("i", ["p", "q"]), ("i", ["s", "t"])]
  distinct := by decide
  parsed := by decide +kernel

/-- `<r><i><q/><p/></i><i><t/><s/></i><c/></r>` -/
def closedLists : ReadTree where
  root := listOf [("i", ["q", "p"]), ("i", ["t", "s"]), ("c", [])]
  distinct := by decide
  parsed := by decide +kernel

/-- An exact solver that prefers, where it can, to join the first row to the last of three
columns. -/
def crossingSolver : Solver Rat :=
  Assignment.exhaustive.preferring [(0, 2), (1, 0), (2, 1)]

/-- The two inner lists have no partner of equal content, and the order of their elements
decides which of the other lists each one is joined to. -/
theorem foundEqual_not_symmetric_not_transitive :
    (crossingSolver.IsExact ∧
        FoundEqual .standard (.optimalWith crossingSolver) [] [] openedLists closedLists ∧
        ¬FoundEqual .standard (.optimalWith crossingSolver) [] [] closedLists openedLists) ∧
      Assignment.exhaustive.IsExact ∧
        FoundEqual .standard (.optimalWith Assignment.exhaustive) [] [] pairedLists turnedLists ∧
        FoundEqual .standard (.optimalWith Assignment.exhaustive) [] [] turnedLists
          exchangedLists ∧
        ¬FoundEqual .standard (.optimalWith Assignment.exhaustive) [] [] pairedLists
          exchangedLists := by
  refine ⟨⟨exhaustive_isExact.preferring _, ?_, ?_⟩, exhaustive_isExact, ?_, ?_, ?_⟩
  · decide +kernel
  · decide +kernel
  · decide +kernel
  · decide +kernel
  · decide +kernel

/-- Where a greedy comparison finds nothing, an optimal one finds nothing either, if nothing
is ambiguous. -/
theorem optimal_foundEqual_of_greedy {solve : Solver Rat} (exact : solve.IsExact)
    (equal : FoundEqual config Policy.greedy firstRules secondRules first second)
    (unambiguous : IsUnambiguous config firstRules secondRules first second) :
    FoundEqual config (Policy.optimalWith solve) firstRules secondRules first second :=
  foundEqual_of_isLike exact (isLike_of_foundEqual .greedy equal) unambiguous

theorem optimal_foundEqual_closed_opened :
    FoundEqual .standard .greedy [] [] closedList openedList ∧
      IsUnambiguous .standard [] [] closedList openedList ∧
      FoundEqual .standard (.optimalWith Assignment.exhaustive) [] [] closedList openedList := by
  have greedy : FoundEqual .standard .greedy [] [] closedList openedList := by decide +kernel
  have unambiguous : IsUnambiguous .standard [] [] closedList openedList :=
    isUnambiguous_of_unique (by decide +kernel)
  exact ⟨greedy, unambiguous,
    optimal_foundEqual_of_greedy exhaustive_isExact greedy unambiguous⟩

/-- The greedy choice joins the two inner lists in order.  So does one of two assignments of
least cost; the other one joins them crosswise. -/
theorem greedy_foundEqual_not_optimal :
    Assignment.exhaustive.IsExact ∧
      FoundEqual .standard .greedy [] [] openedLists closedLists ∧
      ¬FoundEqual .standard (.optimalWith Assignment.exhaustive) [] [] openedLists
        closedLists := by
  refine ⟨exhaustive_isExact, ?_, ?_⟩
  · decide +kernel
  · decide +kernel

end Relations

end XmlCollation.Compare
