import XmlCollation.Proofs.Compare.Equivalence
import XmlCollation.Proofs.Compare.Harmless
import XmlCollation.Proofs.Compare.Trading

/-!
Contract: comparisons that are relaxed.

Owns:
- comparisons under a coarser outlook: where the finer comparison finds nothing, the coarser one
  finds nothing either, if, in greedy mode, siblings that trade partners agree, and if, in
  optimal mode, the change does no harm;
- comparisons that ignore letter case, which are coarser than those that do not, and documents
  that only a comparison of the latter kind finds equal.

Does not own: rules.
-/

namespace XmlCollation.Compare

open XmlCollation.Tree
open XmlCollation.Markup
open XmlCollation.Rules (Rule otherSide)

/-! ## Coarser comparisons -/

section Coarser

variable {config config' : Config} {firstRules secondRules firstRules' secondRules' : List Rule}
  {first second : ReadTree} {level : Node → Node → Prop}

theorem Outlook.Coarsens.isSkipped_eq {fine coarse : Outlook}
    (coarsens : fine.Coarsens level coarse) (side : Side) (node : Node) :
    (coarse.visits side).isSkipped node = (fine.visits side).isSkipped node := by
  have kept := coarsens.kept side [node]
  rw [Outlook.kept, Outlook.kept, Visits.kept, Visits.kept, List.filter_cons, List.filter_cons]
    at kept
  cases coarseSkipped : (coarse.visits side).isSkipped node with
  | true =>
      cases fineSkipped : (fine.visits side).isSkipped node with
      | true => rfl
      | false => simp [coarseSkipped, fineSkipped] at kept
  | false =>
      cases fineSkipped : (fine.visits side).isSkipped node with
      | true => simp [coarseSkipped, fineSkipped] at kept
      | false => rfl

/-- A verdict is passed on to a coarser comparison: skipped roots are still skipped, and kept
roots are still kept. -/
theorem SkippedOr.of_coarsens
    (coarsens : (ruledOutlook config firstRules secondRules first.root second.root).Coarsens level
      (ruledOutlook config' firstRules' secondRules' first.root second.root))
    {related related' : ReadTree → ReadTree → Prop}
    (implies : related first second → related' first second)
    (verdict : SkippedOr firstRules secondRules related first second) :
    SkippedOr firstRules' secondRules' related' first second := by
  rw [ruledOutlook_eq, ruledOutlook_eq] at coarsens
  have firstSame : first.IsSkipped firstRules' secondRules' ↔
      first.IsSkipped firstRules secondRules :=
    iff_of_eq (congrArg (· = true) (coarsens.isSkipped_eq .first first.root))
  have secondSame : second.IsSkipped firstRules' secondRules' ↔
      second.IsSkipped firstRules secondRules :=
    iff_of_eq (congrArg (· = true) (coarsens.isSkipped_eq .second second.root))
  rw [SkippedOr, firstSame, secondSame]
  exact Or.imp id (And.imp id implies) verdict

/-- Where a greedy comparison finds nothing, a coarser one finds nothing, if siblings that trade
partners agree with one another. -/
theorem foundEqual_greedy_of_coarsens
    (coarsens : (ruledOutlook config firstRules secondRules first.root second.root).Coarsens level
      (ruledOutlook config' firstRules' secondRules' first.root second.root))
    (isLevel : level first.root second.root)
    (equal : FoundEqual config Policy.greedy firstRules secondRules first second)
    (trades : (ruledOutlook config firstRules secondRules first.root second.root).TradesAlike
      (ruledOutlook config' firstRules' secondRules' first.root second.root) first.root
        second.root) :
    FoundEqual config' Policy.greedy firstRules' secondRules' first second := by
  refine (foundEqual_iff .greedy).2 (((foundEqual_iff .greedy).1 equal).of_coarsens coarsens ?_)
  intro silent
  rw [ruledOutlook_eq, ruledOutlook_eq] at coarsens trades
  exact silentWith_greedy_iff.2
    (coarsens.agrees (silentWith_greedy_iff.1 silent) isLevel trades)

/-- Where an optimal comparison finds nothing, a coarser one finds nothing, if the change does
no harm. -/
theorem foundEqual_optimal_of_coarsens
    (coarsens : (ruledOutlook config firstRules secondRules first.root second.root).Coarsens level
      (ruledOutlook config' firstRules' secondRules' first.root second.root))
    (isLevel : level first.root second.root) {solve : Solver Rat} (exact : solve.IsExact)
    (equal : FoundEqual config (Policy.optimalWith solve) firstRules secondRules first second)
    (harmless : (ruledOutlook config firstRules secondRules first.root second.root).IsHarmless
      (ruledOutlook config' firstRules' secondRules' first.root second.root) first.root
        second.root) :
    FoundEqual config' (Policy.optimalWith solve) firstRules' secondRules' first second := by
  have verdict := (foundEqual_iff (.optimal solve exact)).1 equal
  refine (foundEqual_iff (.optimal solve exact)).2 (verdict.of_coarsens coarsens ?_)
  intro silent
  rw [ruledOutlook_eq, ruledOutlook_eq] at coarsens harmless
  refine ⟨coarsens.signature isLevel silent.1, fun side => ?_⟩
  exact coarsens.silent exact (ReadTree.prepared config firstRules secondRules first second)
    (ReadTree.prepared config' firstRules' secondRules' first second) harmless isLevel silent.1
    (fun side => ⟨"", silent.2 side⟩) side ""

end Coarser

/-! ## Letter case -/

section LetterCase

variable {firstRules secondRules : List Rule} {first second : ReadTree}

/-- A comparison that ignores letter case is coarser than one that does not. -/
theorem coarsens_ignoring_case (config : Config) (visits visits' : Visits) :
    Outlook.Coarsens (fun node other => HasParsedNames node ∧ HasParsedNames other)
      ⟨{ config with ignoreCase := false }, visits, visits'⟩
      ⟨{ config with ignoreCase := true }, visits, visits'⟩ where
  parsed isLevel := isLevel
  kept _ _ := rfl
  fold equal := congrArg Text.lower equal
  signature := by
    intro node other _ signature
    have startTags := (signatureKey_eq_iff _ visits visits' node other).1 signature
    exact (signatureKey_eq_iff _ visits visits' node other).2 (congrArg Text.lower startTags)
  below := by
    rintro node other ⟨parsed, otherParsed⟩ _ child childIn partner partnerIn
    exact ⟨hasParsedNames_of_mem_children parsed childIn,
      hasParsedNames_of_mem_children otherParsed partnerIn⟩

/-- Documents between which nothing is found while letter case counts are found equal without
regard to it, if siblings that differ in letter case alone are not confused: in greedy mode, if
those of them that trade partners agree with one another, and in optimal mode, if nothing
becomes ambiguous where the verdicts on siblings change. -/
theorem foundEqual_ignoring_case (config : Config) :
    (FoundEqual { config with ignoreCase := false } Policy.greedy firstRules secondRules first
        second →
      (ruledOutlook { config with ignoreCase := false } firstRules secondRules first.root
          second.root).TradesAlike
        (ruledOutlook { config with ignoreCase := true } firstRules secondRules first.root
          second.root) first.root second.root →
      FoundEqual { config with ignoreCase := true } Policy.greedy firstRules secondRules first
        second) ∧
    ∀ solve : Solver Rat, solve.IsExact →
      FoundEqual { config with ignoreCase := false } (Policy.optimalWith solve) firstRules
          secondRules first second →
        (ruledOutlook { config with ignoreCase := false } firstRules secondRules first.root
            second.root).IsHarmless
          (ruledOutlook { config with ignoreCase := true } firstRules secondRules first.root
            second.root) first.root second.root →
        FoundEqual { config with ignoreCase := true } (Policy.optimalWith solve) firstRules
          secondRules first second := by
  have coarsens := coarsens_ignoring_case config (first.visits firstRules secondRules)
    (second.visits firstRules secondRules)
  have isLevel : HasParsedNames first.root ∧ HasParsedNames second.root :=
    ⟨first.parsed, second.parsed⟩
  rw [ReadTree.visits, ReadTree.visits, ← ruledOutlook_eq, ← ruledOutlook_eq] at coarsens
  constructor
  · intro equal trades
    exact foundEqual_greedy_of_coarsens coarsens isLevel equal trades
  · intro solve exact equal harmless
    exact foundEqual_optimal_of_coarsens coarsens isLevel exact equal harmless

/-- `<r><i/><I/></r>` -/
def smallThenCapital : ReadTree where
  root := listOf [("i", []), ("I", [])]
  distinct := by decide
  parsed := by decide +kernel

/-- `<r><I/><i/></r>` -/
def capitalThenSmall : ReadTree where
  root := listOf [("I", []), ("i", [])]
  distinct := by decide
  parsed := by decide +kernel

/-- The empty elements are paired crosswise while letter case counts, and agree without it. -/
theorem foundEqual_crossed_ignoring_case :
    FoundEqual { Config.standard with ignoreCase := true } Policy.greedy [] [] smallThenCapital
        capitalThenSmall ∧
      FoundEqual { Config.standard with ignoreCase := true }
        (Policy.optimalWith Assignment.exhaustive) [] [] smallThenCapital capitalThenSmall := by
  obtain ⟨greedy, optimal⟩ :=
    @foundEqual_ignoring_case [] [] smallThenCapital capitalThenSmall Config.standard
  constructor
  · refine greedy (by decide +kernel) (tradesAlike_of_alike smallThenCapital.parsed ?_ _)
    decide +kernel
  · refine optimal Assignment.exhaustive exhaustive_isExact (by decide +kernel)
      (.unambiguous (isUnambiguous_of_sameContent ?_))
    decide +kernel

/-- `<r><i><p/><q/></i><I><s/><t/></I></r>` -/
def smallCapitalLists : ReadTree where
  root := listOf [("i", ["p", "q"]), ("I", ["s", "t"])]
  distinct := by decide
  parsed := by decide +kernel

/-- `<r><I><t/><s/></I><i><q/><p/></i></r>` -/
def capitalSmallLists : ReadTree where
  root := listOf [("I", ["t", "s"]), ("i", ["q", "p"])]
  distinct := by decide
  parsed := by decide +kernel

/-- Without regard to letter case, each of the two inner lists is joined to the other one's
partner. -/
theorem not_foundEqual_ignoring_case :
    (FoundEqual { Config.standard with ignoreCase := false } Policy.greedy [] [] smallCapitalLists
        capitalSmallLists ∧
      ¬FoundEqual { Config.standard with ignoreCase := true } Policy.greedy [] []
        smallCapitalLists capitalSmallLists) ∧
    Assignment.exhaustive.IsExact ∧
      FoundEqual { Config.standard with ignoreCase := false }
        (Policy.optimalWith Assignment.exhaustive) [] [] smallCapitalLists capitalSmallLists ∧
      ¬FoundEqual { Config.standard with ignoreCase := true }
        (Policy.optimalWith Assignment.exhaustive) [] [] smallCapitalLists capitalSmallLists := by
  refine ⟨⟨?_, ?_⟩, exhaustive_isExact, ?_, ?_⟩
  · decide +kernel
  · decide +kernel
  · decide +kernel
  · decide +kernel

end LetterCase

end XmlCollation.Compare
