import XmlCollation.Proofs.Compare.Keys
import XmlCollation.Proofs.Compare.LeastCost
import XmlCollation.Proofs.Compare.Steps

/-!
Contract: comparisons without caches.

Owns:
- matching with the plain content of every node, computed anew whenever it is read;
- the outcome of a comparison: its trace, and the records of both trees;
- cached matching keeps step with plain matching, so that the outcome of a comparison
  depends neither on the caches nor on their size.

Does not own: the messages of a comparison.
-/

namespace XmlCollation.Compare

open XmlCollation.Tree
open XmlCollation.Rules (Rule applyRules applyRules_records)

/-! ## Plain matching -/

namespace Outlook

/-- The pairs that a choice gives to the unvisited ones among places. -/
def pairs (outlook : Outlook) (choice : Choice) (left right : List Place) : List (Nat × Nat) :=
  (choice (outlook.unvisitedKeys .first left) (outlook.unvisitedKeys .second right)).map
    fun pair => (siblingIndex (unvisited outlook.first left) pair.1,
      siblingIndex (unvisited outlook.second right) pair.2)

def markBoth (outlook : Outlook) (mark : Mark) (first second : Node) : Outlook :=
  { outlook with
    first := outlook.first.advance first mark
    second := outlook.second.advance second mark }

def compareTexts (outlook : Outlook) (signature : String) (first second : Node) : Outlook :=
  if textKey outlook.config first = textKey outlook.config second then outlook
  else { outlook with first := outlook.first.record first (textDifference signature first second) }

/-- Settles a pair by the plain contents of its nodes. -/
def settle (descend : List Place → List Place → String → Outlook → Outlook) (above : String)
    (first second : Place) (outlook : Outlook) : Outlook :=
  let marked := outlook.markBoth .shallow first.node second.node
  if marked.sameContent .first first.node second.node then
    marked.markBoth .deep first.node second.node
  else
    let signature := above ++ marked.signature .first first.node
    descend first.children second.children signature
      (marked.compareTexts signature first.node second.node)

/-- Pairs the given siblings by plain contents and settles the pairs. -/
def matchSiblings (choice : Choice) : Nat → List Place → List Place → String → Outlook → Outlook
  | 0, _, _, _, outlook => outlook
  | depth + 1, first, second, above, outlook =>
      (outlook.pairs choice first second).foldl
        (fun state pair =>
          match first[pair.1]?, second[pair.2]? with
          | some left, some right => state.settle (matchSiblings choice depth) above left right
          | _, _ => state)
        outlook

/-- Matches both trees by plain contents. -/
def matchTrees (choice : Choice) (first second : Node) (outlook : Outlook) : Outlook :=
  outlook.matchSiblings choice (first.height + 1) [Place.root first] [Place.root second] ""

end Outlook

/-! ## Outcomes -/

/-- What is left of a comparison: its trace, and the records of both trees. -/
structure Outcome where
  trace : Trace
  first : Visits
  second : Visits
deriving DecidableEq, Repr

def Comparison.outcome (comparison : Comparison) : Outcome :=
  ⟨comparison.trace, comparison.first.visits, comparison.second.visits⟩

/-- The outcome of a comparison that computes every content anew. -/
def plainOutcome (config : Config) (choice : Choice) (firstRules secondRules : List Rule)
    (first second : Node) (trace : Trace) : Outcome :=
  let matched :=
    (ruledOutlook config firstRules secondRules first second).matchTrees choice first second
  { trace :=
      { trace with
        differences := trace.differences ++ matched.first.differences .first "" first ++
          matched.second.differences .second "" second }
    first := matched.first
    second := matched.second }

/-- The settings with another size of the cache. -/
def Config.withCache (config : Config) (size : Nat) (room : 0 < size) : Config :=
  { config with cacheSize := size, cacheSize_pos := room }

/-- What a mode pairs, by the keys of siblings. -/
def Mode.choice : Mode → Choice
  | .greedy => greedyChoice
  | .optimal => optimalChoice (Assignment.shortestPaths : Solver Float)

theorem Mode.policy_follows (mode : Mode) : mode.policy.Follows mode.choice := by
  cases mode with
  | greedy => exact greedy_follows
  | optimal => exact optimalWith_follows Assignment.shortestPaths

/-! ## Keeping step -/

/-- The records of both trees are the same, and so is letter case. -/
structure KeepsStep (state : Comparison) (plain : Outlook) : Prop where
  ignoreCase : state.config.ignoreCase = plain.config.ignoreCase
  visits : ∀ side, (state.view side).visits = plain.visits side

section Step

variable {start state : Comparison} {plain : Outlook} {policy : Policy} {choice : Choice}

theorem KeepsStep.keys_eq (step : KeepsStep state plain) (side : Side) :
    state.outlook.keys side = plain.keys side := by
  funext node
  have sameConfig : state.outlook.config.ignoreCase = plain.config.ignoreCase := step.ignoreCase
  rw [Outlook.keys, Outlook.keys, visits_outlook, step.visits, Visits.signatureKey,
    Visits.signatureKey, Config.normalize_congr sameConfig]

theorem KeepsStep.pairs_eq (step : KeepsStep state plain) (choice : Choice)
    (left right : List Place) :
    state.outlook.pairs choice left right = plain.pairs choice left right := by
  have firstVisits : state.outlook.first = plain.first := step.visits .first
  have secondVisits : state.outlook.second = plain.second := step.visits .second
  have unvisitedKeys_eq (side : Side) (places : List Place) :
      state.outlook.unvisitedKeys side places = plain.unvisitedKeys side places := by
    rw [Outlook.unvisitedKeys, Outlook.unvisitedKeys, visits_outlook, step.visits, step.keys_eq]
  rw [Outlook.pairs, Outlook.pairs, unvisitedKeys_eq, unvisitedKeys_eq, firstVisits, secondVisits]

theorem KeepsStep.markBoth (step : KeepsStep state plain) (mark : Mark) (first second : Node) :
    KeepsStep (state.markBoth mark first second) (plain.markBoth mark first second) := by
  refine ⟨step.ignoreCase, ?_⟩
  intro side
  rw [visits_markBoth, step.visits]
  cases side <;> rfl

theorem KeepsStep.compareTexts (step : KeepsStep state plain) (signature : String)
    (first second : Node) :
    KeepsStep (state.compareTexts signature first second)
      (plain.compareTexts signature first second) := by
  have sameKey (node : Node) : textKey state.config node = textKey plain.config node := by
    rw [textKey, textKey, Config.normalize_congr step.ignoreCase]
  rw [Comparison.compareTexts, Outlook.compareTexts, sameKey, sameKey]
  split
  · exact step
  · refine ⟨step.ignoreCase, ?_⟩
    intro side
    have before := step.visits side
    cases side with
    | first =>
        exact congrArg (fun visits : Visits => visits.record first
          (textDifference signature first second)) before
    | second => exact before

/-- Contents that are read through sound caches are compared as plain ones are. -/
theorem KeepsStep.sameContent (step : KeepsStep state plain) (continues : start.Continues state)
    {left right : Place} (leftIn : start.first.root.at? left.address.reverse = some left.node)
    (rightIn : start.second.root.at? right.address.reverse = some right.node) :
    (state.sameContent left right).1 = plain.sameContent .first left.node right.node ∧
      start.Continues (state.sameContent left right).2 ∧
      KeepsStep (state.sameContent left right).2 plain := by
  obtain ⟨equal_eq, readContinues, view_eq⟩ := sameContent_spec continues leftIn rightIn
  have keys_eq (side : Side) : start.outlook.keys side = plain.keys side :=
    (continues.outlook_keys_eq side).symm.trans (step.keys_eq side)
  refine ⟨?_, readContinues, ?_, ?_⟩
  · rw [equal_eq, Outlook.sameContent, Outlook.sameContent, keys_eq, keys_eq]
  · rw [readContinues.config, ← continues.config]
    exact step.ignoreCase
  · intro side
    rw [view_eq]
    exact step.visits side

/-- A descent through the caches keeps step with a plain one. -/
def DescendsInStep (start : Comparison)
    (descend : List Place → List Place → String → Comparison → Comparison)
    (plainDescend : List Place → List Place → String → Outlook → Outlook) : Prop :=
  ∀ (lefts rights : List Place) (above : String) (state : Comparison) (plain : Outlook),
    Place.AreIn lefts start.first.root → Place.AreIn rights start.second.root →
      start.Continues state → KeepsStep state plain →
        start.Continues (descend lefts rights above state) ∧
          KeepsStep (descend lefts rights above state) (plainDescend lefts rights above plain)

theorem KeepsStep.settle (step : KeepsStep state plain) (continues : start.Continues state)
    {descend : List Place → List Place → String → Comparison → Comparison}
    {plainDescend : List Place → List Place → String → Outlook → Outlook}
    (inStep : DescendsInStep start descend plainDescend) (above : String) {left right : Place}
    (leftIn : start.first.root.at? left.address.reverse = some left.node)
    (rightIn : start.second.root.at? right.address.reverse = some right.node) :
    start.Continues (state.settle descend above left right) ∧
      KeepsStep (state.settle descend above left right)
        (plain.settle plainDescend above left right) := by
  have markedStep := step.markBoth .shallow left.node right.node
  have marked := continues.markBoth .shallow left.node right.node
  obtain ⟨equal_eq, readContinues, readStep⟩ := markedStep.sameContent marked leftIn rightIn
  rw [Comparison.settle, Outlook.settle]
  simp only [equal_eq]
  generalize ((state.markBoth .shallow left.node right.node).sameContent left right).2 = read at *
  generalize plain.markBoth .shallow left.node right.node = plainMarked at *
  split
  · exact ⟨readContinues.markBoth .deep left.node right.node,
      readStep.markBoth .deep left.node right.node⟩
  · have signature_eq : read.first.visits.signature left.node =
        plainMarked.signature .first left.node :=
      congrArg (fun visits => visits.signature left.node) (readStep.visits .first)
    rw [signature_eq]
    exact inStep _ _ _ _ _ (Place.children_areIn leftIn) (Place.children_areIn rightIn)
      (readContinues.compareTexts _ left.node right.node)
      (readStep.compareTexts _ left.node right.node)

/-- A policy that follows a choice gives the pairs of the choice, whatever the caches hold. -/
theorem KeepsStep.pair (follows : policy.Follows choice) (step : KeepsStep state plain)
    (continues : start.Continues state) {lefts rights : List Place}
    (leftsIn : Place.AreIn lefts start.first.root)
    (rightsIn : Place.AreIn rights start.second.root) :
    (policy.pair state.outlook lefts rights state.caches).1 = plain.pairs choice lefts rights ∧
      start.Continues
        { state with caches := (policy.pair state.outlook lefts rights state.caches).2 } := by
  obtain ⟨pairs_eq, soundAfter⟩ := follows.pair_eq state.outlook _ _ lefts rights state.caches
    leftsIn rightsIn continues.sound
  exact ⟨pairs_eq.trans (step.pairs_eq choice lefts rights), continues.withCaches soundAfter⟩

/-- Steps that keep step one by one do so one after the other. -/
theorem foldl_inStep {settle : Comparison → Nat × Nat → Comparison}
    {plainSettle : Outlook → Nat × Nat → Outlook}
    (each : ∀ state plain pair, start.Continues state → KeepsStep state plain →
      start.Continues (settle state pair) ∧ KeepsStep (settle state pair) (plainSettle plain pair))
    (pairs : List (Nat × Nat)) (continues : start.Continues state) (step : KeepsStep state plain) :
    start.Continues (pairs.foldl settle state) ∧
      KeepsStep (pairs.foldl settle state) (pairs.foldl plainSettle plain) := by
  induction pairs generalizing state plain with
  | nil => exact ⟨continues, step⟩
  | cons pair rest inductionHypothesis =>
      obtain ⟨settled, settledStep⟩ := each state plain pair continues step
      exact inductionHypothesis settled settledStep

/-- All levels keep step. -/
theorem matchSiblings_inStep (follows : policy.Follows choice) (start : Comparison) (depth : Nat) :
    DescendsInStep start (Comparison.matchSiblings policy depth)
      (Outlook.matchSiblings choice depth) := by
  induction depth with
  | zero => exact fun _ _ _ _ _ _ _ continues step => ⟨continues, step⟩
  | succ depth inductionHypothesis =>
      intro lefts rights above state plain leftsIn rightsIn continues step
      obtain ⟨pairs_eq, paired⟩ := step.pair follows continues leftsIn rightsIn
      have pairedStep : KeepsStep
          { state with caches := (policy.pair state.outlook lefts rights state.caches).2 } plain :=
        ⟨step.ignoreCase, fun side => by
          rw [← step.visits]
          cases side <;> rfl⟩
      rw [Comparison.matchSiblings, Outlook.matchSiblings]
      simp only [pairs_eq]
      refine foldl_inStep ?_ _ paired pairedStep
      intro current currentPlain pair currentContinues currentStep
      cases atLeft : lefts[pair.1]? with
      | none => exact ⟨currentContinues, currentStep⟩
      | some left =>
          cases atRight : rights[pair.2]? with
          | none => exact ⟨currentContinues, currentStep⟩
          | some right =>
              exact currentStep.settle currentContinues inductionHypothesis above
                (leftsIn left (List.mem_of_getElem? atLeft))
                (rightsIn right (List.mem_of_getElem? atRight))

end Step

/-! ## Whole comparisons -/

section Whole

variable {config : Config} {policy : Policy} {choice : Choice} {firstRules secondRules : List Rule}
  {first second : Node}

/-- Rules leave the same records, whatever the size of the cache. -/
theorem keepsStep_applyRules (size : Nat) (room : 0 < size) (trace : Trace) :
    KeepsStep
      (applyRules firstRules secondRules
        (Comparison.start (config.withCache size room) first second trace))
      (ruledOutlook config firstRules secondRules first second) := by
  have ruled := applyRules_records firstRules secondRules
    (Comparison.start (config.withCache size room) first second trace)
  have plain := applyRules_records firstRules secondRules
    (Comparison.start config first second {})
  refine ⟨?_, ?_⟩
  · have plainConfig : (ruledOutlook config firstRules secondRules first second).config = config :=
      plain.1.config
    rw [ruled.1.config, plainConfig]
    rfl
  · intro side
    rw [ruledOutlook, visits_outlook, ruled.2, plain.2]
    cases side <;> rfl

/-- A comparison by a policy that follows a choice has the outcome of the choice with
contents computed anew, whatever the size of the cache. -/
theorem outcome_of_follows (follows : policy.Follows choice) (size : Nat) (room : 0 < size)
    (trace : Trace) :
    (compareTrees (config.withCache size room) policy firstRules secondRules first second
        trace).outcome =
      plainOutcome config choice firstRules secondRules first second trace := by
  have step := @keepsStep_applyRules config firstRules secondRules first second size room trace
  obtain ⟨same, _⟩ := applyRules_records firstRules secondRules
    (Comparison.start (config.withCache size room) first second trace)
  have run_eq : compareTrees (config.withCache size room) policy firstRules secondRules first second
      trace = ((applyRules firstRules secondRules (Comparison.start (config.withCache size room)
        first second trace)).matchTrees policy).collectBoth := rfl
  rw [run_eq, plainOutcome]
  generalize applyRules firstRules secondRules
    (Comparison.start (config.withCache size room) first second trace) = ruled at *
  generalize ruledOutlook config firstRules secondRules first second = plain at *
  have firstRoot : ruled.first.root = first := same.root .first
  have secondRoot : ruled.second.root = second := same.root .second
  have sound : ruled.caches.Sound ruled.outlook ruled.first.root ruled.second.root := by
    rw [same.caches]
    exact ⟨ContentCache.sound_empty _, ContentCache.sound_empty _⟩
  have continues : ruled.Continues ruled :=
    ⟨rfl, fun _ => rfl, rfl, fun _ => Visits.Alike.refl _, sound⟩
  have rootIn (root : Node) : Place.AreIn [Place.root root] root := by
    intro place member
    rw [List.mem_singleton.1 member]
    rfl
  subst firstRoot secondRoot
  obtain ⟨matched, matchedStep⟩ := matchSiblings_inStep follows ruled
    (ruled.first.root.height + 1) [Place.root ruled.first.root] [Place.root ruled.second.root] ""
    ruled plain (rootIn _) (rootIn _) continues step
  rw [← Comparison.matchTrees] at matched matchedStep
  rw [← Outlook.matchTrees] at matchedStep
  have sameTrace : (ruled.matchTrees policy).trace = trace := matched.trace.trans same.trace
  have differences_eq (side : Side) : ((ruled.matchTrees policy).view side).differences side =
      ((plain.matchTrees choice ruled.first.root ruled.second.root).visits side).differences side ""
        (ruled.view side).root := by
    rw [View.differences, matched.root, matchedStep.visits]
  have outcome_eq : (ruled.matchTrees policy).collectBoth.outcome =
      { trace :=
          { (ruled.matchTrees policy).trace with
            differences := (ruled.matchTrees policy).trace.differences ++
              ((ruled.matchTrees policy).view .first).differences .first ++
              ((ruled.matchTrees policy).view .second).differences .second }
        first := ((ruled.matchTrees policy).view .first).visits
        second := ((ruled.matchTrees policy).view .second).visits } := rfl
  rw [outcome_eq, differences_eq, differences_eq, matchedStep.visits, matchedStep.visits, sameTrace]
  rfl

/-- In both modes, neither the trace nor the records of a comparison depend on the size of
the cache: they are those of a comparison that computes every content anew.  The same goes for
any policy that pairs by the keys of siblings, and so for any solver. -/
theorem outcome_compareTrees_eq (config : Config) (mode : Mode) (firstRules secondRules : List Rule)
    (first second : Node) (trace : Trace) (size : Nat) (room : 0 < size) :
    (compareTrees (config.withCache size room) mode.policy firstRules secondRules first second
        trace).outcome =
      plainOutcome config mode.choice firstRules secondRules first second trace ∧
    ∀ (policy : Policy) (choice : Choice), policy.Follows choice →
      (compareTrees (config.withCache size room) policy firstRules secondRules first second
          trace).outcome =
        plainOutcome config choice firstRules secondRules first second trace :=
  ⟨outcome_of_follows mode.policy_follows size room trace,
    fun _ _ follows => outcome_of_follows follows size room trace⟩

end Whole

/-- `<r><a><b>…</b><b/></a></r>`. -/
def nested (text : String) : Node :=
  ⟨"r", [], [⟨"a", [], [⟨"b", [], [], text, [0, 0], none⟩, ⟨"b", [], [], "", [0, 1], none⟩], "",
    [0], none⟩], "", [], none⟩

/-- A cache that holds one content is as good as one that holds many. -/
theorem outcome_nested :
    (compareTrees (Config.standard.withCache 1 (by decide)) Mode.greedy.policy [] [] (nested "1")
          (nested "2") {}).outcome =
        plainOutcome .standard Mode.greedy.choice [] [] (nested "1") (nested "2") {} ∧
      (plainOutcome .standard Mode.greedy.choice [] [] (nested "1") (nested "2")
          {}).trace.differences = [⟨"Text of XML node <r><a><b>", "1", "2"⟩] ∧
      (compareTrees (Config.standard.withCache 1 (by decide))
            (Policy.optimalWith (Assignment.shortestPaths : Solver Rat)) [] [] (nested "1")
            (nested "2") {}).outcome =
        plainOutcome .standard (optimalChoice (Assignment.shortestPaths : Solver Rat)) [] []
          (nested "1") (nested "2") {} := by
  obtain ⟨inMode, byChoice⟩ :=
    outcome_compareTrees_eq .standard .greedy [] [] (nested "1") (nested "2") {} 1 (by decide)
  exact ⟨inMode, by decide +kernel,
    byChoice _ _ (optimalWith_follows (Assignment.shortestPaths : Solver Rat))⟩

end XmlCollation.Compare
