import XmlCollation.Proofs.Compare.Deletion
import XmlCollation.Proofs.Compare.Silence
import XmlCollation.Proofs.Compare.Uncached

/-!
Contract: comparisons of trees in which no two siblings have equal signatures.

Owns:
- choices that list their pairs in the order of the rows, the greedy and the optimal one
  among them;
- on siblings all of whose signatures are different, ordered choices that are pairings and
  leave out no two of equal signatures make the same pairs;
- what plain matching leaves as it is: the settings, what is taken out of account, and
  that visited nodes stay visited;
- choices that agree on such siblings have the same outcome on trees of such siblings.

Does not own: siblings of which some have equal signatures.
-/

namespace XmlCollation.Compare

open XmlCollation.Tree
open XmlCollation.Rules (Rule)

/-! ## Ordered choices -/

/-- The pairs are listed in the order of the rows. -/
def Choice.IsOrdered (choice : Choice) : Prop :=
  ∀ rows columns, ((choice rows columns).map Prod.fst).Pairwise (· < ·)

theorem greedyChoice_isOrdered : greedyChoice.IsOrdered := by
  intro rows columns
  have ascending : ((indexedSignatures rows).map Prod.fst).Pairwise (· < ·) := by
    rw [indexedSignatures_fst]
    exact List.pairwise_lt_range
  exact ascending.sublist (takeFirst_rows_sublist _ _)

theorem optimalChoice_isOrdered {α : Type} [Cost α] {solve : Solver α}
    (assigns : solve.AssignsOnce) : (optimalChoice solve).IsOrdered := by
  intro rows columns
  rcases optimalChoice_eq_nil_or solve rows columns with nothing | solved
  · rw [nothing]
    exact .nil
  · exact minimumCost_ascends assigns (rectangular_costMatrixOf _ rows columns) solved

/-! ## Siblings of different signatures -/

/-- No two siblings have equal signatures. -/
def AreUnlike (siblings : List SiblingKeys) : Prop :=
  (siblings.map SiblingKeys.signature).Nodup

instance (siblings : List SiblingKeys) : Decidable (AreUnlike siblings) :=
  inferInstanceAs (Decidable (siblings.map SiblingKeys.signature).Nodup)

/-- Both choices make the same pairs, in the same order, where no two siblings have equal
signatures. -/
def Choice.AgreesOnUnlike (choice other : Choice) : Prop :=
  ∀ rows columns, AreUnlike rows → AreUnlike columns → choice rows columns = other rows columns

section Unlike

variable {choice other : Choice} {rows columns siblings : List SiblingKeys}

theorem AreUnlike.index_unique (unlike : AreUnlike siblings) {index index' : Nat}
    {keys keys' : SiblingKeys} (atIndex : siblings[index]? = some keys)
    (atIndex' : siblings[index']? = some keys') (same : keys.signature = keys'.signature) :
    index = index' := by
  have signatureAt : (siblings.map SiblingKeys.signature)[index]? = some keys.signature := by
    rw [List.getElem?_map, atIndex, Option.map_some]
  have signatureAt' : (siblings.map SiblingKeys.signature)[index']? = some keys.signature := by
    rw [List.getElem?_map, atIndex', Option.map_some, same]
  obtain ⟨inRange, here⟩ := List.getElem?_eq_some_iff.1 signatureAt
  obtain ⟨inRange', there⟩ := List.getElem?_eq_some_iff.1 signatureAt'
  exact unlike.getElem_inj_iff.1 (here.trans there.symm)

/-- A sibling can have no partner but the one of its signature, and one of the two has a
partner. -/
theorem mem_choice_of_unlike (pairing : choice.IsPairing) (maximal : choice.IsMaximal)
    (rowsUnlike : AreUnlike rows) (columnsUnlike : AreUnlike columns) {pair : Nat × Nat} :
    pair ∈ choice rows columns ↔
      ∃ row column, rows[pair.1]? = some row ∧ columns[pair.2]? = some column ∧
        row.signature = column.signature := by
  constructor
  · exact pairing.sameSignature rows columns pair
  · rintro ⟨row, column, atRow, atColumn, same⟩
    -- A pair that one of the two is in has the signature of both, and so it is the pair of both.
    have isPair {found : Nat × Nat} (member : found ∈ choice rows columns)
        (touches : found.1 = pair.1 ∨ found.2 = pair.2) : pair ∈ choice rows columns := by
      obtain ⟨row', column', atRow', atColumn', same'⟩ :=
        pairing.sameSignature rows columns found member
      have both : found.1 = pair.1 ∧ found.2 = pair.2 := by
        rcases touches with sameRow | sameColumn
        · rw [sameRow, atRow, Option.some.injEq] at atRow'
          refine ⟨sameRow, columnsUnlike.index_unique atColumn' atColumn ?_⟩
          rw [← same', ← atRow', same]
        · rw [sameColumn, atColumn, Option.some.injEq] at atColumn'
          refine ⟨rowsUnlike.index_unique atRow' atRow ?_, sameColumn⟩
          rw [same', ← atColumn', same]
      rwa [← Prod.ext both.1 both.2]
    rcases maximal rows columns _ _ row column atRow atColumn same with inRows | inColumns
    · obtain ⟨found, member, sameRow⟩ := List.mem_map.1 inRows
      exact isPair member (.inl sameRow)
    · obtain ⟨found, member, sameColumn⟩ := List.mem_map.1 inColumns
      exact isPair member (.inr sameColumn)

/-- The pairs are determined, and so is their order. -/
theorem agreesOnUnlike_of_isMaximal (pairing : choice.IsPairing) (maximal : choice.IsMaximal)
    (ordered : choice.IsOrdered) (otherPairing : other.IsPairing)
    (otherMaximal : other.IsMaximal) (otherOrdered : other.IsOrdered) :
    choice.AgreesOnUnlike other := by
  intro rows columns rowsUnlike columnsUnlike
  have pairs_nodup {choice : Choice} (ordered : choice.IsOrdered) :
      (choice rows columns).Nodup :=
    List.Nodup.of_map Prod.fst (ordered rows columns).nodup
  have samePairs : (choice rows columns).Perm (other rows columns) := by
    refine (List.perm_ext_iff_of_nodup (pairs_nodup ordered) (pairs_nodup otherOrdered)).2 ?_
    intro pair
    rw [mem_choice_of_unlike pairing maximal rowsUnlike columnsUnlike,
      mem_choice_of_unlike otherPairing otherMaximal rowsUnlike columnsUnlike]
  refine samePairs.eq_of_pairwise ?_ (List.pairwise_map.1 (ordered rows columns))
    (List.pairwise_map.1 (otherOrdered rows columns))
  intro pair pair' _ _ before after
  exact absurd after before.asymm

end Unlike

theorem optimalChoice_agreesOnUnlike {solve : Solver Rat} (exact : solve.IsExact) :
    (optimalChoice solve).AgreesOnUnlike greedyChoice :=
  agreesOnUnlike_of_isMaximal (optimalChoice_isPairing exact.assignsOnce)
    (optimalChoice_isMaximal exact) (optimalChoice_isOrdered exact.assignsOnce)
    greedyChoice_isPairing greedyChoice_isMaximal greedyChoice_isOrdered

/-! ## What matching leaves as it is -/

theorem Visits.isUnvisited_advance {visits : Visits} {node : Node}
    (visited : visits.isUnvisited node = false) (marked : Node) (mark : Mark) :
    (visits.advance marked mark).isUnvisited node = false := by
  rw [Visits.isUnvisited, beq_eq_false_iff_ne, Visits.markOf] at *
  rw [Visits.recorded_advance]
  split
  · rename_i ahead
    rintro rfl
    exact Nat.not_lt_zero _ ahead.2
  · exact visited

theorem Visits.isUnvisited_record {visits : Visits} {node : Node}
    (visited : visits.isUnvisited node = false) (recorded : Node) (difference : Difference) :
    (visits.record recorded difference).isUnvisited node = false := by
  rw [← visited, Visits.isUnvisited, Visits.isUnvisited, Visits.markOf, Visits.markOf,
    Visits.record, Visits.recorded_alter]
  split <;> rfl

namespace Outlook

/-- The settings and what is taken out of account are the same, and visited nodes are still
visited. -/
structure Advances (start state : Outlook) : Prop where
  config : state.config = start.config
  alike : ∀ side, (state.visits side).Alike (start.visits side)
  visited : ∀ side node, (start.visits side).isUnvisited node = false →
    (state.visits side).isUnvisited node = false

section Advances

variable {start state : Outlook}

theorem Advances.refl (start : Outlook) : start.Advances start :=
  ⟨rfl, fun _ => Visits.Alike.refl _, fun _ _ visited => visited⟩

theorem visits_markBoth (state : Outlook) (mark : Mark) (first second : Node) (side : Side) :
    (state.markBoth mark first second).visits side =
      (state.visits side).advance (bySide first second side) mark := by
  cases side <;> rfl

theorem Advances.markBoth (advances : start.Advances state) (mark : Mark)
    (first second : Node) : start.Advances (state.markBoth mark first second) := by
  refine ⟨advances.config, fun side => ?_, fun side node visited => ?_⟩
  · rw [visits_markBoth]
    exact (Visits.alike_advance _ _ mark).trans (advances.alike side)
  · rw [visits_markBoth]
    exact Visits.isUnvisited_advance (advances.visited side node visited) _ mark

theorem Advances.compareTexts (advances : start.Advances state) (signature : String)
    (first second : Node) : start.Advances (state.compareTexts signature first second) := by
  rw [Outlook.compareTexts]
  split
  · exact advances
  · refine ⟨advances.config, fun side => ?_, fun side node visited => ?_⟩
    · cases side with
      | first => exact (Visits.alike_record _ _ _).trans (advances.alike .first)
      | second => exact advances.alike .second
    · cases side with
      | first => exact Visits.isUnvisited_record (advances.visited .first node visited) first _
      | second => exact advances.visited .second node visited

theorem Advances.settle (advances : start.Advances state)
    {descend : List Place → List Place → String → Outlook → Outlook}
    (below : ∀ lefts rights above state, start.Advances state →
      start.Advances (descend lefts rights above state)) (above : String) (left right : Place) :
    start.Advances (state.settle descend above left right) := by
  have marked := advances.markBoth .shallow left.node right.node
  rw [Outlook.settle]
  simp only
  split
  · exact marked.markBoth .deep left.node right.node
  · exact below _ _ _ _ (marked.compareTexts _ left.node right.node)

theorem Advances.matchSiblings (choice : Choice) (depth : Nat) (lefts rights : List Place)
    (above : String) (advances : start.Advances state) :
    start.Advances (state.matchSiblings choice depth lefts rights above) := by
  induction depth generalizing lefts rights above state with
  | zero => exact advances
  | succ depth inductionHypothesis =>
      rw [Outlook.matchSiblings]
      refine List.foldlRecOn _ _ advances fun current here pair _ => ?_
      split
      · exact here.settle (fun lefts rights above _ => inductionHypothesis lefts rights above)
          above _ _
      · exact here

theorem Advances.keys_eq (advances : start.Advances state) (side : Side) :
    state.keys side = start.keys side :=
  funext (Visits.Alike.keys_eq advances.config (advances.alike side))

end Advances

/-! ## Trees of siblings of different signatures -/

/-- Neither kept siblings nor, anywhere below them, two kept siblings have equal signatures. -/
structure AreUnlikeThroughout (outlook : Outlook) (side : Side) (nodes : List Node) : Prop where
  here : AreUnlike ((outlook.kept side nodes).map (outlook.keys side))
  below : ∀ node ∈ nodes, ∀ lower ∈ node.preorder, AreUnlike (outlook.childKeys side lower)

theorem AreUnlikeThroughout.children {outlook : Outlook} {side : Side} {nodes : List Node}
    (unlike : outlook.AreUnlikeThroughout side nodes) {node : Node} (member : node ∈ nodes) :
    outlook.AreUnlikeThroughout side node.children := by
  refine ⟨unlike.below node member node node.mem_preorder_self, fun child inChildren lower => ?_⟩
  intro inChild
  exact unlike.below node member lower (Node.mem_preorder_of_mem_children inChildren inChild)

section Agreement

variable {start state : Outlook} {choice other : Choice}

/-- Whatever is still unvisited was kept. -/
theorem Advances.areUnlike (advances : start.Advances state) (prepared : start.Prepared)
    {side : Side} {places : List Place}
    (unlike : start.AreUnlikeThroughout side (places.map Place.node)) :
    AreUnlike (state.unvisitedKeys side places) := by
  have keys_eq : state.unvisitedKeys side places =
      ((places.map Place.node).filter (state.visits side).isUnvisited).map (start.keys side) := by
    rw [← unvisited_map_node, List.map_map, Outlook.unvisitedKeys, advances.keys_eq]
    rfl
  have unvisited_kept : ((places.map Place.node).filter (state.visits side).isUnvisited).Sublist
      (start.kept side (places.map Place.node)) := by
    refine List.monotone_filter_right _ fun node isUnvisited => ?_
    rw [← (prepared side).isUnvisited_eq]
    by_contra visited
    rw [advances.visited side node (Bool.not_eq_true _ ▸ visited)] at isUnvisited
    cases isUnvisited
  rw [keys_eq]
  exact List.Nodup.sublist ((unvisited_kept.map _).map _) unlike.here

theorem Advances.pairs_eq (advances : start.Advances state) (prepared : start.Prepared)
    (agrees : choice.AgreesOnUnlike other) {lefts rights : List Place}
    (leftsUnlike : start.AreUnlikeThroughout .first (lefts.map Place.node))
    (rightsUnlike : start.AreUnlikeThroughout .second (rights.map Place.node)) :
    state.pairs choice lefts rights = state.pairs other lefts rights := by
  rw [Outlook.pairs, Outlook.pairs, agrees _ _ (advances.areUnlike prepared leftsUnlike)
    (advances.areUnlike prepared rightsUnlike)]

theorem Advances.settle_eq (advances : start.Advances state)
    {descend descend' : List Place → List Place → String → Outlook → Outlook}
    {left right : Place}
    (below : ∀ above state, start.Advances state →
      descend left.children right.children above state =
        descend' left.children right.children above state) (above : String) :
    state.settle descend above left right = state.settle descend' above left right := by
  have marked := advances.markBoth .shallow left.node right.node
  rw [Outlook.settle, Outlook.settle]
  simp only
  rw [below _ _ (marked.compareTexts _ left.node right.node)]

/-- The same pairs are made of the siblings, and below each of them. -/
theorem Advances.matchSiblings_eq (prepared : start.Prepared)
    (agrees : choice.AgreesOnUnlike other) (depth : Nat) {lefts rights : List Place}
    (leftsUnlike : start.AreUnlikeThroughout .first (lefts.map Place.node))
    (rightsUnlike : start.AreUnlikeThroughout .second (rights.map Place.node)) (above : String)
    (advances : start.Advances state) :
    state.matchSiblings choice depth lefts rights above =
      state.matchSiblings other depth lefts rights above := by
  induction depth generalizing lefts rights above state with
  | zero => rfl
  | succ depth inductionHypothesis =>
      rw [Outlook.matchSiblings, Outlook.matchSiblings,
        advances.pairs_eq prepared agrees leftsUnlike rightsUnlike]
      -- Both runs stay together, in states that one can get to from the start.
      refine (List.foldl_rel (r := fun current current' => start.Advances current ∧
        current = current') ⟨advances, rfl⟩ ?_).2
      rintro pair _ current _ ⟨here, rfl⟩
      split
      · rename_i left right atLeft atRight
        have leftChildren : start.AreUnlikeThroughout .first (left.children.map Place.node) := by
          rw [Place.children_map_node]
          exact leftsUnlike.children (List.mem_map_of_mem (List.mem_of_getElem? atLeft))
        have rightChildren :
            start.AreUnlikeThroughout .second (right.children.map Place.node) := by
          rw [Place.children_map_node]
          exact rightsUnlike.children (List.mem_map_of_mem (List.mem_of_getElem? atRight))
        refine ⟨here.settle (fun lefts rights above _ =>
          Advances.matchSiblings choice depth lefts rights above) above left right, ?_⟩
        exact here.settle_eq (fun above _ =>
          inductionHypothesis leftChildren rightChildren above) above
      · exact ⟨here, rfl⟩

end Agreement

end Outlook

/-! ## Whole comparisons -/

/-- Nowhere in a tree do two kept siblings have equal signatures. -/
def Outlook.HasUnlikeSiblings (outlook : Outlook) (side : Side) (root : Node) : Prop :=
  ∀ node ∈ root.preorder, AreUnlike (outlook.childKeys side node)

instance (outlook : Outlook) (side : Side) (root : Node) :
    Decidable (outlook.HasUnlikeSiblings side root) := by
  unfold Outlook.HasUnlikeSiblings
  infer_instance

section Whole

variable {config : Config} {firstRules secondRules : List Rule} {first second : Node}

theorem Outlook.HasUnlikeSiblings.throughout {outlook : Outlook} {side : Side} {root : Node}
    (unlike : outlook.HasUnlikeSiblings side root) :
    outlook.AreUnlikeThroughout side ([Place.root root].map Place.node) := by
  constructor
  · have atMostOne : (outlook.kept side [root]).Sublist [root] := List.filter_sublist
    exact List.Nodup.sublist ((atMostOne.map _).map _) (List.nodup_singleton _)
  · intro node member
    rw [List.mem_singleton.1 member]
    exact unlike

theorem plainOutcome_eq {choice other : Choice} (agrees : choice.AgreesOnUnlike other)
    (unlike : ∀ side, (ruledOutlook config firstRules secondRules first second).HasUnlikeSiblings
      side (bySide first second side)) (trace : Trace) :
    plainOutcome config choice firstRules secondRules first second trace =
      plainOutcome config other firstRules secondRules first second trace := by
  have matched_eq :
      (ruledOutlook config firstRules secondRules first second).matchTrees choice first second =
        (ruledOutlook config firstRules secondRules first second).matchTrees other first second :=
    Outlook.Advances.matchSiblings_eq
      (ruledOutlook_prepared config firstRules secondRules first second) agrees (first.height + 1)
      (unlike .first).throughout (unlike .second).throughout "" (Outlook.Advances.refl _)
  rw [plainOutcome, plainOutcome, matched_eq]

/-- Where no two kept siblings have equal signature keys, in either tree, both policies leave
the same trace and the same records, if the solver finds complete assignments of least cost. -/
theorem outcome_optimal_eq_greedy {solve : Solver Rat} (exact : solve.IsExact)
    (unlike : ∀ side, (ruledOutlook config firstRules secondRules first second).HasUnlikeSiblings
      side (bySide first second side)) (trace : Trace) :
    (compareTrees config (Policy.optimalWith solve) firstRules secondRules first second
        trace).outcome =
      (compareTrees config Policy.greedy firstRules secondRules first second trace).outcome :=
  calc (compareTrees config (Policy.optimalWith solve) firstRules secondRules first second
        trace).outcome
      = plainOutcome config (optimalChoice solve) firstRules secondRules first second trace :=
        outcome_of_follows (optimalWith_follows solve) config.cacheSize config.cacheSize_pos trace
    _ = plainOutcome config greedyChoice firstRules secondRules first second trace :=
        plainOutcome_eq (optimalChoice_agreesOnUnlike exact) unlike trace
    _ = (compareTrees config Policy.greedy firstRules secondRules first second trace).outcome :=
        (outcome_of_follows greedy_follows config.cacheSize config.cacheSize_pos trace).symm

end Whole

/-- `<log><at/>…<at/><line/></log>`, the texts as given. -/
def stampedLog (times : List String) (text : String) : Node :=
  ⟨"log", [], times.zipIdx.map (fun entry => ⟨"at", [], [], entry.1, [entry.2], none⟩) ++
    [⟨"line", [], [], text, [times.length], none⟩], "", [], none⟩

/-- Two time stamps have equal signatures, but a rule takes all of them out. -/
theorem outcome_stampedLog :
    (compareTrees .standard (Policy.optimalWith Assignment.exhaustive) (skipping "at")
          (skipping "at") (stampedLog ["1", "2"] "x") (stampedLog ["3"] "y") {}).outcome =
        (compareTrees .standard Policy.greedy (skipping "at") (skipping "at")
          (stampedLog ["1", "2"] "x") (stampedLog ["3"] "y") {}).outcome ∧
      findings .standard Policy.greedy (skipping "at") (skipping "at")
          (stampedLog ["1", "2"] "x") (stampedLog ["3"] "y") =
        [⟨"Text of XML node <log><line>", "x", "y"⟩] := by
  refine ⟨outcome_optimal_eq_greedy exhaustive_isExact ?_ {}, by decide +kernel⟩
  intro side
  cases side <;> decide +kernel

end XmlCollation.Compare
