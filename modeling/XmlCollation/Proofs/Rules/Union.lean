import Mathlib.Data.List.Sort
import Mathlib.Data.String.Basic
import XmlCollation.Proofs.Compare.Refinement
import XmlCollation.Proofs.Compare.Transport
import XmlCollation.Proofs.Tree.Trails

/-!
Contract: the rules of a comparison, read as a declaration.

Owns:
- what a rule takes out of a tree, told by the trail that leads to a node and by the
  node alone;
- the records that a list of rules leaves: the union of what the rules take out, in one
  form for all lists of the same rules;
- comparisons under records that take the same things out, which find the same.

Does not own: the wildcards of selectors, or the conditions on values.
-/

namespace XmlCollation.Compare

open XmlCollation.Tree
open XmlCollation.Rules (otherSide)

/-! ## Records that take the same things out -/

/-- Outlooks of one configuration, under which the same things are taken out. -/
structure Outlook.Alike (outlook other : Outlook) : Prop where
  config : outlook.config = other.config
  visits : ∀ side, (outlook.visits side).Alike (other.visits side)

section Alike

variable {outlook other : Outlook} {policy : Policy}

theorem Outlook.Alike.keys_eq (alike : outlook.Alike other) (side : Side) :
    outlook.keys side = other.keys side := by
  funext node
  exact (alike.visits side).keys_eq alike.config node

theorem Outlook.Alike.kept_eq (alike : outlook.Alike other) (side : Side) :
    outlook.kept side = other.kept side := by
  funext nodes
  exact (alike.visits side).kept_eq nodes

theorem Outlook.Alike.images (alike : outlook.Alike other) :
    other.Images outlook (fun _ => id) fun _ => id where
  children _ _ := rfl
  kept side nodes := by
    rw [id, alike.kept_eq, List.map_id]
  keys side node := congrFun (alike.keys_eq side) node
  signature side node := (alike.visits side).signature_eq node

/-- Walks find the same. -/
theorem Outlook.Alike.walkSiblings_eq {β : Type} (alike : outlook.Alike other)
    (offered : policy.Offered) (prepared : outlook.Prepared) (otherPrepared : other.Prepared)
    (side : Side) (report : Report β) (above : String) (nodes others : List Node) :
    walkSiblings policy outlook side report above nodes others =
      walkSiblings policy other side report above nodes others :=
  walkSiblings_carried_same (alike.images.carries offered otherPrepared prepared side)
    (fun _ _ _ => rfl) (fun _ => rfl) above nodes others

end Alike

/-- Comparisons of the same trees that leave the same things out add the same differences
to their traces. -/
theorem trace_collectBoth_of_alike {policy : Policy} (offered : policy.Offered)
    {start other : Comparison} (ready : start.IsReady) (otherReady : other.IsReady)
    (sameRoot : ∀ side, (start.view side).root = (other.view side).root)
    (sameTrace : start.trace = other.trace) (alike : start.outlook.Alike other.outlook) :
    (start.matchTrees policy).collectBoth.trace = (other.matchTrees policy).collectBoth.trace := by
  have prepared {state : Comparison} (ready : state.IsReady) : state.outlook.Prepared := by
    intro side
    rw [visits_outlook]
    exact ready.prepared side
  have firstRoot : start.first.root = other.first.root := sameRoot .first
  have secondRoot : start.second.root = other.second.root := sameRoot .second
  have walks {β : Type} := @Outlook.Alike.walkSiblings_eq _ _ _ β alike offered (prepared ready)
    (prepared otherReady)
  rw [trace_collectBoth offered ready, trace_collectBoth offered otherReady, firstDifferences,
    secondDifferences, firstDifferences, secondDifferences, walks, walks, alike.config, firstRoot,
    secondRoot, sameTrace]

/-! ## Sorted names -/

namespace Visits

theorem addName_sorted (name : String) {names : List String} (sorted : names.Pairwise (· < ·)) :
    (addName name names).Pairwise (· < ·) := by
  induction names with
  | nil => exact List.pairwise_singleton _ _
  | cons head rest inductionHypothesis =>
      have headBefore := (List.pairwise_cons.1 sorted).1
      have restSorted := (List.pairwise_cons.1 sorted).2
      unfold addName
      by_cases same : name = head
      · rw [if_pos same]
        exact sorted
      · rw [if_neg same]
        by_cases before : name < head
        · rw [if_pos before]
          refine List.pairwise_cons.2 ⟨fun other member => ?_, sorted⟩
          rcases List.mem_cons.1 member with rfl | inRest
          · exact before
          · exact before.trans (headBefore other inRest)
        · rw [if_neg before]
          refine List.pairwise_cons.2 ⟨fun other member => ?_, inductionHypothesis restSorted⟩
          rcases (mem_addName name other rest).1 member with rfl | inRest
          · exact lt_of_le_of_ne (not_lt.1 before) (Ne.symm same)
          · exact headBefore other inRest

/-- The names excluded at each position stand in rising order, each of them once. -/
def NamesSorted (visits : Visits) : Prop :=
  ∀ position, (visits.recorded position).excluded.Pairwise (· < ·)

theorem namesSorted_nil : NamesSorted [] :=
  fun _ => List.Pairwise.nil

/-- Prepared records with sorted names are known by what they take out. -/
theorem Alike.recorded_eq {visits other : Visits} (alike : visits.Alike other)
    (prepared : visits.Prepared) (otherPrepared : other.Prepared) (sorted : visits.NamesSorted)
    (otherSorted : other.NamesSorted) (position : Position) :
    visits.recorded position = other.recorded position := by
  have skipped := alike.skipped position
  have mark : (visits.recorded position).mark = (other.recorded position).mark := by
    rw [prepared.mark_eq, otherPrepared.mark_eq, skipped]
  have difference :
      (visits.recorded position).difference = (other.recorded position).difference := by
    rw [prepared.difference_eq, otherPrepared.difference_eq]
  have excluded : (visits.recorded position).excluded = (other.recorded position).excluded :=
    (sorted position).eq_of_mem_iff (otherSorted position) (alike.excluded position)
  cases atPosition : visits.recorded position with
  | mk _ _ _ _ =>
      cases atOther : other.recorded position with
      | mk _ _ _ _ =>
          rw [atPosition, atOther] at mark difference excluded skipped
          simp only at mark difference excluded skipped
          rw [mark, difference, excluded, skipped]

end Visits

end XmlCollation.Compare

namespace XmlCollation.Rules

open XmlCollation.Text
open XmlCollation.Tree
open XmlCollation.Compare

/-! ## What a rule asks for -/

/-- A checked rule has the target and the condition of its declaration. -/
theorem parts_of_check {declared : Declared} {rule : Rule}
    (checked : Rule.check declared = .ok rule) :
    declared.target = .ok rule.target ∧ declared.condition = .ok rule.condition := by
  unfold Rule.check at checked
  cases parsed : Selector.parse declared.selector with
  | none =>
      rw [parsed] at checked
      cases checked
  | some selector =>
      cases target : declared.target with
      | error fault =>
          rw [parsed, target] at checked
          cases checked
      | ok found =>
          cases condition : declared.condition with
          | error fault =>
              rw [parsed, target, condition] at checked
              cases checked
          | ok asked =>
              rw [parsed, target, condition] at checked
              cases checked
              exact ⟨rfl, rfl⟩

/-- A declaration without a value asks for nothing, or is refused. -/
theorem condition_of_no_value {declared : Declared} (value : declared.value = none)
    {condition : Condition} (given : declared.condition = .ok condition) : condition = .always := by
  rw [Declared.condition, value] at given
  cases matchType : declared.matchType with
  | text =>
      rw [matchType] at given
      cases given
      rfl
  | containsText =>
      rw [matchType] at given
      cases given
      rfl
  | regex =>
      rw [matchType] at given
      cases given

/-- The rule takes out the element that a trail from the root leads to: it is a rule for
elements, its selector selects the trail, and its condition holds of the text, or of the
attribute that it names. -/
def Rule.TakesElement (rule : Rule) (trail : List Node) (node : Node) : Prop :=
  rule.selector.selects trail = true ∧
    ((rule.target = .nodeByText ∧ rule.condition.holds node.text = true) ∨
      ∃ name value, rule.target = .nodeByAttribute name ∧ node.get? name = some value ∧
        rule.condition.holds value = true)

/-- The rule takes an attribute, known by its lower-cased name, out of the element that a
trail leads to: the element has the attribute, and the condition holds of its value. -/
def Rule.TakesAttribute (rule : Rule) (trail : List Node) (node : Node) (name : String) : Prop :=
  rule.selector.selects trail = true ∧
    ∃ written value, rule.target = .attributeNamed written ∧ lowered written = name ∧
      node.get? written = some value ∧ rule.condition.holds value = true

theorem any_holds_iff (condition : Condition) (found : Option String) :
    found.any condition.holds = true ↔
      ∃ value, found = some value ∧ condition.holds value = true := by
  cases found <;> simp

/-- Among the rules for elements, a node is accepted by what it shows. -/
theorem takesElement_iff (rule : Rule) (trail : List Node) (node : Node) :
    rule.TakesElement trail node ↔
      rule.selector.selects trail = true ∧ rule.accepts node = true ∧
        ∀ name, rule.target ≠ .attributeNamed name := by
  rw [Rule.TakesElement, Rule.accepts]
  cases rule.target with
  | nodeByText => simp
  | nodeByAttribute name => simp [any_holds_iff]
  | attributeNamed name => simp

theorem takesAttribute_iff (rule : Rule) (trail : List Node) (node : Node) (name : String) :
    rule.TakesAttribute trail node name ↔
      rule.selector.selects trail = true ∧ rule.accepts node = true ∧
        ∃ written, rule.target = .attributeNamed written ∧ lowered written = name := by
  rw [Rule.TakesAttribute, Rule.accepts]
  cases rule.target with
  | nodeByText => simp
  | nodeByAttribute name => simp
  | attributeNamed written => simp [any_holds_iff, and_comm, and_left_comm]

/-! ## Chosen nodes -/

theorem chosenAll_eq_flatMap (rule : Rule) (above nodes : List Node) :
    rule.chosenAll above nodes = nodes.flatMap (rule.chosen above) := by
  induction nodes with
  | nil => rfl
  | cons node rest inductionHypothesis =>
      rw [Rule.chosenAll, inductionHypothesis, List.flatMap_cons]

/-- A node is chosen if it is the selected one at the top, or chosen below it. -/
theorem mem_chosen (rule : Rule) (above : List Node) (top node : Node) :
    node ∈ rule.chosen above top ↔
      (node = top ∧ rule.selector.selects (above ++ [top]) = true ∧ rule.accepts top = true) ∨
        ∃ child ∈ top.children, node ∈ rule.chosen (above ++ [top]) child := by
  obtain ⟨tag, attributes, children, text, position, line⟩ := top
  rw [Rule.chosen, chosenAll_eq_flatMap, ← Bool.and_eq_true]
  cases rule.selector.selects (above ++ [⟨tag, attributes, children, text, position, line⟩]) &&
    rule.accepts ⟨tag, attributes, children, text, position, line⟩ <;> simp

/-- The chosen nodes are those that a selected trail leads to and that are accepted. -/
theorem mem_chosen_iff (rule : Rule) (above : List Node) (top node : Node) :
    node ∈ rule.chosen above top ↔
      ∃ trail, top.LeadsTo trail node ∧ rule.selector.selects (above ++ trail) = true ∧
        rule.accepts node = true := by
  induction top using Node.childInduction generalizing above with
  | step top inductionHypothesis =>
      rw [mem_chosen]
      constructor
      · rintro (⟨rfl, selected, accepted⟩ | ⟨child, member, chosen⟩)
        · exact ⟨[node], .here node, selected, accepted⟩
        · obtain ⟨trail, leads, selected, accepted⟩ :=
            (inductionHypothesis child member (above ++ [top])).1 chosen
          refine ⟨top :: trail, .through member leads, ?_, accepted⟩
          rwa [List.append_assoc, List.singleton_append] at selected
      · rintro ⟨trail, leads, selected, accepted⟩
        cases leads with
        | here => exact .inl ⟨rfl, selected, accepted⟩
        | @through _ child _ trail member rest =>
            refine .inr ⟨child, member, (inductionHypothesis child member (above ++ [top])).2 ?_⟩
            refine ⟨trail, rest, ?_, accepted⟩
            rwa [List.append_assoc, List.singleton_append]

section Trail

variable {root node : Node} {trail : List Node}

/-- In a tree with distinct positions, some node at the position of another one is chosen
if that one is. -/
theorem exists_chosen_iff (distinct : root.HasDistinctPositions) (leads : root.LeadsTo trail node)
    (rule : Rule) :
    (∃ chosen ∈ rule.chosen [] root, chosen.position = node.position) ↔
      rule.selector.selects trail = true ∧ rule.accepts node = true := by
  constructor
  · rintro ⟨chosen, member, same⟩
    obtain ⟨otherTrail, otherLeads, selected, accepted⟩ :=
      (mem_chosen_iff rule [] root chosen).1 member
    obtain ⟨rfl, rfl⟩ := otherLeads.unique distinct leads same
    exact ⟨selected, accepted⟩
  · rintro ⟨selected, accepted⟩
    exact ⟨node, (mem_chosen_iff rule [] root node).2 ⟨trail, leads, selected, accepted⟩, rfl⟩

theorem skips_iff (distinct : root.HasDistinctPositions) (leads : root.LeadsTo trail node)
    (rule : Rule) : rule.Skips root node.position ↔ rule.TakesElement trail node := by
  rw [Rule.Skips, exists_chosen_iff distinct leads, takesElement_iff, and_assoc]

theorem excludes_iff (distinct : root.HasDistinctPositions) (leads : root.LeadsTo trail node)
    (rule : Rule) (name : String) :
    rule.Excludes root node.position name ↔ rule.TakesAttribute trail node name := by
  rw [Rule.Excludes, exists_chosen_iff distinct leads, takesAttribute_iff, and_assoc]

end Trail

/-! ## Lists of rules -/

theorem namesSorted_mark {visits : Visits} (sorted : visits.NamesSorted) (rule : Rule)
    (node : Node) : (rule.mark visits node).NamesSorted := by
  intro position
  unfold Rule.mark
  cases rule.target with
  | nodeByText =>
      rw [Visits.recorded_skip]
      split <;> exact sorted position
  | nodeByAttribute _ =>
      rw [Visits.recorded_skip]
      split <;> exact sorted position
  | attributeNamed name =>
      rw [Visits.recorded_exclude]
      split
      · exact Visits.addName_sorted _ (sorted position)
      · exact sorted position

theorem namesSorted_markRules {visits : Visits} (sorted : visits.NamesSorted) (rules : List Rule)
    (root : Node) : (markRules rules root visits).NamesSorted := by
  have onNodes (rule : Rule) (nodes : List Node) (state : Visits) (before : state.NamesSorted) :
      (nodes.foldl rule.mark state).NamesSorted := by
    induction nodes generalizing state with
    | nil => exact before
    | cons node rest inductionHypothesis =>
        exact inductionHypothesis _ (namesSorted_mark before rule node)
  induction rules generalizing visits with
  | nil => exact sorted
  | cons rule rest inductionHypothesis =>
      exact inductionHypothesis (onNodes rule _ visits sorted)

/-- Lists of the same rules leave the same records. -/
theorem recorded_markRules_eq {rules others : List Rule}
    (same : ∀ rule, rule ∈ rules ↔ rule ∈ others) (root : Node) (position : Position) :
    (markRules rules root []).recorded position = (markRules others root []).recorded position :=
  (alike_markRules same root []).recorded_eq
    (prepared_markRules Visits.prepared_nil rules root)
    (prepared_markRules Visits.prepared_nil others root)
    (namesSorted_markRules Visits.namesSorted_nil rules root)
    (namesSorted_markRules Visits.namesSorted_nil others root) position

/-- Records say of the node that a trail leads to what some rules ask for: it is skipped and
matched deeply if a rule takes it out, else kept and unvisited, and the names excluded on it
are those of the attributes that rules take out. -/
structure IsUnion (rules : List Rule) (trail : List Node) (node : Node) (visits : Visits) :
    Prop where
  taken :
    (visits.isSkipped node = true ∧ visits.markOf node = .deep) ↔
      ∃ rule ∈ rules, rule.TakesElement trail node
  kept :
    (¬∃ rule ∈ rules, rule.TakesElement trail node) →
      visits.isSkipped node = false ∧ visits.markOf node = .unvisited
  excluded : ∀ name,
    name ∈ visits.excludedOf node ↔ ∃ rule ∈ rules, rule.TakesAttribute trail node name

theorem isUnion_markRules {root node : Node} {trail : List Node}
    (distinct : root.HasDistinctPositions) (leads : root.LeadsTo trail node) (rules : List Rule) :
    IsUnion rules trail node (markRules rules root []) := by
  have skipped : (markRules rules root []).isSkipped node = true ↔
      ∃ rule ∈ rules, rule.TakesElement trail node := by
    rw [Visits.isSkipped, skipped_markRules]
    simp [Visits.recorded_nil, skips_iff distinct leads]
  have mark : (markRules rules root []).markOf node =
      if (markRules rules root []).isSkipped node then .deep else .unvisited :=
    (prepared_markRules Visits.prepared_nil rules root).mark_eq node.position
  refine ⟨?_, ?_, ?_⟩
  · rw [← skipped]
    refine and_iff_left_of_imp fun isSkipped => ?_
    rw [mark, if_pos isSkipped]
  · intro nobody
    have kept : (markRules rules root []).isSkipped node = false := by
      rw [← Bool.not_eq_true, skipped]
      exact nobody
    refine ⟨kept, ?_⟩
    rw [mark, kept]
    rfl
  · intro name
    rw [Visits.excludedOf, excluded_markRules]
    simp [Visits.recorded_nil, excludes_iff distinct leads]

/-! ## Comparisons under rules -/

/-- Two comparisons hold the same records, and their traces are the same once they were run. -/
structure RunAlike (state other : Comparison) : Prop where
  recorded : ∀ side position,
    (state.view side).visits.recorded position = (other.view side).visits.recorded position
  trace : ∀ policy : Policy, policy.Offered →
    (state.matchTrees policy).collectBoth.trace = (other.matchTrees policy).collectBoth.trace

/-- A comparison in which some rules were applied and nothing was matched yet. -/
structure IsRuled (rules : List Rule) (start state : Comparison) : Prop where
  same : SameButRecords start state
  visits : ∀ side, (state.view side).visits = markRules rules (start.view side).root []

section Ruled

variable {config : Config} {first second : Node} {trace : Trace} {rules others : List Rule}
  {state other : Comparison}

theorem isRuled_start (config : Config) (first second : Node) (trace : Trace) :
    IsRuled [] (Comparison.start config first second trace)
      (Comparison.start config first second trace) :=
  ⟨⟨rfl, fun _ => rfl, rfl, rfl⟩, fun side => by cases side <;> rfl⟩

/-- Rules that are applied later come to those that were applied before. -/
theorem IsRuled.applyRules {start : Comparison} (ruled : IsRuled rules start state)
    (firstRules secondRules : List Rule) :
    IsRuled (rules ++ (firstRules ++ secondRules)) start
      (applyRules firstRules secondRules state) := by
  obtain ⟨same, visits⟩ := applyRules_records firstRules secondRules state
  refine ⟨ruled.same.trans same, fun side => ?_⟩
  rw [visits, ruled.visits, ruled.same.root, markRules, markRules, markRules,
    List.foldl_append (l := rules)]

theorem IsRuled.isReady (firstDistinct : first.HasDistinctPositions)
    (secondDistinct : second.HasDistinctPositions)
    (ruled : IsRuled rules (Comparison.start config first second trace) state) :
    state.IsReady := by
  refine ⟨?_, ?_, ?_⟩
  · intro side
    rw [ruled.visits]
    exact prepared_markRules Visits.prepared_nil rules _
  · rw [ruled.same.caches]
    exact ⟨ContentCache.sound_empty _, ContentCache.sound_empty _⟩
  · intro side
    rw [ruled.same.root]
    cases side with
    | first => exact firstDistinct
    | second => exact secondDistinct

/-- Which rules were applied is all that a comparison depends on. -/
theorem IsRuled.runAlike (firstDistinct : first.HasDistinctPositions)
    (secondDistinct : second.HasDistinctPositions)
    (ruled : IsRuled rules (Comparison.start config first second trace) state)
    (otherRuled : IsRuled others (Comparison.start config first second trace) other)
    (same : ∀ rule, rule ∈ rules ↔ rule ∈ others) : RunAlike state other := by
  refine ⟨?_, ?_⟩
  · intro side position
    rw [ruled.visits, otherRuled.visits]
    exact recorded_markRules_eq same _ position
  · intro policy offered
    refine trace_collectBoth_of_alike offered (ruled.isReady firstDistinct secondDistinct)
      (otherRuled.isReady firstDistinct secondDistinct) ?_ ?_ ⟨?_, ?_⟩
    · intro side
      rw [ruled.same.root, otherRuled.same.root]
    · rw [ruled.same.trace, otherRuled.same.trace]
    · exact ruled.same.config.trans otherRuled.same.config.symm
    · intro side
      rw [visits_outlook, visits_outlook, ruled.visits, otherRuled.visits]
      exact alike_markRules same _ []

/-- Rules leave in each tree the union of what they take out of it, told node by node from
the trail that leads there.  Nothing else about them matters: other lists of the same rules,
in another order, repeated, or given by the other document, leave the same records and
lead to the same trace, and so does applying rules once more that were applied already. -/
theorem applyRules_eq_union (firstDistinct : first.HasDistinctPositions)
    (secondDistinct : second.HasDistinctPositions) (config : Config) (trace : Trace)
    (firstRules secondRules : List Rule) :
    let start := Comparison.start config first second trace
    let ruled := applyRules firstRules secondRules start
    (∀ side trail node, (start.view side).root.LeadsTo trail node →
        IsUnion (firstRules ++ secondRules) trail node (ruled.view side).visits) ∧
      (∀ others others' : List Rule,
        (∀ rule, rule ∈ others ++ others' ↔ rule ∈ firstRules ++ secondRules) →
          RunAlike (applyRules others others' start) ruled) ∧
      ∀ others others' : List Rule,
        (∀ rule ∈ others ++ others', rule ∈ firstRules ++ secondRules) →
          RunAlike (applyRules others others' ruled) ruled := by
  intro start ruled
  have fresh : IsRuled [] start start := isRuled_start config first second trace
  have isRuled : IsRuled (firstRules ++ secondRules) start ruled :=
    fresh.applyRules firstRules secondRules
  refine ⟨?_, ?_, ?_⟩
  · intro side trail node leads
    rw [isRuled.visits]
    refine isUnion_markRules ?_ leads _
    cases side with
    | first => exact firstDistinct
    | second => exact secondDistinct
  · intro others others' same
    exact (fresh.applyRules others others').runAlike firstDistinct secondDistinct isRuled same
  · intro others others' known
    refine (isRuled.applyRules others others').runAlike firstDistinct secondDistinct isRuled ?_
    intro rule
    rw [List.mem_append (s := firstRules ++ secondRules)]
    exact ⟨fun member => member.elim id (known rule), .inl⟩

end Ruled

/-- The rules that some declarations give, without those that are refused. -/
def checkedRules (declarations : List Declared) : List Rule :=
  declarations.filterMap fun declared => (Rule.check declared).toOption

/-- `<at id="1">now</at>`. -/
def markedTime : Node :=
  ⟨"at", [("id", "1")], [], "now", [0], none⟩

/-- `<line ID="x"/>`. -/
def markedLine : Node :=
  ⟨"line", [("ID", "x")], [], "", [1], none⟩

/-- `<log><at id="1">now</at><line ID="x"/></log>`. -/
def markedLog : Node :=
  ⟨"log", [], [markedTime, markedLine], "", [], none⟩

/-- The time is skipped, by its text, and the identity of the line excluded. -/
def logRules : List Rule :=
  checkedRules
    [{ selector := "/log/at", value := some "now" },
      { selector := "line", effect := .attribute, attributeName := some "id" }]

theorem applyRules_markedLog :
    let start := Comparison.start .standard markedLog markedLog {}
    let ruled := applyRules logRules [] start
    (IsUnion logRules [markedLog, markedTime] markedTime ruled.first.visits ∧
        IsUnion logRules [markedLog, markedLine] markedLine ruled.first.visits) ∧
      (RunAlike (applyRules [] (logRules.reverse ++ logRules) start) ruled ∧
        RunAlike (applyRules logRules logRules ruled) ruled) ∧
      (ruled.first.visits.isSkipped markedTime = true ∧
        ruled.first.visits.excludedOf markedLine = ["id"]) := by
  intro start ruled
  have distinct : markedLog.HasDistinctPositions := by decide
  obtain ⟨union, rearranged, again⟩ :=
    applyRules_eq_union distinct distinct .standard {} logRules []
  have throughLog (node : Node) (member : node ∈ markedLog.children) :
      markedLog.LeadsTo [markedLog, node] node := .through member (.here node)
  refine ⟨⟨?_, ?_⟩, ⟨?_, ?_⟩, by decide +kernel, by decide +kernel⟩
  · have atTime := union .first _ _ (throughLog markedTime (by decide))
    rwa [List.append_nil] at atTime
  · have atLine := union .first _ _ (throughLog markedLine (by decide))
    rwa [List.append_nil] at atLine
  · refine rearranged [] (logRules.reverse ++ logRules) fun rule => ?_
    simp
  · refine again logRules logRules fun rule member => ?_
    simpa using member

end XmlCollation.Rules
