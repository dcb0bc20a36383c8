import XmlCollation.Collation
import XmlCollation.Proofs.Compare.Choice

/-!
Contract: comparison of trees without marks, caches and recorded differences.

Owns:
- the partner that the pairing of kept siblings gives to a sibling;
- walks over the tree of one side, which pass over pairs of equal content, may
  report a pair in place of everything below it, and report siblings without a
  partner;
- the walks that find the differences of the first and of the second tree.

Does not own: that a comparison finds what the walks find.
-/

namespace XmlCollation.Compare

open XmlCollation.Tree
open XmlCollation.Rules (Rule applyRules otherSide)

/-! ## Sides -/

/-- One of two values, by side. -/
def bySide {α : Type} (first second : α) : Side → α
  | .first => first
  | .second => second

theorem bySide_eta {α : Type} (values : Side → α) :
    bySide (values .first) (values .second) = values := by
  funext side
  cases side <;> rfl

/-! ## Partners -/

/-- The siblings of a side that no rule took out. -/
def Outlook.kept (outlook : Outlook) (side : Side) (nodes : List Node) : List Node :=
  (outlook.visits side).kept nodes

/-- The signature of a node of a side. -/
def Outlook.signature (outlook : Outlook) (side : Side) (node : Node) : String :=
  (outlook.visits side).signature node

/-- Whether a node of a side has the same content as a node of the other one, up to
normalisation. -/
def Outlook.sameContent (outlook : Outlook) (side : Side) (node other : Node) : Bool :=
  (outlook.keys side node).content == (outlook.keys (otherSide side) other).content

theorem sameContent_of_keys_eq {outlook : Outlook} {node other : Node}
    (equal : outlook.keys .first node = outlook.keys .second other) :
    outlook.sameContent .first node other = true :=
  beq_iff_eq.2 (congrArg SiblingKeys.content equal)

theorem sameContent_symm (outlook : Outlook) (side : Side) (node other : Node) :
    outlook.sameContent (otherSide side) other node = outlook.sameContent side node other := by
  cases side <;> exact Bool.beq_comm

/-- The side that is walked makes no difference to whether a pair has the same content. -/
theorem sameContent_side (outlook : Outlook) (nodes : Side → Node) (side : Side) :
    outlook.sameContent side (nodes side) (nodes (otherSide side)) =
      outlook.sameContent .first (nodes .first) (nodes .second) := by
  cases side with
  | first => rfl
  | second => exact sameContent_symm outlook .first (nodes .first) (nodes .second)

/-- The pairs of siblings, the index of the side first. -/
def Policy.pairsFrom (policy : Policy) (outlook : Outlook) (side : Side)
    (nodes others : List Node) : List (Nat × Nat) :=
  match side with
  | .first => policy.pairing outlook nodes others
  | .second => (policy.pairing outlook others nodes).map Prod.swap

/-- The partner of the kept sibling at an index, if it is paired. -/
def Policy.partner? (policy : Policy) (outlook : Outlook) (side : Side)
    (nodes others : List Node) (index : Nat) : Option Node :=
  ((policy.pairsFrom outlook side (outlook.kept side nodes)
    (outlook.kept (otherSide side) others)).lookup index).bind
      fun otherIndex => (outlook.kept (otherSide side) others)[otherIndex]?

/-! ## Walks -/

/-- What a walk reports: about a pair, if it is to stand in place of everything below
the pair, and about a node without a partner.  Both see the signature of the place. -/
structure Report (β : Type) where
  pair : String → Node → Node → Option (List β)
  lone : String → List β

section Walk

variable {β : Type} (policy : Policy) (outlook : Outlook) (side : Side) (report : Report β)

mutual

/-- The reports at and below a node and its partner; `above` is the signature of the
place above the node. -/
def walk (above : String) : Node → Node → List β
  | ⟨tag, attributes, children, text, position, line⟩, other =>
      let node : Node := ⟨tag, attributes, children, text, position, line⟩
      let signature := above ++ outlook.signature side node
      if outlook.sameContent side node other then []
      else
        match report.pair signature node other with
        | some found => found
        | none =>
            walkAll signature (policy.partner? outlook side children other.children) 0 children

/-- The reports at and below siblings, the kept ones counted from `index`. -/
def walkAll (above : String) (partner? : Nat → Option Node) (index : Nat) :
    List Node → List β
  | [] => []
  | node :: rest =>
      if (outlook.visits side).isSkipped node then walkAll above partner? index rest
      else
        (match partner? index with
          | some other => walk above node other
          | none => report.lone (above ++ outlook.signature side node)) ++
          walkAll above partner? (index + 1) rest

end

/-- The reports at and below siblings that are paired with others. -/
def walkSiblings (above : String) (nodes others : List Node) : List β :=
  walkAll policy outlook side report above (policy.partner? outlook side nodes others) 0 nodes

/-- The reports at and below a sibling, which may have a partner. -/
def walkSibling (above : String) (node : Node) : Option Node → List β
  | some other => walk policy outlook side report above node other
  | none => report.lone (above ++ outlook.signature side node)

theorem walk_eq (above : String) (node other : Node) :
    walk policy outlook side report above node other =
      if outlook.sameContent side node other then []
      else
        (report.pair (above ++ outlook.signature side node) node other).getD
          (walkSiblings policy outlook side report (above ++ outlook.signature side node)
            node.children other.children) := by
  obtain ⟨tag, attributes, children, text, position, line⟩ := node
  rw [walk, walkSiblings]
  cases report.pair (above ++ outlook.signature side ⟨tag, attributes, children, text, position, line⟩)
    ⟨tag, attributes, children, text, position, line⟩ other <;> rfl

theorem walkAll_eq (above : String) (partner? : Nat → Option Node) (index : Nat)
    (nodes : List Node) :
    walkAll policy outlook side report above partner? index nodes =
      ((outlook.kept side nodes).zipIdx index).flatMap fun entry =>
        walkSibling policy outlook side report above entry.1 (partner? entry.2) := by
  induction nodes generalizing index with
  | nil => rfl
  | cons node rest inductionHypothesis =>
      rw [walkAll]
      cases skipped : (outlook.visits side).isSkipped node with
      | true =>
          rw [if_pos rfl, inductionHypothesis]
          simp [Outlook.kept, Visits.kept, skipped]
      | false =>
          rw [if_neg (by simp), inductionHypothesis]
          simp only [Outlook.kept, Visits.kept, skipped, List.filter_cons, Bool.not_false,
            if_true, List.zipIdx_cons, List.flatMap_cons]
          cases partner? index <;> rfl

/-- Siblings are walked one after the other, each with its partner. -/
theorem walkSiblings_eq (above : String) (nodes others : List Node) :
    walkSiblings policy outlook side report above nodes others =
      (outlook.kept side nodes).zipIdx.flatMap fun entry =>
        walkSibling policy outlook side report above entry.1
          (policy.partner? outlook side nodes others entry.2) :=
  walkAll_eq policy outlook side report above _ 0 nodes

variable {report}

/-- A walk over siblings that speaks of every sibling without a partner reports nothing if
and only if each sibling has one and nothing is reported of the pairs. -/
theorem walkSiblings_silent_iff (speaks : ∀ signature, report.lone signature ≠ [])
    (above : String) (nodes others : List Node) :
    walkSiblings policy outlook side report above nodes others = [] ↔
      ∀ (index : Nat) (node : Node), (outlook.kept side nodes)[index]? = some node →
        ∃ other, policy.partner? outlook side nodes others index = some other ∧
          walk policy outlook side report above node other = [] := by
  rw [walkSiblings_eq, List.flatMap_eq_nil_iff]
  constructor
  · intro silent index node atIndex
    have here := silent (node, index) (List.mem_zipIdx_iff_getElem?.2 atIndex)
    cases partner : policy.partner? outlook side nodes others index with
    | none =>
        rw [partner] at here
        exact absurd here (speaks _)
    | some other =>
        rw [partner] at here
        exact ⟨other, rfl, here⟩
  · rintro silent ⟨node, index⟩ member
    obtain ⟨other, partner, here⟩ := silent index node (List.mem_zipIdx_iff_getElem?.1 member)
    rw [partner]
    exact here

end Walk

/-! ## Differences of both trees -/

/-- In the first tree, unequal texts of a pair stand in place of everything below it. -/
def firstReport (config : Config) : Report Difference where
  pair signature node other :=
    if textKey config node = textKey config other then none
    else some [textDifference signature node other]
  lone signature := [presenceDifference .first signature]

/-- In the second tree, only missing partners are reported. -/
def secondReport : Report Difference where
  pair _ _ _ := none
  lone signature := [presenceDifference .second signature]

/-- What is reported of the tree of a side. -/
def sideReport (config : Config) : Side → Report Difference
  | .first => firstReport config
  | .second => secondReport

theorem sideReport_lone (config : Config) (side : Side) (signature : String) :
    (sideReport config side).lone signature = [presenceDifference side signature] := by
  cases side <;> rfl

/-- Of a pair, nothing is reported but its texts. -/
theorem sideReport_pair_congr (config : Config) (side : Side) (signature : String)
    {node node' other other' : Node} (nodeText : node'.text = node.text)
    (otherText : other'.text = other.text) :
    (sideReport config side).pair signature node' other' =
      (sideReport config side).pair signature node other := by
  cases side with
  | first =>
      have pair_eq (left right : Node) : (sideReport config .first).pair signature left right =
          if config.normalize left.text = config.normalize right.text then none
          else some [⟨"Text of XML node " ++ signature, left.text, right.text⟩] := rfl
      rw [pair_eq, pair_eq, nodeText, otherText]
  | second => rfl

/-- The differences of the first tree, its root and the other one as only children. -/
def firstDifferences (policy : Policy) (outlook : Outlook) (first second : Node) :
    List Difference :=
  walkSiblings policy outlook .first (firstReport outlook.config) "" [first] [second]

/-- The differences of the second tree. -/
def secondDifferences (policy : Policy) (outlook : Outlook) (first second : Node) :
    List Difference :=
  walkSiblings policy outlook .second secondReport "" [second] [first]

/-- The differences of the tree of a side. -/
def sideDifferences (policy : Policy) (outlook : Outlook) (roots : Side → Node) (side : Side) :
    List Difference :=
  walkSiblings policy outlook side (sideReport outlook.config side) "" [roots side]
    [roots (otherSide side)]

/-! ## What comparisons find -/

/-- What a comparison sees once the rules are applied. -/
def ruledOutlook (config : Config) (firstRules secondRules : List Rule) (first second : Node) :
    Outlook :=
  (applyRules firstRules secondRules (Comparison.start config first second {})).outlook

/-- The rules take out the root of a side. -/
def rootSkipped (config : Config) (firstRules secondRules : List Rule) (first second : Node)
    (side : Side) : Bool :=
  ((ruledOutlook config firstRules secondRules first second).visits side).isSkipped
    (bySide first second side)

/-- The differences that a comparison of two trees finds. -/
def findings (config : Config) (policy : Policy) (firstRules secondRules : List Rule)
    (first second : Node) : List Difference :=
  (compareTrees config policy firstRules secondRules first second {}).trace.differences

end XmlCollation.Compare
