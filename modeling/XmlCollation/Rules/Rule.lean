import XmlCollation.Pattern.Search
import XmlCollation.Rules.Selector
import XmlCollation.Text.Value

/-!
Contract: rules that take places out of a comparison.

Owns:
- rules as they are declared, and their shape in messages;
- checked rules, with the selector and the condition that the declaration gives;
- the reasons why a declaration is refused, in the order in which they are looked for;
- the choice of nodes by a rule.

Does not own: what is recorded about chosen nodes.
-/

namespace XmlCollation.Rules

open XmlCollation.Text
open XmlCollation.Tree

/-! ## Declarations -/

/-- What a rule takes out: a whole element or one attribute. -/
inductive Effect where
  | node
  | attribute
deriving DecidableEq, Repr

def Effect.name : Effect → String
  | .node => "node"
  | .attribute => "attribute"

/-- How a value is compared with the expected one. -/
inductive MatchType where
  | text
  | containsText
  | regex
deriving DecidableEq, Repr

def MatchType.name : MatchType → String
  | .text => "text"
  | .containsText => "contains_text"
  | .regex => "regex"

def Effect.label : Effect → String
  | .node => "NODE"
  | .attribute => "ATTRIBUTE"

def MatchType.label : MatchType → String
  | .text => "TEXT"
  | .containsText => "CONTAINS_TEXT"
  | .regex => "REGEX"

/-- Why a rule is refused. -/
inductive RuleFault where
  | unknownMatchType (name : String)
  | unknownEffect (name : String)
  | badSelector (written : String)
  | missingAttribute
  | missingPattern
  | badPattern (written : String) (refusal : Pattern.Refusal)
deriving DecidableEq, Repr

def RuleFault.message : RuleFault → String
  | .unknownMatchType name => quoted name ++ " is not a valid MatchType"
  | .unknownEffect name => quoted name ++ " is not a valid SkipEffect"
  | .badSelector written => "invalid node selector: " ++ quoted written
  | .missingAttribute => "attribute rules need the name of the attribute to skip"
  | .missingPattern => "regex rules need a value pattern"
  | .badPattern written (.malformed fault) =>
      "invalid regex " ++ quoted written ++ ": " ++ fault.message written.toList
  | .badPattern written refusal => refusal.message written.toList

def Effect.ofName (name : String) : Except RuleFault Effect :=
  match [Effect.node, .attribute].find? (·.name == name) with
  | some effect => .ok effect
  | none => .error (.unknownEffect name)

def MatchType.ofName (name : String) : Except RuleFault MatchType :=
  match [MatchType.text, .containsText, .regex].find? (·.name == name) with
  | some matchType => .ok matchType
  | none => .error (.unknownMatchType name)

/-- A rule as it is declared. -/
structure Declared where
  selector : String
  effect : Effect := .node
  attributeName : Option String := none
  value : Option String := none
  matchType : MatchType := .text
deriving DecidableEq, Repr

/-- A text that may be missing, in messages. -/
def shownOption : Option String → String
  | none => Value.none.shown
  | some text => quoted text

def shownChoice (type label name : String) : String :=
  "<" ++ type ++ "." ++ label ++ ": " ++ quoted name ++ ">"

def Declared.shown (rule : Declared) : String :=
  "SkipRule(selector=" ++ quoted rule.selector
    ++ ", effect=" ++ shownChoice "SkipEffect" rule.effect.label rule.effect.name
    ++ ", attribute=" ++ shownOption rule.attributeName
    ++ ", value=" ++ shownOption rule.value
    ++ ", match_type=" ++ shownChoice "MatchType" rule.matchType.label rule.matchType.name ++ ")"

/-! ## Conditions -/

/-- What is asked of a value. -/
inductive Condition where
  | always
  | equals (expected : String)
  | contains (expected : String)
  | finds (expression : Pattern.Expression)
deriving DecidableEq, Repr

def hasPart (wanted : List Char) : List Char → Bool
  | [] => wanted.isEmpty
  | c :: rest => wanted.isPrefixOf (c :: rest) || hasPart wanted rest

/-- Whether a value meets a condition.  Equality is that of trimmed texts. -/
def Condition.holds (condition : Condition) (actual : String) : Bool :=
  match condition with
  | .always => true
  | .equals expected => trim actual.toList == trim expected.toList
  | .contains expected => hasPart expected.toList actual.toList
  | .finds expression => expression.foundIn actual.toList

/-- The condition of a declaration.  A pattern has to be given where one is to be found. -/
def Declared.condition (rule : Declared) : Except RuleFault Condition :=
  match rule.matchType, rule.value with
  | .regex, none => .error .missingPattern
  | .regex, some written =>
      match Pattern.Expression.read written.toList with
      | .ok expression => .ok (.finds expression)
      | .error refusal => .error (.badPattern written refusal)
  | _, none => .ok .always
  | .text, some expected => .ok (.equals expected)
  | .containsText, some expected => .ok (.contains expected)

/-! ## Checked rules -/

/-- What a checked rule does: it skips elements, all or those with an attribute, or
it excludes an attribute. -/
inductive Target where
  | nodeByText
  | nodeByAttribute (name : String)
  | attributeNamed (name : String)
deriving DecidableEq, Repr

/-- A rule that can be applied. -/
structure Rule where
  declared : Declared
  selector : Selector
  target : Target
  condition : Condition
deriving DecidableEq, Repr

/-- The target of a declaration.  An attribute to exclude has to be named. -/
def Declared.target (rule : Declared) : Except RuleFault Target :=
  match rule.effect, rule.attributeName with
  | .node, none => .ok .nodeByText
  | .node, some name => .ok (.nodeByAttribute name)
  | .attribute, none => .error .missingAttribute
  | .attribute, some name =>
      if name.isEmpty then .error .missingAttribute else .ok (.attributeNamed name)

/-- Checks a declaration: its selector, then its attribute, then its pattern. -/
def Rule.check (declared : Declared) : Except RuleFault Rule := do
  let selector ←
    match Selector.parse declared.selector with
    | some selector => pure selector
    | none => throw (.badSelector declared.selector)
  let target ← declared.target
  let condition ← declared.condition
  return ⟨declared, selector, target, condition⟩

/-- Whether a rule chooses a node, apart from its path. -/
def Rule.accepts (rule : Rule) (node : Node) : Bool :=
  match rule.target with
  | .nodeByText => rule.condition.holds node.text
  | .nodeByAttribute name => (node.get? name).any rule.condition.holds
  | .attributeNamed name => (node.get? name).any rule.condition.holds

mutual

/-- The nodes at and below a node that a rule chooses, in document order.  `above`
is the path to the parent of the node. -/
def Rule.chosen (rule : Rule) (above : List Node) : Node → List Node
  | ⟨tag, attributes, children, text, position, line⟩ =>
      let node : Node := ⟨tag, attributes, children, text, position, line⟩
      let path := above ++ [node]
      let below := rule.chosenAll path children
      if rule.selector.selects path && rule.accepts node then node :: below else below

/-- The chosen nodes at and below several siblings. -/
def Rule.chosenAll (rule : Rule) (above : List Node) : List Node → List Node
  | [] => []
  | node :: rest => rule.chosen above node ++ rule.chosenAll above rest

end

end XmlCollation.Rules
