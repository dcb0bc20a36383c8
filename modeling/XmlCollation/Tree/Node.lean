import XmlCollation.Text.Blank
import XmlCollation.Text.Case

/-!
Contract: the tree of elements that comparisons work on.

Owns:
- nodes with tag, attributes, children, text, position and line, and their
  decidable equality;
- look-up of attributes without regard to letter case, local names, and the
  nodes of a tree in document order.

Does not own: where nodes come from, or what a comparison learns about them.
-/

namespace XmlCollation.Tree

open XmlCollation.Text

/-- The child indexes that lead from the root to a node. -/
abbrev Position := List Int

/-- One element. -/
structure Node where
  tag : String
  attributes : List (String × String)
  children : List Node
  text : String
  position : Position
  line : Option Int
deriving Repr

instance : Inhabited Node := ⟨⟨"", [], [], "", [], none⟩⟩

/-! ## Equality -/

mutual

private def Node.same : Node → Node → Bool
  | ⟨tag, attributes, children, text, position, line⟩,
    ⟨tag', attributes', children', text', position', line'⟩ =>
      tag == tag' && attributes == attributes' && sameAll children children'
        && text == text' && position == position' && line == line'

private def sameAll : List Node → List Node → Bool
  | [], [] => true
  | node :: rest, node' :: rest' => Node.same node node' && sameAll rest rest'
  | _, _ => false

end

mutual

private theorem Node.same_iff : (node node' : Node) → (Node.same node node' = true ↔ node = node')
  | ⟨tag, attributes, children, text, position, line⟩,
    ⟨tag', attributes', children', text', position', line'⟩ => by
      have below := sameAll_iff children children'
      simp only [Node.same, Bool.and_eq_true, beq_iff_eq, below, Node.mk.injEq]
      constructor
      · rintro ⟨⟨⟨⟨⟨h1, h2⟩, h3⟩, h4⟩, h5⟩, h6⟩
        exact ⟨h1, h2, h3, h4, h5, h6⟩
      · rintro ⟨h1, h2, h3, h4, h5, h6⟩
        exact ⟨⟨⟨⟨⟨h1, h2⟩, h3⟩, h4⟩, h5⟩, h6⟩

private theorem sameAll_iff : (nodes nodes' : List Node) →
    (sameAll nodes nodes' = true ↔ nodes = nodes')
  | [], [] => by simp [sameAll]
  | [], _ :: _ => by simp [sameAll]
  | _ :: _, [] => by simp [sameAll]
  | node :: rest, node' :: rest' => by
      simp [sameAll, Node.same_iff node node', sameAll_iff rest rest']

end

instance : DecidableEq Node := fun node node' =>
  if same : Node.same node node' = true then
    isTrue ((Node.same_iff node node').1 same)
  else
    isFalse fun equal => same ((Node.same_iff node node').2 equal)

/-! ## Names and attributes -/

/-- The tag without its namespace: what follows the last closing brace. -/
def localPart (tag : List Char) : List Char :=
  (tag.reverse.takeWhile (· != '\x7d')).reverse

def Node.localName (node : Node) : String :=
  String.ofList (localPart node.tag.toList)

/-- The first attribute with a name, letter case left out of account. -/
def Node.get? (node : Node) (name : String) : Option String :=
  (node.attributes.find? fun entry => lowered entry.1 == lowered name).map (·.2)

/-- Gives a key a value: in its old place if the key is known, else at the end. -/
def putEntry (entries : List (String × String)) (key value : String) :
    List (String × String) :=
  if entries.any (·.1 == key) then
    entries.map fun entry => if entry.1 == key then (key, value) else entry
  else
    entries ++ [(key, value)]

/-- The attributes as a mapping: a repeated name keeps its first place and its last value. -/
def Node.attributeMap (node : Node) : List (String × String) :=
  node.attributes.foldl (fun entries entry => putEntry entries entry.1 entry.2) []

/-! ## Traversal -/

mutual

/-- A node and everything below it, in document order. -/
def Node.preorder : Node → List Node
  | ⟨tag, attributes, children, text, position, line⟩ =>
      ⟨tag, attributes, children, text, position, line⟩ :: preorderAll children

def preorderAll : List Node → List Node
  | [] => []
  | node :: rest => node.preorder ++ preorderAll rest

end

mutual

def Node.height : Node → Nat
  | ⟨_, _, children, _, _, _⟩ => heightAll children

def heightAll : List Node → Nat
  | [] => 0
  | node :: rest => max (node.height + 1) (heightAll rest)

end

def Node.at? : Node → List Nat → Option Node
  | node, [] => some node
  | node, index :: rest =>
      match node.children[index]? with
      | some child => child.at? rest
      | none => none

end XmlCollation.Tree
