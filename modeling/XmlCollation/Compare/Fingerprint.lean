import XmlCollation.Compare.Config
import XmlCollation.Compare.ContentCache
import XmlCollation.Compare.Visits
import XmlCollation.Markup.Escape

/-!
Contract: nodes written out as text.

Owns:
- the signature of a node: its start tag with the attributes that count, in an
  order that does not depend on the document;
- the content of a node: signature, text and the content of the children that
  count, as markup, computed through the cache of contents;
- places: nodes together with their address in the tree, under which their
  content is stored.

Does not own: the keys that comparisons derive from signatures and contents.
-/

namespace XmlCollation.Compare

open XmlCollation.Text
open XmlCollation.Tree
open XmlCollation.Markup

/-! ## Signatures -/

/-- Attributes come in the order of their lower-cased names, then of their names. -/
def attributeLe (left right : String × String) : Bool :=
  let leftKey := lowered left.1
  let rightKey := lowered right.1
  if leftKey < rightKey then true
  else if rightKey < leftKey then false
  else !(right.1 < left.1)

/-- Puts an attribute before the first one that it does not come after. -/
def insertAttribute (entry : String × String) : List (String × String) → List (String × String)
  | [] => [entry]
  | other :: rest =>
      if attributeLe entry other then entry :: other :: rest
      else other :: insertAttribute entry rest

/-- Attributes in order; equal ones stay in the order of the document. -/
def sortAttributes (entries : List (String × String)) : List (String × String) :=
  entries.foldr insertAttribute []

def writtenAttribute (entry : String × String) : String :=
  " " ++ entry.1 ++ "=" ++ String.ofList (quoteValue entry.2.toList)

/-- The attributes of a node that count, in order. -/
def countedAttributes (excluded : List String) (node : Node) : List (String × String) :=
  sortAttributes (node.attributes.filter fun entry => !excluded.contains (lowered entry.1))

/-- The start tag of a node with the attributes that count. -/
def signatureWith (excluded : List String) (node : Node) : String :=
  "<" ++ node.tag ++ String.join ((countedAttributes excluded node).map writtenAttribute) ++ ">"

def Visits.signature (visits : Visits) (node : Node) : String :=
  signatureWith (visits.excludedOf node) node

/-! ## Contents -/

/-- The content of a node around the content of its children. -/
def Visits.wrap (visits : Visits) (node : Node) (inner : String) : String :=
  visits.signature node ++ String.ofList (escapeText node.text.toList) ++ inner
    ++ "</" ++ node.tag ++ ">"

mutual

/-- The content of a node at an address: from the cache, or computed from the
children that count and then stored. -/
def Visits.content (visits : Visits) (address : Address) (cache : ContentCache) :
    Node → String × ContentCache
  | ⟨tag, attributes, children, text, position, line⟩ =>
      match cache.find? address with
      | some content => (content, cache.touch address content)
      | none =>
          let (inner, filled) := visits.contentAll address 0 cache children
          let content := visits.wrap ⟨tag, attributes, children, text, position, line⟩ inner
          (content, filled.store address content)

/-- The contents of the children that count, numbered from `index` below an address. -/
def Visits.contentAll (visits : Visits) (address : Address) (index : Nat)
    (cache : ContentCache) : List Node → String × ContentCache
  | [] => ("", cache)
  | node :: rest =>
      if visits.isSkipped node then visits.contentAll address (index + 1) cache rest
      else
        let (first, filled) := visits.content (index :: address) cache node
        let (others, final) := visits.contentAll address (index + 1) filled rest
        (first ++ others, final)

end

/-! ## Places -/

/-- A node with its address. -/
structure Place where
  address : Address
  node : Node
deriving DecidableEq, Repr

/-- The places of nodes numbered from `index` below an address. -/
def placesFrom (address : Address) (index : Nat) : List Node → List Place
  | [] => []
  | node :: rest => ⟨index :: address, node⟩ :: placesFrom address (index + 1) rest

def Place.children (place : Place) : List Place :=
  placesFrom place.address 0 place.node.children

def Place.root (node : Node) : Place :=
  ⟨[], node⟩

/-- The place reached by child indexes from a root. -/
def Place.at? (root : Node) (path : List Nat) : Option Place :=
  (root.at? path).map fun node => ⟨path.reverse, node⟩

theorem placesFrom_map_node (address : Address) (index : Nat) (nodes : List Node) :
    (placesFrom address index nodes).map Place.node = nodes := by
  induction nodes generalizing index with
  | nil => rfl
  | cons node rest inductionHypothesis => simp [placesFrom, inductionHypothesis]

end XmlCollation.Compare
