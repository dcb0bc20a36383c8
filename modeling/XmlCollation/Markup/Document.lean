/-!
Contract: the content of a document after names are resolved.

Owns: elements with their attributes and lines, and the items inside them:
character data, child elements, and asides (comments, instructions, references
that stay unexpanded).

Does not own: how a document is read, or what a comparison keeps of it.
-/

namespace XmlCollation.Markup

/-- Content that is neither character data nor an element. -/
inductive Aside where
  | comment
  | instruction
  | reference
deriving DecidableEq, Repr

/-- What a start tag says, with namespace names in place of prefixes, and the
line on which the tag ends. -/
structure Head where
  tag : String
  attributes : List (String × String)
  line : Nat
deriving DecidableEq, Repr

/-- One item of an element's content. -/
inductive Item where
  | text (chars : String)
  | aside (kind : Aside)
  | element (head : Head) (items : List Item)
deriving Repr

/-- An element with its content. -/
structure Element where
  head : Head
  items : List Item
deriving Repr

/-- The items other than character data, in order: the children of an element
when asides count as children. -/
def childItems (items : List Item) : List Item :=
  items.filter fun item =>
    match item with
    | .text _ => false
    | _ => true

/-- The element reached from an element by indexes into the child items. -/
def Element.at? : Element → List Nat → Option Element
  | element, [] => some element
  | element, index :: rest =>
      match (childItems element.items)[index]? with
      | some (.element head items) => Element.at? ⟨head, items⟩ rest
      | _ => none

end XmlCollation.Markup
