import XmlCollation.Markup.Document
import XmlCollation.Markup.Raw
import XmlCollation.Markup.Uri

/-!
Contract: the meaning of names with prefixes.

Owns:
- splitting of written names at the colon;
- the declarations of a start tag and the scope they open;
- expanded names, written with the namespace in braces before the local name;
- resolution of raw items, which fails when a name has no meaning or when two
  attributes of a tag have the same expanded name.

Does not own: reading of raw items.
-/

namespace XmlCollation.Markup

/-- A written name in its two parts. -/
structure QualifiedName where
  space : Option String
  part : String
deriving DecidableEq, Repr

/-- Splits a written name: one part, or two parts around a single colon. -/
def QualifiedName.ofWritten? (written : String) : Option QualifiedName :=
  let (front, rest) := written.toList.span (· != ':')
  match rest with
  | [] => if isPlainName front then some ⟨none, written⟩ else none
  | _ :: back =>
      if isPlainName front && isPlainName back then
        some ⟨some (String.ofList front), String.ofList back⟩
      else
        none

/-- The namespace that is bound to the prefix `xml` in every document. -/
def reservedNamespace : String := "http://www.w3.org/XML/1998/namespace"

/-- The namespace of declarations, which nothing can be bound to. -/
def declarationNamespace : String := "http://www.w3.org/2000/xmlns/"

/-- The bindings in force, nearest first.  The empty prefix is that of names
without a colon; an empty namespace means none. -/
abbrev Scope := List (String × String)

def Scope.outermost : Scope :=
  [("xml", reservedNamespace)]

def Scope.space? (scope : Scope) (label : String) : Option String :=
  (scope.lookup label).filter (· != "")

/-- An expanded name: the local name, after the namespace in braces if there is one. -/
def expandedName (space : Option String) (part : String) : String :=
  match space with
  | none => part
  | some uri => String.ofList ('\x7b' :: uri.toList ++ '\x7d' :: part.toList)

/-- The binding that one attribute declares, if it is a declaration. -/
def declaredBinding? (name : QualifiedName) (value : String) :
    Except Fault (Option (String × String)) :=
  match name.space, name.part with
  | none, "xmlns" =>
      if value == "" then .ok (some ("", ""))
      else if value == reservedNamespace || value == declarationNamespace then
        .error .namespaceUse
      else if Uri.isReference value.toList then .ok (some ("", value))
      else .error .namespaceUse
  | some "xmlns", label =>
      if label == "xml" then
        if value == reservedNamespace then .ok none else .error .namespaceUse
      else if label == "xmlns" || value == "" || value == reservedNamespace
          || value == declarationNamespace then
        .error .namespaceUse
      else if Uri.isReference value.toList then .ok (some (label, value))
      else .error .namespaceUse
  | _, _ => .ok none

/-- Whether an attribute is a declaration rather than data. -/
def isDeclaration (name : QualifiedName) : Bool :=
  name.space == some "xmlns" || (name.space == none && name.part == "xmlns")

def splitAttributes :
    List (String × String) → Except Fault (List (QualifiedName × String))
  | [] => .ok []
  | (written, value) :: rest =>
      match QualifiedName.ofWritten? written with
      | none => .error .namespaceUse
      | some name => do return (name, value) :: (← splitAttributes rest)

/-- The bindings that the attributes of a tag declare, in order. -/
def declaredBindings :
    List (QualifiedName × String) → Except Fault (List (String × String))
  | [] => .ok []
  | (name, value) :: rest => do
      match ← declaredBinding? name value with
      | none => declaredBindings rest
      | some binding => return binding :: (← declaredBindings rest)

/-- The expanded name of an attribute; one without a prefix is in no namespace. -/
def attributeName (scope : Scope) (name : QualifiedName) : Except Fault String :=
  match name.space with
  | none => .ok name.part
  | some label =>
      match scope.space? label with
      | some uri => .ok (expandedName (some uri) name.part)
      | none => .error .namespaceUse

/-- The attributes of a tag that are data, under their expanded names. -/
def resolveAttributes (scope : Scope) :
    List (QualifiedName × String) → Except Fault (List (String × String))
  | [] => .ok []
  | (name, value) :: rest =>
      if isDeclaration name then resolveAttributes scope rest
      else do
        let expanded ← attributeName scope name
        return (expanded, value) :: (← resolveAttributes scope rest)

/-- No two entries of the list have the same first component. -/
def keysDistinct : List (String × String) → Bool
  | [] => true
  | (key, _) :: rest => !rest.any (·.1 == key) && keysDistinct rest

/-- The head of an element under the bindings around it, with the bindings inside it. -/
def resolveHead (scope : Scope) (written : String) (attributes : List (String × String))
    (line : Nat) : Except Fault (Head × Scope) := do
  let some name := QualifiedName.ofWritten? written | .error .namespaceUse
  let split ← splitAttributes attributes
  let bindings ← declaredBindings split
  if !keysDistinct bindings then .error .namespaceUse
  let inner : Scope := bindings ++ scope
  let tag ←
    match name.space with
    | none => .ok (expandedName (inner.space? "") name.part)
    | some label =>
        match inner.space? label with
        | some uri => .ok (expandedName (some uri) name.part)
        | none => .error .namespaceUse
  let data ← resolveAttributes inner split
  if !keysDistinct data then .error .attribute
  return (⟨tag, data, line⟩, inner)

/-- What a reader keeps of a document besides its elements and character data. -/
structure Retention where
  remarks : Bool
  expandReferences : Bool
deriving DecidableEq, Repr

mutual

/-- Resolves one raw item; a reference may become several items. -/
def resolveItem (retention : Retention) (scope : Scope) :
    RawItem → Except Fault (List Item)
  | .text chars => .ok [.text (String.ofList chars)]
  | .aside .reference => .ok [.aside .reference]
  | .aside kind => .ok (if retention.remarks then [.aside kind] else [])
  | .reference items => do
      let resolved ← resolveItems retention scope items
      return if retention.expandReferences then resolved else [.aside .reference]
  | .element name attributes line items => do
      let (head, inner) ← resolveHead scope name attributes line
      return [.element head (← resolveItems retention inner items)]

def resolveItems (retention : Retention) (scope : Scope) :
    List RawItem → Except Fault (List Item)
  | [] => .ok []
  | item :: rest => do
      let first ← resolveItem retention scope item
      return first ++ (← resolveItems retention scope rest)

end

end XmlCollation.Markup
