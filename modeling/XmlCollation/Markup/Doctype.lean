import XmlCollation.Markup.Scan

/-!
Contract: the document type declaration and what it declares.

Owns:
- the grammar of the internal subset: element, attribute list, entity and
  data format declarations, with references to parameter entities between them;
- the declared entities and attributes, the first declaration winning;
- the expansion of references in attribute values.

Does not own: external subsets, which are never read, and validation.
-/

namespace XmlCollation.Markup

/-- What an entity name was declared to stand for. -/
inductive EntityDefinition where
  | internal (text : List Char)
  | external
  | unparsed
deriving DecidableEq, Repr

/-- A declared attribute: whether its value is free text, and its default. -/
structure AttributeDeclaration where
  element : String
  name : String
  freeText : Bool
  preset : Option String
deriving DecidableEq, Repr

/-- Everything declared so far.

`selfContained` is the document's word that it needs no other parts;
`mayBeElsewhere` says that declarations can stand in parts that are not read, so
that a missing declaration is no fault. -/
structure Doctype where
  selfContained : Bool
  entities : List (String × EntityDefinition)
  parameters : List (String × EntityDefinition)
  attributes : List AttributeDeclaration
  mayBeElsewhere : Bool
deriving Repr

def Doctype.empty (selfContained : Bool) : Doctype :=
  ⟨selfContained, [], [], [], false⟩

def Doctype.entity? (doctype : Doctype) (name : String) : Option EntityDefinition :=
  (doctype.entities.find? (·.1 == name)).map (·.2)

/-- The declared meaning of a parameter entity name. -/
def Doctype.parameter? (doctype : Doctype) (name : String) : Option EntityDefinition :=
  (doctype.parameters.find? (·.1 == name)).map (·.2)

/-- The declaration of an attribute of an element. -/
def Doctype.attribute? (doctype : Doctype) (element name : String) :
    Option AttributeDeclaration :=
  doctype.attributes.find? fun declared => declared.element == element && declared.name == name

/-- Declares an entity, unless it is declared already. -/
def Doctype.declareEntity (doctype : Doctype) (name : String) (definition : EntityDefinition) :
    Doctype :=
  { doctype with entities := doctype.entities ++ [(name, definition)] }

/-- Declares a parameter entity, unless it is declared already. -/
def Doctype.declareParameter (doctype : Doctype) (name : String)
    (definition : EntityDefinition) : Doctype :=
  { doctype with parameters := doctype.parameters ++ [(name, definition)] }

/-- Declares an attribute, unless it is declared already. -/
def Doctype.declareAttribute (doctype : Doctype) (declared : AttributeDeclaration) : Doctype :=
  if (doctype.attribute? declared.element declared.name).isSome then doctype
  else { doctype with attributes := doctype.attributes ++ [declared] }

/-! ## Values with references -/

def entityNesting : Nat := 20

/-- The cost of a reference besides the characters it stands for. -/
def referenceCost : Nat := 20

/-- Below this many characters, references may stand for any number of them. -/
def freeExpansion : Nat := 1000000

/-- Above the free amount, references may multiply the document by this factor. -/
def expansionFactor : Nat := 5

/-- What a document allows: its length, and whether line ends and tabs that come
from entities turn into spaces in attribute values. -/
structure Allowance where
  documentLength : Nat
  flattenEntities : Bool
deriving Repr

/-- References stand for no more characters than the document allows. -/
def Allowance.affords (allowance : Allowance) (spent : Nat) : Bool :=
  spent ≤ freeExpansion || spent / expansionFactor ≤ allowance.documentLength

/-- Replaces the references of a value.  `meaning` gives the text of an entity
from what is spent so far; `flatten` turns white space into spaces. -/
def expandWith
    (meaning : String → Nat → Except Fault (List Char × Nat))
    (flatten : Bool) :
    Nat → List Char → Nat → Except Fault (List Char × Nat)
  | _, [], spent => .ok ([], spent)
  | 0, _ :: _, _ => .error .attribute
  | fuel + 1, '&' :: rest, spent => do
      match splitReference? rest with
      | none => .error .reference
      | some (.char c, tail) =>
          let (chars, total) ← expandWith meaning flatten fuel tail spent
          return (c :: chars, total)
      | some (.entity name, tail) =>
          let (front, paid) ←
            match predefined? name with
            | some c => pure ([c], spent)
            | none => meaning name spent
          let (chars, total) ← expandWith meaning flatten fuel tail paid
          return (front ++ chars, total)
  | fuel + 1, c :: rest, spent => do
      let (chars, total) ← expandWith meaning flatten fuel rest spent
      return ((if flatten && isSpace c then ' ' else c) :: chars, total)

/-- The text that an entity stands for inside an attribute value. -/
def Doctype.valueOf (doctype : Doctype) (allowance : Allowance) :
    Nat → String → Nat → Except Fault (List Char × Nat)
  | 0, _, _ => .error .nesting
  | depth + 1, name, spent =>
      match doctype.entity? name with
      | some (.internal text) =>
          let paid := spent + text.length + referenceCost
          if text.contains '<' then .error .attribute
          else if !allowance.affords paid then .error .nesting
          else
            expandWith (doctype.valueOf allowance depth) allowance.flattenEntities
              text.length text paid
      | some .external => .error .reference
      | some .unparsed => .error .reference
      | none => if doctype.mayBeElsewhere then .ok ([], spent) else .error .reference

/-- Drops spaces at both ends and makes single spaces of the runs between. -/
def collapseSpaces (chars : List Char) : List Char :=
  let words := (chars.splitOn ' ').filter (!·.isEmpty)
  (words.intersperse [' ']).flatten

namespace Reader

/-- Reads an attribute value in quotes and replaces its references. -/
def attributeValue (doctype : Doctype) (allowance : Allowance) : Reader (List Char) := do
  let written ← literal .attribute
  checkChars written
  if written.contains '<' then throw .attribute
  let scan ← get
  match expandWith (doctype.valueOf allowance entityNesting) true written.length written
      scan.spent with
  | .ok (chars, total) =>
      set { scan with spent := total }
      return chars
  | .error fault => throw fault

/-! ## Remarks -/

def comment : Reader Unit := do
  let chars ← takeUntil "--" .comment
  checkChars chars
  expect ">" .comment

/-- Reads an instruction after its opening.  The name of declarations is
reserved, and instruction names have no colon. -/
def instruction : Reader Unit := do
  let target ← name .instruction
  if target.toList.map Char.toLower == "xml".toList then throw .instruction
  if target.toList.contains ':' then throw .instruction
  if ← accept "?>" then return
  needSpace .instruction
  checkChars (← takeUntil "?>" .instruction)

/-! ## Declarations -/

def isPublicChar (c : Char) : Bool :=
  c == ' ' || c == '\n' || c == '\r'
    || ('a' ≤ c && c ≤ 'z') || ('A' ≤ c && c ≤ 'Z') || ('0' ≤ c && c ≤ '9')
    || "-\x27()+,./:=?;!*#@$_%".toList.contains c

def systemLiteral : Reader Unit := do
  checkChars (← literal .doctype)

def publicLiteral : Reader Unit := do
  if !(← literal .doctype).all isPublicChar then throw .doctype

/-- Reads an external identifier, if there is one. -/
def externalId : Reader Bool := do
  if ← accept "SYSTEM" then
    needSpace .doctype
    systemLiteral
    return true
  else if ← accept "PUBLIC" then
    needSpace .doctype
    publicLiteral
    needSpace .doctype
    systemLiteral
    return true
  else
    return false

/-- Reads the sign that says how often a part of a content model occurs. -/
def occurrence : Reader Unit := do
  if ← accept "?" then return
  if ← accept "*" then return
  let _ ← accept "+"
  return

/-- Reads the rest of a group in a content model, after its parenthesis.
`mark` is the sign between its parts once it is known. -/
def modelGroup : Nat → Option String → Reader Unit
  | 0, _ => throw .doctype
  | fuel + 1, mark => do
      let _ ← skipSpace
      if ← accept "(" then modelGroup fuel none
      else
        let _ ← name .doctype
        occurrence
      let _ ← skipSpace
      if ← accept ")" then occurrence
      else
        match mark with
        | some sign =>
            expect sign .doctype
            modelGroup fuel mark
        | none =>
            if ← accept "|" then modelGroup fuel (some "|")
            else
              expect "," .doctype
              modelGroup fuel (some ",")

/-- Reads the further names of mixed content, up to its closing. -/
def mixedNames : Nat → Bool → Reader Unit
  | 0, _ => throw .doctype
  | fuel + 1, named => do
      let _ ← skipSpace
      if ← accept ")" then
        if ← accept "*" then return
        if named then throw .doctype
      else
        expect "|" .doctype
        let _ ← skipSpace
        let _ ← name .doctype
        mixedNames fuel true

/-- Reads an element declaration after its keyword. -/
def elementDeclaration : Reader Unit := do
  needSpace .doctype
  let _ ← name .doctype
  needSpace .doctype
  let fuel := (← remaining).length + 1
  if ← accept "EMPTY" then pure ()
  else if ← accept "ANY" then pure ()
  else
    expect "(" .doctype
    let _ ← skipSpace
    if ← accept "#PCDATA" then mixedNames fuel false else modelGroup fuel none
  let _ ← skipSpace
  expect ">" .doctype

/-- Reads names between bars up to a closing parenthesis. -/
def enumeration (one : Reader String) : Nat → Reader Unit
  | 0 => throw .doctype
  | fuel + 1 => do
      let _ ← skipSpace
      let _ ← one
      let _ ← skipSpace
      if ← accept ")" then return
      expect "|" .doctype
      enumeration one fuel

/-- Reads the type of an attribute and tells whether its value is free text. -/
def attributeType : Reader Bool := do
  let fuel := (← remaining).length + 1
  if ← accept "CDATA" then return true
  if ← accept "(" then
    enumeration (token .doctype) fuel
    return false
  if ← accept "NOTATION" then
    needSpace .doctype
    expect "(" .doctype
    enumeration (name .doctype) fuel
    return false
  for keyword in ["IDREFS", "IDREF", "ID", "ENTITIES", "ENTITY", "NMTOKENS", "NMTOKEN"] do
    if ← accept keyword then return false
  throw .doctype

/-- Reads what stands for an attribute that a tag leaves out: nothing, or a value. -/
def attributePreset (allowance : Allowance) (doctype : Doctype) (freeText : Bool) :
    Reader (Option String) := do
  if ← accept "#REQUIRED" then return none
  if ← accept "#IMPLIED" then return none
  if ← accept "#FIXED" then needSpace .doctype
  let value ← attributeValue doctype allowance
  return some (String.ofList (if freeText then value else collapseSpaces value))

/-- Reads the declared attributes of an element, up to the closing bracket. -/
def attributeDeclarations (allowance : Allowance) (element : String) :
    Nat → Doctype → Reader Doctype
  | 0, _ => throw .doctype
  | fuel + 1, doctype => do
      let spaced ← skipSpace
      if ← accept ">" then return doctype
      if !spaced then throw .doctype
      let name ← name .doctype
      needSpace .doctype
      let freeText ← attributeType
      needSpace .doctype
      let preset ← attributePreset allowance doctype freeText
      attributeDeclarations allowance element fuel
        (doctype.declareAttribute ⟨element, name, freeText, preset⟩)

/-- The text of an entity as it is kept: references by code are replaced, and
references to entities stay. -/
def entityText : Nat → List Char → Except Fault (List Char)
  | _, [] => .ok []
  | 0, _ :: _ => .error .doctype
  | _ + 1, '%' :: _ => .error .doctype
  | fuel + 1, '&' :: rest =>
      match splitReference? rest with
      | none => .error .reference
      | some (.char c, tail) => do return c :: (← entityText fuel tail)
      | some (.entity name, tail) => do
          return '&' :: name.toList ++ ';' :: (← entityText fuel tail)
  | fuel + 1, c :: rest => do return (if c = '\r' then '\n' else c) :: (← entityText fuel rest)

/-- Reads an entity declaration after its keyword. -/
def entityDeclaration (doctype : Doctype) : Reader Doctype := do
  needSpace .doctype
  let isParameter ← accept "%"
  if isParameter then needSpace .doctype
  let name ← name .doctype
  if name.toList.contains ':' then throw .namespaceUse
  needSpace .doctype
  let definition ←
    if ← externalId then
      let spaced ← skipSpace
      let isUnparsed ← if isParameter then pure false else accept "NDATA"
      if isUnparsed then
        if !spaced then throw .doctype
        needSpace .doctype
        let _ ← Reader.name .doctype
        pure EntityDefinition.unparsed
      else
        pure EntityDefinition.external
    else
      let written ← literal .doctype
      checkChars written
      match entityText written.length written with
      | .ok text => pure (EntityDefinition.internal text)
      | .error fault => throw fault
  let _ ← skipSpace
  expect ">" .doctype
  return if isParameter then doctype.declareParameter name definition
    else doctype.declareEntity name definition

/-- Reads the declaration of a format of unparsed data after its keyword. -/
def formatDeclaration : Reader Unit := do
  needSpace .doctype
  let name ← name .doctype
  if name.toList.contains ':' then throw .namespaceUse
  needSpace .doctype
  if ← accept "SYSTEM" then
    needSpace .doctype
    systemLiteral
  else
    expect "PUBLIC" .doctype
    needSpace .doctype
    publicLiteral
    if ← skipSpace then
      match ← remaining with
      | '>' :: _ => pure ()
      | _ => systemLiteral
  let _ ← skipSpace
  expect ">" .doctype

/-- Reads declarations as long as they come.  `included` reads the text of a
parameter entity; what is left after the declarations is the caller's. -/
def declarationsWith
    (allowance : Allowance)
    (included : List Char → Doctype → Reader Doctype) :
    Nat → Doctype → Reader Doctype
  | 0, _ => throw .doctype
  | fuel + 1, doctype => do
      let _ ← skipSpace
      if ← accept "<!--" then
        comment
        declarationsWith allowance included fuel doctype
      else if ← accept "<?" then
        instruction
        declarationsWith allowance included fuel doctype
      else if ← accept "<!ELEMENT" then
        elementDeclaration
        declarationsWith allowance included fuel doctype
      else if ← accept "<!ATTLIST" then
        needSpace .doctype
        let element ← name .doctype
        let length := (← remaining).length
        let declared ← attributeDeclarations allowance element (length + 1) doctype
        declarationsWith allowance included fuel declared
      else if ← accept "<!ENTITY" then
        let declared ← entityDeclaration doctype
        declarationsWith allowance included fuel declared
      else if ← accept "<!NOTATION" then
        formatDeclaration
        declarationsWith allowance included fuel doctype
      else if ← accept "%" then
        let parameter ← name .doctype
        expect ";" .doctype
        let opened := { doctype with mayBeElsewhere := !doctype.selfContained }
        let declared ←
          match doctype.parameter? parameter with
          | some (.internal text) => included text opened
          | some _ => pure opened
          | none => if doctype.selfContained then throw .reference else pure opened
        declarationsWith allowance included fuel declared
      else
        return doctype

/-- Reads the text of a parameter entity, which has to consist of declarations. -/
def includedDeclarations (allowance : Allowance) : Nat → List Char → Doctype → Reader Doctype
  | 0, _, _ => throw .nesting
  | depth + 1, text, doctype => do
      let scan ← get
      let spent := scan.spent + text.length + referenceCost
      if !allowance.affords spent then throw .nesting
      set { scan with rest := text, spent := spent }
      let declared ←
        declarationsWith allowance (includedDeclarations allowance depth) (text.length + 1) doctype
      let inner ← get
      if !inner.rest.isEmpty then throw .doctype
      set { scan with spent := inner.spent }
      return declared

/-- Reads a document type declaration after its keyword. -/
def doctype (allowance : Allowance) (selfContained : Bool) : Reader Doctype := do
  needSpace .doctype
  let _ ← name .doctype
  let _ ← skipSpace
  let external ← externalId
  let _ ← skipSpace
  let start :=
    { Doctype.empty selfContained with mayBeElsewhere := external && !selfContained }
  let declared ←
    if ← accept "[" then
      let length := (← remaining).length
      let inside ←
        declarationsWith allowance (includedDeclarations allowance entityNesting) (length + 1) start
      expect "]" .doctype
      pure inside
    else
      pure start
  let _ ← skipSpace
  expect ">" .doctype
  return declared

end Reader

end XmlCollation.Markup
