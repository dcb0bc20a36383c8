import XmlCollation.Markup.Doctype
import XmlCollation.Markup.Document

/-!
Contract: the content of a document before names are resolved.

Owns:
- raw items: tags and attributes carry the names as they were written;
- the productions of content: elements, character data, sections, remarks and
  references to entities, whose text is read as content where it is first used.

Does not own: the meaning of the colon in names.
-/

namespace XmlCollation.Markup

/-- One item of content with names as written.  A reference holds the content it
stands for when that content was read at this place. -/
inductive RawItem where
  | text (chars : List Char)
  | aside (kind : Aside)
  | reference (items : List RawItem)
  | element (name : String) (attributes : List (String × String)) (line : Nat)
      (items : List RawItem)
deriving Repr

/-- What stays the same while content is read. -/
structure ContentRules where
  doctype : Doctype
  allowance : Allowance
  repeatEntities : Bool

def elementNesting : Nat := 256

namespace Reader

/-- Reads the attributes of a start tag, up to what ends the tag. -/
def attributes (rules : ContentRules) (element : String) :
    Nat → List (String × String) → Reader (List (String × String))
  | 0, _ => throw .tag
  | fuel + 1, found => do
      let spaced ← skipSpace
      match ← remaining with
      | '>' :: _ => return found.reverse
      | '/' :: '>' :: _ => return found.reverse
      | _ =>
          if !spaced then throw .tag
          let name ← name .attribute
          let _ ← skipSpace
          expect "=" .attribute
          let _ ← skipSpace
          let value ← attributeValue rules.doctype rules.allowance
          let value :=
            if (rules.doctype.attribute? element name).all (·.freeText) then value
            else collapseSpaces value
          attributes rules element fuel ((name, String.ofList value) :: found)

/-- The declared defaults of the attributes that a start tag leaves out. -/
def presets (doctype : Doctype) (element : String) (given : List (String × String)) :
    List (String × String) :=
  doctype.attributes.filterMap fun declared =>
    if declared.element == element && !given.any (·.1 == declared.name) then
      declared.preset.map fun value => (declared.name, value)
    else
      none

/-- Character data up to the next markup.  The end of a section may not occur in it. -/
def charData : Reader RawItem := do
  let chars ← takeWhile (fun c => c != '<' && c != '&')
  checkChars chars
  if (splitAtStop "]]>".toList [] chars).isSome then throw .section
  return .text (chars.map fun c => if c == '\r' then '\n' else c)

mutual

/-- Reads an element.  `entity` reads the content of a declared entity at the
given nesting. -/
def elementWith (rules : ContentRules) (entity : String → Nat → Reader RawItem) :
    Nat → Nat → Reader RawItem
  | 0, _ => throw .nesting
  | fuel + 1, nesting => do
      expect "<" .tag
      if nesting ≥ elementNesting then throw .nesting
      let name ← name .tag
      let given ← attributes rules name ((← remaining).length + 1) []
      let all := given ++ presets rules.doctype name given
      let line ← currentLine
      if ← accept "/>" then
        return .element name all line []
      else
        expect ">" .tag
        let items ← contentWith rules entity fuel (nesting + 1)
        expect "</" .tag
        if (← Reader.name .tag) != name then throw .tag
        let _ ← skipSpace
        expect ">" .tag
        return .element name all line items

/-- Reads content up to an end tag or the end of the text. -/
def contentWith (rules : ContentRules) (entity : String → Nat → Reader RawItem) :
    Nat → Nat → Reader (List RawItem)
  | 0, _ => throw .nesting
  | fuel + 1, nesting => do
      match ← remaining with
      | [] => return []
      | '<' :: '/' :: _ => return []
      | '&' :: _ =>
          expect "&" .reference
          let item ←
            match ← reference with
            | .char c => pure (RawItem.text [c])
            | .entity name =>
                match predefined? name with
                | some c => pure (RawItem.text [c])
                | none => entity name nesting
          return item :: (← contentWith rules entity fuel nesting)
      | '<' :: '!' :: _ =>
          if ← accept "<!--" then
            comment
            return .aside .comment :: (← contentWith rules entity fuel nesting)
          else
            expect "<![CDATA[" .section
            let chars ← takeUntil "]]>" .section
            checkChars chars
            let data := chars.map fun c => if c == '\r' then '\n' else c
            return .text data :: (← contentWith rules entity fuel nesting)
      | '<' :: '?' :: _ =>
          expect "<?" .instruction
          instruction
          return .aside .instruction :: (← contentWith rules entity fuel nesting)
      | '<' :: _ =>
          let item ← elementWith rules entity fuel nesting
          return item :: (← contentWith rules entity fuel nesting)
      | _ =>
          let item ← charData
          return item :: (← contentWith rules entity fuel nesting)

end

/-- Reads a reference to an entity in content: its text has to be content by
itself.  A text that was read before is only counted, unless the rules ask for it
at every reference. -/
def entityContent (rules : ContentRules) : Nat → String → Nat → Reader RawItem
  | 0, _, _ => throw .nesting
  | depth + 1, name, nesting => do
      match rules.doctype.entity? name with
      | none => if rules.doctype.mayBeElsewhere then return .reference [] else throw .reference
      | some .unparsed => throw .reference
      | some .external => return .reference []
      | some (.internal text) =>
          let scan ← get
          let known := scan.opened.find? (·.1 == name)
          match known, rules.repeatEntities with
          | some (_, cost), false =>
              let spent := scan.spent + cost + referenceCost
              if !rules.allowance.affords spent then throw .nesting
              set { scan with spent := spent }
              return .reference []
          | _, _ =>
              let spent := scan.spent + text.length + referenceCost
              if !rules.allowance.affords spent then throw .nesting
              set { scan with rest := text, spent := spent }
              let items ←
                contentWith rules (entityContent rules depth) (text.length + 1) nesting
              let inner ← get
              if !inner.rest.isEmpty then throw .reference
              set { scan with
                spent := inner.spent,
                opened := (name, inner.spent - scan.spent) :: inner.opened }
              return .reference items

/-- Reads the one element that a document consists of. -/
def rootElement (rules : ContentRules) : Reader RawItem := do
  let length := (← remaining).length
  elementWith rules (entityContent rules entityNesting) (length + 1) 0

end Reader

end XmlCollation.Markup
