import XmlCollation.Markup.Namespace

/-!
Contract: reading of a whole document from its characters.

Owns: the declaration at the very beginning, the parts around the root element,
and the function from characters to the root element.

Does not own: the encoding of documents given as bytes.
-/

namespace XmlCollation.Markup

/-- What the declaration at the beginning of a document says. -/
structure Declaration where
  encoding : Option String
  standalone : Bool
deriving DecidableEq, Repr

namespace Reader

/-- Reads an equals sign and the quoted value after it. -/
def declaredValue : Reader (List Char) := do
  let _ ← skipSpace
  expect "=" .declaration
  let _ ← skipSpace
  literal .declaration

/-- Every version of the first kind is read alike. -/
def isKnownVersion (chars : List Char) : Bool :=
  match chars with
  | '1' :: '.' :: rest => rest.all isDigit
  | _ => false

def isEncodingName (chars : List Char) : Bool :=
  match chars with
  | [] => false
  | c :: rest =>
      c.isAlpha && rest.all fun d => d.isAlphanum || d == '.' || d == '_' || d == '-'

/-- Reads the declaration at the beginning, if there is one. -/
def declaration : Reader Declaration := do
  match ← remaining with
  | '<' :: '?' :: 'x' :: 'm' :: 'l' :: c :: _ =>
      if !isSpace c then return ⟨none, false⟩
      expect "<?xml" .declaration
      let _ ← skipSpace
      expect "version" .declaration
      if !isKnownVersion (← declaredValue) then throw .declaration
      let spaced ← skipSpace
      let encoding ←
        if ← accept "encoding" then
          if !spaced then throw .declaration
          let name ← declaredValue
          if !isEncodingName name then throw .declaration
          pure (some (String.ofList name))
        else
          pure none
      let spaced ← if encoding.isSome then skipSpace else pure spaced
      let standalone ←
        if ← accept "standalone" then
          if !spaced then throw .declaration
          let answer := String.ofList (← declaredValue)
          if answer == "yes" then pure true
          else if answer == "no" then pure false
          else throw .declaration
        else
          pure false
      let _ ← skipSpace
      expect "?>" .declaration
      return ⟨encoding, standalone⟩
  | _ => return ⟨none, false⟩

def surroundings : Nat → Reader Unit
  | 0 => throw .surroundings
  | fuel + 1 => do
      let _ ← skipSpace
      if ← accept "<!--" then
        comment
        surroundings fuel
      else
        match ← remaining with
        | '<' :: '?' :: _ =>
            expect "<?" .instruction
            instruction
            surroundings fuel
        | _ => return

/-- Reads a document that holds so many characters. -/
def document (length : Nat) (expandReferences : Bool) : Reader RawItem := do
  let _ ← accept "\ufeff"
  let declared ← declaration
  let allowance : Allowance := ⟨length, expandReferences⟩
  surroundings (length + 1)
  let types ←
    if ← accept "<!DOCTYPE" then
      let types ← doctype allowance declared.standalone
      surroundings (length + 1)
      pure types
    else
      pure (Doctype.empty declared.standalone)
  let root ← rootElement ⟨types, allowance, expandReferences⟩
  surroundings (length + 1)
  if !(← remaining).isEmpty then throw .surroundings
  return root

end Reader

/-- Makes one character of each pair of carriage return and line feed. -/
def joinLineEnds : List Char → List Char
  | [] => []
  | '\r' :: '\n' :: rest => '\n' :: joinLineEnds rest
  | c :: rest => c :: joinLineEnds rest

def readDocument (retention : Retention) (chars : List Char) : Except Fault Element := do
  let joined := joinLineEnds chars
  let (raw, _) ← (Reader.document joined.length retention.expandReferences).run (Scan.start joined)
  let items ← resolveItem retention Scope.outermost raw
  match items with
  | [.element head inner] => return ⟨head, inner⟩
  | _ => throw .surroundings

end XmlCollation.Markup
