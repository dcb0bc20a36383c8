import XmlCollation.Markup.Chars

/-!
Contract: scanning of characters with a count of lines.

Owns:
- the ways in which a document can fail to be well-formed (`Fault`);
- the state of a scan and its primitive steps, none of which looks behind;
- names and references to characters and entities.

Does not own: the productions that are built from these steps.
-/

namespace XmlCollation.Markup

/-- The construct that is not well-formed. -/
inductive Fault where
  | charset
  | declaration
  | doctype
  | name
  | tag
  | attribute
  | character
  | comment
  | instruction
  | section
  | reference
  | nesting
  | namespaceUse
  | surroundings
deriving DecidableEq, Repr

/-- What is left to read, the line it starts on, and what entities have cost so far.

`spent` counts the characters that references stood for; `opened` holds the
entities whose content was read, with the count each of them stands for. -/
structure Scan where
  rest : List Char
  line : Nat
  spent : Nat
  opened : List (String × Nat)
deriving Repr

/-- A step of reading: it advances the scan or fails. -/
abbrev Reader := StateT Scan (Except Fault)

def Scan.start (chars : List Char) : Scan :=
  ⟨chars, 1, 0, []⟩

/-- The scan after reading `taken`, with `rest` left. -/
def Scan.after (scan : Scan) (taken rest : List Char) : Scan :=
  { scan with rest := rest, line := scan.line + taken.count '\n' }

namespace Reader

def remaining : Reader (List Char) := do
  return (← get).rest

def currentLine : Reader Nat := do
  return (← get).line

/-- Reads the longest run of characters that satisfy a test. -/
def takeWhile (test : Char → Bool) : Reader (List Char) := do
  let scan ← get
  let (taken, rest) := scan.rest.span test
  set (scan.after taken rest)
  return taken

/-- Skips white space and tells whether there was any. -/
def skipSpace : Reader Bool := do
  return !(← takeWhile isSpace).isEmpty

/-- Skips white space, of which there has to be some. -/
def needSpace (fault : Fault) : Reader Unit := do
  if ← skipSpace then return else throw fault

def accept (token : String) : Reader Bool := do
  let scan ← get
  if token.toList.isPrefixOf scan.rest then
    set { scan with rest := scan.rest.drop token.length }
    return true
  else
    return false

def expect (token : String) (fault : Fault) : Reader Unit := do
  if ← accept token then return else throw fault

/-- The part before the first occurrence of `stop`, and the part after it. -/
def splitAtStop (stop : List Char) : List Char → List Char → Option (List Char × List Char)
  | _, [] => none
  | passed, c :: rest =>
      if stop.isPrefixOf (c :: rest) then
        some (passed.reverse, (c :: rest).drop stop.length)
      else
        splitAtStop stop (c :: passed) rest

/-- Reads up to and over a token that has to occur, and returns what precedes it. -/
def takeUntil (stop : String) (fault : Fault) : Reader (List Char) := do
  let scan ← get
  match splitAtStop stop.toList [] scan.rest with
  | some (taken, rest) =>
      set (scan.after taken rest)
      return taken
  | none => throw fault

def name (fault : Fault) : Reader String := do
  match ← remaining with
  | c :: _ =>
      if isNameStart c then
        return String.ofList (← takeWhile isNameChar)
      else
        throw fault
  | [] => throw fault

/-- Reads a run of name characters that need not begin like a name. -/
def token (fault : Fault) : Reader String := do
  let chars ← takeWhile isNameChar
  if chars.isEmpty then throw fault else return String.ofList chars

/-- Reads a quoted literal and returns what is between the quotes. -/
def literal (fault : Fault) : Reader (List Char) := do
  if ← accept "\"" then takeUntil "\"" fault
  else if ← accept "\x27" then takeUntil "\x27" fault
  else throw fault

/-- Requires that a document may hold every one of the characters. -/
def checkChars (chars : List Char) : Reader Unit := do
  if chars.all isDocumentChar then return else throw .character

end Reader

/-! ## References -/

/-- What a reference names: a character by its code, or an entity. -/
inductive Reference where
  | char (c : Char)
  | entity (name : String)
deriving DecidableEq, Repr

/-- Splits a reference off the characters after the ampersand. -/
def splitReference? (chars : List Char) : Option (Reference × List Char) :=
  match chars with
  | '#' :: 'x' :: rest => numbered 16 rest
  | '#' :: rest => numbered 10 rest
  | _ =>
      let (name, rest) := chars.span isNameChar
      match rest with
      | ';' :: tail => if isName name then some (.entity (String.ofList name), tail) else none
      | _ => none
where
  /-- A reference by code, read up to the semicolon. -/
  numbered (base : Nat) (chars : List Char) : Option (Reference × List Char) :=
    let (digits, rest) := chars.span (fun c => (hexValue? c).any (· < base))
    match rest with
    | ';' :: tail => do
        let code ← digitsValue? base digits
        let c ← documentChar? code
        return (.char c, tail)
    | _ => none

/-- The characters that five names stand for in every document. -/
def predefined? : String → Option Char
  | "lt" => some '<'
  | "gt" => some '>'
  | "amp" => some '&'
  | "quot" => some '"'
  | "apos" => some '\x27'
  | _ => none

def Reader.reference : Reader Reference := do
  let scan ← get
  match splitReference? scan.rest with
  | some (reference, rest) =>
      set { scan with rest := rest }
      return reference
  | none => throw .reference

end XmlCollation.Markup
