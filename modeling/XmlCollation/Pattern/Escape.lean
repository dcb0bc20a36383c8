import XmlCollation.Pattern.CharacterName
import XmlCollation.Pattern.Progress

/-!
Contract: what a backslash introduces.

Owns:
- characters given by a letter, by their code, or by their name;
- the classes and conditions that have a letter;
- references to groups by number, told apart from codes of three octal digits.

Does not own: where escapes may stand.
-/

namespace XmlCollation.Pattern

open XmlCollation.Text

/-- What an escape stands for. -/
inductive Meaning where
  | code (wanted : Nat)
  | category (kind : Category) (negated : Bool)
  | anchor (place : Anchor)
  | reference (index : Nat)
deriving DecidableEq, Repr

def isOctalDigit (c : Char) : Bool :=
  '0' ≤ c && c ≤ '7'

def isHexDigit (c : Char) : Bool :=
  c.isDigit || ('a' ≤ c && c ≤ 'f') || ('A' ≤ c && c ≤ 'F')

def hexValue (c : Char) : Nat :=
  if c.isDigit then c.toNat - 48
  else if 'a' ≤ c then c.toNat - 87
  else c.toNat - 55

def numberOf (base : Nat) (digits : List Char) : Nat :=
  digits.foldl (fun number c => number * base + hexValue c) 0

/-- The codes of the control characters that have a letter. -/
def controlCode? : Char → Option Nat
  | 'a' => some 7
  | 'b' => some 8
  | 'f' => some 12
  | 'n' => some 10
  | 'r' => some 13
  | 't' => some 9
  | 'v' => some 11
  | '\\' => some 92
  | _ => none

/-- The classes that have a letter; the capital letter means all other characters. -/
def categoryOf? : Char → Option (Category × Bool)
  | 'd' => some (.digit, false)
  | 'D' => some (.digit, true)
  | 's' => some (.space, false)
  | 'S' => some (.space, true)
  | 'w' => some (.word, false)
  | 'W' => some (.word, true)
  | _ => none

def anchorOf? (alphabet : Folding) : Char → Option Anchor
  | 'A' => some .textStart
  | 'Z' => some .textEnd
  | 'b' => some (.boundary alphabet)
  | 'B' => some (.noBoundary alphabet)
  | _ => none

namespace Reader

def escapeText (c : Char) (more : List Char) : String :=
  String.ofList ('\\' :: c :: more)

/-- A code of a fixed number of hexadecimal digits. -/
def hexCode (start : Nat) (letter : Char) (count : Nat) : Reader Nat := do
  let digits ← takeRun isHexDigit count
  if digits.length = count then
    let code := numberOf 16 digits
    if 0x7fffffff < code then throw .characterCode
    else if 0x10ffff < code then refuse (.badEscape (escapeText letter digits)) start
    else return code
  else
    refuse (.incompleteEscape (escapeText letter digits)) start

def namedCode (start : Nat) : Reader Nat := do
  if ← accept '\x7b' then
    let name ← takeName '\x7d' "character name"
    match codeOfName? name with
    | some code => return code
    | none => refuse (.unknownCharacter (String.ofList name)) start
  else
    refuse (.missing "\x7b") (← position)

/-- A code of up to three octal digits, of which the first is given. -/
def octalCode (start : Nat) (first : Char) (more : List Char) : Reader Nat := do
  let code := numberOf 8 (first :: more)
  if 0o377 < code then refuse (.octalRange (escapeText first more)) start
  else return code

/-- The escapes by code or name, and characters that stand for themselves. -/
def characterEscape (start : Nat) (c : Char) : Reader Nat := do
  if c = 'x' then hexCode start c 2
  else if c = 'u' then hexCode start c 4
  else if c = 'U' then hexCode start c 8
  else if c = 'N' then namedCode start
  else if c.isDigit || c.isAlpha then refuse (.badEscape (escapeText c [])) start
  else return c.toNat

/-- A reference to a group by the digits of its number. -/
def numberedReference (start : Nat) (digits : List Char) : Reader Nat := do
  let group := numberOf 10 digits
  if ← isOpened group then
    if !(← isClosed group) then refuse .openGroup start
    else
      checkLimit group
      return group
  else
    refuse (.invalidReference group) (start + 1)

/-- What a digit other than zero introduces: three octal digits are a code, and
one or two digits the number of a group. -/
def digitEscape (start : Nat) (first : Char) : Reader Meaning := do
  match ← takeRun Char.isDigit 1 with
  | [] => return .reference (← numberedReference start [first])
  | second :: _ =>
      let third ←
        if isOctalDigit first && isOctalDigit second then takeRun isOctalDigit 1
        else pure []
      if third.isEmpty then return .reference (← numberedReference start [first, second])
      else return .code (← octalCode start first (second :: third))

def escape (alphabet : Folding) (start : Nat) (c : Char) : Reader Meaning := do
  match categoryOf? c, anchorOf? alphabet c, controlCode? c with
  | some (kind, negated), _, _ => return .category kind negated
  | _, some place, _ => return .anchor place
  | _, _, some code => return .code code
  | _, _, _ =>
      if c = '0' then
        return .code (numberOf 8 (c :: (← takeRun isOctalDigit 2)))
      else if c.isDigit then
        digitEscape start c
      else
        return .code (← characterEscape start c)

def escapeInSet (start : Nat) (c : Char) : Reader Member := do
  match controlCode? c, categoryOf? c with
  | some code, _ => return .code code
  | _, some (kind, negated) => return .category kind negated
  | _, _ =>
      if isOctalDigit c then
        return .code (← octalCode start c (← takeRun isOctalDigit 2))
      else
        return .code (← characterEscape start c)

end Reader

end XmlCollation.Pattern
