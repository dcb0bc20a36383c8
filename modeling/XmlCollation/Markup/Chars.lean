import XmlCollation.Text.Ranges

/-!
Contract: the character classes of the markup grammar.

Owns:
- the characters a document may hold, its white space, and the characters of names;
- the predicates "is a name" and "is a name without a colon".

Does not own: how names are used.  Non-ASCII classes follow the fifth edition of
the grammar.
-/

namespace XmlCollation.Markup

open XmlCollation.Text

def isDocumentChar (c : Char) : Bool :=
  let code := c.toNat
  code == 9 || code == 10 || code == 13
    || (0x20 ≤ code && code ≤ 0xd7ff)
    || (0xe000 ≤ code && code ≤ 0xfffd)
    || 0x10000 ≤ code

/-- White space between parts of the markup. -/
def isSpace (c : Char) : Bool :=
  c == ' ' || c == '\n' || c == '\t' || c == '\r'

/-- Codes of the characters that begin a name, the colon left out. -/
def nameStartRanges : Ranges :=
  [(0x41, 0x5a), (0x5f, 0x5f), (0x61, 0x7a), (0xc0, 0xd6), (0xd8, 0xf6), (0xf8, 0x2ff),
    (0x370, 0x37d), (0x37f, 0x1fff), (0x200c, 0x200d), (0x2070, 0x218f), (0x2c00, 0x2fef),
    (0x3001, 0xd7ff), (0xf900, 0xfdcf), (0xfdf0, 0xfffd), (0x10000, 0xeffff)]

/-- Codes of the further characters that go on a name. -/
def nameFollowRanges : Ranges :=
  [(0x2d, 0x2e), (0x30, 0x39), (0xb7, 0xb7), (0x300, 0x36f), (0x203f, 0x2040)]

def isPlainNameStart (c : Char) : Bool :=
  nameStartRanges.contains c.toNat

def isPlainNameChar (c : Char) : Bool :=
  isPlainNameStart c || nameFollowRanges.contains c.toNat

def isNameStart (c : Char) : Bool :=
  c == ':' || isPlainNameStart c

def isNameChar (c : Char) : Bool :=
  c == ':' || isPlainNameChar c

/-- A name without a colon, the form of prefixes and of local names. -/
def isPlainName : List Char → Bool
  | [] => false
  | c :: rest => isPlainNameStart c && rest.all isPlainNameChar

def isName : List Char → Bool
  | [] => false
  | c :: rest => isNameStart c && rest.all isNameChar

/-- A decimal digit of a character reference or a version. -/
def isDigit (c : Char) : Bool :=
  '0' ≤ c && c ≤ '9'

def hexValue? (c : Char) : Option Nat :=
  if '0' ≤ c ∧ c ≤ '9' then some (c.toNat - 48)
  else if 'a' ≤ c ∧ c ≤ 'f' then some (c.toNat - 87)
  else if 'A' ≤ c ∧ c ≤ 'F' then some (c.toNat - 55)
  else none

/-- Reads digits of a base; nothing is read from no digits. -/
def digitsValue? (base : Nat) (chars : List Char) : Option Nat :=
  if chars.isEmpty then none
  else
    chars.foldl
      (fun total c => do
        let value ← total
        let digit ← hexValue? c
        if digit < base then some (value * base + digit) else none)
      (some 0)

/-- The character with a code, when a document may hold it. -/
def documentChar? (code : Nat) : Option Char :=
  if valid : code.isValidChar then
    let c := Char.ofNatAux code valid
    if isDocumentChar c then some c else none
  else none

end XmlCollation.Markup
