import XmlCollation.Text.Case.Data

/-!
Contract: lower-casing of text.

Owns: the full lower-casing of Unicode.  Two characters need more than a
look-up: the dotted capital I becomes two characters, and the capital sigma
has a second small form for the end of a word, recognised by its neighbours.

Does not own: any other case conversion.
-/

namespace XmlCollation.Text

namespace Case

/-- The partner of a code in a run, when the code belongs to the run. -/
def Run.partnerOf? (run : Run) (code : Nat) : Option Nat :=
  if run.first ≤ code ∧ code ≤ run.last ∧ (code - run.first) % run.stride = 0 then
    some (Int.toNat (Int.ofNat code + run.offset))
  else
    none

/-- Looks a code up in runs that are in the order of their first codes. -/
def partner? : List Run → Nat → Option Nat
  | [], _ => none
  | run :: rest, code =>
      if code < run.first then none
      else (run.partnerOf? code).orElse fun _ => partner? rest code

/-- The one-character lower-case partner, or the character itself. -/
def simpleLower (c : Char) : Char :=
  if c.toNat < 128 then c.toLower
  else ((partner? runs c.toNat).map Char.ofNat).getD c

/-- A letter with case that is never stepped over. -/
def isCased (c : Char) : Bool :=
  casedRanges.contains c.toNat

/-- A character stepped over when the neighbouring letter is looked for. -/
def isIgnorable (c : Char) : Bool :=
  ignorableRanges.contains c.toNat

/-- The first character that is not stepped over is a letter with case. -/
def meetsLetter : List Char → Bool
  | [] => false
  | c :: rest => if isIgnorable c then meetsLetter rest else isCased c

/-- A sigma between `before` (nearest character first) and `after` ends a word. -/
def endsWord (before after : List Char) : Bool :=
  meetsLetter before && !meetsLetter after

/-- The lower-case form of one character between its neighbours. -/
def lowerAt (before : List Char) (c : Char) (after : List Char) : List Char :=
  if c.toNat = 0x3a3 then
    [Char.ofNat (if endsWord before after then 0x3c2 else 0x3c3)]
  else if c.toNat = 0x130 then
    ['i', Char.ofNat 0x307]
  else
    [simpleLower c]

/-- Lower-casing of what follows the characters `before` (nearest first). -/
def lowerAfter (before : List Char) : List Char → List Char
  | [] => []
  | c :: after => lowerAt before c after ++ lowerAfter (c :: before) after

end Case

def lower (chars : List Char) : List Char :=
  Case.lowerAfter [] chars

def lowered (text : String) : String :=
  String.ofList (lower text.toList)

theorem lower_nil : lower [] = [] :=
  rfl

theorem lowered_toList (text : String) :
    (lowered text).toList = lower text.toList := by
  simp [lowered]

/-- Every character but the capital sigma is lower-cased without regard to its
neighbours. -/
theorem Case.lowerAt_eq_of_ne_sigma
    (c : Char)
    (notSigma : c.toNat ≠ 0x3a3)
    (before after before' after' : List Char) :
    Case.lowerAt before c after = Case.lowerAt before' c after' := by
  simp [Case.lowerAt, notSigma]

end XmlCollation.Text
