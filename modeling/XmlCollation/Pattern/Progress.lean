import XmlCollation.Pattern.Cursor
import XmlCollation.Pattern.Expression

/-!
Contract: the state of reading a pattern.

Owns:
- flags and how the flags of a part are made from those around it;
- the groups known so far, their names and widths, and which of them may be
  referred to;
- the primitive steps of reading.

Does not own: the grammar.
-/

namespace XmlCollation.Pattern

open XmlCollation.Text

/-! ## Flags -/

/-- A flag of a pattern or of a part. -/
inductive Flag where
  | ignoreCase
  | locale
  | multiline
  | dotAll
  | verbose
  | ascii
  | template
  | unicode
deriving DecidableEq, Repr

def Flag.ofChar? : Char → Option Flag
  | 'i' => some .ignoreCase
  | 'L' => some .locale
  | 'm' => some .multiline
  | 's' => some .dotAll
  | 'x' => some .verbose
  | 'a' => some .ascii
  | 't' => some .template
  | 'u' => some .unicode
  | _ => none

/-- Flags of which one excludes the others: they choose the alphabet. -/
def Flag.choosesAlphabet : Flag → Bool
  | .ascii | .locale | .unicode => true
  | _ => false

/-- Flags in force. -/
abbrev Flags := List Flag

def Flags.with (flags : Flags) (flag : Flag) : Flags :=
  if flags.contains flag then flags else flags ++ [flag]

def Flags.chooseAlphabet (flags : Flags) : Bool :=
  flags.any Flag.choosesAlphabet

/-- The flags of a part: an alphabet chosen there replaces the one chosen around it. -/
def Flags.within (flags added removed : Flags) : Flags :=
  let kept :=
    if added.chooseAlphabet then flags.filter (!·.choosesAlphabet) else flags
  (kept ++ added).filter (!removed.contains ·)

def Flags.alphabet (flags : Flags) : Folding :=
  if flags.contains .ascii then .ascii else .unicode

/-! ## State -/

/-- What is known while a pattern is read.

`widths` holds the groups opened so far in order, with their width once they are
closed; `limit` is the number of the first group that what looks behind may not
refer to; `pending` holds group numbers in conditions with their positions. -/
structure Progress where
  cursor : Cursor
  widths : List (Option Width) := []
  names : List (String × Nat) := []
  limit : Option Nat := none
  pending : List (Nat × Nat) := []
  flags : Flags := []
deriving Repr

/-- A step of reading a pattern. -/
abbrev Reader := StateT Progress (Except Refusal)

namespace Reader

/-- Refuses the pattern for a cause at a position. -/
def refuse {α : Type} (cause : Cause) (position : Nat) : Reader α :=
  throw (.malformed ⟨cause, some position⟩)

def peek : Reader (Option Token) := do
  return (← get).cursor.next

def position : Reader Nat := do
  return (← get).cursor.position

/-- A bound on the number of tokens that are left. -/
def bound : Reader Nat := do
  return (← get).cursor.rest.length + 2

def skip : Reader Unit := do
  let progress ← get
  let cursor ← progress.cursor.advance
  set { progress with cursor := cursor }

def take : Reader (Option Token) := do
  let token ← peek
  skip
  return token

def accept (c : Char) : Reader Bool := do
  if (← peek) = some (.plain c) then
    skip
    return true
  else
    return false

/-- Takes at most `count` characters that pass a test. -/
def takeRun (test : Char → Bool) : Nat → Reader (List Char)
  | 0 => return []
  | count + 1 => do
      match ← peek with
      | some (.plain c) =>
          if test c then
            skip
            return c :: (← takeRun test count)
          else
            return []
      | _ => return []

/-- Takes a name up to its terminator; `fuel` bounds its tokens and `taken` is
its beginning. -/
def takeNameFrom (terminator : Char) (what : String) : Nat → List Char → Reader (List Char)
  | 0, taken => return taken
  | fuel + 1, taken => do
      match ← take with
      | none =>
          let here ← position
          if taken.isEmpty then refuse (.missing what) here
          else refuse (.unterminatedName terminator) (here - taken.length)
      | some token =>
          if token = .plain terminator then
            if taken.isEmpty then refuse (.missing what) ((← position) - 1)
            else return taken
          else
            takeNameFrom terminator what fuel (taken ++ token.chars)

/-- Takes a name up to its terminator, and goes over the terminator. -/
def takeName (terminator : Char) (what : String) : Reader (List Char) := do
  takeNameFrom terminator what (← bound) []

/-! ## Groups -/

def widthOf? (progress : Progress) (group : Nat) : Option Width :=
  match group with
  | 0 => none
  | index + 1 => (progress.widths[index]?).join

def widths : Reader (Nat → Width) := do
  let progress ← get
  return fun group => (widthOf? progress group).getD ⟨0, some 0⟩

def isOpened (group : Nat) : Reader Bool := do
  return group ≤ (← get).widths.length

def isClosed (group : Nat) : Reader Bool := do
  return (widthOf? (← get) group).isSome

def openGroup (name : Option String) : Reader Nat := do
  let progress ← get
  let group := progress.widths.length + 1
  let names ←
    match name with
    | none => pure progress.names
    | some chars =>
        match progress.names.lookup chars with
        | some earlier =>
            refuse (.redefinedGroup chars group earlier)
              (progress.cursor.position - (chars.length + 1))
        | none => pure (progress.names ++ [(chars, group)])
  set { progress with widths := progress.widths ++ [none], names := names }
  return group

/-- Closes a group, of which the width is known now. -/
def closeGroup (group : Nat) (width : Width) : Reader Unit :=
  modify fun progress =>
    { progress with widths := progress.widths.set (group - 1) (some width) }

/-- What looks behind refers only to groups that were closed before it began. -/
def checkLimit (group : Nat) : Reader Unit := do
  match (← get).limit with
  | none => return
  | some limit =>
      if !(← isClosed group) then refuse .openGroup (← position)
      else if limit ≤ group then refuse .groupInLookBehind (← position)
      else return

end Reader

end XmlCollation.Pattern
