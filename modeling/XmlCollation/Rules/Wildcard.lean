/-!
Contract: wildcards for names.

Owns:
- their pieces: a star for any characters, a question mark for any one, and sets
  of characters in brackets;
- the reading of sets, in which a range that runs backwards holds nothing and is
  left out with both its ends;
- matching of a whole name.

Does not own: letter case, which is settled before.
-/

namespace XmlCollation.Rules

/-- A part of a wildcard. -/
inductive Piece where
  | star
  | any
  | one (c : Char)
  | set (negated : Bool) (ranges : List (Char × Char))
deriving DecidableEq, Repr

/-! ## Sets -/

/-- The inside of a set and what follows it, if a bracket closes it.  A closing
bracket at the beginning, also after an exclamation mark, belongs to the inside. -/
def splitSet (chars : List Char) : Option (List Char × List Char) :=
  let (mark, unmarked) :=
    match chars with
    | '!' :: rest => (['!'], rest)
    | rest => ([], rest)
  let (bracket, body) :=
    match unmarked with
    | ']' :: rest => ([']'], rest)
    | rest => ([], rest)
  let (inside, closed) := body.span (· != ']')
  match closed with
  | _ :: rest => some (mark ++ bracket ++ inside, rest)
  | [] => none

/-- The place of the first hyphen that is not among the first `passed` characters. -/
def hyphenAfter (passed : Nat) (inside : List Char) : Option Nat :=
  ((inside.drop passed).idxOf? '-').map (passed + ·)

/-- The inside cut at the hyphens that make ranges.  A hyphen makes a range unless
it is the first character of its part; `passed` characters are not looked at. -/
def cutAtHyphens : Nat → Nat → List Char → List (List Char)
  | 0, _, inside => [inside]
  | fuel + 1, passed, inside =>
      match hyphenAfter passed inside with
      | none => [inside]
      | some place => inside.take place :: cutAtHyphens fuel 2 (inside.drop (place + 1))

/-- A hyphen at the end stands for itself. -/
def keepLastHyphen : List (List Char) → List (List Char)
  | [] => []
  | [part, []] => [part ++ ['-']]
  | part :: rest => part :: keepLastHyphen rest

/-- The last character of one part comes after the first of the next. -/
def runsBackwards (part next : List Char) : Bool :=
  match part.getLast?, next.head? with
  | some low, some high => high < low
  | _, _ => false

/-- Joins the parts around ranges that run backwards, without the ends of the ranges. -/
def dropBackwards : List (List Char) → List (List Char)
  | [] => []
  | part :: rest =>
      match dropBackwards rest with
      | [] => [part]
      | next :: more =>
          if runsBackwards part next then (part.dropLast ++ next.tail) :: more
          else part :: next :: more

/-- The parts of the inside of a set; between two of them lies a hyphen that makes
a range. -/
def partsOfSet (inside : List Char) : List (List Char) :=
  let passed := if inside.head? = some '!' then 2 else 1
  dropBackwards (keepLastHyphen (cutAtHyphens inside.length passed inside))

/-- Characters, and hyphens between parts, as ranges. -/
def rangesOf : List (Option Char) → List (Char × Char)
  | first :: none :: last :: rest =>
      (first.getD '-', last.getD '-') :: rangesOf rest
  | first :: rest => (first.getD '-', first.getD '-') :: rangesOf rest
  | [] => []

/-- The set with the given inside.  An exclamation mark at its beginning negates it. -/
def Piece.ofSet (inside : List Char) : Piece :=
  let marks := ((partsOfSet inside).map fun part => part.map some).intersperse [none]
  match marks.flatten with
  | some '!' :: rest => .set true (rangesOf rest)
  | rest => .set false (rangesOf rest)

/-! ## Wildcards -/

/-- The pieces of a wildcard; `fuel` bounds its characters.  A bracket that is not
closed stands for itself. -/
def piecesFrom : Nat → List Char → List Piece
  | 0, _ => []
  | _ + 1, [] => []
  | fuel + 1, '*' :: rest => .star :: piecesFrom fuel rest
  | fuel + 1, '?' :: rest => .any :: piecesFrom fuel rest
  | fuel + 1, '[' :: rest =>
      match splitSet rest with
      | some (inside, after) => Piece.ofSet inside :: piecesFrom fuel after
      | none => .one '[' :: piecesFrom fuel rest
  | fuel + 1, c :: rest => .one c :: piecesFrom fuel rest

def wildcard (chars : List Char) : List Piece :=
  piecesFrom chars.length chars

def Piece.holds (piece : Piece) (c : Char) : Bool :=
  match piece with
  | .star => false
  | .any => true
  | .one wanted => c == wanted
  | .set negated ranges =>
      (ranges.any fun range => range.1 ≤ c && c ≤ range.2) != negated

/-- Some end of a list of characters passes a test. -/
def anyEnd (test : List Char → Bool) : List Char → Bool
  | [] => test []
  | c :: rest => test (c :: rest) || anyEnd test rest

def matchesName : List Piece → List Char → Bool
  | [], name => name.isEmpty
  | .star :: rest, name => anyEnd (matchesName rest) name
  | _ :: _, [] => false
  | piece :: rest, c :: name => piece.holds c && matchesName rest name

example : matchesName (wildcard "[!z-a]b*".toList) "xbc".toList = true := by decide +kernel
example : matchesName (wildcard "[z-a]".toList) "z".toList = false := by decide +kernel
example : matchesName (wildcard "[]-a]".toList) "^".toList = true := by decide +kernel
example : matchesName (wildcard "a[".toList) "a[".toList = true := by decide +kernel

end XmlCollation.Rules
