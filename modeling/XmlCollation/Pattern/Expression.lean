import XmlCollation.Pattern.Fault
import XmlCollation.Text.CaseFold
import XmlCollation.Text.WordClass
import XmlCollation.Text.Blank

/-!
Contract: patterns as trees.

Owns:
- sets of characters, given by codes, ranges and classes, with or without
  regard to letter case;
- expressions over them, in which every part carries the flags that hold for it;
- the width of what an expression matches;
- the demands on an expression that its grammar does not express: a fixed width
  for what looks behind.

Does not own: how patterns are written.
-/

namespace XmlCollation.Pattern

open XmlCollation.Text

/-! ## Sets of characters -/

/-- A class of characters with a name. -/
inductive Category where
  | digit
  | space
  | word
deriving DecidableEq, Repr

/-- Membership of a character in a class, over its alphabet. -/
def Category.contains (category : Category) (alphabet : Folding) (c : Char) : Bool :=
  match alphabet, category with
  | .ascii, .digit => c.isDigit
  | .ascii, .space => c == ' ' || (9 ≤ c.toNat && c.toNat ≤ 13)
  | .ascii, .word => c.isAlphanum || c == '_'
  | .unicode, .digit => isDecimalDigit c
  | .unicode, .space => isBlank c
  | .unicode, .word => isWordChar c

/-- A part of a set of characters. -/
inductive Member where
  | code (wanted : Nat)
  | range (low high : Nat)
  | category (kind : Category) (negated : Bool)
deriving DecidableEq, Repr

/-- A set of characters. -/
structure CharSet where
  members : List Member
  negated : Bool := false
  alphabet : Folding := .unicode
  ignoreCase : Bool := false
deriving DecidableEq, Repr

/-- Whether a part of a set holds the code of a character, or a variant of it. -/
def Member.contains (member : Member) (alphabet : Folding) (codes : List Nat) (c : Char) : Bool :=
  match member with
  | .code wanted => codes.contains wanted
  | .range low high => codes.any fun candidate => low ≤ candidate && candidate ≤ high
  | .category kind negated => kind.contains alphabet c != negated

def CharSet.contains (set : CharSet) (c : Char) : Bool :=
  let codes := if set.ignoreCase then set.alphabet.variants c.toNat else [c.toNat]
  (set.members.any fun member => member.contains set.alphabet codes c) != set.negated

/-! ## Expressions -/

/-- A condition on a place in the text. -/
inductive Anchor where
  | textStart
  | lineStart
  | textEnd
  | lastLineEnd
  | lineEnd
  | boundary (alphabet : Folding)
  | noBoundary (alphabet : Folding)
deriving DecidableEq, Repr

/-- How many repetitions are tried first, and whether fewer or more are tried after. -/
inductive Appetite where
  | greedy
  | lazy
  | possessive
deriving DecidableEq, Repr

/-- The least and the most number of characters matched; none where there is no limit. -/
structure Width where
  least : Nat
  most : Option Nat
deriving DecidableEq, Repr

/-- Where an assertion looks.  Behind, it looks at as many characters as it is wide. -/
inductive Direction where
  | ahead
  | behind (width : Width)
deriving DecidableEq, Repr

/-- A pattern. -/
inductive Expression where
  | nothing
  | one (set : CharSet)
  | anchor (place : Anchor)
  | reference (index : Nat) (folding : Option Folding)
  | append (first second : Expression)
  | either (first second : Expression)
  | group (index : Nat) (body : Expression)
  | atomic (body : Expression)
  | assertion (direction : Direction) (negated : Bool) (body : Expression)
  | condition (index : Nat) (held missing : Expression)
  | loop (appetite : Appetite) (least : Nat) (most : Option Nat) (body : Expression)
deriving DecidableEq, Repr

def Expression.sequence (parts : List Expression) : Expression :=
  parts.foldr .append .nothing

/-- Expressions of which one has to match, the first being tried first. -/
def Expression.alternatives : List Expression → Expression
  | [] => .nothing
  | [only] => only
  | first :: second :: rest => .either first (alternatives (second :: rest))

/-! ## Widths -/

def Width.add (first second : Width) : Width :=
  ⟨first.least + second.least,
    match first.most, second.most with
    | some m, some n => some (m + n)
    | _, _ => none⟩

def Width.either (first second : Width) : Width :=
  ⟨min first.least second.least,
    match first.most, second.most with
    | some m, some n => some (max m n)
    | _, _ => none⟩

def Width.times (width : Width) (least : Nat) (most : Option Nat) : Width :=
  ⟨width.least * least,
    match width.most, most with
    | some m, some n => some (m * n)
    | some 0, none => some 0
    | none, some 0 => some 0
    | _, _ => none⟩

/-- The width of an expression, given the widths of the groups it refers to. -/
def Expression.width (groups : Nat → Width) : Expression → Width
  | .nothing => ⟨0, some 0⟩
  | .one _ => ⟨1, some 1⟩
  | .anchor _ => ⟨0, some 0⟩
  | .reference index _ => groups index
  | .append first second => (first.width groups).add (second.width groups)
  | .either first second => (first.width groups).either (second.width groups)
  | .group _ body => body.width groups
  | .atomic body => body.width groups
  | .assertion _ _ _ => ⟨0, some 0⟩
  | .condition _ held missing => (held.width groups).either (missing.width groups)
  | .loop _ least most body => (body.width groups).times least most

/-! ## Demands -/

/-- The farthest that an assertion can look behind. -/
def farthestReach : Nat := 4294967295

/-- The cause for which a direction cannot be looked in. -/
def Direction.cause? : Direction → Option Cause
  | .ahead => none
  | .behind width =>
      if farthestReach < width.least then some .lookBehindReach
      else if width.most = some width.least then none
      else some .lookBehindWidth

def Appetite.name : Appetite → String
  | .greedy => "MAX_REPEAT"
  | .lazy => "MIN_REPEAT"
  | .possessive => "POSSESSIVE_REPEAT"

/-- The first part of an expression that does not meet the demands.  A template
has no repetitions. -/
def Expression.cause? (template : Bool) : Expression → Option Cause
  | .nothing => none
  | .one _ => none
  | .anchor _ => none
  | .reference _ _ => none
  | .append first second =>
      (first.cause? template).orElse fun _ => second.cause? template
  | .either first second =>
      (first.cause? template).orElse fun _ => second.cause? template
  | .group _ body => body.cause? template
  | .atomic body => body.cause? template
  | .assertion direction _ body =>
      direction.cause?.orElse fun _ => body.cause? template
  | .condition _ held missing =>
      (held.cause? template).orElse fun _ => missing.cause? template
  | .loop appetite _ _ body =>
      if template then some (.templateRepeat appetite.name) else body.cause? template

end XmlCollation.Pattern
