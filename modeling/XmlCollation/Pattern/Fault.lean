import XmlCollation.Text.Quoted

/-!
Contract: why a text is no pattern.

Owns:
- the causes and their reports;
- positions in a pattern, also as line and column where it has several lines.

Does not own: the grammar of patterns.
-/

namespace XmlCollation.Pattern

open XmlCollation.Text

/-- The rule of the grammar that is broken. -/
inductive Cause where
  | danglingEscape
  | incompleteEscape (escape : String)
  | badEscape (escape : String)
  | octalRange (escape : String)
  | missing (what : String)
  | unterminatedName (terminator : Char)
  | unknownCharacter (name : String)
  | invalidReference (group : Nat)
  | openGroup
  | groupInLookBehind
  | unterminatedSet
  | badRange (low high : String)
  | repeatBounds
  | nothingToRepeat
  | multipleRepeat
  | unexpectedEnd
  | unknownExtension (introducer : String)
  | unterminatedComment
  | unterminatedGroup
  | badGroupName (name : String)
  | unknownGroup (name : String)
  | redefinedGroup (name : String) (group earlier : Nat)
  | badGroupNumber
  | conditionBranches
  | misplacedFlags
  | localeFlag
  | clashingFlags
  | unknownFlag
  | globalFlagOn
  | globalFlagOff
  | typeFlagOff
  | flagOnAndOff
  | unbalanced
  | lookBehindReach
  | lookBehindWidth
  | templateRepeat (kind : String)
deriving DecidableEq, Repr

def Cause.text : Cause → String
  | .danglingEscape => "bad escape (end of pattern)"
  | .incompleteEscape escape => "incomplete escape " ++ escape
  | .badEscape escape => "bad escape " ++ escape
  | .octalRange escape => "octal escape value " ++ escape ++ " outside of range 0-0o377"
  | .missing what => "missing " ++ what
  | .unterminatedName terminator =>
      "missing " ++ String.singleton terminator ++ ", unterminated name"
  | .unknownCharacter name => "undefined character name " ++ quoted name
  | .invalidReference group => "invalid group reference " ++ toString group
  | .openGroup => "cannot refer to an open group"
  | .groupInLookBehind => "cannot refer to group defined in the same lookbehind subpattern"
  | .unterminatedSet => "unterminated character set"
  | .badRange low high => "bad character range " ++ low ++ "-" ++ high
  | .repeatBounds => "min repeat greater than max repeat"
  | .nothingToRepeat => "nothing to repeat"
  | .multipleRepeat => "multiple repeat"
  | .unexpectedEnd => "unexpected end of pattern"
  | .unknownExtension introducer => "unknown extension ?" ++ introducer
  | .unterminatedComment => "missing ), unterminated comment"
  | .unterminatedGroup => "missing ), unterminated subpattern"
  | .badGroupName name => "bad character in group name " ++ quoted name
  | .unknownGroup name => "unknown group name " ++ quoted name
  | .redefinedGroup name group earlier =>
      "redefinition of group name " ++ quoted name ++ " as group " ++ toString group
        ++ "; was group " ++ toString earlier
  | .badGroupNumber => "bad group number"
  | .conditionBranches => "conditional backref with more than two branches"
  | .misplacedFlags => "global flags not at the start of the expression"
  | .localeFlag => "bad inline flags: cannot use 'L' flag with a str pattern"
  | .clashingFlags => "bad inline flags: flags 'a', 'u' and 'L' are incompatible"
  | .unknownFlag => "unknown flag"
  | .globalFlagOn => "bad inline flags: cannot turn on global flag"
  | .globalFlagOff => "bad inline flags: cannot turn off global flag"
  | .typeFlagOff => "bad inline flags: cannot turn off flags 'a', 'u' and 'L'"
  | .flagOnAndOff => "bad inline flags: flag turned on and off"
  | .unbalanced => "unbalanced parenthesis"
  | .lookBehindReach => "looks too much behind"
  | .lookBehindWidth => "look-behind requires fixed-width pattern"
  | .templateRepeat kind => "internal: unsupported template operator " ++ kind

/-- A broken rule and where it was noticed, if that is one place. -/
structure Fault where
  cause : Cause
  position : Option Nat
deriving DecidableEq, Repr

def lineOf (pattern : List Char) (position : Nat) : Nat :=
  (pattern.take position).count '\n' + 1

/-- The column of a position in its line, counted from 1. -/
def columnOf (pattern : List Char) (position : Nat) : Nat :=
  ((pattern.take position).reverse.takeWhile (· != '\n')).length + 1

def Fault.message (fault : Fault) (pattern : List Char) : String :=
  match fault.position with
  | none => fault.cause.text
  | some position =>
      let place := fault.cause.text ++ " at position " ++ toString position
      if pattern.contains '\n' then
        place ++ " (line " ++ toString (lineOf pattern position) ++ ", column "
          ++ toString (columnOf pattern position) ++ ")"
      else
        place

/-- Why a pattern is refused: its grammar, or a limit of the notation. -/
inductive Refusal where
  | malformed (fault : Fault)
  | repeatCount
  | characterCode
  | clashingAlphabets
deriving DecidableEq, Repr

def Refusal.message (refusal : Refusal) (pattern : List Char) : String :=
  match refusal with
  | .malformed fault => fault.message pattern
  | .repeatCount => "the repetition number is too large"
  | .characterCode => "the character code is too large"
  | .clashingAlphabets => "ASCII and UNICODE flags are incompatible"

example : (Fault.mk .unterminatedSet (some 3)).message "a\n(b[".toList =
    "unterminated character set at position 3 (line 2, column 2)" := by
  decide +kernel

end XmlCollation.Pattern
