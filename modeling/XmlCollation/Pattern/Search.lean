import XmlCollation.Pattern.Grammar

/-!
Contract: search for a pattern in a text.

Owns:
- spots, places in a text with the groups matched on the way there;
- matching with continuations: an expression hands each of its outcomes, the
  preferred one first, to what comes next, until that succeeds;
- repetition, which goes on only if the last round has moved or the least count
  is not reached, so that rounds are bounded by the text that is left;
- search from every place of the text.

Does not own: how patterns are written.
-/

namespace XmlCollation.Pattern

open XmlCollation.Text

/-- Where a group was matched: the text from its start on, with the count of
characters before, and the count of characters before its end. -/
structure Span where
  start : Nat
  ahead : List Char
  stop : Option Nat
deriving DecidableEq, Repr

/-- The text of a span, once it has an end that is not before its start. -/
def Span.text? (span : Span) : Option (List Char) :=
  match span.stop with
  | none => none
  | some stop => if stop < span.start then none else some (span.ahead.take (stop - span.start))

/-- A place in a text.  `before` has the nearest character first. -/
structure Spot where
  before : List Char
  after : List Char
  index : Nat
  groups : List (Nat × Span)
deriving DecidableEq, Repr

namespace Spot

def start (chars : List Char) : Spot :=
  ⟨[], chars, 0, []⟩

def forward? (spot : Spot) : Option (Char × Spot) :=
  match spot.after with
  | [] => none
  | c :: rest =>
      some (c, { spot with before := c :: spot.before, after := rest, index := spot.index + 1 })

def back? : Nat → Spot → Option Spot
  | 0, spot => some spot
  | count + 1, spot =>
      match spot.before with
      | [] => none
      | c :: rest =>
          back? count
            { spot with before := rest, after := c :: spot.after, index := spot.index - 1 }

def span? (spot : Spot) (group : Nat) : Option Span :=
  spot.groups.lookup group

def heldText? (spot : Spot) (group : Nat) : Option (List Char) :=
  (spot.span? group).bind Span.text?

def keep (spot : Spot) (group : Nat) (span : Span) : Spot :=
  { spot with groups := (group, span) :: spot.groups.filter (·.1 != group) }

/-- Begins a group here.  An end it had before stays until it is ended again. -/
def openGroup (spot : Spot) (group : Nat) : Spot :=
  spot.keep group ⟨spot.index, spot.after, (spot.span? group).bind Span.stop⟩

def closeGroup (spot : Spot) (group : Nat) : Spot :=
  match spot.span? group with
  | none => spot
  | some span => spot.keep group { span with stop := some spot.index }

/-- Goes over a given text, compared as `folding` says. -/
def past? (folding : Option Folding) : List Char → Spot → Option Spot
  | [], spot => some spot
  | wanted :: rest, spot =>
      match spot.forward? with
      | none => none
      | some (c, next) =>
          let same :=
            match folding with
            | none => c == wanted
            | some alphabet => alphabet.lower c.toNat == alphabet.lower wanted.toNat
          if same then past? folding rest next else none

end Spot

/-- A change between word characters and others.  An empty text has neither a
change nor a place without one. -/
def Spot.wordChange? (spot : Spot) (alphabet : Folding) : Option Bool :=
  if spot.before.isEmpty && spot.after.isEmpty then none
  else
    let isWord (c : Option Char) : Bool := c.any (Category.word.contains alphabet)
    some (isWord spot.before.head? != isWord spot.after.head?)

def Anchor.holds (anchor : Anchor) (spot : Spot) : Bool :=
  match anchor with
  | .textStart => spot.before.isEmpty
  | .lineStart => spot.before.head?.all (· == '\n')
  | .textEnd => spot.after.isEmpty
  | .lastLineEnd => spot.after.isEmpty || spot.after == ['\n']
  | .lineEnd => spot.after.head?.all (· == '\n')
  | .boundary alphabet => spot.wordChange? alphabet == some true
  | .noBoundary alphabet => spot.wordChange? alphabet == some false

/-- What is done with an outcome: it leads to a final place, or it does not. -/
abbrev Next := Spot → Option Spot

/-- The number of rounds after which a repetition has reached its least count and
then has moved over all that is left. -/
def roundLimit (least : Nat) (spot : Spot) : Nat :=
  least + spot.after.length + 2

/-- Rounds of a body after `count` rounds.  Beyond the least count, a further round
is tried only from a place other than `last`, where the previous such round began. -/
def rounds (body : Next → Next) (appetite : Appetite) (least : Nat) (most : Option Nat)
    (next : Next) : Nat → Nat → Option Nat → Next
  | 0, _, _, _ => none
  | fuel + 1, count, last, spot =>
      let further (last : Option Nat) : Next :=
        rounds body appetite least most next fuel (count + 1) last
      let mayRepeat := most.all (count < ·) && last != some spot.index
      match appetite with
      | .greedy =>
          if count < least then body (further last) spot
          else if mayRepeat then
            (body (further (some spot.index)) spot).orElse fun _ => next spot
          else next spot
      | .lazy =>
          if count < least then body (further last) spot
          else
            (next spot).orElse fun _ =>
              if mayRepeat then body (further (some spot.index)) spot else none
      | .possessive =>
          if count < least then (body some spot).bind (further last)
          else if mayRepeat then
            match body some spot with
            | some final => further (some spot.index) final
            | none => next spot
          else next spot

/-- Matches an expression at a place, and then what comes next. -/
def Expression.run : Expression → Next → Next
  | .nothing, next, spot => next spot
  | .one set, next, spot =>
      match spot.forward? with
      | none => none
      | some (c, further) => if set.contains c then next further else none
  | .anchor place, next, spot => if place.holds spot then next spot else none
  | .reference index folding, next, spot =>
      ((spot.heldText? index).bind fun text => spot.past? folding text).bind next
  | .append first second, next, spot => first.run (second.run next) spot
  | .either first second, next, spot =>
      (first.run next spot).orElse fun _ => second.run next spot
  | .group index body, next, spot =>
      body.run (fun final => next (final.closeGroup index)) (spot.openGroup index)
  | .atomic body, next, spot => (body.run some spot).bind next
  | .assertion direction negated body, next, spot =>
      let found :=
        match direction with
        | .ahead => body.run some spot
        | .behind width => (spot.back? width.least).bind (body.run some)
      match found, negated with
      | some final, false => next { spot with groups := final.groups }
      | none, true => next spot
      | _, _ => none
  | .condition index held missing, next, spot =>
      if (spot.heldText? index).isSome then held.run next spot else missing.run next spot
  | .loop appetite least most body, next, spot =>
      rounds body.run appetite least most next (roundLimit least spot) 0 none spot

/-- Whether an expression matches at a place or at a later one. -/
def Expression.foundFrom (expression : Expression) (before : List Char) (index : Nat) :
    List Char → Bool
  | [] => (expression.run some ⟨before, [], index, []⟩).isSome
  | c :: rest =>
      (expression.run some ⟨before, c :: rest, index, []⟩).isSome
        || foundFrom expression (c :: before) (index + 1) rest

/-- Whether an expression matches somewhere in a text. -/
def Expression.foundIn (expression : Expression) (chars : List Char) : Bool :=
  expression.foundFrom [] 0 chars

end XmlCollation.Pattern
