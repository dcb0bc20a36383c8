import XmlCollation.Pattern.Escape
import XmlCollation.Text.Identifier

/-!
Contract: the grammar of patterns.

Owns:
- sets of characters in brackets, bounds of repetitions, inline flags, and what
  an opening parenthesis may be followed by;
- sequences, alternatives and groups, read in one pass from the left, so that of
  two faults the one noticed first is reported;
- the checks that come after the last character.

Does not own: matching.
-/

namespace XmlCollation.Pattern

open XmlCollation.Text

/-! ## Parts of a sequence -/

/-- What a quantifier finds in front of it. -/
inductive PartKind where
  | place
  | repetition
  | other
deriving DecidableEq, Repr

/-- A part of a sequence. -/
structure Part where
  kind : PartKind
  expression : Expression
deriving DecidableEq, Repr

def Part.one (flags : Flags) (members : List Member) (negated : Bool) : Part :=
  ⟨.other, .one ⟨members, negated, flags.alphabet, flags.contains .ignoreCase⟩⟩

/-- A part that matches any character, or any but a line feed. -/
def Part.any (flags : Flags) : Part :=
  Part.one flags (if flags.contains .dotAll then [] else [.code 10]) true

def Part.ofMeaning (flags : Flags) : Meaning → Part
  | .code wanted => Part.one flags [.code wanted] false
  | .category kind negated => Part.one flags [.category kind negated] false
  | .anchor place => ⟨.place, .anchor place⟩
  | .reference index =>
      ⟨.other, .reference index (if flags.contains .ignoreCase then some flags.alphabet else none)⟩

/-- The place before the first character, or of a line. -/
def Part.start (flags : Flags) : Part :=
  ⟨.place, .anchor (if flags.contains .multiline then .lineStart else .textStart)⟩

/-- The place after the last character, or before a last line feed, or the end of a line. -/
def Part.finish (flags : Flags) : Part :=
  ⟨.place, .anchor (if flags.contains .multiline then .lineEnd else .lastLineEnd)⟩

def Part.join (parts : List Part) : Expression :=
  Expression.sequence (parts.map Part.expression)

namespace Reader

/-! ## Sets -/

def memberOf (start : Nat) : Token → Reader Member
  | .plain c => return .code c.toNat
  | .escaped c => escapeInSet start c

/-- The range between two members, which have to be codes in rising order. -/
def rangeOf (low high : Token) : Member → Member → Reader Member
  | .code first, .code last => do
      if last < first then refuseRange else return .range first last
  | _, _ => refuseRange
where
  refuseRange : Reader Member := do
    refuse (.badRange low.text high.text) ((← position) - (low.width + 1 + high.width))

/-- The members of the set that began at `start`; `fuel` bounds the tokens, and
`members` are those before.  A closing bracket ends the set unless it comes first. -/
def membersFrom (start : Nat) : Nat → List Member → Reader (List Member)
  | 0, _ => refuse .unterminatedSet start
  | fuel + 1, members => do
      let here ← position
      match ← take with
      | none => refuse .unterminatedSet start
      | some token =>
          if token = .plain ']' && !members.isEmpty then
            return members
          else
            let low ← memberOf here token
            if ← accept '-' then
              let there ← position
              match ← take with
              | none => refuse .unterminatedSet start
              | some other =>
                  if other = .plain ']' then
                    return members ++ [low, .code 45]
                  else
                    let high ← memberOf there other
                    membersFrom start fuel (members ++ [← rangeOf token other low high])
            else
              membersFrom start fuel (members ++ [low])

def set (flags : Flags) (start : Nat) : Reader Part := do
  let negated ← accept '^'
  return Part.one flags (← membersFrom start (← bound) []) negated

/-! ## Quantifiers -/

def repeatLimit : Nat := 4294967295

def boundOf (digits : List Char) : Reader (Option Nat) := do
  if digits.isEmpty then return none
  else
    let number := numberOf 10 digits
    if repeatLimit ≤ number then throw .repeatCount else return some number

/-- The bounds between braces after the opening brace; a brace without bounds
stands for itself, and nothing is read. -/
def braces : Reader (Option (Nat × Option Nat)) := do
  if (← peek) = some (.plain '\x7d') then return none
  else
    let before ← get
    let here ← position
    let low ← takeRun Char.isDigit (← bound)
    let high ← if ← accept ',' then takeRun Char.isDigit (← bound) else pure low
    if ← accept '\x7d' then
      let least := (← boundOf low).getD 0
      let most ← boundOf high
      if most.any (· < least) then refuse .repeatBounds here
      else return some (least, most)
    else
      StateT.set before
      return none

def bounds : Char → Reader (Option (Nat × Option Nat))
  | '?' => return some (0, some 1)
  | '*' => return some (0, none)
  | '+' => return some (1, none)
  | _ => braces

/-- How much a quantifier takes, by the mark after it. -/
def appetite : Reader Appetite := do
  if ← accept '?' then return .lazy
  if ← accept '+' then return .possessive
  return .greedy

/-- Applies a quantifier at `start` to the last of the parts, which come in
reverse order. -/
def quantify (start least : Nat) (most : Option Nat) : List Part → Reader (List Part)
  | [] => refuse .nothingToRepeat start
  | last :: before =>
      match last.kind with
      | .place => refuse .nothingToRepeat start
      | .repetition => refuse .multipleRepeat start
      | .other => do
          let appetite ← appetite
          return ⟨.repetition, .loop appetite least most last.expression⟩ :: before

/-! ## Inline flags -/

def refuseFlag {α : Type} (token : Token) (what : String) : Reader α := do
  let cause : Cause :=
    match token with
    | .plain c => if isLetter c then .unknownFlag else .missing what
    | .escaped _ => .missing what
  refuse cause ((← position) - token.width)

def flagOf? : Token → Option Flag
  | .plain c => Flag.ofChar? c
  | .escaped _ => none

/-- Flags that are turned on, from `flag` up to a parenthesis, minus or colon,
which is returned as well. -/
def flagsOn : Nat → Flag → Flags → Reader (Flags × Char)
  | 0, _, _ => do refuse (.missing "-, : or )") (← position)
  | fuel + 1, flag, before => do
      let flags := before.with flag
      if flag = .locale then refuse .localeFlag (← position)
      else if flag.choosesAlphabet && flags.filter Flag.choosesAlphabet != [flag] then
        refuse .clashingFlags (← position)
      else
        match ← take with
        | none => refuse (.missing "-, : or )") (← position)
        | some token =>
            if token = .plain ')' then return (flags, ')')
            else if token = .plain '-' then return (flags, '-')
            else if token = .plain ':' then return (flags, ':')
            else
              match flagOf? token with
              | none => refuseFlag token "-, : or )"
              | some next => flagsOn fuel next flags

/-- Flags that are turned off, from `flag` up to a colon. -/
def flagsOff : Nat → Flag → Flags → Reader Flags
  | 0, _, _ => do refuse (.missing ":") (← position)
  | fuel + 1, flag, before => do
      let flags := before.with flag
      if flag.choosesAlphabet then refuse .typeFlagOff (← position)
      else
        match ← take with
        | none => refuse (.missing ":") (← position)
        | some token =>
            if token = .plain ':' then return flags
            else
              match flagOf? token with
              | none => refuseFlag token ":"
              | some next => flagsOff fuel next flags

def flagsAfterMinus : Reader Flags := do
  match ← take with
  | none => refuse (.missing "flag") (← position)
  | some token =>
      match flagOf? token with
      | none => refuseFlag token "flag"
      | some flag => flagsOff (← bound) flag []

/-! ## Openings -/

/-- What an opening parenthesis introduces. -/
inductive Opening where
  | capture (name : Option String)
  | plain (added removed : Flags)
  | atomic
  | assertion (behind negated : Bool)
  | condition (group : Nat)
  | reference (index : Nat)
  | remark
  | flags (added : Flags)

/-- Inline flags, for the rest of the pattern or for a part. -/
def flagOpening (first : Token) : Reader Opening := do
  let (added, stop) ←
    match flagOf? first with
    | some flag => flagsOn (← bound) flag []
    | none => pure ([], '-')
  if stop = ')' then
    return .flags added
  else if added.contains .template then
    refuse .globalFlagOn ((← position) - 1)
  else
    let removed ← if stop = '-' then flagsAfterMinus else pure []
    if removed.contains .template then refuse .globalFlagOff ((← position) - 1)
    else if added.any removed.contains then refuse .flagOnAndOff ((← position) - 1)
    else return .plain added removed

/-- A name of a group, which has to be an identifier. -/
def groupName (terminator : Char) : Reader String := do
  let name ← takeName terminator "group name"
  if isIdentifier name then return String.ofList name
  else refuse (.badGroupName (String.ofList name)) ((← position) - (name.length + 1))

def groupNamed (name : String) : Reader Nat := do
  match (← get).names.lookup name with
  | some group => return group
  | none => refuse (.unknownGroup name) ((← position) - (name.length + 1))

def namedReference : Reader Opening := do
  let name ← groupName ')'
  let group ← groupNamed name
  if !(← isClosed group) then refuse .openGroup ((← position) - (name.length + 1))
  else
    checkLimit group
    return .reference group

def namedOpening : Reader Opening := do
  if ← accept '<' then
    return .capture (some (← groupName '>'))
  else if ← accept '=' then
    namedReference
  else
    match ← take with
    | none => refuse .unexpectedEnd (← position)
    | some token =>
        refuse (.unknownExtension ("P" ++ token.text)) ((← position) - (token.width + 2))

/-- Goes over a remark that began at `start`, up to its closing parenthesis. -/
def skipRemark (start : Nat) : Nat → Reader Unit
  | 0 => refuse .unterminatedComment start
  | fuel + 1 => do
      match ← peek with
      | none => refuse .unterminatedComment start
      | some token =>
          skip
          if token = .plain ')' then return else skipRemark start fuel

/-- The value of digits, between which single underscores may stand. -/
def digitsValue? : Option Nat → List Char → Option Nat
  | number, [] => number
  | some number, '_' :: c :: rest =>
      match digitValue? c with
      | some digit => digitsValue? (some (number * 10 + digit)) rest
      | none => none
  | number, c :: rest =>
      match digitValue? c with
      | some digit => digitsValue? (some (number.getD 0 * 10 + digit)) rest
      | none => none

/-- A number that is not negative, as texts give it: with white space around it,
a sign, digits of any script and single underscores. -/
def wholeNumber? (chars : List Char) : Option Nat :=
  match trim chars with
  | '+' :: rest => digitsValue? none rest
  | '-' :: rest => if digitsValue? none rest = some 0 then some 0 else none
  | rest => digitsValue? none rest

/-- Group numbers in conditions are below this number. -/
def groupLimit : Nat := 1073741823

/-- The group that a condition asks for, by name or by number. -/
def conditionOpening : Reader Opening := do
  let name ← takeName ')' "group name"
  let start := (← position) - (name.length + 1)
  let group ←
    if isIdentifier name then groupNamed (String.ofList name)
    else
      match wholeNumber? name with
      | none => refuse (.badGroupName (String.ofList name)) start
      | some 0 => refuse .badGroupNumber start
      | some number =>
          if groupLimit ≤ number then refuse (.invalidReference number) start
          else
            modify fun progress =>
              if progress.pending.any (·.1 == number) then progress
              else { progress with pending := progress.pending ++ [(number, start)] }
            pure number
  checkLimit group
  return .condition group

def behindOpening : Reader Opening := do
  match ← take with
  | none => refuse .unexpectedEnd (← position)
  | some token =>
      if token = .plain '=' then return .assertion true false
      else if token = .plain '!' then return .assertion true true
      else refuse (.unknownExtension ("<" ++ token.text)) ((← position) - (token.width + 2))

/-- What follows the parenthesis that was read at `start`. -/
def opening (start : Nat) : Reader Opening := do
  if !(← accept '?') then return .capture none
  else
    match ← take with
    | none => refuse .unexpectedEnd (← position)
    | some token =>
        match token with
        | .plain 'P' => namedOpening
        | .plain ':' => return .plain [] []
        | .plain '#' =>
            skipRemark start (← bound)
            return .remark
        | .plain '=' => return .assertion false false
        | .plain '!' => return .assertion false true
        | .plain '<' => behindOpening
        | .plain '(' => conditionOpening
        | .plain '>' => return .atomic
        | _ =>
            if (flagOf? token).isSome || token = .plain '-' then flagOpening token
            else refuse (.unknownExtension token.text) ((← position) - (token.width + 1))

/-- Goes over the parenthesis that closes what was opened at `start`. -/
def closing (start : Nat) : Reader Unit := do
  if ← accept ')' then return else refuse .unterminatedGroup start

def skipLine : Nat → Reader Unit
  | 0 => return
  | fuel + 1 => do
      match ← take with
      | none => return
      | some token => if token = .plain '\n' then return else skipLine fuel

/-! ## Sequences and alternatives -/

/-- White space that does not count in verbose patterns. -/
def isLayout (c : Char) : Bool :=
  c == ' ' || (9 ≤ c.toNat && c.toNat ≤ 13)

/-- Runs a step for a part that looks behind: within the outermost such part, the
groups opened from now on cannot be referred to. -/
def lookingBehind (behind : Bool) (step : Reader Expression) : Reader Expression := do
  let before := (← get).limit
  if behind && before.isNone then
    modify fun progress => { progress with limit := some (progress.widths.length + 1) }
    let body ← step
    modify fun progress => { progress with limit := none }
    return body
  else
    step

mutual

/-- A sequence up to a bar, a closing parenthesis or the end; `parts` are those
before, last first.  Flags for the rest of the pattern may stand only at the
beginning of its first alternative, which `first` tells. -/
def sequenceFrom (fuel : Nat) (flags : Flags) (first : Bool) (parts : List Part) :
    Reader Expression :=
  match fuel with
  | 0 => return Part.join parts.reverse
  | fuel + 1 => do
      let start ← position
      match ← peek with
      | none => return Part.join parts.reverse
      | some (.escaped c) =>
          skip
          let part := Part.ofMeaning flags (← escape flags.alphabet start c)
          sequenceFrom fuel flags first (part :: parts)
      | some (.plain c) =>
          if c = '|' || c = ')' then return Part.join parts.reverse
          else
            skip
            if flags.contains .verbose && isLayout c then
              sequenceFrom fuel flags first parts
            else if flags.contains .verbose && c = '#' then
              skipLine (← bound)
              sequenceFrom fuel flags first parts
            else if c = '[' then
              sequenceFrom fuel flags first ((← set flags start) :: parts)
            else if c = '*' || c = '+' || c = '?' || c = '\x7b' then
              match ← bounds c with
              | none => sequenceFrom fuel flags first (Part.one flags [.code c.toNat] false :: parts)
              | some (least, most) =>
                  sequenceFrom fuel flags first (← quantify start least most parts)
            else if c = '.' then
              sequenceFrom fuel flags first (Part.any flags :: parts)
            else if c = '^' then
              sequenceFrom fuel flags first (Part.start flags :: parts)
            else if c = '$' then
              sequenceFrom fuel flags first (Part.finish flags :: parts)
            else if c = '(' then
              match ← opening start with
              | .remark => sequenceFrom fuel flags first parts
              | .flags added =>
                  if first && parts.isEmpty then
                    modify fun progress => { progress with flags := progress.flags ++ added }
                    sequenceFrom fuel (flags ++ added) first parts
                  else
                    refuse .misplacedFlags start
              | .reference index =>
                  sequenceFrom fuel flags first
                    (Part.ofMeaning flags (.reference index) :: parts)
              | .condition group =>
                  let held ← sequenceFrom fuel flags false []
                  let missing ← if ← accept '|' then otherwise fuel flags else pure .nothing
                  closing start
                  sequenceFrom fuel flags first (⟨.other, .condition group held missing⟩ :: parts)
              | .assertion behind negated =>
                  let body ← lookingBehind behind (alternativesFrom fuel false flags [])
                  closing start
                  let known ← widths
                  let direction := if behind then Direction.behind (body.width known) else .ahead
                  sequenceFrom fuel flags first
                    (⟨.other, .assertion direction negated body⟩ :: parts)
              | .atomic =>
                  let body ← alternativesFrom fuel false flags []
                  closing start
                  sequenceFrom fuel flags first (⟨.other, .atomic body⟩ :: parts)
              | .plain added removed =>
                  let body ← alternativesFrom fuel false (flags.within added removed) []
                  closing start
                  sequenceFrom fuel flags first (⟨.other, body⟩ :: parts)
              | .capture name =>
                  let group ← openGroup name
                  let body ← alternativesFrom fuel false flags []
                  closing start
                  closeGroup group (body.width (← widths))
                  sequenceFrom fuel flags first (⟨.other, .group group body⟩ :: parts)
            else
              sequenceFrom fuel flags first (Part.one flags [.code c.toNat] false :: parts)

/-- The second branch of a condition, after which there is no third. -/
def otherwise (fuel : Nat) (flags : Flags) : Reader Expression :=
  match fuel with
  | 0 => return .nothing
  | fuel + 1 => do
      let branch ← sequenceFrom fuel flags false []
      if (← peek) = some (.plain '|') then refuse .conditionBranches (← position)
      else return branch

/-- Alternatives up to a closing parenthesis or the end; `before` are those
before, last first.  Outside of all parentheses, `top` holds, and the flags for
the whole pattern are in force. -/
def alternativesFrom (fuel : Nat) (top : Bool) (flags : Flags) (before : List Expression) :
    Reader Expression :=
  match fuel with
  | 0 => return .alternatives before.reverse
  | fuel + 1 => do
      let progress ← get
      let inForce := if top then progress.flags else flags
      let branch ← sequenceFrom fuel inForce (top && before.isEmpty) []
      if ← accept '|' then alternativesFrom fuel top flags (branch :: before)
      else return .alternatives (branch :: before).reverse

end

/-- A whole pattern with its flags.  Afterwards it is checked that the flags agree,
that nothing is left, that every group number in a condition is that of a group,
and that the expression meets its demands. -/
def pattern : Reader Expression := do
  let expression ← alternativesFrom (3 * (← bound) + 3) true [] []
  let progress ← get
  if progress.flags.contains .ascii && progress.flags.contains .unicode then
    throw .clashingAlphabets
  else if progress.cursor.next.isSome then
    refuse .unbalanced progress.cursor.position
  else
    match progress.pending.find? (progress.widths.length < ·.1) with
    | some (number, start) => refuse (.invalidReference number) start
    | none =>
        match expression.cause? (progress.flags.contains .template) with
        | some cause => throw (.malformed ⟨cause, none⟩)
        | none => return expression

end Reader

def Expression.read (chars : List Char) : Except Refusal Expression := do
  let cursor ← Cursor.look 0 chars
  let (expression, _) ← Reader.pattern.run { cursor := cursor }
  return expression

end XmlCollation.Pattern
