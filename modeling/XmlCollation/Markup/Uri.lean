import XmlCollation.Markup.Chars

/-!
Contract: the grammar of references to resources, as far as namespace names need it.

Owns: the recogniser of absolute and relative references with scheme, authority,
path, query and fragment, over ASCII characters and percent escapes.

Does not own: resolution against a base, or any meaning of the parts.
-/

namespace XmlCollation.Markup.Uri

open XmlCollation.Markup

def isAlpha (c : Char) : Bool :=
  ('a' ≤ c && c ≤ 'z') || ('A' ≤ c && c ≤ 'Z')

def isUnreserved (c : Char) : Bool :=
  isAlpha c || isDigit c || c == '-' || c == '.' || c == '_' || c == '~'

def isSubDelimiter (c : Char) : Bool :=
  "!$&\x27()*+,;=".toList.contains c

/-- Skips the longest run of plain characters, sub-delimiters, percent escapes
and the extra characters given. -/
def skipRun (extra : Char → Bool) : List Char → List Char
  | '%' :: a :: b :: rest =>
      if (hexValue? a).isSome && (hexValue? b).isSome then skipRun extra rest
      else '%' :: a :: b :: rest
  | c :: rest =>
      if isUnreserved c || isSubDelimiter c || extra c then skipRun extra rest else c :: rest
  | [] => []

def isPathExtra (c : Char) : Bool := c == ':' || c == '@'

def isQueryExtra (c : Char) : Bool := isPathExtra c || c == '/' || c == '?'

def isFragmentExtra (c : Char) : Bool := isQueryExtra c || c == '[' || c == ']'

def skipPath (chars : List Char) : List Char :=
  skipRun (fun c => isPathExtra c || c == '/') chars

/-- One number of an address in dotted form: 0 to 255 without leading zeros. -/
def skipOctet (chars : List Char) : Option (List Char) :=
  match chars.takeWhile isDigit with
  | [] => none
  | [_] => some (chars.drop 1)
  | '0' :: _ => none
  | [_, _] => some (chars.drop 2)
  | a :: b :: c :: _ =>
      if (digitsValue? 10 [a, b, c]).any (· ≤ 255) then some (chars.drop 3) else none

/-- A point and one more number. -/
def skipPointedOctet : List Char → Option (List Char)
  | '.' :: more => skipOctet more
  | _ => none

def skipDotted (chars : List Char) : Option (List Char) := do
  let afterFirst ← skipOctet chars
  let afterSecond ← skipPointedOctet afterFirst
  let afterThird ← skipPointedOctet afterSecond
  skipPointedOctet afterThird

/-- Skips a host: an address in brackets, in dotted form, or a name. -/
def skipHost (chars : List Char) : Option (List Char) :=
  match chars with
  | '[' :: more =>
      match more.dropWhile (· != ']') with
      | ']' :: rest => some rest
      | _ => none
  | _ =>
      match skipDotted chars with
      | some rest => some rest
      | none => some (skipRun (fun _ => false) chars)

/-- Skips an authority: user information, host and service number. -/
def skipAuthority (chars : List Char) : Option (List Char) := do
  let afterUser :=
    match skipRun (· == ':') chars with
    | '@' :: rest => rest
    | _ => chars
  let afterHost ← skipHost afterUser
  match afterHost with
  | ':' :: service =>
      let digits := service.takeWhile isDigit
      if digits.isEmpty then none else some (service.drop digits.length)
  | rest => some rest

/-- Skips a query and a fragment; nothing may be left. -/
def endsWell (chars : List Char) : Bool :=
  let afterQuery :=
    match chars with
    | '?' :: rest => skipRun isQueryExtra rest
    | rest => rest
  let afterFragment :=
    match afterQuery with
    | '#' :: rest => skipRun isFragmentExtra rest
    | rest => rest
  afterFragment.isEmpty

/-- Skips authority and path; a path after an authority starts with a slash. -/
def skipHierarchy (chars : List Char) : Option (List Char) :=
  match chars with
  | '/' :: '/' :: rest => do
      let afterAuthority ← skipAuthority rest
      match afterAuthority with
      | '/' :: _ => some (skipPath afterAuthority)
      | _ => some afterAuthority
  | _ => some (skipPath chars)

/-- The part after the scheme, when there is a scheme. -/
def afterScheme? (chars : List Char) : Option (List Char) :=
  match chars with
  | c :: _ =>
      if isAlpha c then
        match chars.dropWhile (fun d => isAlpha d || isDigit d || d == '+' || d == '-' || d == '.') with
        | ':' :: rest => some rest
        | _ => none
      else none
  | [] => none

def isAbsolute (chars : List Char) : Bool :=
  match afterScheme? chars with
  | some rest =>
      match skipHierarchy rest with
      | some tail => endsWell tail
      | none => false
  | none => false

/-- The first segment of a relative path holds no colon. -/
def isRelative (chars : List Char) : Bool :=
  let firstSegment := chars.takeWhile (fun c => c != '/' && c != '?' && c != '#')
  let colonFree := chars.head? == some '/' || !firstSegment.contains ':'
  colonFree &&
    match skipHierarchy chars with
    | some tail => endsWell tail
    | none => false

/-- A well-formed reference, absolute or relative. -/
def isReference (chars : List Char) : Bool :=
  isAbsolute chars || isRelative chars

end XmlCollation.Markup.Uri
