import XmlCollation.Pattern.Fault

/-!
Contract: the tokens of a pattern.

Owns:
- tokens, which are single characters or a backslash with the character after it;
- the cursor, which always has looked at the next token, so that a backslash at
  the end of the pattern is refused as soon as it comes next.

Does not own: what tokens mean.
-/

namespace XmlCollation.Pattern

/-- A character, or a backslash with the character after it. -/
inductive Token where
  | plain (c : Char)
  | escaped (c : Char)
deriving DecidableEq, Repr

def Token.chars : Token → List Char
  | .plain c => [c]
  | .escaped c => ['\\', c]

def Token.text (token : Token) : String :=
  String.ofList token.chars

def Token.width (token : Token) : Nat :=
  token.chars.length

/-- A place in a pattern: the next token with its position, and what follows it. -/
structure Cursor where
  next : Option Token
  position : Nat
  rest : List Char
deriving DecidableEq, Repr

/-- Looks at the token with which characters begin. -/
def Cursor.look (position : Nat) : List Char → Except Refusal Cursor
  | [] => .ok ⟨none, position, []⟩
  | ['\\'] => .error (.malformed ⟨.danglingEscape, some position⟩)
  | '\\' :: c :: rest => .ok ⟨some (.escaped c), position, rest⟩
  | c :: rest => .ok ⟨some (.plain c), position, rest⟩

def Cursor.advance (cursor : Cursor) : Except Refusal Cursor :=
  match cursor.next with
  | none => .ok cursor
  | some token => Cursor.look (cursor.position + token.width) cursor.rest

end XmlCollation.Pattern
