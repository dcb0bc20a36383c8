import XmlCollation.Text.Printable

/-!
Contract: text shown as a quoted value.

Owns: the choice of the quote, the escapes, and the codes that stand for
characters without a printed form.

Does not own: where quoted values are shown.
-/

namespace XmlCollation.Text

/-- Lower-case hexadecimal digits of a number, padded to a width. -/
def hexDigits (width code : Nat) : List Char :=
  let digits := Nat.toDigits 16 code
  List.replicate (width - digits.length) '0' ++ digits

/-- An apostrophe encloses the value unless the value holds one and no double quote. -/
def chooseQuote (chars : List Char) : Char :=
  if chars.contains '\x27' && !chars.contains '"' then '"' else '\x27'

/-- The written form of one character inside the given quotes. -/
def quoteChar (quote c : Char) : List Char :=
  if c = quote ∨ c = '\\' then ['\\', c]
  else if c = '\n' then ['\\', 'n']
  else if c = '\r' then ['\\', 'r']
  else if c = '\t' then ['\\', 't']
  else if isPrintable c then [c]
  else if c.toNat < 0x100 then ['\\', 'x'] ++ hexDigits 2 c.toNat
  else if c.toNat < 0x10000 then ['\\', 'u'] ++ hexDigits 4 c.toNat
  else ['\\', 'U'] ++ hexDigits 8 c.toNat

/-- A text in quotes, on one line and with every character visible. -/
def quoted (text : String) : String :=
  let chars := text.toList
  let quote := chooseQuote chars
  String.ofList (quote :: chars.flatMap (quoteChar quote) ++ [quote])

end XmlCollation.Text
