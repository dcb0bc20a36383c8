/-!
Contract: writing text and attribute values as markup.

Owns: the escapes of character data, and the quoting of attribute values with
the choice of the quote.

Does not own: which parts of a node are written.
-/

namespace XmlCollation.Markup

/-- Character data: the three characters with a meaning in markup become references. -/
def escapeChar (c : Char) : List Char :=
  if c = '&' then "&amp;".toList
  else if c = '>' then "&gt;".toList
  else if c = '<' then "&lt;".toList
  else [c]

/-- Characters of an attribute value: line ends and tabs become references as well. -/
def escapeValueChar (c : Char) : List Char :=
  if c = '\n' then "&#10;".toList
  else if c = '\r' then "&#13;".toList
  else if c = '\t' then "&#9;".toList
  else escapeChar c

/-- Characters of an attribute value that holds both kinds of quotes. -/
def escapeQuotedChar (c : Char) : List Char :=
  if c = '"' then "&quot;".toList else escapeValueChar c

def escapeText (chars : List Char) : List Char :=
  chars.flatMap escapeChar

/-- An attribute value in quotes.  Double quotes enclose it unless it holds a
double quote and no apostrophe; with both, the double quotes inside become
references. -/
def quoteValue (chars : List Char) : List Char :=
  if chars.contains '"' then
    if chars.contains '\x27' then
      '"' :: chars.flatMap escapeQuotedChar ++ ['"']
    else
      '\x27' :: chars.flatMap escapeValueChar ++ ['\x27']
  else
    '"' :: chars.flatMap escapeValueChar ++ ['"']

theorem escapeText_cons (c : Char) (rest : List Char) :
    escapeText (c :: rest) = escapeChar c ++ escapeText rest :=
  rfl

end XmlCollation.Markup
