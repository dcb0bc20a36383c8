import XmlCollation.Markup.Reader
import XmlCollation.Text.Charset

/-!
Contract: reading of documents given as bytes.

Owns: the choice of the character set, from the first bytes or from the
declaration, with the eight-bit form of all characters as the default.

Does not own: the character sets themselves.
-/

namespace XmlCollation.Markup

open XmlCollation.Text

/-- The character set that the first bytes give away. -/
def announcedCharset? (bytes : List UInt8) : Option Charset :=
  match bytes with
  | 0xef :: 0xbb :: 0xbf :: _ => some .utf8
  | 0xff :: 0xfe :: _ => some .utf16
  | 0xfe :: 0xff :: _ => some .utf16
  | 0x3c :: 0x00 :: 0x3f :: 0x00 :: _ => some .utf16Little
  | 0x00 :: 0x3c :: 0x00 :: 0x3f :: _ => some .utf16Big
  | _ => none

/-- The name of the encoding in the declaration, whose characters are the same in
every character set that leaves the first bytes alone. -/
def declaredEncoding? (bytes : List UInt8) : Option String :=
  let chars := bytes.map fun b => Char.ofNat b.toNat
  match Reader.declaration.run (Scan.start chars) with
  | .ok (declared, _) => declared.encoding
  | .error _ => none

def documentCharset (bytes : List UInt8) : Except Fault Charset :=
  match announcedCharset? bytes with
  | some charset => .ok charset
  | none =>
      match declaredEncoding? bytes with
      | none => .ok .utf8
      | some name =>
          match Charset.ofDeclared? name with
          | some charset => .ok charset
          | none => .error .charset

def readEncoded (retention : Retention) (bytes : List UInt8) : Except Fault Element := do
  let charset ← documentCharset bytes
  match charset.decode bytes with
  | .ok text => readDocument retention text.toList
  | .error _ => throw .charset

end XmlCollation.Markup
