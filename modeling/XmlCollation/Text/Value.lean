import XmlCollation.Decimal.Shortest
import XmlCollation.Text.Quoted

/-!
Contract: values that a caller hands over unread, and how a message shows them.

Owns: the shape of such values, and their text: quoted strings, brackets, and
numbers with the fewest digits that read back.

Does not own: what any value is good for.
-/

namespace XmlCollation.Text

open XmlCollation.Decimal

/-- A value of a data format with lists and records. -/
inductive Value where
  | none
  | bool (flag : Bool)
  | int (number : Int)
  | float (number : Float)
  | string (chars : String)
  | list (items : List Value)
  | record (entries : List (String × Value))

instance : Inhabited Value := ⟨.none⟩

/-- How numbers with a fraction are laid out: without an exponent from
10 to the power of -4 up to, but not including, 10 to the power of 16. -/
structure NumberLayout where
  leastPower : Int
  powerLimit : Int
  exponentDigits : Nat
deriving DecidableEq, Repr

def messageNumbers : NumberLayout := ⟨-4, 16, 2⟩

private def digitChars (digits : List Nat) : List Char :=
  digits.map fun digit => Char.ofNat (48 + digit)

/-- Digits with a point, or with a point and an exponent. -/
def NumberLayout.write (layout : NumberLayout) (digits : Digits) : List Char :=
  let chars := digitChars digits.digits
  if digits.leading < layout.leastPower ∨ layout.powerLimit ≤ digits.leading then
    let mantissa :=
      match chars with
      | [] => []
      | [c] => [c]
      | c :: rest => c :: '.' :: rest
    let exponent := Nat.toDigits 10 digits.leading.natAbs
    let padded := List.replicate (layout.exponentDigits - exponent.length) '0' ++ exponent
    mantissa ++ 'e' :: (if digits.leading < 0 then '-' else '+') :: padded
  else
    match digits.leading with
    | .ofNat leading =>
        let whole := leading + 1
        let front := chars.take whole ++ List.replicate (whole - chars.length) '0'
        let back := chars.drop whole
        front ++ '.' :: (if back.isEmpty then ['0'] else back)
    | .negSucc zeros => '0' :: '.' :: List.replicate zeros '0' ++ chars

def NumberLayout.writeFloat (layout : NumberLayout) (number : Float) : List Char :=
  let sign (negative : Bool) : List Char := if negative then ['-'] else []
  match meaningOfBits number.toBits with
  | .notANumber => "nan".toList
  | .infinite negative => sign negative ++ "inf".toList
  | .zero negative => sign negative ++ "0.0".toList
  | .finite negative magnitude => sign negative ++ layout.write (shortest magnitude)

private def commaSeparated (parts : List String) : String :=
  String.intercalate ", " parts

mutual

def Value.shown : Value → String
  | .none => "None"
  | .bool true => "True"
  | .bool false => "False"
  | .int number => toString number
  | .float number => String.ofList (messageNumbers.writeFloat number)
  | .string chars => quoted chars
  | .list items => "[" ++ commaSeparated (shownAll items) ++ "]"
  | .record entries => "\x7b" ++ commaSeparated (shownEntries entries) ++ "\x7d"

def shownAll : List Value → List String
  | [] => []
  | item :: rest => item.shown :: shownAll rest

def shownEntries : List (String × Value) → List String
  | [] => []
  | (key, value) :: rest => (quoted key ++ ": " ++ value.shown) :: shownEntries rest

end

end XmlCollation.Text
