/-!
Contract: the shortest decimal that reads back as a given binary number.

Owns:
- the exact value of a finite binary number and the interval of reals that round
  to it, which contains its ends when the last bit is even;
- the search for the least number of digits, and of two candidates the nearer.

Does not own: how the digits are laid out as text.
-/

namespace XmlCollation.Decimal

/-- A positive number `significand * 2 ^ exponent`, where `atEdge` says that the
next lower number is half as far away as the next higher one. -/
structure Binary where
  significand : Nat
  exponent : Int
  atEdge : Bool
deriving DecidableEq, Repr

/-- Digits and the power of ten of the first one. -/
structure Digits where
  digits : List Nat
  leading : Int
deriving DecidableEq, Repr

/-- A quotient of natural numbers. -/
structure Quotient where
  num : Nat
  den : Nat
deriving DecidableEq, Repr

def Quotient.ofScaled (value : Nat) (exponent : Int) : Quotient :=
  match exponent with
  | .ofNat up => ⟨value * Nat.pow 2 up, 1⟩
  | .negSucc down => ⟨value, Nat.pow 2 (down + 1)⟩

def Quotient.ofTens (count : Nat) (exponent : Int) : Quotient :=
  match exponent with
  | .ofNat up => ⟨count * Nat.pow 10 up, 1⟩
  | .negSucc down => ⟨count, Nat.pow 10 (down + 1)⟩

def Quotient.le (left right : Quotient) : Bool :=
  left.num * right.den ≤ right.num * left.den

def Quotient.lt (left right : Quotient) : Bool :=
  left.num * right.den < right.num * left.den

/-- The exact value, four times as fine so that midpoints have a numerator. -/
def Binary.value (binary : Binary) : Quotient :=
  Quotient.ofScaled (4 * binary.significand) (binary.exponent - 2)

/-- The lower end of the interval that rounds to the number. -/
def Binary.low (binary : Binary) : Quotient :=
  Quotient.ofScaled (4 * binary.significand - (if binary.atEdge then 1 else 2))
    (binary.exponent - 2)

/-- The upper end of the interval that rounds to the number. -/
def Binary.high (binary : Binary) : Quotient :=
  Quotient.ofScaled (4 * binary.significand + 2) (binary.exponent - 2)

/-- The interval holds a candidate; its ends belong to it when the significand is even. -/
def Binary.holds (binary : Binary) (candidate : Quotient) : Bool :=
  if binary.significand % 2 = 0 then
    binary.low.le candidate && candidate.le binary.high
  else
    binary.low.lt candidate && candidate.lt binary.high

/-- The least `steps` with `10 ^ steps * value ≥ 1`, counted up from `steps`. -/
def tensBelowOne (value : Quotient) : Nat → Nat → Nat
  | 0, steps => steps
  | fuel + 1, steps =>
      if value.den ≤ value.num * Nat.pow 10 steps then steps else tensBelowOne value fuel (steps + 1)

/-- The power of ten of the first digit of a positive value. -/
def leadingPower (value : Quotient) : Int :=
  if value.den ≤ value.num then
    Int.ofNat ((Nat.toDigits 10 (value.num / value.den)).length - 1)
  else
    -(Int.ofNat (tensBelowOne value 400 1))

/-- The candidate with digits on the grid of one power of ten that reads back, if any. -/
def onGrid? (binary : Binary) (power : Int) : Option Nat :=
  let value := binary.value
  let unit := Quotient.ofTens 1 power
  let below := value.num * unit.den / (value.den * unit.num)
  let above := below + 1
  let lower := binary.holds (Quotient.ofTens below power)
  let upper := binary.holds (Quotient.ofTens above power)
  let twice := 2 * value.num * unit.den
  let middle := (2 * below + 1) * (value.den * unit.num)
  if lower && upper then
    if twice < middle then some below
    else if middle < twice then some above
    else if below % 2 = 0 then some below
    else some above
  else if lower then some below
  else if upper then some above
  else none

def searchGrid (binary : Binary) : Nat → Int → Nat × Int
  | 0, power => (binary.value.num / binary.value.den, power)
  | fuel + 1, power =>
      match onGrid? binary power with
      | some count => (count, power)
      | none => searchGrid binary fuel (power - 1)

/-- Decimal digits of a number, without the zeros at the end, and how many those were. -/
def significantDigits (count : Nat) : List Nat × Nat :=
  let digits := (Nat.toDigits 10 count).map fun c => c.toNat - 48
  let kept := (digits.reverse.dropWhile (· == 0)).reverse
  (kept, digits.length - kept.length)

/-- The shortest digits that read back, the nearest of those. -/
def shortest (binary : Binary) : Digits :=
  let (count, power) := searchGrid binary 20 (leadingPower binary.value)
  let width := (Nat.toDigits 10 count).length
  ⟨(significantDigits count).1, power + Int.ofNat width - 1⟩

/-- What the bits of a number of double width mean. -/
inductive Meaning where
  | notANumber
  | infinite (negative : Bool)
  | zero (negative : Bool)
  | finite (negative : Bool) (magnitude : Binary)
deriving DecidableEq, Repr

def meaningOfBits (bits : UInt64) : Meaning :=
  let code := bits.toNat
  let negative := code / Nat.pow 2 63 == 1
  let exponent := code / Nat.pow 2 52 % 2048
  let fraction := code % Nat.pow 2 52
  if exponent = 2047 then
    if fraction = 0 then .infinite negative else .notANumber
  else if exponent = 0 then
    if fraction = 0 then .zero negative else .finite negative ⟨fraction, -1074, false⟩
  else
    .finite negative
      ⟨Nat.pow 2 52 + fraction, Int.ofNat exponent - 1075, fraction == 0 && exponent > 1⟩

end XmlCollation.Decimal
