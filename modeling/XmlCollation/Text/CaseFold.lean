import XmlCollation.Text.Case

/-!
Contract: comparison of characters without regard to letter case.

Owns:
- lower-casing of single codes, in all of Unicode or among the Latin letters of
  the first 128 codes;
- the families of small letters that share a capital letter;
- the variants of a code: all the codes that compare equal to it.

Does not own: lower-casing of texts.
-/

namespace XmlCollation.Text

open XmlCollation.Text.Case

/-- Which letters have case. -/
inductive Folding where
  | ascii
  | unicode
deriving DecidableEq, Repr

/-- Small letters that share a capital letter, family by family. -/
def letterFamilies : List (List Nat) :=
  [
    [0x69, 0x131], [0x73, 0x17f], [0xb5, 0x3bc], [0x345, 0x3b9, 0x1fbe], [0x390, 0x1fd3],
    [0x3b0, 0x1fe3], [0x3b2, 0x3d0], [0x3b5, 0x3f5], [0x3b8, 0x3d1], [0x3ba, 0x3f0],
    [0x3c0, 0x3d6], [0x3c1, 0x3f1], [0x3c2, 0x3c3], [0x3c6, 0x3d5], [0x432, 0x1c80],
    [0x434, 0x1c81], [0x43e, 0x1c82], [0x441, 0x1c83], [0x442, 0x1c84, 0x1c85], [0x44a, 0x1c86],
    [0x463, 0x1c87], [0x1c88, 0xa64b], [0x1e61, 0x1e9b], [0xfb05, 0xfb06]]

/-- The small letter of a Latin capital letter; any other code is its own. -/
def lowerLatin (code : Nat) : Nat :=
  if 65 ≤ code ∧ code ≤ 90 then code + 32 else code

/-- The small letter of a code. -/
def Folding.lower : Folding → Nat → Nat
  | .ascii, code => lowerLatin code
  | .unicode, code =>
      if code < 128 then lowerLatin code else (partner? runs code).getD code

/-- The codes that compare equal to a small letter: its family. -/
def Folding.family : Folding → Nat → List Nat
  | .ascii, code => [code]
  | .unicode, code => (letterFamilies.find? (·.contains code)).getD [code]

/-- The codes other than small letters whose small letter is the given one. -/
def Folding.capitals : Folding → Nat → List Nat
  | .ascii, code => if 97 ≤ code ∧ code ≤ 122 then [code - 32] else []
  | .unicode, code =>
      runs.filterMap fun run =>
        let capital := (Int.ofNat code - run.offset).toNat
        if run.partnerOf? capital = some code then some capital else none

def Folding.variants (folding : Folding) (code : Nat) : List Nat :=
  (folding.family (folding.lower code)).flatMap fun small =>
    small :: folding.capitals small

example : Folding.ascii.variants 65 = [97, 65] := by decide
example : Folding.unicode.variants 0x212a = [107, 75, 0x212a] := by decide +kernel

end XmlCollation.Text
