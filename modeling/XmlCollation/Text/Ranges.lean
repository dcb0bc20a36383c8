/-!
Contract: sets of characters given by ranges of codes.

Owns: the type of such a set and its membership test, which stops at the first
range that lies above the code, so that low codes are settled at once.

Does not own: any particular set.
-/

namespace XmlCollation.Text

/-- A set of character codes as ranges with both ends included, in rising order. -/
abbrev Ranges := List (Nat × Nat)

/-- Membership in a set whose ranges are in rising order. -/
def Ranges.contains : Ranges → Nat → Bool
  | [], _ => false
  | (low, high) :: rest, code =>
      if code < low then false
      else if code ≤ high then true
      else Ranges.contains rest code

end XmlCollation.Text
