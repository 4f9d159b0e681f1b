import DisplayProcessor.Instances

/-!
# Hexadecimal digits

- `hexValue?`: the value of a digit, in either case.
-/

namespace DisplayProcessor

/-- The value of a hexadecimal digit. -/
def hexValue? (c : Char) : Option Nat :=
  if c.isDigit then some (c.toNat - '0'.toNat)
  else if 'a' ≤ c && c ≤ 'f' then some (c.toNat - 'a'.toNat + 10)
  else if 'A' ≤ c && c ≤ 'F' then some (c.toNat - 'A'.toNat + 10)
  else none

end DisplayProcessor
