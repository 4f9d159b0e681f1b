import DisplayProcessor.Instances

/-!
# Single-precision values

The consumer of a frame reads coordinates and gradients as IEEE 754 binary32 numbers. They all
come from fixed-point operands, so one conversion is enough: a quotient by a power of two, rounded
once to the nearest value, ties to the even significand.

- `Binary32`: a bit pattern of 32 bits.
- `Binary32.roundShift`: the quotient by a power of two, rounded to nearest, ties to even.
- `Binary32.ofFixed`: the value nearest to `raw / 2 ^ fractionBits`.
-/

namespace DisplayProcessor

/-- An IEEE 754 binary32 number, by its bit pattern. -/
structure Binary32 where
  bits : UInt32
deriving DecidableEq, Inhabited

namespace Binary32

/-- Positive zero. -/
def zero : Binary32 := ⟨0⟩

/-- The quotient `n / 2 ^ shift` rounded to the nearest integer, a tie going to the even one. -/
def roundShift (n shift : Nat) : Nat :=
  let quotient := n / 2 ^ shift
  let twice := 2 * (n % 2 ^ shift)
  if twice < 2 ^ shift then quotient
  else if 2 ^ shift < twice then quotient + 1
  else quotient + quotient % 2

/-- The 24-bit significand of `m`, whose leading bit is bit `top`. It may round up to `2 ^ 24`. -/
def significand (m top : Nat) : Nat :=
  if top ≤ 23 then m * 2 ^ (23 - top) else roundShift m (top - 23)

/-- The exponent field and fraction of `m / 2 ^ fractionBits` for `m > 0`. The implicit leading
bit of the significand is added to an exponent that is one too low, so that a significand that was
rounded up to `2 ^ 24` carries into the exponent. -/
def magnitude (m fractionBits : Nat) : Nat :=
  (m.log2 + 126 - fractionBits) * 2 ^ 23 + significand m m.log2

/-- The value nearest to `raw / 2 ^ fractionBits`, for at most 32 integer bits and at most 32
fraction bits: the result is zero or normal. -/
def ofFixed (raw : Int) (fractionBits : Nat) : Binary32 :=
  if raw = 0 then zero
  else ⟨.ofNat ((if raw < 0 then 2 ^ 31 else 0) + magnitude raw.natAbs fractionBits)⟩

/-- The value of a whole number of at most 32 bits. -/
def ofNat (n : Nat) : Binary32 :=
  ofFixed n 0

end Binary32

end DisplayProcessor
