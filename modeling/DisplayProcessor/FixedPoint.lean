import DisplayProcessor.Binary32
import DisplayProcessor.Word

/-!
# Fixed-point operands

Operands are packed fixed-point numbers: edge coordinates are signed 11.2 and signed 15.16 values,
gradients are signed 15.16 values, and the corners of rectangles are unsigned 10.2 values.

- `Word.fixed`: a whole word as a signed fixed-point value.
- `Word.signedFixed`: the low bits of a word as a signed fixed-point value.
- `QuarterPixel`: an unsigned value with two fraction bits, kept exactly.
-/

namespace DisplayProcessor

namespace Word

/-- The word as a signed value with `fractionBits` fraction bits, of which at most 32 count. -/
def fixed (w : Word) (fractionBits : Nat) : Binary32 :=
  .ofFixed (w.signed 32) (min fractionBits 32)

/-- The low `bits` bits of the word as a signed value with `fractionBits` fraction bits. -/
def signedFixed (w : Word) (bits fractionBits : Nat) : Binary32 :=
  .ofFixed (w.signed bits) (min fractionBits 32)

/-- The value of the low bits is that of the word to which they are extended. -/
theorem signedFixed_eq (w : Word) (bits fractionBits : Nat) :
    w.signedFixed bits fractionBits = (w.signExtend bits).fixed fractionBits := by
  rw [signedFixed, fixed, signed_signExtend]

end Word

/-- A coordinate in quarters of a pixel. -/
structure QuarterPixel where
  quarters : Nat
deriving DecidableEq, Inhabited

namespace QuarterPixel

/-- The coordinate in the twelve bits of `w` that start at bit `lo`. -/
def ofField (w : Word) (lo : Nat) : QuarterPixel :=
  ⟨w.field lo 12⟩

/-- The coordinate in pixels. -/
def toBinary32 (q : QuarterPixel) : Binary32 :=
  .ofFixed q.quarters 2

/-- The coordinate in pixels as a decimal, with at least one digit after the point and none to
spare. -/
def toDecimal (q : QuarterPixel) : String :=
  toString (q.quarters / 4) ++
    match q.quarters % 4 with
    | 0 => ".0"
    | 1 => ".25"
    | 2 => ".5"
    | _ => ".75"

end QuarterPixel

end DisplayProcessor
