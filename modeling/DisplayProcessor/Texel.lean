import DisplayProcessor.Word

/-!
# Texels

A texel has a format and a size, both coded in two fields of a command word. Only sixteen-bit
colour texels (five bits each of red, green and blue, one of alpha) are turned into pixels.

- `TexelFormat`, `TexelSize`: the codes, and what a size means for block loads.
- `Rgba`: a pixel of eight bits per channel.
- `Rgba.ofTexel16`: the pixel of a sixteen-bit colour texel.
-/

namespace DisplayProcessor

/-- What the bits of a texel mean. -/
inductive TexelFormat where
  | rgba
  | yuv
  | colorIndex
  | intensityAlpha
  | intensity
deriving DecidableEq, Inhabited

namespace TexelFormat

/-- The format with a code, of which the low three bits count. The codes above 4 mean intensity. -/
def ofCode (code : Nat) : TexelFormat :=
  match code % 8 with
  | 0 => .rgba
  | 1 => .yuv
  | 2 => .colorIndex
  | 3 => .intensityAlpha
  | _ => .intensity

/-- The format as messages name it. -/
def name : TexelFormat → String
  | .rgba => "Rgba"
  | .yuv => "Yuv"
  | .colorIndex => "ColorIndex"
  | .intensityAlpha => "IntensityAlpha"
  | .intensity => "Intensity"

end TexelFormat

/-- How many bits a texel has. -/
inductive TexelSize where
  | bits4
  | bits8
  | bits16
  | bits32
deriving DecidableEq, Inhabited

namespace TexelSize

/-- The size with a code, of which the low two bits count. -/
def ofCode (code : Nat) : TexelSize :=
  match code % 4 with
  | 0 => .bits4
  | 1 => .bits8
  | 2 => .bits16
  | _ => .bits32

/-- The size as messages name it. -/
def name : TexelSize → String
  | .bits4 => "Bits4"
  | .bits8 => "Bits8"
  | .bits16 => "Bits16"
  | .bits32 => "Bits32"

/-- The bytes that a block load counts for each texel. A texel of four bits counts as two bytes. -/
def bytesPerTexel : TexelSize → Nat
  | .bits4 => 2
  | .bits8 => 1
  | .bits16 => 2
  | .bits32 => 4

/-- The left shift from a texel index to a byte offset. A texel of four bits is not shifted. -/
def addressShift : TexelSize → Nat
  | .bits4 => 0
  | .bits8 => 0
  | .bits16 => 1
  | .bits32 => 2

/-- From eight bits on, the bytes of a texel are as many as its shift says. -/
theorem bytesPerTexel_eq {size : TexelSize} (h : size ≠ .bits4) :
    size.bytesPerTexel = 2 ^ size.addressShift := by
  cases size with
  | bits4 => exact absurd rfl h
  | bits8 | bits16 | bits32 => rfl

end TexelSize

/-- A pixel of eight bits per channel. -/
structure Rgba where
  r : UInt8
  g : UInt8
  b : UInt8
  a : UInt8
deriving DecidableEq, Inhabited

/-- The eight-bit channel with the given low five bits on top; its own top bits are repeated
below. -/
def expandChannel (c : Nat) : UInt8 :=
  .ofNat (c % 32 * 8 + c % 32 / 4)

namespace Rgba

/-- The pixel of a sixteen-bit texel: five bits of red, green and blue from the top, then one of
alpha. -/
def ofTexel16 (texel : UInt16) : Rgba where
  r := expandChannel (texel.toNat / 2 ^ 11)
  g := expandChannel (texel.toNat / 2 ^ 6)
  b := expandChannel (texel.toNat / 2)
  a := if texel.toNat % 2 = 1 then 255 else 0

/-- The channel at an index in the order red, green, blue, alpha. -/
def channel (p : Rgba) : Nat → UInt8
  | 0 => p.r
  | 1 => p.g
  | 2 => p.b
  | _ => p.a

end Rgba

end DisplayProcessor
