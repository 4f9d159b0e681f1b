import DisplayProcessor.FixedPoint

/-!
# Gradients

Shade, texture coordinates and depth vary linearly over a triangle. Each channel is a base value
and three derivatives: along x, along the major edge and along y. Shade and texture coefficients
fill a block of sixteen words in which the integer halves come first and the fraction halves
follow four words later:

```text
words  0-1:  base integer      words  4-5:  base fraction
words  2-3:  d/dx integer      words  6-7:  d/dx fraction
words  8-9:  d/de integer      words 12-13: d/de fraction
words 10-11: d/dy integer      words 14-15: d/dy fraction
```

Within a pair of words, channels 0 and 2 take the upper halves and channels 1 and 3 the lower
halves.

- `CoefficientField`: where one coefficient lies, and `CoefficientField.ofChannel`, the rule above.
- `Gradient`, `ShadeGradient`, `TextureGradient`: the decoded values.
- `shadeLayout`, `textureLayout`: the fields of a block in the order in which they are listed.
-/

namespace DisplayProcessor

/-- The upper or the lower sixteen bits of a word. -/
inductive Half where
  | upper
  | lower
deriving DecidableEq

namespace Half

/-- The sixteen bits of `w` that the half names. -/
def of (h : Half) (w : Word) : Nat :=
  match h with
  | .upper => w.field 16 16
  | .lower => w.field 0 16

/-- The word whose upper half is this half of `high` and whose lower half is this half of `low`. -/
def join (h : Half) (high low : Word) : Word :=
  .ofNat (h.of high * 2 ^ 16 + h.of low)

theorem of_lt (h : Half) (w : Word) : h.of w < 2 ^ 16 := by
  cases h <;> exact Word.field_lt _ _ _

theorem of_upper_join (h : Half) (high low : Word) : upper.of (h.join high low) = h.of high := by
  have hhigh := h.of_lt high
  have hlow := h.of_lt low
  rw [of, join, Word.field_ofNat (by omega)]
  omega

theorem of_lower_join (h : Half) (high low : Word) : lower.of (h.join high low) = h.of low := by
  have hhigh := h.of_lt high
  have hlow := h.of_lt low
  rw [of, join, Word.field_ofNat (by omega)]
  omega

/-- A word consists of its halves. -/
theorem ofNat_halves (w : Word) : .ofNat (upper.of w * 2 ^ 16 + lower.of w) = w := by
  have hlt := w.toNat_lt
  have hsum : upper.of w * 2 ^ 16 + lower.of w = w.toNat := by
    simp only [of, Word.field]
    omega
  rw [hsum, UInt32.ofNat_toNat]

/-- Two words are got back from the word of their upper and the word of their lower halves: the
first from the upper halves of these, and the second from the lower ones. -/
theorem upper_join_join (v w : Word) : upper.join (upper.join v w) (lower.join v w) = v := by
  rw [join, of_upper_join, of_upper_join, ofNat_halves]

theorem lower_join_join (v w : Word) : lower.join (upper.join v w) (lower.join v w) = w := by
  rw [join, of_lower_join, of_lower_join, ofNat_halves]

end Half

/-- The parts of a gradient: the base value and the derivatives along x, the major edge and y. -/
inductive GradientPart where
  | base
  | dx
  | de
  | dy
deriving DecidableEq

namespace GradientPart

/-- Every part, in the order in which blocks list them. -/
def all : List GradientPart := [.base, .dx, .de, .dy]

/-- The first of the two words that hold the integer halves of a part. -/
def firstWord : GradientPart → Nat
  | .base => 0
  | .dx => 2
  | .de => 8
  | .dy => 10

/-- The name of a part of a channel: the channel itself, or its derivative. -/
def nameOf (part : GradientPart) (channel : String) : String :=
  match part with
  | .base => channel
  | .dx => s!"d{channel}dx"
  | .de => s!"d{channel}de"
  | .dy => s!"d{channel}dy"

end GradientPart

/-- Where one coefficient lies in a block of sixteen words. -/
structure CoefficientField where
  highWord : Nat
  lowWord : Nat
  half : Half
  fractionBits : Nat
deriving DecidableEq

namespace CoefficientField

/-- The place of one part of a channel. -/
def ofChannel (part : GradientPart) (channel : Nat) : CoefficientField where
  highWord := part.firstWord + channel / 2
  lowWord := part.firstWord + channel / 2 + 4
  half := if channel % 2 = 0 then .upper else .lower
  fractionBits := 16

/-- The coefficient in a block, put together from its halves. -/
def raw (f : CoefficientField) (block : Row) : Word :=
  f.half.join (block.word f.highWord) (block.word f.lowWord)

/-- The value of the coefficient in a block. -/
def decode (f : CoefficientField) (block : Row) : Binary32 :=
  (f.raw block).fixed f.fractionBits

/-- The named fields of a block with the given channels: the bases first, then each derivative. -/
def layout (channels : List String) : List (String × CoefficientField) :=
  GradientPart.all.flatMap fun part =>
    channels.zipIdx.map fun (channel, i) => (part.nameOf channel, CoefficientField.ofChannel part i)

end CoefficientField

/-- The fields of a shade block. -/
def shadeLayout : List (String × CoefficientField) :=
  CoefficientField.layout ["r", "g", "b", "a"]

/-- The fields of a texture coordinate block. -/
def textureLayout : List (String × CoefficientField) :=
  CoefficientField.layout ["s", "t", "w"]

/-- The values of the listed fields of a block, in order. -/
def decodeLayout (layout : List (String × CoefficientField)) (block : Row) : List Binary32 :=
  layout.map fun (_, f) => f.decode block

/-- One channel: its base value and its derivatives along x, the major edge and y. -/
structure Gradient where
  base : Binary32
  dx : Binary32
  de : Binary32
  dy : Binary32
deriving DecidableEq, Inhabited

namespace Gradient

/-- The channel that has the same value everywhere. -/
def constant (value : Binary32) : Gradient :=
  ⟨value, .zero, .zero, .zero⟩

/-- One channel of a coefficient block. -/
def ofBlock (block : Row) (channel : Nat) : Gradient where
  base := (CoefficientField.ofChannel .base channel).decode block
  dx := (CoefficientField.ofChannel .dx channel).decode block
  de := (CoefficientField.ofChannel .de channel).decode block
  dy := (CoefficientField.ofChannel .dy channel).decode block

/-- The depth channel, whose four words are whole 15.16 values. -/
def ofDepthBlock (block : Row) : Gradient where
  base := (block.word 0).fixed 16
  dx := (block.word 1).fixed 16
  de := (block.word 2).fixed 16
  dy := (block.word 3).fixed 16

end Gradient

/-- The colour of a triangle. -/
structure ShadeGradient where
  r : Gradient
  g : Gradient
  b : Gradient
  a : Gradient
deriving DecidableEq, Inhabited

namespace ShadeGradient

/-- The colour in a block of sixteen words. -/
def ofBlock (block : Row) : ShadeGradient where
  r := .ofBlock block 0
  g := .ofBlock block 1
  b := .ofBlock block 2
  a := .ofBlock block 3

/-- The same colour everywhere, from a word that packs red, green, blue and alpha bytes. -/
def flat (rgba : Word) : ShadeGradient where
  r := .constant (.ofNat (rgba.field 24 8))
  g := .constant (.ofNat (rgba.field 16 8))
  b := .constant (.ofNat (rgba.field 8 8))
  a := .constant (.ofNat (rgba.field 0 8))

end ShadeGradient

/-- The texture coordinates of a triangle. -/
structure TextureGradient where
  s : Gradient
  t : Gradient
  w : Gradient
deriving DecidableEq, Inhabited

namespace TextureGradient

/-- The texture coordinates in a block of sixteen words. -/
def ofBlock (block : Row) : TextureGradient where
  s := .ofBlock block 0
  t := .ofBlock block 1
  w := .ofBlock block 2

end TextureGradient

end DisplayProcessor
