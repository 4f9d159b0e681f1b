import DisplayProcessor.FixedPoint
import DisplayProcessor.Texel

/-!
# Registers

Registers keep colours, the scissor rectangle and the buffers until a command replaces them. The
rasterizer gets them with every frame.

- `ImageDescriptor`: where an image lies in external memory, for texture images and colour buffers.
- `Scissor`: the rectangle outside which nothing is drawn.
- `Registers`: everything that is handed off with a frame.
-/

namespace DisplayProcessor

/-- An image in external memory. -/
structure ImageDescriptor where
  format : TexelFormat
  size : TexelSize
  /-- The width in texels. -/
  width : Nat
  address : UInt32
deriving DecidableEq, Inhabited

namespace ImageDescriptor

/-- The image at power-on, which has no width. -/
def powerOn : ImageDescriptor := ⟨.rgba, .bits4, 0, 0⟩

/-- The address in the low 26 bits of a word. -/
def addressField (w : Word) : UInt32 :=
  .ofNat (w.field 0 26)

/-- The image in two words: bits 21-23 format, 19-20 size and 0-9 width - 1 of the first, the
address in the second. -/
def ofWords (w0 w1 : Word) : ImageDescriptor where
  format := .ofCode (w0.field 21 3)
  size := .ofCode (w0.field 19 2)
  width := w0.field 0 10 + 1
  address := addressField w1

/-- The image with only the bits of its address that a mask keeps. -/
def maskAddress (image : ImageDescriptor) (mask : UInt32) : ImageDescriptor :=
  { image with address := image.address &&& mask }

end ImageDescriptor

/-- The rectangle outside which nothing is drawn. -/
@[ext] structure Scissor where
  xh : QuarterPixel
  yh : QuarterPixel
  xl : QuarterPixel
  yl : QuarterPixel
  /-- Whether only every other line is drawn. -/
  field : Bool
  /-- Whether these are the odd lines. -/
  odd : Bool
deriving DecidableEq, Inhabited

namespace Scissor

/-- The scissor at power-on. -/
def powerOn : Scissor := ⟨⟨0⟩, ⟨0⟩, ⟨0⟩, ⟨0⟩, false, false⟩

/-- The scissor in two words: the upper left corner, then the lower right one and bits 25 and 24
for the lines. -/
def ofWords (w0 w1 : Word) : Scissor where
  xh := .ofField w0 12
  yh := .ofField w0 0
  xl := .ofField w1 12
  yl := .ofField w1 0
  field := w1.flag 25
  odd := w1.flag 24

end Scissor

/-- The primitive colour and the levels of detail that come with it. -/
@[ext] structure PrimitiveColor where
  color : Word
  minLevel : Nat
  levelFraction : Nat
deriving DecidableEq, Inhabited

namespace PrimitiveColor

/-- The colour and levels in two words: bits 8-12 and 0-7 of the first, and the second. -/
def ofWords (w0 w1 : Word) : PrimitiveColor where
  color := w1
  minLevel := w0.field 8 5
  levelFraction := w0.field 0 8

end PrimitiveColor

/-- The registers that are handed off with a frame. -/
structure Registers where
  primitive : PrimitiveColor
  environment : Word
  blend : Word
  fog : Word
  scissor : Scissor
  colorImage : ImageDescriptor
  /-- The address of the depth buffer. -/
  depthImage : UInt32
deriving DecidableEq, Inhabited

namespace Registers

/-- The registers at power-on. -/
def powerOn : Registers := ⟨⟨0, 0, 0⟩, 0, 0, 0, .powerOn, .powerOn, 0⟩

end Registers

end DisplayProcessor
