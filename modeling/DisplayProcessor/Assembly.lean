import DisplayProcessor.Command

/-!
# Rows from operands

The other direction of decoding: each function here places operands at their bit positions in a
row. Operands that are too large for their fields spill over into others, so callers keep to the
ranges.

- `Row.setTile`, `Row.loadBlock`, …: the rows of two words.
- `GradientOperand`, `BlockOperand`, `EdgeOperand`, `EdgesOperand`: the operands of triangles as they
  are packed, with their values.
- `TriangleOperand`, `Row.triangle`: all operands of a triangle, and its row.
-/

namespace DisplayProcessor

/-! ## Rows of two words -/

/-- The bits of an axis: shift, mask, mirror and clamp from below. -/
def TileAxis.toField (axis : TileAxis) : Nat :=
  axis.shift + axis.mask * 2 ^ 4 + axis.mirror.toNat * 2 ^ 8 + axis.clamp.toNat * 2 ^ 9

namespace Row

/-- The row with an opcode, the operands in the rest of the first word, and the second word. -/
def ofWords (code operands second : Nat) : Row :=
  [.ofNat (code * 2 ^ 24 + operands), .ofNat second]

/-- A row of two words has the opcode that it was given. -/
theorem opcode_ofWords {code operands : Nat} (hc : code < 64) (ho : operands < 2 ^ 24)
    (second : Nat) : Opcode.ofWord ((ofWords code operands second).word 0) = .ofCode code := by
  have hfield : Word.field (.ofNat (code * 2 ^ 24 + operands)) 24 6 = code := by
    rw [Word.field_ofNat (by omega)]
    omega
  exact congrArg Opcode.ofCode hfield

/-- A row of two words is decoded by the opcode that it was given. -/
theorem decode_ofWords {code operands : Nat} (hc : code < 64) (ho : operands < 2 ^ 24)
    (second : Nat) :
    Command.decode (ofWords code operands second) =
      .decodeAs (.ofCode code) (ofWords code operands second) := by
  rw [Command.decode, opcode_ofWords hc ho]

/-- Set the properties of a tile; format and size are given by their codes. -/
def setTile (tile format size offset stride palette : Nat) (s t : TileAxis) : Row :=
  ofWords 0x35 (format * 2 ^ 21 + size * 2 ^ 19 + stride / 8 * 2 ^ 9 + offset / 8)
    (tile * 2 ^ 24 + palette * 2 ^ 20 + t.toField * 2 ^ 10 + s.toField)

/-- A row with a tile and a rectangle in whole texels. -/
def setRect (code tile : Nat) (rect : TileRect) : Row :=
  ofWords code (rect.slo * 2 ^ 14 + rect.tlo * 2 ^ 2)
    (tile * 2 ^ 24 + rect.shi * 2 ^ 14 + rect.thi * 2 ^ 2)

/-- Set the rectangle of a tile. -/
def setTileSize (tile : Nat) (rect : TileRect) : Row :=
  setRect 0x32 tile rect

/-- Load the texels of a rectangle for a tile. -/
def loadTile (tile : Nat) (rect : TileRect) : Row :=
  setRect 0x34 tile rect

/-- Load a block of texels for a tile. -/
def loadBlock (tile slo tlo shi dt : Nat) : Row :=
  ofWords 0x33 (slo * 2 ^ 12 + tlo) (tile * 2 ^ 24 + shi * 2 ^ 12 + dt)

/-- Set an image by the codes of its format and size, its width and its address. -/
def setImage (code format size width address : Nat) : Row :=
  ofWords code (format * 2 ^ 21 + size * 2 ^ 19 + (width - 1)) address

/-- Set the image from which texels are loaded. -/
def setTextureImage (format size width address : Nat) : Row :=
  setImage 0x3D format size width address

/-- Set the image to which is drawn. -/
def setColorImage (format size width address : Nat) : Row :=
  setImage 0x3F format size width address

/-- Set the address of the depth buffer. -/
def setZImage (address : Nat) : Row :=
  ofWords 0x3E 0 address

/-- Fill a rectangle. -/
def fillRectangle (corners : Corners) : Row :=
  ofWords 0x36 (corners.x2.quarters * 2 ^ 12 + corners.y2.quarters)
    (corners.x1.quarters * 2 ^ 12 + corners.y1.quarters)

/-- Set the scissor. -/
def setScissor (scissor : Scissor) : Row :=
  ofWords 0x2D (scissor.xh.quarters * 2 ^ 12 + scissor.yh.quarters)
    (scissor.field.toNat * 2 ^ 25 + scissor.odd.toNat * 2 ^ 24 + scissor.xl.quarters * 2 ^ 12
      + scissor.yl.quarters)

/-- A row with a colour. -/
def setColor (code : Nat) (color : Word) : Row :=
  ofWords code 0 color.toNat

/-- Set the fill colour. -/
def setFillColor (color : Word) : Row :=
  setColor 0x37 color

/-- Set the fog colour. -/
def setFogColor (color : Word) : Row :=
  setColor 0x38 color

/-- Set the blend colour. -/
def setBlendColor (color : Word) : Row :=
  setColor 0x39 color

/-- Set the primitive colour. -/
def setPrimColor (color : PrimitiveColor) : Row :=
  ofWords 0x3A (color.minLevel * 2 ^ 8 + color.levelFraction) color.color.toNat

/-- Set the environment colour. -/
def setEnvColor (color : Word) : Row :=
  setColor 0x3B color

end Row

/-! ## Triangles -/

/-- The code of the triangle opcode of a kind: three bits for shade, texture and depth under a
leading one. -/
def TriangleKind.opcodeCode (kind : TriangleKind) : Nat :=
  8 + kind.shade.toNat * 4 + kind.texture.toNat * 2 + kind.depth.toNat

/-- A channel as it is packed: four signed 15.16 values. -/
structure GradientOperand where
  base : Word
  dx : Word
  de : Word
  dy : Word
deriving DecidableEq, Inhabited

namespace GradientOperand

/-- The values of a channel. -/
def value (g : GradientOperand) : Gradient where
  base := g.base.fixed 16
  dx := g.dx.fixed 16
  de := g.de.fixed 16
  dy := g.dy.fixed 16

end GradientOperand

/-- The four channels that a block packs. -/
structure BlockOperand where
  c0 : GradientOperand
  c1 : GradientOperand
  c2 : GradientOperand
  c3 : GradientOperand
deriving DecidableEq, Inhabited

namespace BlockOperand

/-- The values of a shade block: red, green, blue and alpha. -/
def shade (b : BlockOperand) : ShadeGradient where
  r := b.c0.value
  g := b.c1.value
  b := b.c2.value
  a := b.c3.value

/-- The values of a texture block: s, t and w. The fourth channel has no meaning. -/
def texture (b : BlockOperand) : TextureGradient where
  s := b.c0.value
  t := b.c1.value
  w := b.c2.value

end BlockOperand

/-- An edge as it is packed: y in fourteen bits, x and slope in the low 28 bits of a word each. -/
structure EdgeOperand where
  y : Word
  x : Word
  slope : Word
deriving DecidableEq, Inhabited

namespace EdgeOperand

/-- The values of an edge. -/
def value (e : EdgeOperand) : Edge where
  y := (e.y.signExtend 14).fixed 2
  x := (e.x.signExtend 28).fixed 16
  slope := (e.slope.signExtend 28).fixed 16

end EdgeOperand

/-- The edges of a triangle as they are packed. -/
structure EdgesOperand where
  high : EdgeOperand
  middle : EdgeOperand
  low : EdgeOperand
  flip : Bool
  tile : Nat
deriving DecidableEq, Inhabited

namespace EdgesOperand

/-- The operands that share a word with others fit into their fields. -/
structure InRange (e : EdgesOperand) : Prop where
  high_y_lt : e.high.y.toNat < 2 ^ 14
  middle_y_lt : e.middle.y.toNat < 2 ^ 14
  low_y_lt : e.low.y.toNat < 2 ^ 14
  tile_lt : e.tile < 8

/-- The values of the edges; the rasterizer corrects them if either the triangle is flipped or the
major edge falls. -/
def value (e : EdgesOperand) : Edges where
  high := e.high.value
  middle := e.middle.value
  low := e.low.value
  flip := e.flip
  tile := e.tile
  doOffset := e.flip ^^ (e.high.slope.signed 28 < 0 : Bool)

end EdgesOperand

/-- The coefficients of a triangle as they are packed. Of a block that its kind lacks there is
nothing to pack. -/
structure TriangleOperand where
  kind : TriangleKind
  edges : EdgesOperand
  shade : BlockOperand
  texture : BlockOperand
  depth : GradientOperand
deriving DecidableEq, Inhabited

namespace TriangleOperand

/-- The values of a triangle. A block that its kind lacks is absent. -/
def value (t : TriangleOperand) : TriangleCommand where
  kind := t.kind
  edges := t.edges.value
  shade := if t.kind.shade then some t.shade.shade else none
  texture := if t.kind.texture then some t.texture.texture else none
  depth := if t.kind.depth then some t.depth.value else none

end TriangleOperand

namespace Row

/-- The eight words of the edges, under the code of the opcode. -/
def edges (code : Nat) (e : EdgesOperand) : Row :=
  [.ofNat (code * 2 ^ 24 + e.flip.toNat * 2 ^ 23 + e.tile * 2 ^ 16 + e.low.y.toNat),
    .ofNat (e.middle.y.toNat * 2 ^ 16 + e.high.y.toNat),
    e.low.x, e.low.slope, e.high.x, e.high.slope, e.middle.x, e.middle.slope]

/-- One half of four values, in two words. -/
def halves (half : Half) (v0 v1 v2 v3 : Word) : Row :=
  [half.join v0 v1, half.join v2 v3]

/-- A block of four channels: sixteen words. -/
def block : BlockOperand → Row
  | ⟨c0, c1, c2, c3⟩ =>
    halves .upper c0.base c1.base c2.base c3.base ++ halves .upper c0.dx c1.dx c2.dx c3.dx
      ++ halves .lower c0.base c1.base c2.base c3.base ++ halves .lower c0.dx c1.dx c2.dx c3.dx
      ++ halves .upper c0.de c1.de c2.de c3.de ++ halves .upper c0.dy c1.dy c2.dy c3.dy
      ++ halves .lower c0.de c1.de c2.de c3.de ++ halves .lower c0.dy c1.dy c2.dy c3.dy

/-- The four words of the depth channel. -/
def depthBlock (z : GradientOperand) : Row :=
  [z.base, z.dx, z.de, z.dy]

/-- The row of a triangle. -/
def triangle (t : TriangleOperand) : Row :=
  edges t.kind.opcodeCode t.edges
    ++ (if t.kind.shade then block t.shade else [])
    ++ (if t.kind.texture then block t.texture else [])
    ++ (if t.kind.depth then depthBlock t.depth else [])

end Row

end DisplayProcessor
