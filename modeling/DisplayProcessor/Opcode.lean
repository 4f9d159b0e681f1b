import DisplayProcessor.Word

/-!
# Opcodes

Bits 24 to 29 of the first word of a row are its opcode. Eight opcodes are triangles, one for each
choice of coefficient blocks.

- `TriangleKind`: the blocks that a triangle row carries.
- `Opcode`: the opcodes, with `Opcode.ofWord` and `Opcode.wordCount`.
-/

namespace DisplayProcessor

/-- The blocks that follow the edges of a triangle row. -/
structure TriangleKind where
  shade : Bool
  texture : Bool
  depth : Bool
deriving DecidableEq, Inhabited

namespace TriangleKind

/-- The number of words that describe the edges. -/
def edgeWords : Nat := 8

/-- The number of words in a shade or texture block. -/
def blockWords : Nat := 16

/-- The number of words in a depth block. -/
def depthWords : Nat := 4

/-- Where the shade block starts. -/
def shadeStart (_ : TriangleKind) : Nat := edgeWords

/-- Where the texture block starts. -/
def textureStart (kind : TriangleKind) : Nat :=
  kind.shadeStart + if kind.shade then blockWords else 0

/-- Where the depth block starts. -/
def depthStart (kind : TriangleKind) : Nat :=
  kind.textureStart + if kind.texture then blockWords else 0

/-- The number of words in the row. -/
def wordCount (kind : TriangleKind) : Nat :=
  kind.depthStart + if kind.depth then depthWords else 0

theorem edgeWords_le (kind : TriangleKind) : edgeWords ≤ kind.wordCount := by
  unfold wordCount depthStart textureStart shadeStart
  omega

/-- A block that a kind has ends within the row. -/
theorem shade_le {kind : TriangleKind} (h : kind.shade = true) :
    kind.shadeStart + blockWords ≤ kind.wordCount := by
  unfold wordCount depthStart textureStart
  rw [if_pos h]
  omega

theorem texture_le {kind : TriangleKind} (h : kind.texture = true) :
    kind.textureStart + blockWords ≤ kind.wordCount := by
  unfold wordCount depthStart
  rw [if_pos h]
  omega

theorem depth_le {kind : TriangleKind} (h : kind.depth = true) :
    kind.depthStart + depthWords ≤ kind.wordCount :=
  Nat.le_of_eq (by rw [wordCount, if_pos h])

/-- The edges come before all other blocks. -/
theorem shadeStart_pos (kind : TriangleKind) : 0 < kind.shadeStart :=
  (by decide : 0 < edgeWords)

theorem textureStart_pos (kind : TriangleKind) : 0 < kind.textureStart :=
  Nat.lt_of_lt_of_le kind.shadeStart_pos (Nat.le_add_right _ _)

theorem depthStart_pos (kind : TriangleKind) : 0 < kind.depthStart :=
  Nat.lt_of_lt_of_le kind.textureStart_pos (Nat.le_add_right _ _)

/-- The kind that the low three bits of a code name: shade, texture and depth from the top. -/
def ofCode (code : Nat) : TriangleKind where
  shade := code.testBit 2
  texture := code.testBit 1
  depth := code.testBit 0

end TriangleKind

/-- What a command does. -/
inductive Opcode where
  | nop
  | triangle (kind : TriangleKind)
  | textureRectangle
  | textureRectangleFlip
  | syncLoad
  | syncPipe
  | syncTile
  | syncFull
  | setKeyGB
  | setKeyR
  | setConvert
  | setScissor
  | setPrimDepth
  | setOtherModes
  | loadTlut
  | setTileSize
  | loadBlock
  | loadTile
  | setTile
  | fillRectangle
  | setFillColor
  | setFogColor
  | setBlendColor
  | setPrimColor
  | setEnvColor
  | setCombineMode
  | setTextureImage
  | setZImage
  | setColorImage
deriving DecidableEq, Inhabited

namespace Opcode

/-- The opcode with a six-bit code. A code without a meaning does nothing. -/
def ofCode (code : Nat) : Opcode :=
  match code with
  | 0x08 | 0x09 | 0x0A | 0x0B | 0x0C | 0x0D | 0x0E | 0x0F => .triangle (.ofCode code)
  | 0x24 => .textureRectangle
  | 0x25 => .textureRectangleFlip
  | 0x26 => .syncLoad
  | 0x27 => .syncPipe
  | 0x28 => .syncTile
  | 0x29 => .syncFull
  | 0x2A => .setKeyGB
  | 0x2B => .setKeyR
  | 0x2C => .setConvert
  | 0x2D => .setScissor
  | 0x2E => .setPrimDepth
  | 0x2F => .setOtherModes
  | 0x30 => .loadTlut
  | 0x32 => .setTileSize
  | 0x33 => .loadBlock
  | 0x34 => .loadTile
  | 0x35 => .setTile
  | 0x36 => .fillRectangle
  | 0x37 => .setFillColor
  | 0x38 => .setFogColor
  | 0x39 => .setBlendColor
  | 0x3A => .setPrimColor
  | 0x3B => .setEnvColor
  | 0x3C => .setCombineMode
  | 0x3D => .setTextureImage
  | 0x3E => .setZImage
  | 0x3F => .setColorImage
  | _ => .nop

/-- The opcode in the first word of a row. -/
def ofWord (w : Word) : Opcode :=
  ofCode (w.field 24 6)

/-- The number of words in a row with this opcode. -/
def wordCount : Opcode → Nat
  | .triangle kind => kind.wordCount
  | .textureRectangle | .textureRectangleFlip => 4
  | _ => 2

end Opcode

end DisplayProcessor
