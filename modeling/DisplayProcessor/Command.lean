import DisplayProcessor.Frame
import DisplayProcessor.Opcode
import DisplayProcessor.Tile

/-!
# Commands

Every row is a command. Decoding never fails: an opcode without a meaning does nothing, and
operands that the row is too short for are zero.

- `TriangleCommand`: the edges of a triangle and its coefficient blocks.
- `Command`: a decoded row.
- `Command.decode`: the command in a row.
-/

namespace DisplayProcessor

/-- A decoded triangle row. -/
structure TriangleCommand where
  kind : TriangleKind
  edges : Edges
  shade : Option ShadeGradient
  texture : Option TextureGradient
  depth : Option Gradient
deriving DecidableEq, Inhabited

namespace TriangleCommand

/-- The triangle of a kind in a row. A block that the kind lacks is absent. -/
def decode (kind : TriangleKind) (row : Row) : TriangleCommand where
  kind := kind
  edges := .ofBlock (row.slice 0 TriangleKind.edgeWords)
  shade :=
    if kind.shade then some (.ofBlock (row.slice kind.shadeStart TriangleKind.blockWords))
    else none
  texture :=
    if kind.texture then some (.ofBlock (row.slice kind.textureStart TriangleKind.blockWords))
    else none
  depth :=
    if kind.depth then some (.ofDepthBlock (row.slice kind.depthStart TriangleKind.depthWords))
    else none

end TriangleCommand

/-- A decoded row. -/
inductive Command where
  | nop
  /-- An opcode with a meaning, but without effect on the state that is kept here. -/
  | ignored (opcode : Opcode)
  | triangle (triangle : TriangleCommand)
  | setTileSize (tile : Nat) (rect : TileRect)
  | loadBlock (tile slo tlo shi dt : Nat)
  | loadTile (tile : Nat) (rect : TileRect)
  | setTile (tile : Nat) (properties : TileProperties)
  | fillRectangle (corners : Corners)
  | setFillColor (color : Word)
  | setTextureImage (image : ImageDescriptor)
  | setScissor (scissor : Scissor)
  | setPrimColor (color : PrimitiveColor)
  | setEnvColor (color : Word)
  | setBlendColor (color : Word)
  | setFogColor (color : Word)
  | setColorImage (image : ImageDescriptor)
  | setZImage (address : UInt32)
deriving DecidableEq, Inhabited

namespace Command

/-- The tile number of a two-word command. -/
def tileField (w1 : Word) : Nat :=
  w1.field 24 3

/-- The command in a row with the given opcode. -/
def decodeAs (opcode : Opcode) (row : Row) : Command :=
  let w0 := row.word 0
  let w1 := row.word 1
  match opcode with
  | .nop => .nop
  | .triangle kind => .triangle (.decode kind row)
  | .setTileSize => .setTileSize (tileField w1) (.ofWords w0 w1)
  | .loadBlock =>
    .loadBlock (tileField w1) (w0.field 12 12) (w0.field 0 12) (w1.field 12 12) (w1.field 0 12)
  | .loadTile => .loadTile (tileField w1) (.ofWords w0 w1)
  | .setTile => .setTile (tileField w1) (.ofWords w0 w1)
  | .fillRectangle => .fillRectangle (.ofWords w0 w1)
  | .setFillColor => .setFillColor w1
  | .setTextureImage => .setTextureImage (.ofWords w0 w1)
  | .setScissor => .setScissor (.ofWords w0 w1)
  | .setPrimColor => .setPrimColor (.ofWords w0 w1)
  | .setEnvColor => .setEnvColor w1
  | .setBlendColor => .setBlendColor w1
  | .setFogColor => .setFogColor w1
  | .setColorImage => .setColorImage (.ofWords w0 w1)
  | .setZImage => .setZImage (ImageDescriptor.addressField w1)
  | other => .ignored other

/-- The command in a row. -/
def decode (row : Row) : Command :=
  decodeAs (.ofWord (row.word 0)) row

/-- The same command aimed at another tile; a command without a tile stays as it is. -/
def retarget (tile : Nat) : Command → Command
  | .triangle t => .triangle { t with edges := { t.edges with tile := tile } }
  | .setTileSize _ rect => .setTileSize tile rect
  | .loadBlock _ slo tlo shi dt => .loadBlock tile slo tlo shi dt
  | .loadTile _ rect => .loadTile tile rect
  | .setTile _ properties => .setTile tile properties
  | other => other

end Command

end DisplayProcessor
