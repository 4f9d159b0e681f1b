import DisplayProcessor.Json.Value
import DisplayProcessor.Processor

/-!
# The summary of a replay

- `Summary`: what one batch produced.
- `Summary.toText`, `Summary.toJson`: the two forms in which it is printed.
-/

namespace DisplayProcessor.Replay

/-- What one batch produced. -/
structure Summary where
  counts : BatchCounts
  triangles : Nat
  texturedTriangles : Nat
  fillRects : Nat
  liveTextures : Nat
  retiredTextures : Nat
  canRender : Bool
  currentTile : TileIndex
  registers : Registers
deriving DecidableEq

namespace Summary

/-- The summary of a frame that was handed off, and of the processor after it. -/
def ofFrame (counts : BatchCounts) (frame : Frame) (p : Processor TexturePool) : Summary where
  counts := counts
  triangles := frame.triangles.size
  texturedTriangles := frame.triangles.countP fun triangle => triangle.texture.isSome
  fillRects := frame.fillRects.size
  liveTextures := p.allocator.size
  retiredTextures := frame.retired.length
  canRender := frame.canRender
  currentTile := p.currentTile
  registers := frame.registers

/-- The summary as lines of text. -/
def toText (s : Summary) : String :=
  .join (List.map (· ++ "\n") [
    s!"Rows:               {s.counts.rows}",
    s!"No-ops:             {s.counts.nops}",
    s!"Triangles:          {s.triangles}",
    s!"  textured:         {s.texturedTriangles}",
    s!"Fill rectangles:    {s.fillRects}",
    s!"Live textures:      {s.liveTextures}",
    s!"Retired textures:   {s.retiredTextures}",
    s!"Skipped primitives: {s.counts.skipped}",
    s!"Dropped loads:      {s.counts.dropped}",
    s!"Can render:         {s.canRender}",
    s!"Current tile:       {s.currentTile.val}"])

end Summary

open Json (Value)

/-- The counts of a batch as a JSON value. -/
def countsToJson (counts : BatchCounts) : Value :=
  .ofMembers [
    ("rows", .ofNat counts.rows),
    ("nops", .ofNat counts.nops),
    ("skipped_primitives", .ofNat counts.skipped),
    ("dropped_loads", .ofNat counts.dropped)]

/-- A coordinate as a JSON value. -/
def quarterPixelToJson (q : QuarterPixel) : Value :=
  .number q.toDecimal.toList

/-- The scissor as a JSON value. -/
def scissorToJson (scissor : Scissor) : Value :=
  .ofMembers [
    ("xh", quarterPixelToJson scissor.xh),
    ("yh", quarterPixelToJson scissor.yh),
    ("xl", quarterPixelToJson scissor.xl),
    ("yl", quarterPixelToJson scissor.yl),
    ("field", .bool scissor.field),
    ("odd", .bool scissor.odd)]

/-- An image in external memory as a JSON value. -/
def imageToJson (image : ImageDescriptor) : Value :=
  .ofMembers [
    ("format", .ofText image.format.name),
    ("size", .ofText image.size.name),
    ("width", .ofNat image.width),
    ("address", .ofNat image.address.toNat)]

/-- The registers as a JSON value. -/
def registersToJson (registers : Registers) : Value :=
  .ofMembers [
    ("prim_color", .ofNat registers.primitive.color.toNat),
    ("prim_min_level", .ofNat registers.primitive.minLevel),
    ("prim_level_fraction", .ofNat registers.primitive.levelFraction),
    ("env_color", .ofNat registers.environment.toNat),
    ("blend_color", .ofNat registers.blend.toNat),
    ("fog_color", .ofNat registers.fog.toNat),
    ("scissor", scissorToJson registers.scissor),
    ("color_image", imageToJson registers.colorImage),
    ("z_image_address", .ofNat registers.depthImage.toNat)]

/-- The summary as a JSON value. -/
def Summary.toJson (s : Summary) : Value :=
  .ofMembers [
    ("stats", countsToJson s.counts),
    ("triangles", .ofNat s.triangles),
    ("textured_triangles", .ofNat s.texturedTriangles),
    ("fill_rects", .ofNat s.fillRects),
    ("live_textures", .ofNat s.liveTextures),
    ("retired_textures", .ofNat s.retiredTextures),
    ("can_render", .bool s.canRender),
    ("current_tile", .ofNat s.currentTile.val),
    ("registers", registersToJson s.registers)]

/-- The summary as it is printed. -/
def Summary.render (s : Summary) (json : Bool) : String :=
  if json then .ofList (s.toJson.pretty 0) ++ "\n" else s.toText

end DisplayProcessor.Replay
