import DisplayProcessor.Edges
import DisplayProcessor.Gradient
import DisplayProcessor.Registers
import DisplayProcessor.Texture

/-!
# Frames

A frame collects what the rasterizer draws: triangles and filled rectangles, in the order of their
commands. At the hand-off it also carries the registers and the handles of the textures that no tile
caches any longer; triangles of the frame may still sample those.

- `Triangle`, `FillRect`: what is drawn.
- `Frame`: one frame, with `pushTriangle`, `pushFillRect` and `retire`.
-/

namespace DisplayProcessor

/-- A triangle to draw. -/
structure Triangle where
  edges : Edges
  /-- The texture of the tile at the time of the command. -/
  texture : Option TextureRef
  /-- The loaded rows of that tile at the time of the command. -/
  validHeight : Nat
  color : ShadeGradient
  coordinates : Option TextureGradient
  depth : Option Gradient
deriving DecidableEq, Inhabited

/-- The corners of an axis-parallel rectangle. -/
@[ext] structure Corners where
  x1 : QuarterPixel
  y1 : QuarterPixel
  x2 : QuarterPixel
  y2 : QuarterPixel
deriving DecidableEq, Inhabited

namespace Corners

/-- The corners in two words; the lower right one comes first. -/
def ofWords (w0 w1 : Word) : Corners where
  x1 := .ofField w1 12
  y1 := .ofField w1 0
  x2 := .ofField w0 12
  y2 := .ofField w0 0

end Corners

/-- A rectangle to fill with a colour. -/
structure FillRect where
  corners : Corners
  color : Word
deriving DecidableEq, Inhabited

/-- One frame. -/
structure Frame where
  triangles : Array Triangle
  fillRects : Array FillRect
  /-- Whether anything was accepted. -/
  canRender : Bool
  registers : Registers
  /-- Handles that the consumer releases after drawing. -/
  retired : List TextureHandle
deriving DecidableEq

namespace Frame

/-- The frame with nothing in it. -/
def empty : Frame := ⟨#[], #[], false, .powerOn, []⟩

instance : Inhabited Frame := ⟨empty⟩

/-- The frame with one more triangle. -/
def pushTriangle (frame : Frame) (triangle : Triangle) : Frame :=
  { frame with triangles := frame.triangles.push triangle, canRender := true }

/-- The frame with one more rectangle. -/
def pushFillRect (frame : Frame) (rect : FillRect) : Frame :=
  { frame with fillRects := frame.fillRects.push rect, canRender := true }

/-- The frame with one more handle to release. -/
def retire (frame : Frame) (handle : TextureHandle) : Frame :=
  { frame with retired := frame.retired ++ [handle] }

/-- Whether nothing is drawn. -/
def isEmpty (frame : Frame) : Bool :=
  frame.triangles.isEmpty && frame.fillRects.isEmpty

end Frame

end DisplayProcessor
