import DisplayProcessor.Texture
import DisplayProcessor.Word

/-!
# Tiles

A tile describes how texels in texture memory are addressed and sampled, and caches the texture
that was decoded from this description.

- `TileAxis`, `TileProperties`: the properties that one command sets, as its two words pack them.
- `TileRect`: the sampling rectangle in whole texels.
- `Tile`: one slot, with the rows that are known to be loaded.
-/

namespace DisplayProcessor

/-- How coordinates along one axis are wrapped, masked and shifted. -/
structure TileAxis where
  mirror : Bool
  clamp : Bool
  mask : Nat
  shift : Nat
deriving DecidableEq

namespace TileAxis

instance : Inhabited TileAxis := ⟨false, false, 0, 0⟩

/-- The largest meaningful mask; larger ones mean the same. -/
def maxMask : Nat := 10

/-- The axis packed in the ten bits that start at bit `lo`: shift, mask, mirror, clamp. -/
def ofField (w : Word) (lo : Nat) : TileAxis where
  mirror := w.flag (lo + 8)
  clamp := w.flag (lo + 9)
  mask := min (w.field (lo + 4) 4) maxMask
  shift := w.field lo 4

end TileAxis

/-- The addressing and format of a tile. -/
structure TileProperties where
  format : TexelFormat
  size : TexelSize
  /-- The address of the first row in texture memory, a multiple of 8. -/
  offset : Nat
  /-- The bytes from one row to the next, a multiple of 8. -/
  stride : Nat
  palette : Nat
  s : TileAxis
  t : TileAxis
deriving DecidableEq, Inhabited

namespace TileProperties

/-- The properties in two words:

```text
word 0: bits 21-23 format, 19-20 size, 9-17 stride / 8, 0-8 offset / 8
word 1: bits 20-23 palette, 10-19 t axis, 0-9 s axis
``` -/
def ofWords (w0 w1 : Word) : TileProperties where
  format := .ofCode (w0.field 21 3)
  size := .ofCode (w0.field 19 2)
  offset := w0.field 0 9 * 8
  stride := w0.field 9 9 * 8
  palette := w1.field 20 4
  s := .ofField w1 0
  t := .ofField w1 10

end TileProperties

/-- A sampling rectangle: the first and the last texel along each axis. -/
@[ext] structure TileRect where
  slo : Nat
  shi : Nat
  tlo : Nat
  thi : Nat
deriving DecidableEq, Inhabited

namespace TileRect

/-- The rectangle in two words of 10.2 coordinates; the quarters are dropped. -/
def ofWords (w0 w1 : Word) : TileRect where
  slo := w0.field 14 10
  shi := w1.field 14 10
  tlo := w0.field 2 10
  thi := w1.field 2 10

/-- The width in texels, zero if the last lies before the first. -/
def width (rect : TileRect) : Nat :=
  rect.shi + 1 - rect.slo

/-- The height in texels, zero if the last lies before the first. -/
def height (rect : TileRect) : Nat :=
  rect.thi + 1 - rect.tlo

end TileRect

/-- One tile slot. -/
structure Tile where
  properties : TileProperties
  rect : TileRect
  /-- The texture that was decoded from the present description. -/
  texture : Option TextureRef
  /-- The number of rows of texels that are known to be loaded. -/
  validHeight : Nat
deriving DecidableEq, Inhabited

namespace Tile

/-- The slot at power-on. -/
def powerOn : Tile := ⟨default, default, none, 0⟩

/-- The slot with its loaded rows counted anew: as many as the loaded texels fill. An empty
rectangle has none. -/
def countRows (tile : Tile) (texelsLoaded : Nat) : Tile :=
  { tile with validHeight := texelsLoaded / tile.rect.width }

/-- The height of the texture that the slot describes: no more rows than are loaded. -/
def loadedHeight (tile : Tile) : Nat :=
  min tile.rect.height tile.validHeight

end Tile

end DisplayProcessor
