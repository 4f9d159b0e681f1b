import DisplayProcessor.TextureMemory
import DisplayProcessor.Tile

/-!
# Where images come from

A texture is decoded from texture memory, as a tile describes it, or straight from external
memory. An empty rectangle has no image, whatever its format; otherwise only sixteen-bit colour
texels are decoded.

- `TextureMemory.decode`: the image that a tile describes.
- `ExternalMemory.decode`: the image in a part of external memory.
-/

namespace DisplayProcessor

/-- The image of the given dimensions and texels, unless it is empty or its format is not decoded.
-/
def Image.decode (width height : Nat) (format : TexelFormat) (size : TexelSize)
    (texel : Nat → Nat → UInt16) : Except TextureError (Option Image) := do
  if width = 0 ∨ height = 0 then
    return none
  else
    checkDecodable format size
    return some (.ofTexels width height texel)

/-- The image that a tile describes: rows of its width, as many as are loaded, `stride` bytes
apart in texture memory. -/
def TextureMemory.decode (memory : TextureMemory) (tile : Tile) :
    Except TextureError (Option Image) :=
  let properties := tile.properties
  Image.decode tile.rect.width tile.loadedHeight properties.format properties.size fun x y =>
    memory.texel16At (properties.offset + y * properties.stride + 2 * x)

/-- The image of `width` by `height` texels from an address on, with rows `stride` texels apart. Each
row has an address of its own. -/
def ExternalMemory.decode (memory : ExternalMemory) (address : UInt32) (stride width height : Nat)
    (format : TexelFormat) (size : TexelSize) : Except TextureError (Option Image) :=
  Image.decode width height format size fun x y =>
    memory.read16 (address + .ofNat (y * stride * 2) + .ofNat (x * 2))

namespace ExternalMemory

/-- A texel is as far from the first one as its number says, since addresses wrap around. -/
theorem texel_address (address : UInt32) (stride x y : Nat) :
    address + .ofNat (y * stride * 2) + .ofNat (x * 2) = address + .ofNat (2 * (y * stride + x)) := by
  have hsum : y * stride * 2 + x * 2 = 2 * (y * stride + x) := by omega
  rw [UInt32.add_assoc, ← UInt32.ofNat_add, hsum]

theorem decode_eq (memory : ExternalMemory) (address : UInt32) (stride width height : Nat)
    (format : TexelFormat) (size : TexelSize) :
    memory.decode address stride width height format size =
      Image.decode width height format size fun x y =>
        memory.read16 (address + .ofNat (2 * (y * stride + x))) := by
  simp only [decode, texel_address]

end ExternalMemory

end DisplayProcessor
