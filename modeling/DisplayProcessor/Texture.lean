import DisplayProcessor.Image

/-!
# Textures

The processor does not keep decoded images itself. It hands each one to an allocator and remembers
only a handle and the dimensions.

- `TextureHandle`, `TextureRef`: a texture by name, and with its dimensions.
- `TextureError`: why there is no texture.
- `TextureAllocator`: what an allocator can do. A refused allocation may still change its state.
-/

namespace DisplayProcessor

/-- The name of an allocated texture. -/
structure TextureHandle where
  id : Nat
deriving DecidableEq, Inhabited

/-- An allocated texture together with its dimensions. -/
structure TextureRef where
  handle : TextureHandle
  width : Nat
  height : Nat
deriving DecidableEq, Inhabited

/-- Why a texture could not be built. -/
inductive TextureError where
  /-- Texels of this format and size are not decoded. -/
  | unsupportedFormat (format : TexelFormat) (size : TexelSize)
  /-- The allocator refused the image. -/
  | allocationFailed (reason : String)
deriving DecidableEq

namespace TextureError

/-- The wording of a texture error. -/
def message : TextureError → String
  | .unsupportedFormat format size => s!"Unsupported texel format: {format.name} {size.name}"
  | .allocationFailed reason => s!"Texture allocation failed: {reason}"

end TextureError

/-- Texels of sixteen-bit colour are decoded; any other pair of format and size is refused. -/
def checkDecodable (format : TexelFormat) (size : TexelSize) : Except TextureError Unit :=
  if format = .rgba ∧ size = .bits16 then .ok () else .error (.unsupportedFormat format size)

/-- A store of textures. -/
class TextureAllocator (α : Type u) where
  /-- Hand over an image: its handle or the reason of the refusal, and the store afterwards. -/
  allocate : α → Image → Except TextureError TextureHandle × α
  /-- Give up a texture. -/
  release : α → TextureHandle → α

namespace TextureAllocator

variable {α : Type u} [TextureAllocator α]

/-- Give up textures one after the other. -/
def releaseAll (store : α) (handles : List TextureHandle) : α :=
  handles.foldl release store

end TextureAllocator

end DisplayProcessor
