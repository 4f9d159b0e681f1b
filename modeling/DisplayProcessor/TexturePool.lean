import DisplayProcessor.Texture

/-!
# The texture pool

The pool keeps the images of all live textures. Handles count up from 1 and none is ever used
again: the entry of a released texture stays, empty.

- `TexturePool.get?`: the image behind a handle.
- `TexturePool.size`: the number of live textures.
- `TexturePool.allocate`, `TexturePool.release`: the pool as a `TextureAllocator`. An image is
  refused when its bytes do not fit its dimensions, and the refusal changes nothing.
-/

namespace DisplayProcessor

/-- A pool: entry `i` belongs to the handle `i + 1`, and is empty once that handle is released. -/
structure TexturePool where
  entries : Array (Option Image)
deriving DecidableEq, Inhabited

namespace TexturePool

/-- The pool from which nothing was ever allocated. -/
def empty : TexturePool := ⟨#[]⟩

/-- The image behind a handle. -/
def get? (pool : TexturePool) (handle : TextureHandle) : Option Image :=
  match handle.id with
  | 0 => none
  | i + 1 => pool.entries[i]?.join

/-- The number of live textures. -/
def size (pool : TexturePool) : Nat :=
  pool.entries.countP Option.isSome

/-- Whether there is no live texture. -/
def isEmpty (pool : TexturePool) : Bool :=
  pool.size = 0

/-- Why an image whose bytes do not fit its dimensions is refused. -/
def sizeMismatch (image : Image) : String :=
  s!"{image.width}x{image.height} texture needs {image.expectedBytes} bytes, got {image.bytes.size}"

/-- Keep an image under a new handle, if its bytes fit its dimensions. -/
def allocate (pool : TexturePool) (image : Image) :
    Except TextureError TextureHandle × TexturePool :=
  if image.bytes.size = image.expectedBytes then
    (.ok ⟨pool.entries.size + 1⟩, ⟨pool.entries.push (some image)⟩)
  else (.error (.allocationFailed (sizeMismatch image)), pool)

/-- Forget the image behind a handle, if there is one. -/
def release (pool : TexturePool) (handle : TextureHandle) : TexturePool :=
  match handle.id with
  | 0 => pool
  | i + 1 => ⟨pool.entries.setIfInBounds i none⟩

/-- A new texture is behind its handle. -/
theorem get?_allocate (pool : TexturePool) {image : Image}
    (h : image.bytes.size = image.expectedBytes) :
    (pool.allocate image).2.get? ⟨pool.entries.size + 1⟩ = some image := by
  simp [allocate, h, get?]

/-- A released texture is gone. -/
theorem get?_release_self (pool : TexturePool) (handle : TextureHandle) :
    (pool.release handle).get? handle = none := by
  unfold release get?
  split
  · rfl
  · rw [Array.getElem?_setIfInBounds_self]
    split <;> rfl

instance : TextureAllocator TexturePool where
  allocate := allocate
  release := release

end TexturePool

end DisplayProcessor
