import DisplayProcessor.ImageSource
import DisplayProcessor.TexturePool

/-!
# Textures in a pool

A pool refuses an image only if its bytes do not fit its dimensions, and no decoder delivers such an
image. An image that is decoded is therefore always kept, behind a handle that was never given out
before.

- `TexturePool.fresh`, `TexturePool.keep`: the next handle, and the pool with an image behind it.
- `TexturePool.get?_keep`, `TexturePool.get?_releaseAll`: what is behind a handle afterwards.
- `TexturePool.Retains`: what an operation leaves alone.
- `Image.decode_eq_some_iff`, `Image.decode_eq_none_iff`, `Image.unsupported_of_decode`: when a
  decoder delivers an image, nothing, or an error.
- `Image.hasSize_of_decode`: the size of the image of a decoder.
-/

namespace DisplayProcessor

namespace TexturePool

/-- The handle that the next texture gets. -/
def fresh (pool : TexturePool) : TextureHandle :=
  ⟨pool.entries.size + 1⟩

/-- The pool with an image behind its next handle. -/
def keep (pool : TexturePool) (image : Image) : TexturePool :=
  ⟨pool.entries.push (some image)⟩

/-- A handle that the pool has given out, live or not. -/
def Issued (pool : TexturePool) (handle : TextureHandle) : Prop :=
  0 < handle.id ∧ handle.id ≤ pool.entries.size

/-- There is an image behind the handle. -/
def Live (pool : TexturePool) (handle : TextureHandle) : Prop :=
  (pool.get? handle).isSome

instance (pool : TexturePool) (handle : TextureHandle) : Decidable (pool.Live handle) :=
  inferInstanceAs (Decidable (_ = true))

/-- An image that fits its dimensions is kept. -/
theorem allocate_eq_keep (pool : TexturePool) {image : Image}
    (h : image.bytes.size = image.expectedBytes) :
    TextureAllocator.allocate pool image = (.ok pool.fresh, pool.keep image) := by
  show pool.allocate image = _
  rw [allocate, if_pos h]
  rfl

/-! ## Handles -/

/-- The next handle was not given out yet. -/
theorem not_issued_fresh (pool : TexturePool) : ¬ pool.Issued pool.fresh :=
  fun h => absurd h.2 (Nat.not_succ_le_self _)

/-- A handle is given out with the image that is kept. -/
theorem issued_fresh_keep (pool : TexturePool) (image : Image) :
    (pool.keep image).Issued pool.fresh := by
  refine ⟨Nat.succ_pos _, ?_⟩
  show pool.entries.size + 1 ≤ (pool.entries.push (some image)).size
  exact Nat.le_of_eq (Array.size_push _).symm

theorem Issued.keep {pool : TexturePool} {handle : TextureHandle} (h : pool.Issued handle)
    (image : Image) : (pool.keep image).Issued handle := by
  refine ⟨h.1, Nat.le_trans h.2 ?_⟩
  show pool.entries.size ≤ (pool.entries.push (some image)).size
  rw [Array.size_push]
  exact Nat.le_succ _

/-- An image is only ever behind a handle that was given out. -/
theorem Live.issued {pool : TexturePool} {handle : TextureHandle} (h : pool.Live handle) :
    pool.Issued handle := by
  obtain ⟨_ | i⟩ := handle
  · exact absurd h (by simp [Live, get?])
  · refine ⟨Nat.succ_pos i, ?_⟩
    show i < pool.entries.size
    -- Past the end of the entries there is nothing behind a handle.
    refine Nat.lt_of_not_le fun hle => ?_
    have hnone : pool.entries[i]? = none := Array.getElem?_eq_none hle
    simp [Live, get?, hnone] at h

theorem Live.ne_fresh {pool : TexturePool} {handle : TextureHandle} (h : pool.Live handle) :
    handle ≠ pool.fresh :=
  fun heq => pool.not_issued_fresh (heq ▸ h.issued)

/-- A handle with an image is live. -/
theorem live_of_get? {pool : TexturePool} {handle : TextureHandle} {image : Image}
    (h : pool.get? handle = some image) : pool.Live handle :=
  Option.isSome_of_eq_some h

/-- After an allocation the new image is behind the new handle, and all else is as before. -/
theorem get?_keep (pool : TexturePool) (image : Image) (handle : TextureHandle) :
    (pool.keep image).get? handle =
      if handle = pool.fresh then some image else pool.get? handle := by
  obtain ⟨_ | i⟩ := handle
  · simp [get?, fresh]
  · by_cases hi : i = pool.entries.size
    · simp [get?, keep, fresh, hi]
    · simp [get?, keep, fresh, Array.getElem?_push, hi]

/-- After a release nothing is behind the handle, and all else is as before. -/
theorem get?_release (pool : TexturePool) (a b : TextureHandle) :
    (pool.release a).get? b = if b = a then none else pool.get? b := by
  -- Handle 0 has no entry, and any other one has the entry before its number.
  obtain ⟨_ | i⟩ := a
  · by_cases hb : b = ⟨0⟩
    · simp [get?, hb]
    · simp [release, hb]
  · obtain ⟨_ | j⟩ := b
    · simp [get?]
    · by_cases hij : i = j
      · subst hij
        rw [if_pos rfl]
        exact pool.get?_release_self ⟨i + 1⟩
      · simp [release, get?, hij, Ne.symm hij]

/-- A released handle stays given out. -/
@[simp] theorem size_entries_release (pool : TexturePool) (handle : TextureHandle) :
    (pool.release handle).entries.size = pool.entries.size := by
  unfold release
  split <;> simp

/-- After releases nothing is behind any of the handles, and all else is as before. -/
theorem get?_releaseAll (pool : TexturePool) (handles : List TextureHandle)
    (handle : TextureHandle) :
    (TextureAllocator.releaseAll pool handles).get? handle =
      if handle ∈ handles then none else pool.get? handle := by
  induction handles generalizing pool with
  | nil => rfl
  | cons a rest ih =>
    show (TextureAllocator.releaseAll (pool.release a) rest).get? handle = _
    rw [ih, get?_release]
    by_cases hrest : handle ∈ rest <;> by_cases ha : handle = a <;> simp [hrest, ha]

@[simp] theorem size_entries_releaseAll (pool : TexturePool) (handles : List TextureHandle) :
    (TextureAllocator.releaseAll pool handles).entries.size = pool.entries.size := by
  induction handles generalizing pool with
  | nil => rfl
  | cons a rest ih => exact (ih (pool.release a)).trans (pool.size_entries_release a)

/-- A later pool still has the image that is behind the handle now, if there is one. -/
def Retains (pool after : TexturePool) (handle : TextureHandle) : Prop :=
  ∀ image, pool.get? handle = some image → after.get? handle = some image

/-- An allocation leaves the images behind all other handles alone. -/
theorem retains_keep (pool : TexturePool) (image : Image) (handle : TextureHandle) :
    pool.Retains (pool.keep image) handle := by
  intro old hold
  rw [get?_keep, if_neg (live_of_get? hold).ne_fresh, hold]

/-- The other textures are kept when some are released. -/
theorem retains_releaseAll (pool : TexturePool) {handles : List TextureHandle}
    {handle : TextureHandle} (h : handle ∉ handles) :
    pool.Retains (TextureAllocator.releaseAll pool handles) handle := by
  intro old hold
  rw [get?_releaseAll, if_neg h, hold]

end TexturePool

/-! ## Decoded images -/

namespace Image

/-- An image of the given dimensions that is not empty and has as many bytes as they ask for. -/
structure HasSize (image : Image) (width height : Nat) : Prop where
  width_eq : image.width = width
  height_eq : image.height = height
  width_pos : 0 < width
  height_pos : 0 < height
  size_bytes : image.bytes.size = image.expectedBytes

/-- A decoder delivers the image of the texels, unless it is empty or its format is not decoded. -/
theorem decode_eq_some_iff {width height : Nat} {format : TexelFormat} {size : TexelSize}
    {texel : Nat → Nat → UInt16} {image : Image} :
    decode width height format size texel = .ok (some image) ↔
      (0 < width ∧ 0 < height) ∧ checkDecodable format size = .ok () ∧
        image = ofTexels width height texel := by
  unfold decode
  by_cases hempty : width = 0 ∨ height = 0
  · rw [if_pos hempty]
    constructor
    · intro h
      cases h
    · rintro ⟨⟨hw, hh⟩, -⟩
      exact absurd hempty (by omega)
  · rw [if_neg hempty]
    -- Neither dimension is zero, so the format decides.
    cases hcheck : checkDecodable format size with
    | error e =>
      constructor
      · intro h
        cases h
      · rintro ⟨-, h, -⟩
        cases h
    | ok =>
      constructor
      · intro h
        cases h
        exact ⟨by omega, rfl, rfl⟩
      · rintro ⟨-, -, rfl⟩
        rfl

/-- There is no image exactly if one of the dimensions is zero, whatever the format. -/
theorem decode_eq_none_iff {width height : Nat} {format : TexelFormat} {size : TexelSize}
    {texel : Nat → Nat → UInt16} :
    decode width height format size texel = .ok none ↔ width = 0 ∨ height = 0 := by
  unfold decode
  by_cases hempty : width = 0 ∨ height = 0
  · rw [if_pos hempty]
    exact iff_of_true rfl hempty
  · rw [if_neg hempty]
    refine iff_of_false ?_ hempty
    intro h
    cases hcheck : checkDecodable format size <;> rw [hcheck] at h <;> cases h

/-- A decoder fails only for a format that is not decoded. -/
theorem unsupported_of_decode {width height : Nat} {format : TexelFormat} {size : TexelSize}
    {texel : Nat → Nat → UInt16} {e : TextureError}
    (h : decode width height format size texel = .error e) :
    e = .unsupportedFormat format size ∧ ¬ (format = .rgba ∧ size = .bits16) := by
  unfold decode at h
  split at h
  · cases h
  · by_cases hformat : format = .rgba ∧ size = .bits16
    · rw [checkDecodable, if_pos hformat] at h
      cases h
    · rw [checkDecodable, if_neg hformat] at h
      cases h
      exact ⟨rfl, hformat⟩

/-- An image that is decoded has the dimensions that were asked for, neither of them zero. -/
theorem hasSize_of_decode {width height : Nat} {format : TexelFormat} {size : TexelSize}
    {texel : Nat → Nat → UInt16} {image : Image}
    (h : decode width height format size texel = .ok (some image)) :
    image.HasSize width height := by
  obtain ⟨⟨hwidth, hheight⟩, -, rfl⟩ := decode_eq_some_iff.mp h
  exact ⟨rfl, rfl, hwidth, hheight, size_bytes_tabulate _ _ _⟩

end Image

theorem TextureMemory.hasSize_of_decode {memory : TextureMemory} {tile : Tile} {image : Image}
    (h : memory.decode tile = .ok (some image)) :
    image.HasSize tile.rect.width tile.loadedHeight :=
  Image.hasSize_of_decode h

end DisplayProcessor
