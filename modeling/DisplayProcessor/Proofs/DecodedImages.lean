import DisplayProcessor.Proofs.PoolAllocation

/-!
# What decoders answer

Both decoders answer the same way: nothing for an empty rectangle, whatever its format, an error for
texels that are not decoded, and otherwise the one image that has the pixel of each texel at its
place.

- `Image.Shows`: the image of given texels, by its pixels; there is only one (`Image.Shows.unique`).
- `Image.Decodes`: an answer of a decoder; `Image.decodes_decode`.
- `decodes_textureMemory_externalMemory`: the main result.
-/

namespace DisplayProcessor

namespace Image

/-! ## Images by their pixels -/

/-- The image has the pixel of each texel at its place, nothing outside, and no further bytes. -/
structure Shows (image : Image) (width height : Nat) (texel : Nat → Nat → UInt16) : Prop where
  width_eq : image.width = width
  height_eq : image.height = height
  size_bytes : image.bytes.size = 4 * width * height
  pixel {x y : Nat} (hx : x < width) (hy : y < height) :
    image.pixel? x y = some (.ofTexel16 (texel x y))
  outside {x y : Nat} (h : width ≤ x ∨ height ≤ y) : image.pixel? x y = none

/-- The image of some texels shows them. -/
theorem shows_ofTexels (width height : Nat) (texel : Nat → Nat → UInt16) :
    (ofTexels width height texel).Shows width height texel where
  width_eq := rfl
  height_eq := rfl
  size_bytes := by
    have hsize : width * height * 4 = 4 * width * height := by
      rw [Nat.mul_comm, Nat.mul_assoc]
    exact (size_bytes_tabulate width height _).trans hsize
  pixel hx hy := pixel?_tabulate _ hx hy
  outside h := pixel?_eq_none h

/-- The bytes of a pixel are its channels. -/
theorem getElem?_of_pixel? {image : Image} {x y k : Nat} {p : Rgba}
    (h : image.pixel? x y = some p) (hk : k < 4) :
    image.bytes.data[(y * image.width + x) * 4 + k]? = some (p.channel k) := by
  unfold pixel? at h
  split at h
  · simp only [Option.bind_eq_bind, Option.bind_eq_some_iff, Option.pure_def,
      Option.some.injEq] at h
    obtain ⟨r, hr, g, hg, b, hb, a, ha, rfl⟩ := h
    match k, hk with
    | 0, _ => exact hr
    | 1, _ => exact hg
    | 2, _ => exact hb
    | 3, _ => exact ha
  · cases h

namespace Shows

variable {image image' : Image} {width height : Nat} {texel : Nat → Nat → UInt16}

/-- Every byte of the image is a channel of one of its pixels. -/
theorem written (h : image.Shows width height texel) :
    Written image.bytes width (fun x y => .ofTexel16 (texel x y)) (height * width) where
  size_eq := by
    rw [h.size_bytes, Nat.mul_assoc, Nat.mul_comm, Nat.mul_comm width]
  channel {i k} hi hk := by
    have hwidth : 0 < width := Nat.pos_of_mul_pos_left (Nat.zero_lt_of_lt hi)
    have hrow : i / width < height := Nat.div_lt_of_lt_mul (by rwa [Nat.mul_comm])
    have hbyte := getElem?_of_pixel? (h.pixel (Nat.mod_lt i hwidth) hrow) hk
    rwa [h.width_eq, Nat.div_add_mod'] at hbyte

/-- The pixels leave no choice. -/
theorem unique (h : image.Shows width height texel) (h' : image'.Shows width height texel) :
    image = image' := by
  have hbytes : image.bytes = image'.bytes := h.written.eq_of_pixels h'.written fun _ _ => rfl
  obtain ⟨w, n, bytes⟩ := image
  obtain ⟨w', n', bytes'⟩ := image'
  obtain rfl : w = w' := h.width_eq.trans h'.width_eq.symm
  obtain rfl : n = n' := h.height_eq.trans h'.height_eq.symm
  exact congrArg (Image.mk w n) hbytes

end Shows

/-! ## Answers -/

/-- Only 16-bit colour texels are decoded. -/
theorem checkDecodable_eq_ok_iff {format : TexelFormat} {size : TexelSize} :
    checkDecodable format size = .ok () ↔ format = .rgba ∧ size = .bits16 := by
  unfold checkDecodable
  by_cases hformat : format = .rgba ∧ size = .bits16
  · rw [if_pos hformat]
    exact iff_of_true rfl hformat
  · rw [if_neg hformat]
    exact iff_of_false (fun h => by cases h) hformat

/-- An answer of a decoder for given dimensions, format and texels. The dimensions come first: the
format does not matter for an empty image. -/
structure Decodes (answer : Except TextureError (Option Image)) (width height : Nat)
    (format : TexelFormat) (size : TexelSize) (texel : Nat → Nat → UInt16) : Prop where
  none_iff : answer = .ok none ↔ width = 0 ∨ height = 0
  error_iff (e : TextureError) : answer = .error e ↔
    (0 < width ∧ 0 < height) ∧ ¬ (format = .rgba ∧ size = .bits16) ∧
      e = .unsupportedFormat format size
  some_iff (image : Image) : answer = .ok (some image) ↔
    (0 < width ∧ 0 < height) ∧ (format = .rgba ∧ size = .bits16) ∧ image.Shows width height texel

/-- The bytes that are written row by row are those of the image that shows the texels. -/
theorem decodes_decode (width height : Nat) (format : TexelFormat) (size : TexelSize)
    (texel : Nat → Nat → UInt16) :
    Decodes (decode width height format size texel) width height format size texel where
  none_iff := decode_eq_none_iff
  error_iff e := by
    constructor
    · intro h
      obtain ⟨he, hformat⟩ := unsupported_of_decode h
      have hempty : ¬ (width = 0 ∨ height = 0) := by
        intro hempty
        rw [decode_eq_none_iff.mpr hempty] at h
        cases h
      exact ⟨by omega, hformat, he⟩
    · rintro ⟨⟨hwidth, hheight⟩, hformat, rfl⟩
      rw [decode, if_neg (by omega), checkDecodable, if_neg hformat]
      rfl
  some_iff image := by
    rw [decode_eq_some_iff, checkDecodable_eq_ok_iff]
    refine and_congr_right fun _ => and_congr_right fun _ => ?_
    constructor
    · -- An image that shows the texels is the one that is built, since there is only one.
      rintro rfl
      exact shows_ofTexels width height texel
    · intro h
      exact h.unique (shows_ofTexels width height texel)

end Image

/-- **Both decoders answer with exactly the image that is described.** From texture memory it is as
wide as the rectangle of the tile and has as many of its rows as are loaded; row `y` starts `y` times
the stride behind the offset of the tile, and texels have two bytes each. From external memory, the
texel in column `x` of row `y` is the big-endian number in the two bytes that are `y` rows and `x`
texels behind the address, which wraps around. -/
theorem decodes_textureMemory_externalMemory :
    (∀ (memory : TextureMemory) (tile : Tile),
      Image.Decodes (memory.decode tile) tile.rect.width (min tile.rect.height tile.validHeight)
        tile.properties.format tile.properties.size fun x y =>
          memory.texel16At (tile.properties.offset + y * tile.properties.stride + 2 * x)) ∧
    (∀ (m : ExternalMemory) (address : UInt32) (stride width height : Nat) (format : TexelFormat)
        (size : TexelSize),
      Image.Decodes (m.decode address stride width height format size) width height format size
        fun x y =>
          let first := address + .ofNat (2 * (y * stride + x))
          .ofNat (256 * (m.byteAt first).toNat + (m.byteAt (first + 1)).toNat)) := by
  constructor
  · intro memory tile
    exact Image.decodes_decode _ _ _ _ _
  · intro m address stride width height format size
    -- The row addresses of the decoder add up to those of the statement.
    simp only [ExternalMemory.decode_eq, ExternalMemory.read16_eq]
    exact Image.decodes_decode _ _ _ _ _

end DisplayProcessor
