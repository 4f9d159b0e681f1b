import DisplayProcessor.Texel

/-!
# Images

A decoded texture is a row-major image with four bytes per pixel. An image that a consumer builds
may hold any number of bytes; the ones that the processor builds have as many as their dimensions
ask for.

- `Image`: dimensions and bytes.
- `Image.tabulate`: the image with a given pixel at each place, written row by row.
- `Image.Written`: the first pixels are written; kept by `Image.pushPixel` and `Image.pushRow`.
- `Image.ofTexels`: the image of sixteen-bit texels.
- `Image.pixel?`: the pixel at a place.
-/

namespace DisplayProcessor

/-- A row-major image: red, green, blue and alpha bytes of each pixel, without padding. -/
structure Image where
  width : Nat
  height : Nat
  bytes : ByteArray
deriving DecidableEq, Inhabited

namespace Image

/-- The number of bytes that the dimensions ask for. -/
def expectedBytes (image : Image) : Nat :=
  image.width * image.height * 4

/-- The bytes of an image with those of one more pixel at the end. -/
def pushPixel (bytes : ByteArray) (p : Rgba) : ByteArray :=
  (((bytes.push p.r).push p.g).push p.b).push p.a

/-- The bytes of an image with those of one more row of pixels at the end. -/
def pushRow (bytes : ByteArray) (width : Nat) (pixel : Nat → Rgba) : ByteArray :=
  (List.range width).foldl (fun bytes x => pushPixel bytes (pixel x)) bytes

/-- The image whose pixel in column `x` of row `y` is `pixel x y`, written row by row. -/
def tabulate (width height : Nat) (pixel : Nat → Nat → Rgba) : Image where
  width := width
  height := height
  bytes := (List.range height).foldl (fun bytes y => pushRow bytes width fun x => pixel x y) .empty

/-- The image of the sixteen-bit texels at each column and row. -/
def ofTexels (width height : Nat) (texel : Nat → Nat → UInt16) : Image :=
  tabulate width height fun x y => .ofTexel16 (texel x y)

/-- The pixel in column `x` of row `y`, if it lies in the image and all its bytes are there. -/
def pixel? (image : Image) (x y : Nat) : Option Rgba :=
  if x < image.width ∧ y < image.height then do
    let i := (y * image.width + x) * 4
    let r ← image.bytes.data[i]?
    let g ← image.bytes.data[i + 1]?
    let b ← image.bytes.data[i + 2]?
    let a ← image.bytes.data[i + 3]?
    return ⟨r, g, b, a⟩
  else none

@[simp] theorem width_tabulate (w h : Nat) (f : Nat → Nat → Rgba) :
    (tabulate w h f).width = w := rfl

@[simp] theorem height_tabulate (w h : Nat) (f : Nat → Nat → Rgba) :
    (tabulate w h f).height = h := rfl

/-! ## Writing pixels -/

theorem size_pushPixel (bytes : ByteArray) (p : Rgba) :
    (pushPixel bytes p).size = bytes.size + 4 := by
  simp only [pushPixel, ByteArray.size_push]

/-- The bytes that were there stay. -/
theorem getElem?_pushPixel_of_lt {bytes : ByteArray} {i : Nat} (h : i < bytes.size) (p : Rgba) :
    (pushPixel bytes p).data[i]? = bytes.data[i]? := by
  have hsize : bytes.size = bytes.data.size := rfl
  simp only [pushPixel, ByteArray.data_push, Array.getElem?_push, Array.size_push]
  rw [if_neg (by omega), if_neg (by omega), if_neg (by omega), if_neg (by omega)]

/-- The new bytes are the channels of the pixel. -/
theorem getElem?_pushPixel_add (bytes : ByteArray) (p : Rgba) {k : Nat} (hk : k < 4) :
    (pushPixel bytes p).data[bytes.size + k]? = some (p.channel k) := by
  have hsize : bytes.size = bytes.data.size := rfl
  simp only [hsize, pushPixel, ByteArray.data_push, Array.getElem?_push, Array.size_push]
  match k, hk with
  | 0, _ | 1, _ | 2, _ | 3, _ => simp [Rgba.channel, Nat.add_assoc]

/-- The number of a pixel gives its row and its column. -/
theorem row_column {x y width : Nat} (hx : x < width) :
    (y * width + x) / width = y ∧ (y * width + x) % width = x :=
  (Nat.div_mod_unique (Nat.zero_lt_of_lt hx)).mpr ⟨by rw [Nat.mul_comm, Nat.add_comm], hx⟩

/-- The first `n` pixels of the image are written, row by row: four bytes each. -/
structure Written (bytes : ByteArray) (width : Nat) (pixel : Nat → Nat → Rgba) (n : Nat) : Prop where
  size_eq : bytes.size = n * 4
  channel {i k : Nat} (hi : i < n) (hk : k < 4) :
    bytes.data[i * 4 + k]? = some ((pixel (i % width) (i / width)).channel k)

namespace Written

variable {bytes : ByteArray} {width : Nat} {pixel : Nat → Nat → Rgba}

theorem empty : Written .empty width pixel 0 where
  size_eq := rfl
  channel hi := absurd hi (Nat.not_lt_zero _)

/-- The next pixel is the one in column `x` of row `y`, if as many pixels are written as there are
before it. -/
theorem pushPixel {x y : Nat} (h : Written bytes width pixel (y * width + x)) (hx : x < width) :
    Written (Image.pushPixel bytes (pixel x y)) width pixel (y * width + x + 1) where
  size_eq := by
    rw [size_pushPixel, h.size_eq]
    omega
  channel {i k} hi hk := by
    rcases Nat.lt_or_eq_of_le (Nat.le_of_lt_succ hi) with hbefore | rfl
    · rw [getElem?_pushPixel_of_lt (by rw [h.size_eq]; omega)]
      exact h.channel hbefore hk
    · obtain ⟨hrow, hcolumn⟩ := row_column hx (y := y)
      rw [← h.size_eq, getElem?_pushPixel_add bytes _ hk, hcolumn, hrow]

/-- A row is written pixel by pixel. -/
theorem pushRow {y : Nat} (h : Written bytes width pixel (y * width)) :
    Written (Image.pushRow bytes width fun x => pixel x y) width pixel ((y + 1) * width) := by
  have hprefix (n : Nat) (hn : n ≤ width) :
      Written ((List.range n).foldl (fun bytes x => Image.pushPixel bytes (pixel x y)) bytes) width
        pixel (y * width + n) := by
    induction n with
    | zero => exact h
    | succ n ih =>
      rw [List.range_succ, List.foldl_append]
      exact (ih (by omega)).pushPixel (by omega)
  rw [Nat.succ_mul]
  exact hprefix width (Nat.le_refl _)

/-- An image is written row by row. -/
theorem tabulate (width height : Nat) (pixel : Nat → Nat → Rgba) :
    Written (Image.tabulate width height pixel).bytes width pixel (height * width) := by
  show Written ((List.range height).foldl _ _) width pixel (height * width)
  induction height with
  | zero =>
    rw [Nat.zero_mul]
    exact empty
  | succ n ih =>
    rw [List.range_succ, List.foldl_append]
    exact ih.pushRow

/-- What is written is determined by the pixels. -/
theorem eq_of_pixels {bytes' : ByteArray} {pixel' : Nat → Nat → Rgba} {n : Nat}
    (h : Written bytes width pixel n) (h' : Written bytes' width pixel' n)
    (heq : ∀ i < n, pixel (i % width) (i / width) = pixel' (i % width) (i / width)) :
    bytes = bytes' := by
  refine ByteArray.ext (Array.ext_getElem? fun j => ?_)
  by_cases hj : j / 4 < n
  · have hbyte := h.channel hj (Nat.mod_lt j (by decide : 0 < 4))
    have hbyte' := h'.channel hj (Nat.mod_lt j (by decide : 0 < 4))
    rw [Nat.div_add_mod' j 4] at hbyte hbyte'
    rw [hbyte, hbyte', heq _ hj]
  · have hsize : bytes.data.size = n * 4 := h.size_eq
    have hsize' : bytes'.data.size = n * 4 := h'.size_eq
    rw [Array.getElem?_eq_none (by omega), Array.getElem?_eq_none (by omega)]

end Written

/-- A tabulated image has as many bytes as its dimensions ask for. -/
theorem size_bytes_tabulate (w h : Nat) (f : Nat → Nat → Rgba) :
    (tabulate w h f).bytes.size = (tabulate w h f).expectedBytes := by
  rw [(Written.tabulate w h f).size_eq, Nat.mul_comm h w]
  rfl

/-- A tabulated image has the given pixel at each place. -/
theorem pixel?_tabulate {w h x y : Nat} (f : Nat → Nat → Rgba) (hx : x < w) (hy : y < h) :
    (tabulate w h f).pixel? x y = some (f x y) := by
  have hlt : y * w + x < h * w := by
    calc y * w + x < y * w + w := by omega
      _ = (y + 1) * w := by rw [Nat.succ_mul]
      _ ≤ h * w := Nat.mul_le_mul_right w hy
  obtain ⟨hrow, hcolumn⟩ := row_column hx (y := y)
  have hbyte (k : Nat) (hk : k < 4) :
      (tabulate w h f).bytes.data[(y * w + x) * 4 + k]? = some ((f x y).channel k) := by
    rw [(Written.tabulate w h f).channel hlt hk, hcolumn, hrow]
  have h0 := hbyte 0 (by omega)
  have h1 := hbyte 1 (by omega)
  have h2 := hbyte 2 (by omega)
  have h3 := hbyte 3 (by omega)
  simp only [Nat.add_zero] at h0
  simp [pixel?, hx, hy, h0, h1, h2, h3, Rgba.channel]

/-- Images that have the same texel at each place are the same. -/
theorem ofTexels_congr {w h : Nat} {texel texel' : Nat → Nat → UInt16}
    (heq : ∀ x y, x < w → y < h → texel x y = texel' x y) :
    ofTexels w h texel = ofTexels w h texel' := by
  have hbytes := (Written.tabulate w h fun x y => .ofTexel16 (texel x y)).eq_of_pixels
    (Written.tabulate w h fun x y => .ofTexel16 (texel' x y)) fun i hi => by
      have hwidth : 0 < w := Nat.pos_of_mul_pos_left (Nat.zero_lt_of_lt hi)
      have hrow : i / w < h := Nat.div_lt_of_lt_mul (by rwa [Nat.mul_comm])
      rw [heq _ _ (Nat.mod_lt _ hwidth) hrow]
  exact congrArg (Image.mk w h) hbytes

/-- There is no pixel outside an image. -/
theorem pixel?_eq_none {image : Image} {x y : Nat} (h : image.width ≤ x ∨ image.height ≤ y) :
    image.pixel? x y = none := by
  rw [pixel?, if_neg (by omega)]

end Image

end DisplayProcessor
