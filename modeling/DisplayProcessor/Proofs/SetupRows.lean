import DisplayProcessor.Assembly
import DisplayProcessor.Proofs.OperandRanges

/-!
# The rows of two words

A row of two words that is put together from operands is decoded to these operands, as long as each
fits into its field: no operand reaches the field of another.

- `SetupOperand`: the operands of a command of two words, as they are packed, with the command that
  they make up, their ranges and their row.
- `Row.field_first`, `Row.field_second`: the fields of the two words.
- `TileAxis.ofField_eq`: the four operands of an axis.
- `PropertiesOperand.ofWords_row`, `ImageOperand.ofWords_row`, …: the values read from the words.
- `Command.decode_setup_row`: the main result.
-/

namespace DisplayProcessor

/-! ## Operands -/

/-- The format that a code of three bits names. The codes above 4 mean intensity. -/
def TexelFormat.named (code : Nat) : TexelFormat :=
  [TexelFormat.rgba, .yuv, .colorIndex, .intensityAlpha].getD code .intensity

/-- The size that a code of two bits names. -/
def TexelSize.named (code : Nat) : TexelSize :=
  [TexelSize.bits4, .bits8, .bits16].getD code .bits32

theorem TexelFormat.ofCode_eq_named : ∀ code < 8, ofCode code = named code := by
  decide

theorem TexelSize.ofCode_eq_named : ∀ code < 4, ofCode code = named code := by
  decide

/-- Shift and mask are fields of four bits. -/
structure TileAxis.InRange (axis : TileAxis) : Prop where
  shift_lt : axis.shift < 2 ^ 4
  mask_lt : axis.mask < 2 ^ 4

/-- The axis with no larger mask than is meaningful. -/
def TileAxis.cutMask (axis : TileAxis) : TileAxis :=
  { axis with mask := min axis.mask maxMask }

/-- The properties of a tile as they are packed. -/
structure PropertiesOperand where
  format : Nat
  size : Nat
  offset : Nat
  stride : Nat
  palette : Nat
  s : TileAxis
  t : TileAxis
deriving DecidableEq

namespace PropertiesOperand

/-- Offset and stride are in bytes and count whole quad-words. -/
structure InRange (p : PropertiesOperand) : Prop where
  format_lt : p.format < 8
  size_lt : p.size < 4
  offset_lt : p.offset < 4096
  offset_dvd : 8 ∣ p.offset
  stride_lt : p.stride < 4096
  stride_dvd : 8 ∣ p.stride
  palette_lt : p.palette < 2 ^ 4
  s : p.s.InRange
  t : p.t.InRange

/-- The values of the properties. -/
def value (p : PropertiesOperand) : TileProperties where
  format := .named p.format
  size := .named p.size
  offset := p.offset
  stride := p.stride
  palette := p.palette
  s := p.s.cutMask
  t := p.t.cutMask

/-- The row that gives a tile these properties. -/
def row (tile : Nat) (p : PropertiesOperand) : Row :=
  .setTile tile p.format p.size p.offset p.stride p.palette p.s p.t

end PropertiesOperand

/-- An image as it is packed. -/
structure ImageOperand where
  format : Nat
  size : Nat
  width : Nat
  address : Nat
deriving DecidableEq

namespace ImageOperand

/-- The width is stored less one, and the address in 26 bits. -/
structure InRange (image : ImageOperand) : Prop where
  format_lt : image.format < 8
  size_lt : image.size < 4
  width_pos : 0 < image.width
  width_le : image.width ≤ 1024
  address_lt : image.address < 2 ^ 26

/-- The values of the image. -/
def value (image : ImageOperand) : ImageDescriptor where
  format := .named image.format
  size := .named image.size
  width := image.width
  address := .ofNat image.address

/-- The row with an opcode and this image. -/
def row (code : Nat) (image : ImageOperand) : Row :=
  .setImage code image.format image.size image.width image.address

end ImageOperand

/-- Coordinates are fields of twelve bits. -/
structure Corners.InRange (corners : Corners) : Prop where
  x1_lt : corners.x1.quarters < 2 ^ 12
  y1_lt : corners.y1.quarters < 2 ^ 12
  x2_lt : corners.x2.quarters < 2 ^ 12
  y2_lt : corners.y2.quarters < 2 ^ 12

structure Scissor.InRange (scissor : Scissor) : Prop where
  xh_lt : scissor.xh.quarters < 2 ^ 12
  yh_lt : scissor.yh.quarters < 2 ^ 12
  xl_lt : scissor.xl.quarters < 2 ^ 12
  yl_lt : scissor.yl.quarters < 2 ^ 12

/-- The operands of a command of two words. -/
inductive SetupOperand where
  | tileProperties (tile : Nat) (properties : PropertiesOperand)
  | tileSize (tile : Nat) (rect : TileRect)
  | tileLoad (tile : Nat) (rect : TileRect)
  | blockLoad (tile slo tlo shi dt : Nat)
  | textureImage (image : ImageOperand)
  | colorImage (image : ImageOperand)
  | depthImage (address : Nat)
  | rectangle (corners : Corners)
  | clip (scissor : Scissor)
  | fillColor (color : Word)
  | fogColor (color : Word)
  | blendColor (color : Word)
  | environmentColor (color : Word)
  | primitiveColor (color : PrimitiveColor)
deriving DecidableEq

namespace SetupOperand

/-- Every operand fits into its field. -/
def InRange : SetupOperand → Prop
  | .tileProperties tile properties => tile < 8 ∧ properties.InRange
  | .tileSize tile rect => tile < 8 ∧ rect.InRange
  | .tileLoad tile rect => tile < 8 ∧ rect.InRange
  | .blockLoad tile slo tlo shi dt =>
    tile < 8 ∧ slo < 4096 ∧ tlo < 4096 ∧ shi < 4096 ∧ dt < 4096
  | .textureImage image => image.InRange
  | .colorImage image => image.InRange
  | .depthImage address => address < 2 ^ 26
  | .rectangle corners => corners.InRange
  | .clip scissor => scissor.InRange
  | .fillColor _ | .fogColor _ | .blendColor _ | .environmentColor _ => True
  | .primitiveColor color => color.minLevel < 2 ^ 5 ∧ color.levelFraction < 2 ^ 8

/-- The row in which each operand is at its position. -/
def row : SetupOperand → Row
  | .tileProperties tile properties => properties.row tile
  | .tileSize tile rect => .setTileSize tile rect
  | .tileLoad tile rect => .loadTile tile rect
  | .blockLoad tile slo tlo shi dt => .loadBlock tile slo tlo shi dt
  | .textureImage image => image.row 0x3D
  | .colorImage image => image.row 0x3F
  | .depthImage address => .setZImage address
  | .rectangle corners => .fillRectangle corners
  | .clip scissor => .setScissor scissor
  | .fillColor color => .setFillColor color
  | .fogColor color => .setFogColor color
  | .blendColor color => .setBlendColor color
  | .environmentColor color => .setEnvColor color
  | .primitiveColor color => .setPrimColor color

/-- The command with these operands. -/
def command : SetupOperand → Command
  | .tileProperties tile properties => .setTile tile properties.value
  | .tileSize tile rect => .setTileSize tile rect
  | .tileLoad tile rect => .loadTile tile rect
  | .blockLoad tile slo tlo shi dt => .loadBlock tile slo tlo shi dt
  | .textureImage image => .setTextureImage image.value
  | .colorImage image => .setColorImage image.value
  | .depthImage address => .setZImage (.ofNat address)
  | .rectangle corners => .fillRectangle corners
  | .clip scissor => .setScissor scissor
  | .fillColor color => .setFillColor color
  | .fogColor color => .setFogColor color
  | .blendColor color => .setBlendColor color
  | .environmentColor color => .setEnvColor color
  | .primitiveColor color => .setPrimColor color

end SetupOperand

/-! ## Fields -/

namespace Row

variable {code operands second lo len : Nat}

/-- Below the opcode, the first word has the operands that it was given. -/
theorem field_first (hc : code < 64) (ho : operands < 2 ^ 24) (hle : lo + len ≤ 24) :
    ((ofWords code operands second).word 0).field lo len = operands / 2 ^ lo % 2 ^ len := by
  have hwhole : ((ofWords code operands second).word 0).field 0 24 = operands := by
    have hfield := Word.field_ofNat (by omega : code * 2 ^ 24 + operands < 2 ^ 32) 0 24
    exact hfield.trans (by omega)
  rw [← Nat.zero_add lo, Word.field_of_field _ 0 hle, hwhole, Nat.zero_add]

/-- A field of the second word is read from the sum that the row was written with. -/
theorem field_second (hs : second < 2 ^ 32) :
    ((ofWords code operands second).word 1).field lo len = second / 2 ^ lo % 2 ^ len :=
  Word.field_ofNat hs lo len

end Row

/-! ## Operands in several fields -/

theorem QuarterPixel.ofField_eq {w : Word} {lo : Nat} {q : QuarterPixel}
    (h : w.field lo 12 = q.quarters) : ofField w lo = q := by
  rw [ofField, h]

/-- The four operands in the bits of an axis do not overlap. -/
theorem TileAxis.ofField_eq {w : Word} {lo : Nat} {axis : TileAxis} (haxis : axis.InRange)
    (h : w.field lo 10 = axis.toField) : ofField w lo = axis.cutMask := by
  have hshift := haxis.shift_lt
  have hmask := haxis.mask_lt
  have hmirror := axis.mirror.toNat_lt
  have hclamp := axis.clamp.toNat_lt
  unfold toField at h
  -- Each operand is the remainder of a quotient of the ten bits.
  have hshift_field : w.field lo 4 = axis.shift := by
    have hfield := w.field_of_field lo (by decide : 0 + 4 ≤ 10)
    rw [Nat.add_zero, h] at hfield
    omega
  have hmask_field : w.field (lo + 4) 4 = axis.mask := by
    rw [w.field_of_field lo (by decide : 4 + 4 ≤ 10), h]
    omega
  have hmirror_flag : w.flag (lo + 8) = axis.mirror := by
    apply Word.flag_of_field
    rw [w.field_of_field lo (by decide : 8 + 1 ≤ 10), h]
    omega
  have hclamp_flag : w.flag (lo + 9) = axis.clamp := by
    apply Word.flag_of_field
    rw [w.field_of_field lo (by decide : 9 + 1 ≤ 10), h]
    omega
  rw [ofField, cutMask, hshift_field, hmask_field, hmirror_flag, hclamp_flag]

/-! ## Commands by family -/

section Rectangles

variable {code tile : Nat} {rect : TileRect}

namespace TileRect.InRange

/-- The two start coordinates leave the opcode alone. -/
theorem first_lt (h : rect.InRange) :
    rect.slo * 2 ^ 14 + rect.tlo * 2 ^ 2 < 2 ^ 24 := by
  have hslo := h.slo_le
  have htlo := h.tlo_le
  omega

/-- The end coordinates and the tile fit the second word. -/
theorem second_lt (h : rect.InRange) (htile : tile < 8) :
    tile * 2 ^ 24 + rect.shi * 2 ^ 14 + rect.thi * 2 ^ 2 < 2 ^ 32 := by
  have hshi := h.shi_le
  have hthi := h.thi_le
  omega

/-- A rectangle is read from the fields that it was put into. -/
theorem ofWords_setRect (h : rect.InRange) (hc : code < 64) (htile : tile < 8) :
    TileRect.ofWords ((Row.setRect code tile rect).word 0) ((Row.setRect code tile rect).word 1) =
      rect := by
  have hfirst := h.first_lt
  have hsecond := h.second_lt htile
  obtain ⟨hslo, hshi, htlo, hthi⟩ := h
  ext1
  · exact (Row.field_first hc hfirst (by decide)).trans (by omega)
  · exact (Row.field_second hsecond).trans (by omega)
  · exact (Row.field_first hc hfirst (by decide)).trans (by omega)
  · exact (Row.field_second hsecond).trans (by omega)

theorem tileField_setRect (h : rect.InRange) (htile : tile < 8) :
    Command.tileField ((Row.setRect code tile rect).word 1) = tile := by
  have hsecond := h.second_lt htile
  obtain ⟨-, hshi, -, hthi⟩ := h
  exact (Row.field_second hsecond).trans (by omega)

end TileRect.InRange

end Rectangles

section Properties

variable {tile : Nat} {p : PropertiesOperand}

theorem TileAxis.InRange.toField_lt {axis : TileAxis} (h : axis.InRange) :
    axis.toField < 2 ^ 10 := by
  have hshift := h.shift_lt
  have hmask := h.mask_lt
  have hmirror := axis.mirror.toNat_lt
  have hclamp := axis.clamp.toNat_lt
  unfold toField
  omega

namespace PropertiesOperand

theorem InRange.first_lt (h : p.InRange) :
    p.format * 2 ^ 21 + p.size * 2 ^ 19 + p.stride / 8 * 2 ^ 9 + p.offset / 8 < 2 ^ 24 := by
  obtain ⟨hformat, hsize, hoffset, -, hstride, -, -, -, -⟩ := h
  omega

theorem InRange.second_lt (h : p.InRange) (htile : tile < 8) :
    tile * 2 ^ 24 + p.palette * 2 ^ 20 + p.t.toField * 2 ^ 10 + p.s.toField < 2 ^ 32 := by
  have hpalette := h.palette_lt
  have hs := h.s.toField_lt
  have ht := h.t.toField_lt
  omega

/-- The properties of a tile are read from the fields that they were put into. -/
theorem ofWords_row (h : p.InRange) (htile : tile < 8) :
    TileProperties.ofWords ((p.row tile).word 0) ((p.row tile).word 1) = p.value := by
  have hcode : 0x35 < 64 := by decide
  have hfirst := h.first_lt
  have hsecond := h.second_lt htile
  have hs := h.s.toField_lt
  have ht := h.t.toField_lt
  obtain ⟨hformat, hsize, hoffset, hoffset_dvd, hstride, hstride_dvd, hpalette, hs_range, ht_range⟩ :=
    h
  -- Each field is read from the sum of the shifted operands, so by division and remainder.
  have hformat_field : ((p.row tile).word 0).field 21 3 = p.format :=
    (Row.field_first hcode hfirst (by decide)).trans (by omega)
  have hsize_field : ((p.row tile).word 0).field 19 2 = p.size :=
    (Row.field_first hcode hfirst (by decide)).trans (by omega)
  have hoffset_field : ((p.row tile).word 0).field 0 9 = p.offset / 8 :=
    (Row.field_first hcode hfirst (by decide)).trans (by omega)
  have hstride_field : ((p.row tile).word 0).field 9 9 = p.stride / 8 :=
    (Row.field_first hcode hfirst (by decide)).trans (by omega)
  have hpalette_field : ((p.row tile).word 1).field 20 4 = p.palette :=
    (Row.field_second hsecond).trans (by omega)
  have hs_field : ((p.row tile).word 1).field 0 10 = p.s.toField :=
    (Row.field_second hsecond).trans (by omega)
  have ht_field : ((p.row tile).word 1).field 10 10 = p.t.toField :=
    (Row.field_second hsecond).trans (by omega)
  -- Offset and stride are multiples of eight bytes, so they come back from their units.
  rw [TileProperties.ofWords, value, hformat_field, hsize_field, hoffset_field, hstride_field,
    hpalette_field, TileAxis.ofField_eq hs_range hs_field, TileAxis.ofField_eq ht_range ht_field,
    TexelFormat.ofCode_eq_named _ hformat, TexelSize.ofCode_eq_named _ hsize,
    Nat.div_mul_cancel hoffset_dvd, Nat.div_mul_cancel hstride_dvd]

theorem tileField_row (h : p.InRange) (htile : tile < 8) :
    Command.tileField ((p.row tile).word 1) = tile := by
  have hsecond := h.second_lt htile
  have hpalette := h.palette_lt
  have hs := h.s.toField_lt
  have ht := h.t.toField_lt
  exact (Row.field_second hsecond).trans (by omega)

end PropertiesOperand

end Properties

namespace ImageOperand

variable {code : Nat} {image : ImageOperand}

theorem InRange.first_lt (h : image.InRange) :
    image.format * 2 ^ 21 + image.size * 2 ^ 19 + (image.width - 1) < 2 ^ 24 := by
  obtain ⟨hformat, hsize, -, hwidth, -⟩ := h
  omega

/-- An image is read from the fields that it was put into. -/
theorem ofWords_row (hc : code < 64) (h : image.InRange) :
    ImageDescriptor.ofWords ((image.row code).word 0) ((image.row code).word 1) = image.value := by
  have hfirst := h.first_lt
  obtain ⟨hformat, hsize, hwidth_pos, hwidth, haddress⟩ := h
  have hformat_field : ((image.row code).word 0).field 21 3 = image.format :=
    (Row.field_first hc hfirst (by decide)).trans (by omega)
  have hsize_field : ((image.row code).word 0).field 19 2 = image.size :=
    (Row.field_first hc hfirst (by decide)).trans (by omega)
  have hwidth_field : ((image.row code).word 0).field 0 10 + 1 = image.width := by
    have hfield : ((image.row code).word 0).field 0 10 = image.width - 1 :=
      (Row.field_first hc hfirst (by decide)).trans (by omega)
    rw [hfield, Nat.sub_add_cancel hwidth_pos]
  have haddress_field : ((image.row code).word 1).field 0 26 = image.address :=
    (Row.field_second (by omega)).trans (by omega)
  rw [ImageDescriptor.ofWords, value, ImageDescriptor.addressField, hformat_field, hsize_field,
    hwidth_field, haddress_field, TexelFormat.ofCode_eq_named _ hformat,
    TexelSize.ofCode_eq_named _ hsize]

end ImageOperand

theorem Corners.InRange.first_lt {corners : Corners} (h : corners.InRange) :
    corners.x2.quarters * 2 ^ 12 + corners.y2.quarters < 2 ^ 24 := by
  have hx2 := h.x2_lt
  have hy2 := h.y2_lt
  omega

theorem Corners.InRange.second_lt {corners : Corners} (h : corners.InRange) :
    corners.x1.quarters * 2 ^ 12 + corners.y1.quarters < 2 ^ 32 := by
  have hx1 := h.x1_lt
  have hy1 := h.y1_lt
  omega

/-- Each corner is read from the word that it was put into. -/
theorem Corners.ofWords_fillRectangle {corners : Corners} (h : corners.InRange) :
    ofWords ((Row.fillRectangle corners).word 0) ((Row.fillRectangle corners).word 1) = corners := by
  have hfirst := h.first_lt
  have hsecond := h.second_lt
  have hcode : 0x36 < 64 := by decide
  obtain ⟨hx1, hy1, hx2, hy2⟩ := h
  ext1
  · exact QuarterPixel.ofField_eq ((Row.field_second hsecond).trans (by omega))
  · exact QuarterPixel.ofField_eq ((Row.field_second hsecond).trans (by omega))
  · exact QuarterPixel.ofField_eq ((Row.field_first hcode hfirst (by decide)).trans (by omega))
  · exact QuarterPixel.ofField_eq ((Row.field_first hcode hfirst (by decide)).trans (by omega))

theorem Scissor.InRange.first_lt {scissor : Scissor} (h : scissor.InRange) :
    scissor.xh.quarters * 2 ^ 12 + scissor.yh.quarters < 2 ^ 24 := by
  have hxh := h.xh_lt
  have hyh := h.yh_lt
  omega

theorem Scissor.InRange.second_lt {scissor : Scissor} (h : scissor.InRange) :
    scissor.field.toNat * 2 ^ 25 + scissor.odd.toNat * 2 ^ 24 + scissor.xl.quarters * 2 ^ 12
      + scissor.yl.quarters < 2 ^ 32 := by
  have hfield := scissor.field.toNat_lt
  have hodd := scissor.odd.toNat_lt
  have hxl := h.xl_lt
  have hyl := h.yl_lt
  omega

/-- Each corner of a scissor is read from the word that it was put into, here the upper left one from
the first. -/
theorem Scissor.ofWords_setScissor {scissor : Scissor} (h : scissor.InRange) :
    ofWords ((Row.setScissor scissor).word 0) ((Row.setScissor scissor).word 1) = scissor := by
  have hfirst := h.first_lt
  have hsecond := h.second_lt
  have hcode : 0x2D < 64 := by decide
  have hfield := scissor.field.toNat_lt
  have hodd := scissor.odd.toNat_lt
  obtain ⟨hxh, hyh, hxl, hyl⟩ := h
  ext1
  · exact QuarterPixel.ofField_eq ((Row.field_first hcode hfirst (by decide)).trans (by omega))
  · exact QuarterPixel.ofField_eq ((Row.field_first hcode hfirst (by decide)).trans (by omega))
  · exact QuarterPixel.ofField_eq ((Row.field_second hsecond).trans (by omega))
  · exact QuarterPixel.ofField_eq ((Row.field_second hsecond).trans (by omega))
  · exact Word.flag_of_field ((Row.field_second hsecond).trans (by omega))
  · exact Word.flag_of_field ((Row.field_second hsecond).trans (by omega))

/-- The levels of detail are read from the fields that they were put into. -/
theorem PrimitiveColor.ofWords_setPrimColor {color : PrimitiveColor}
    (hlevel : color.minLevel < 2 ^ 5) (hfraction : color.levelFraction < 2 ^ 8) :
    ofWords ((Row.setPrimColor color).word 0) ((Row.setPrimColor color).word 1) = color := by
  have hcode : 0x3A < 64 := by decide
  have hfirst : color.minLevel * 2 ^ 8 + color.levelFraction < 2 ^ 24 := by omega
  ext1
  · exact UInt32.ofNat_toNat
  · exact (Row.field_first hcode hfirst (by decide)).trans (by omega)
  · exact (Row.field_first hcode hfirst (by decide)).trans (by omega)

theorem Row.word_setColor (code : Nat) (color : Word) : (Row.setColor code color).word 1 = color :=
  UInt32.ofNat_toNat

/-! ## Commands -/

namespace Command

/-- A tile description is read as it was written, with its masks capped at ten bits. -/
theorem decode_tileProperties {tile : Nat} {p : PropertiesOperand} (htile : tile < 8)
    (h : p.InRange) : decode (p.row tile) = .setTile tile p.value := by
  have hopcode := Row.decode_ofWords (by decide : 0x35 < 64) h.first_lt
  refine (hopcode _).trans ?_
  exact congr (congrArg setTile (p.tileField_row h htile)) (p.ofWords_row h htile)

theorem decode_setTileSize {tile : Nat} {rect : TileRect} (htile : tile < 8) (h : rect.InRange) :
    decode (.setTileSize tile rect) = .setTileSize tile rect := by
  have hcode : 0x32 < 64 := by decide
  refine (Row.decode_ofWords hcode h.first_lt _).trans ?_
  exact congr (congrArg setTileSize (h.tileField_setRect htile)) (h.ofWords_setRect hcode htile)

theorem decode_loadTile {tile : Nat} {rect : TileRect} (htile : tile < 8) (h : rect.InRange) :
    decode (.loadTile tile rect) = .loadTile tile rect := by
  have hcode : 0x34 < 64 := by decide
  refine (Row.decode_ofWords hcode h.first_lt _).trans ?_
  exact congr (congrArg loadTile (h.tileField_setRect htile)) (h.ofWords_setRect hcode htile)

/-- A block load is read as it was written: five fields, none of which reaches into another. -/
theorem decode_loadBlock {tile slo tlo shi dt : Nat} (htile : tile < 8) (hslo : slo < 4096)
    (htlo : tlo < 4096) (hshi : shi < 4096) (hdt : dt < 4096) :
    decode (.loadBlock tile slo tlo shi dt) = .loadBlock tile slo tlo shi dt := by
  have hcode : 0x33 < 64 := by decide
  obtain ⟨hfirst, hsecond⟩ : slo * 2 ^ 12 + tlo < 2 ^ 24 ∧
      tile * 2 ^ 24 + shi * 2 ^ 12 + dt < 2 ^ 32 := by
    constructor <;> omega
  refine (Row.decode_ofWords hcode hfirst _).trans ?_
  show Command.loadBlock _ _ _ _ _ = _
  rw [Command.loadBlock.injEq]
  refine ⟨?_, ?_, ?_, ?_, ?_⟩
  · exact (Row.field_second hsecond).trans (by omega)
  · exact (Row.field_first hcode hfirst (by decide)).trans (by omega)
  · exact (Row.field_first hcode hfirst (by decide)).trans (by omega)
  · exact (Row.field_second hsecond).trans (by omega)
  · exact (Row.field_second hsecond).trans (by omega)

theorem decode_setZImage {address : Nat} (h : address < 2 ^ 26) :
    decode (.setZImage address) = .setZImage (.ofNat address) := by
  have haddress : ((Row.setZImage address).word 1).field 0 26 = address :=
    (Row.field_second (by omega)).trans (by omega)
  refine (Row.decode_ofWords (by decide) (by decide) _).trans ?_
  exact congrArg (fun n => setZImage (.ofNat n)) haddress

/-- **A row of two words is decoded to the operands that it packs.** Each operand of its command, if
it fits into its field, is got back: tiles, rectangles, coordinates, levels, colours and addresses as
they are, formats and sizes by their codes, and masks up to the largest meaningful one. -/
theorem decode_setup_row {o : SetupOperand} (h : o.InRange) : decode o.row = o.command := by
  have hzero : 0 < 2 ^ 24 := by decide
  cases o with
  | tileProperties tile properties => exact decode_tileProperties h.1 h.2
  | tileSize tile rect => exact decode_setTileSize h.1 h.2
  | tileLoad tile rect => exact decode_loadTile h.1 h.2
  | blockLoad tile slo tlo shi dt =>
    obtain ⟨htile, hslo, htlo, hshi, hdt⟩ := h
    exact decode_loadBlock htile hslo htlo hshi hdt
  | textureImage image =>
    have hcode : 0x3D < 64 := by decide
    refine (Row.decode_ofWords hcode h.first_lt _).trans ?_
    exact congrArg setTextureImage (image.ofWords_row hcode h)
  | colorImage image =>
    have hcode : 0x3F < 64 := by decide
    refine (Row.decode_ofWords hcode h.first_lt _).trans ?_
    exact congrArg setColorImage (image.ofWords_row hcode h)
  | depthImage address => exact decode_setZImage h
  | rectangle corners =>
    refine (Row.decode_ofWords (by decide) h.first_lt _).trans ?_
    exact congrArg fillRectangle (Corners.ofWords_fillRectangle h)
  | clip scissor =>
    refine (Row.decode_ofWords (by decide) h.first_lt _).trans ?_
    exact congrArg setScissor (Scissor.ofWords_setScissor h)
  | fillColor color =>
    refine (Row.decode_ofWords (by decide) hzero _).trans ?_
    exact congrArg setFillColor (Row.word_setColor 0x37 color)
  | fogColor color =>
    refine (Row.decode_ofWords (by decide) hzero _).trans ?_
    exact congrArg setFogColor (Row.word_setColor 0x38 color)
  | blendColor color =>
    refine (Row.decode_ofWords (by decide) hzero _).trans ?_
    exact congrArg setBlendColor (Row.word_setColor 0x39 color)
  | environmentColor color =>
    refine (Row.decode_ofWords (by decide) hzero _).trans ?_
    exact congrArg setEnvColor (Row.word_setColor 0x3B color)
  | primitiveColor color =>
    obtain ⟨hlevel, hfraction⟩ := h
    refine (Row.decode_ofWords (by decide) (by omega) _).trans ?_
    exact congrArg setPrimColor (PrimitiveColor.ofWords_setPrimColor hlevel hfraction)

/-- Properties with every field at work: a format code without a format of its own, and a mask that is
cut off. -/
theorem decode_setup_row_masked :
    let p : PropertiesOperand := ⟨6, 2, 4088, 8, 15, ⟨true, false, 15, 3⟩, ⟨false, true, 9, 12⟩⟩
    SetupOperand.InRange (.tileProperties 7 p) ∧
    decode (SetupOperand.row (.tileProperties 7 p)) =
      .setTile 7 ⟨.intensity, .bits16, 4088, 8, 15, ⟨true, false, 10, 3⟩, ⟨false, true, 9, 12⟩⟩ := by
  intro p
  have hs : p.s.InRange := by constructor <;> decide
  have ht : p.t.InRange := by constructor <;> decide
  have hrange : SetupOperand.InRange (.tileProperties 7 p) := by
    refine ⟨by decide, ?_⟩
    constructor
    case s => exact hs
    case t => exact ht
    all_goals decide
  exact ⟨hrange, decode_setup_row hrange⟩

end Command

end DisplayProcessor
