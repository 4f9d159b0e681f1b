import DisplayProcessor.Proofs.CheckedArithmetic

/-!
# Checked reads and loads of texels

Images are decoded and blocks are loaded with checked arithmetic. Each texel of an image is found
by its row and its column, and bytes of texture memory are read and written one by one, at places
below 4096 and with records below 512.

- `Image.checkedDecode`: an image from its texels; `TextureMemory.checkedDecode` and
  `ExternalMemory.checkedDecode` for the two memories.
- `TextureMemory.checkedSourceByteAt`: a byte that was loaded.
- `TextureMemory.checkedStoreQuad`, `TextureMemory.checkedLoad`: a block load.
- `BlockLoad.InRange`: the ranges of its operands; `TextureMemory.checkedLoad_eq`.
-/

namespace DisplayProcessor

/-! ## Images -/

namespace Image

/-- The image of rows of texels. -/
def ofRows {width height : Nat} (rows : Vector (Vector UInt16 width) height) : Image :=
  .ofTexels width height fun x y => (rows[y]?.bind fun row => row[x]?).getD 0

/-- The image of the given dimensions, with checks: each row is found first, and then each texel of
it. -/
def checkedDecode {β : Type} (width height : Nat) (format : TexelFormat) (size : TexelSize)
    (row : Nat → Option β) (texel : β → Nat → Option UInt16) :
    Option (Except TextureError (Option Image)) :=
  if width = 0 ∨ height = 0 then some (.ok none)
  else
    match checkDecodable format size with
    | .error e => some (.error e)
    | .ok () => do
      -- The room for the pixels is computed before any of them.
      let _ ← Checked.mul (← Checked.mul width height) 4
      let rows ← Vector.ofFnM fun y : Fin height => do
        let start ← row y
        Vector.ofFnM fun x : Fin width => texel start x
      return .ok (some (ofRows rows))

/-- An image that is put together from its rows is that of its texels. -/
theorem ofRows_ofFn (width height : Nat) (texel : Nat → Nat → UInt16) :
    ofRows (Vector.ofFn fun y : Fin height => Vector.ofFn fun x : Fin width => texel x y) =
      ofTexels width height texel := by
  refine ofTexels_congr fun x y hx hy => ?_
  simp [hx, hy]

/-- An image of at most 1024 by 1024 texels is decoded, if its texels can be read. -/
theorem checkedDecode_eq {β : Type} {width height : Nat} (hwidth : width ≤ 1024)
    (hheight : height ≤ 1024) (format : TexelFormat) (size : TexelSize) {row : Nat → Option β}
    (start : Nat → β) {texel : β → Nat → Option UInt16} {value : Nat → Nat → UInt16}
    (hrow : ∀ y < height, row y = some (start y))
    (htexel : ∀ x < width, ∀ y < height, texel (start y) x = some (value x y)) :
    checkedDecode width height format size row texel =
      some (Image.decode width height format size value) := by
  unfold checkedDecode Image.decode
  by_cases hempty : width = 0 ∨ height = 0
  · rw [if_pos hempty, if_pos hempty]
    rfl
  · rw [if_neg hempty, if_neg hempty]
    rcases checkDecodable format size with e | ⟨⟩
    · rfl
    · -- Four bytes for each of so many pixels stay below the word size.
      have harea : width * height ≤ 1024 * 1024 := Nat.mul_le_mul hwidth hheight
      have hrows (y : Fin height) : (do
          let start ← row y
          Vector.ofFnM fun x : Fin width => texel start x) =
          some (Vector.ofFn fun x : Fin width => value x y) := by
        rw [hrow y y.isLt, Option.bind_eq_bind, Option.bind_some]
        exact Checked.ofFnM_eq_some fun x => htexel x x.isLt y y.isLt
      dsimp only
      have hsize : width * height * 4 < 2 ^ 32 := by omega
      rw [Checked.ofFnM_eq_some hrows, Checked.mul_of_lt (by omega)]
      simp only [Checked.mul_of_lt hsize, Option.bind_eq_bind, Option.bind_some, ofRows_ofFn]
      rfl

end Image

/-! ## Reads of texture memory -/

namespace TextureMemory

/-- The quad-word of an address, with the bounds check of its record. -/
theorem index_quadIndex (address : Nat) :
    Checked.index 512 (address % 4096 / 8) = some (quadIndex address) := by
  rw [Checked.index_of_lt (by omega)]
  exact congrArg some (Fin.ext (show address % 4096 / 8 = address / 8 % 512 by omega))

theorem val_quadIndex (address : Nat) : (quadIndex address : Nat) = address % 4096 / 8 :=
  show address / 8 % 512 = address % 4096 / 8 by omega

/-- The byte that was loaded to an address, with checks: the record of its quad-word is read first,
and then the byte where it lies. -/
def checkedSourceByteAt (memory : TextureMemory) (address : Nat) : Option UInt8 := do
  let address := address % 4096
  let quad ← Checked.index 512 (address / 8)
  let place ← Checked.index 4096
    (address / 8 * 8 ||| (address % 8 ^^^ memory.quads[quad].swizzle.mask))
  return memory.byteAt place

/-- A byte that was loaded can be read back at every address. -/
theorem checkedSourceByteAt_eq (memory : TextureMemory) (address : Nat) :
    memory.checkedSourceByteAt address = some (memory.sourceByteAt address) := by
  let quad := quadIndex address
  let lane := memory.quads[quad].swizzle.lane (.ofNat 8 address)
  have hlane : address % 4096 % 8 ^^^ (memory.quads[quad].swizzle.mask : Nat) = lane := by
    rw [Nat.mod_mod_of_dvd address (by decide)]
    exact (Swizzle.val_lane _ (.ofNat 8 address)).symm
  -- The bits of the quad-word lie above those of the lane.
  have hplace : address % 4096 / 8 * 8 ||| (lane : Nat) = quad * 8 + lane := by
    rw [← val_quadIndex, Nat.mul_comm]
    exact (Nat.two_pow_add_eq_or_of_lt (i := 3) lane.isLt quad).symm
  unfold checkedSourceByteAt
  dsimp only
  rw [index_quadIndex, Option.bind_eq_bind, Option.bind_some, hlane, hplace,
    Checked.index_of_lt (by omega), Option.bind_eq_bind, Option.bind_some]
  exact congrArg some (memory.byteAt_add quad lane)

/-- The sixteen-bit texel that was loaded to an address, with checks. -/
def checkedTexel16At (memory : TextureMemory) (address : Nat) : Option UInt16 := do
  let upper ← memory.checkedSourceByteAt address
  let lower ← memory.checkedSourceByteAt (Checked.wrappingAdd address 1)
  return upper.toUInt16 <<< 8 ||| lower.toUInt16

/-- A texel can be read at every address. -/
theorem checkedTexel16At_eq (memory : TextureMemory) (address : Nat) :
    memory.checkedTexel16At address = some (memory.texel16At address) := by
  have hwrap : memory.sourceByteAt (Checked.wrappingAdd address 1) =
      memory.sourceByteAt (address + 1) := by
    have hmod : Checked.wrappingAdd address 1 = (address + 1) % 2 ^ 32 := rfl
    have hquad : quadIndex (Checked.wrappingAdd address 1) = quadIndex (address + 1) :=
      Fin.ext (by rw [val_quadIndex, val_quadIndex, hmod, Nat.mod_mod_of_dvd _ (by decide)])
    have hbyte : Fin.ofNat 8 (Checked.wrappingAdd address 1) = Fin.ofNat 8 (address + 1) :=
      Fin.ext (Nat.mod_mod_of_dvd _ (by decide))
    simp only [sourceByteAt, hquad, hbyte]
  rw [checkedTexel16At, checkedSourceByteAt_eq, checkedSourceByteAt_eq, hwrap]
  rfl

/-- The image that a tile describes, with checks. -/
def checkedDecode (memory : TextureMemory) (tile : Tile) :
    Option (Except TextureError (Option Image)) := do
  let properties := tile.properties
  let width ← Checked.span tile.rect.slo tile.rect.shi
  let height ← Checked.span tile.rect.tlo tile.rect.thi
  Image.checkedDecode width (min height tile.validHeight) properties.format properties.size
    (fun y => do Checked.add properties.offset (← Checked.mul y properties.stride))
    (fun start x => do memory.checkedTexel16At (← Checked.add start (← Checked.mul x 2)))

end TextureMemory

/-- A slot in range is decoded from texture memory without a failure. -/
theorem Tile.InRange.checkedDecode_eq {tile : Tile} (h : tile.InRange) (memory : TextureMemory) :
    memory.checkedDecode tile = some (memory.decode tile) := by
  have hheight : min tile.rect.height tile.validHeight ≤ 1024 :=
    Nat.le_trans (Nat.min_le_left _ _) h.rect.height_le
  have hrow {y : Nat} (hy : y < min tile.rect.height tile.validHeight) :
      y * tile.properties.stride ≤ 1024 * 4088 :=
    Nat.mul_le_mul (Nat.le_trans (Nat.le_of_lt hy) hheight) h.properties.stride_le
  have hoffset := h.properties.offset_le
  unfold TextureMemory.checkedDecode
  dsimp only
  rw [h.rect.span_width, h.rect.span_height, Option.bind_eq_bind, Option.bind_some,
    Option.bind_eq_bind, Option.bind_some]
  -- A row starts at most 1024 strides from the offset, and a texel is two bytes on.
  refine Image.checkedDecode_eq h.rect.width_le hheight _ _
    (fun y => tile.properties.offset + y * tile.properties.stride) ?_ ?_
  · intro y hy
    have hstride := hrow hy
    rw [Checked.mul_of_lt (by omega)]
    exact Checked.add_of_lt (by omega)
  · intro x hx y hy
    have hstride := hrow hy
    have hwidth := h.rect.width_le
    have hcolumn : Checked.mul x 2 = some (2 * x) := by
      rw [Checked.mul_of_lt (by omega), Nat.mul_comm]
    simp only [hcolumn, Option.bind_eq_bind, Option.bind_some]
    rw [Checked.add_of_lt (by omega)]
    exact memory.checkedTexel16At_eq _

/-- Out of range a check can fail: this tile has `2 ^ 32` texels. -/
example : (TextureMemory.powerOn.checkedDecode {
    properties := { (default : TileProperties) with format := .rgba, size := .bits16 }
    rect := ⟨0, 2 ^ 16 - 1, 0, 2 ^ 16 - 1⟩
    texture := none
    validHeight := 2 ^ 16 }).isNone := by
  decide +kernel

/-! ## Reads of external memory -/

/-- The image of texels from an address on, with checks. Addresses wrap around, and what is added to
them does not. -/
def ExternalMemory.checkedDecode (memory : ExternalMemory) (address : UInt32)
    (stride width height : Nat) (format : TexelFormat) (size : TexelSize) :
    Option (Except TextureError (Option Image)) :=
  Image.checkedDecode width height format size
    (fun y => do return address + .ofNat (← Checked.mul (← Checked.mul y stride) 2))
    (fun start x => do return memory.read16 (start + .ofNat (← Checked.mul x 2)))

/-- An image is decoded from external memory without a failure. -/
theorem ExternalMemory.checkedDecode_eq (memory : ExternalMemory) (address : UInt32)
    {stride width height : Nat} (hstride : stride ≤ 1024) (hwidth : width ≤ 1024)
    (hheight : height ≤ 1024) (format : TexelFormat) (size : TexelSize) :
    memory.checkedDecode address stride width height format size =
      some (memory.decode address stride width height format size) := by
  refine Image.checkedDecode_eq hwidth hheight format size
    (fun y => address + .ofNat (y * stride * 2)) ?_ ?_
  · intro y hy
    have hrow : y * stride ≤ 1024 * 1024 := Nat.mul_le_mul (by omega) hstride
    rw [Checked.mul_of_lt (by omega)]
    simp only [Option.bind_eq_bind, Option.bind_some]
    rw [Checked.mul_of_lt (by omega)]
    rfl
  · intro x hx y hy
    rw [Checked.mul_of_lt (by omega)]
    rfl

/-! ## Block loads -/

namespace BlockLoad

/-- The address of the first texel in external memory, with checks. -/
def checkedSource (load : BlockLoad) : Option UInt32 := do
  let texel := Checked.texelIndex load.imageWidth load.tlo load.slo
  return load.address + .ofNat (← Checked.shiftLeft texel load.size.addressShift)

/-- The number of quad-words in a line, with checks; none are needed for a linear load. -/
def checkedLineLength (load : BlockLoad) : Option Nat :=
  if load.dt = 0 then some 0 else do return max (← Checked.div 2048 load.dt) 1

/-- The permutation of quad-word `i`, with checks. -/
def checkedSwizzle (load : BlockLoad) (lineLength i : Nat) : Option Swizzle :=
  if load.dt = 0 then some .linear
  else do return if (← Checked.div i lineLength) % 2 = 1 then .oddLine else .evenLine

/-- The ranges of the operands of a block load. -/
structure InRange (load : BlockLoad) : Prop where
  imageWidth_le : load.imageWidth ≤ 1024
  slo_le : load.slo ≤ 4095
  tlo_le : load.tlo ≤ 4095
  shi_le : load.shi ≤ 4095

namespace InRange

variable {load : BlockLoad}

/-- The source address of a block load wraps around as the exact sum does. -/
theorem checkedSource_eq (h : load.InRange) : load.checkedSource = some load.source := by
  have hrow : load.imageWidth * load.tlo ≤ 1024 * 4095 :=
    Nat.mul_le_mul h.imageWidth_le h.tlo_le
  have hslo := h.slo_le
  have hshift : 2 ^ load.size.addressShift ≤ 4 := by
    cases load.size <;> decide
  have hbytes : (load.imageWidth * load.tlo + load.slo) * 2 ^ load.size.addressShift ≤
      (1024 * 4095 + 4095) * 4 := Nat.mul_le_mul (by omega) hshift
  unfold checkedSource
  dsimp only
  rw [Checked.texelIndex_of_lt (by omega), Checked.shiftLeft_of_lt (by omega)]
  rfl

/-- A block load in range has at most 4096 texels. -/
theorem texelCount_le (h : load.InRange) : load.texelCount ≤ 4096 :=
  Nat.le_trans (Nat.sub_le _ _) (Nat.succ_le_succ h.shi_le)

theorem byteCount_le (h : load.InRange) : load.byteCount ≤ 4096 * 4 :=
  Nat.mul_le_mul h.texelCount_le (by cases load.size <;> decide)

end InRange

/-- Lines have at least one quad-word, so the division by their length has a result. -/
theorem checkedSwizzle_eq (load : BlockLoad) {lineLength : Nat}
    (h : load.checkedLineLength = some lineLength) (i : Nat) :
    load.checkedSwizzle lineLength i = some (load.swizzle i) := by
  unfold checkedSwizzle swizzle
  by_cases hdt : load.dt = 0
  · rw [if_pos hdt, if_pos hdt]
  · -- A line is never empty, so the division by its length is defined.
    have hlength : load.lineLength = lineLength := by
      rw [checkedLineLength, if_neg hdt, Checked.div_of_pos (Nat.pos_of_ne_zero hdt)] at h
      exact (Nat.max_comm _ _).trans (Option.some.inj h)
    have hpos : 0 < lineLength := by
      rw [← hlength]
      exact Nat.lt_of_lt_of_le Nat.zero_lt_one (Nat.le_max_left _ _)
    rw [if_neg hdt, if_neg hdt, Checked.div_of_pos hpos, hlength]
    simp only [Option.bind_eq_bind, Option.bind_some, Option.pure_def]
    by_cases hodd : i / lineLength % 2 = 1
    · rw [if_pos hodd, if_neg (by omega)]
    · rw [if_neg hodd, if_pos (by omega)]

end BlockLoad

namespace TextureMemory

/-- The quad-words with another byte at a place. -/
def setByteAt (quads : Vector QuadWord 512) (place : Fin 4096) (byte : UInt8) :
    Vector QuadWord 512 :=
  let quad := quads[quadIndex place]
  quads.set (quadIndex place)
    { quad with lanes := quad.lanes.set (place % 8) byte }

/-- The quad-words after byte `j` of quad-word `i` of the source was written through a permutation,
with checks. -/
def checkedStoreByte {n : Nat} (source : Vector UInt8 n) (i base : Nat) (swizzle : Swizzle)
    (quads : Vector QuadWord 512) (j : Fin 8) : Option (Vector QuadWord 512) := do
  let byte ← Checked.index n (i * 8 + j)
  let lane ← Checked.add (base / 8 * 8) ((j : Nat) ^^^ (swizzle.mask : Nat))
  let place ← Checked.index 4096 (lane % 4096)
  return setByteAt quads place source[byte]

/-- The quad-words after quad-word `i` of a block load was written, with checks: first its record
and then each of its bytes. -/
def checkedStoreQuad (load : BlockLoad) (lineLength : Nat) {n : Nat} (source : Vector UInt8 n)
    (quads : Vector QuadWord 512) (i : Nat) : Option (Vector QuadWord 512) := do
  let swizzle ← load.checkedSwizzle lineLength i
  let base := Checked.wrappingAdd load.offset (i * 8) % 4096
  let quad ← Checked.index 512 (base / 8)
  (List.finRange 8).foldlM (checkedStoreByte source i base swizzle)
    (quads.set quad { quads[quad] with swizzle := swizzle })

/-- Carry out a block load, with checks. -/
def checkedLoad (memory : TextureMemory) (external : ExternalMemory) (load : BlockLoad)
    (limit : Nat) : Option (Option TextureMemory) := do
  let texels ← Checked.span load.slo load.shi
  if texels = 0 ∨ limit < texels then return none
  else
    let bytes ← Checked.mul texels load.size.bytesPerTexel
    let address ← load.checkedSource
    let length ← Checked.add bytes 7
    let lineLength ← load.checkedLineLength
    let quads ← (List.range (length / 8)).foldlM
      (checkedStoreQuad load lineLength (external.bytesAt address length)) memory.quads
    return some ⟨quads, min maxTexelsLoaded (memory.texelsLoaded + texels)⟩

/-- Bytes that are written to lanes one after the other: a lane holds the byte for it, if that was
among them. -/
theorem getElem_foldl_setLane (swizzle : Swizzle) (source : Fin 8 → UInt8) (bytes : List (Fin 8))
    (lanes : Vector UInt8 8) (k : Fin 8) :
    (bytes.foldl (fun lanes j => lanes.set (swizzle.lane j) (source j)) lanes)[k] =
      if swizzle.lane k ∈ bytes then source (swizzle.lane k) else lanes[k] := by
  induction bytes generalizing lanes with
  | nil => rfl
  | cons j rest ih =>
    refine (ih _).trans ?_
    by_cases hrest : swizzle.lane k ∈ rest
    · rw [if_pos hrest, if_pos (List.mem_cons_of_mem j hrest)]
    · rw [if_neg hrest]
      by_cases hj : swizzle.lane k = j
      · -- No later byte goes to this lane, so it holds the first one.
        subst hj
        rw [if_pos List.mem_cons_self]
        simp only [Swizzle.lane_lane, Fin.getElem_fin, Vector.getElem_set_self]
      · -- The first byte goes to another lane, as a permutation is its own inverse.
        have hk : swizzle.lane j ≠ k := fun heq => hj (by rw [← heq, Swizzle.lane_lane])
        have hmem : swizzle.lane k ∉ j :: rest := fun hmem =>
          (List.mem_cons.mp hmem).elim hj hrest
        rw [if_neg hmem]
        exact Vector.getElem_set_ne _ k.isLt (fun heq => hk (Fin.ext heq))

/-- Eight bytes that are written one after the other make the stored quad-word. -/
theorem foldl_setLane (swizzle : Swizzle) (source : Fin 8 → UInt8) (lanes : Vector UInt8 8) :
    (List.finRange 8).foldl (fun lanes j => lanes.set (swizzle.lane j) (source j)) lanes =
      (QuadWord.store swizzle source).lanes := by
  ext k hk : 1
  have hlane := getElem_foldl_setLane swizzle source (List.finRange 8) lanes ⟨k, hk⟩
  rw [if_pos (List.mem_finRange _)] at hlane
  simpa [QuadWord.store] using hlane

/-- Bytes that are written to one quad-word leave the others alone. -/
theorem foldl_setByteAt (quads : Vector QuadWord 512) (quad : Fin 512) (lane : Fin 8 → Fin 8)
    (source : Fin 8 → UInt8) (bytes : List (Fin 8)) :
    bytes.foldl (fun quads j => quads.set quad
        { quads[quad] with lanes := quads[quad].lanes.set (lane j) (source j) }) quads =
      quads.set quad { quads[quad] with
        lanes := bytes.foldl (fun lanes j => lanes.set (lane j) (source j)) quads[quad].lanes } := by
  induction bytes generalizing quads with
  | nil => exact (Vector.set_getElem_self quad.isLt).symm
  | cons j rest ih =>
    refine (ih _).trans ?_
    simp

/-- A byte that is written to a place goes to its lane of the quad-word. -/
theorem setByteAt_add (quads : Vector QuadWord 512) (quad : Fin 512) (lane : Fin 8)
    (h : (quad * 8 + lane : Nat) < 4096) (byte : UInt8) :
    setByteAt quads ⟨quad * 8 + lane, h⟩ byte =
      quads.set quad { quads[quad] with lanes := quads[quad].lanes.set lane byte } := by
  have hlane : (quad * 8 + lane : Nat) % 8 = lane := congrArg Fin.val (ofNat_add quad lane)
  simp only [setByteAt, quadIndex_add, hlane]

/-- One byte of a quad-word is stored in its lane. -/
theorem checkedStoreByte_eq {n : Nat} (source : Vector UInt8 n) {i base : Nat} {quad : Fin 512}
    (hi : i * 8 + 8 ≤ n) (hbase : base / 8 = quad) (swizzle : Swizzle)
    (quads : Vector QuadWord 512) (j : Fin 8) :
    checkedStoreByte source i base swizzle quads j =
      some (quads.set quad { quads[quad] with
        lanes := quads[quad].lanes.set (swizzle.lane j) (source[8 * i + (j : Nat)]?.getD 0) }) := by
  have hplace : (quad * 8 + swizzle.lane j : Nat) < 4096 := by omega
  have hindex : i * 8 + (j : Nat) < n := by omega
  have hbyte : source[i * 8 + (j : Nat)] = source[8 * i + (j : Nat)]?.getD 0 := by
    simp [Nat.mul_comm 8 i, hindex]
  unfold checkedStoreByte
  rw [hbase, ← Swizzle.val_lane, Checked.index_of_lt hindex, Checked.add_of_lt (by omega)]
  simp only [Option.bind_eq_bind, Option.bind_some, Nat.mod_eq_of_lt hplace,
    Checked.index_of_lt hplace, Fin.getElem_fin, hbyte, setByteAt_add]
  rfl

/-- A quad-word is stored as a whole, byte by byte. -/
theorem checkedStoreQuad_eq {load : BlockLoad} {lineLength : Nat}
    (hlength : load.checkedLineLength = some lineLength) {n : Nat} (source : Vector UInt8 n)
    (quads : Vector QuadWord 512) {i : Nat} (hi : i * 8 + 8 ≤ n) :
    checkedStoreQuad load lineLength source quads i =
      some (quads.set (quadIndex (load.offset + 8 * i))
        (.store (load.swizzle i) fun j => source[8 * i + (j : Nat)]?.getD 0)) := by
  have hbase : Checked.wrappingAdd load.offset (i * 8) % 4096 = (load.offset + 8 * i) % 4096 := by
    rw [Checked.wrappingAdd, Nat.mul_comm i 8]
    exact Nat.mod_mod_of_dvd _ (by decide)
  unfold checkedStoreQuad
  rw [BlockLoad.checkedSwizzle_eq load hlength i]
  simp only [Option.bind_eq_bind, Option.bind_some, hbase, index_quadIndex]
  have hstep := checkedStoreByte_eq source hi (val_quadIndex (load.offset + 8 * i)).symm
    (load.swizzle i)
  -- The eight steps never fail, so that the loop is a fold over the bytes.
  refine (Checked.foldlM_eq_some (fun quads j _ => hstep quads j) _).trans ?_
  rw [foldl_setByteAt, foldl_setLane]
  simp [QuadWord.store]

/-- The checks of a block load whose operands are in range all hold. -/
theorem checkedLoad_eq (memory : TextureMemory) (external : ExternalMemory) {load : BlockLoad}
    (h : load.InRange) (limit : Nat) :
    memory.checkedLoad external load limit = some (memory.load? external load limit) := by
  have htexels : Checked.span load.slo load.shi = some load.texelCount :=
    Checked.span_of_lt (Nat.lt_of_le_of_lt (Nat.succ_le_succ h.shi_le) (by decide))
  have hbytes := h.byteCount_le
  -- A linear load has no lines, and those of a tiled one have a length.
  have hlines : ∃ lineLength, load.checkedLineLength = some lineLength := by
    unfold BlockLoad.checkedLineLength
    by_cases hdt : load.dt = 0
    · exact ⟨0, if_pos hdt⟩
    · rw [if_neg hdt, Checked.div_of_pos (Nat.pos_of_ne_zero hdt)]
      exact ⟨_, rfl⟩
  obtain ⟨lineLength, hlength⟩ := hlines
  unfold checkedLoad load?
  rw [htexels]
  simp only [Option.bind_eq_bind, Option.bind_some]
  by_cases hdrop : load.texelCount = 0 ∨ limit < load.texelCount
  · rw [if_pos hdrop, if_pos hdrop]
    rfl
  · rw [if_neg hdrop, if_neg hdrop]
    have hmul : Checked.mul load.texelCount load.size.bytesPerTexel = some load.byteCount :=
      Checked.mul_of_lt (Nat.lt_of_le_of_lt hbytes (by decide))
    have hadd : Checked.add load.byteCount 7 = some (load.byteCount + 7) :=
      Checked.add_of_lt (by omega)
    simp only [hmul, hadd, hlength, h.checkedSource_eq, Option.bind_some]
    rw [Checked.foldlM_eq_some fun quads i hi => checkedStoreQuad_eq hlength _ quads ?_]
    · rfl
    · -- Every quad-word of the load lies in the bytes that were read.
      have hlt := List.mem_range.mp hi
      omega

end TextureMemory

end DisplayProcessor
