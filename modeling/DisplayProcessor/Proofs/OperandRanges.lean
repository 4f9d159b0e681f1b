import DisplayProcessor.Proofs.RowByRow
import DisplayProcessor.Proofs.CommandCases

/-!
# The ranges of operands

Operands are bit fields of command words, so they are small, and the processor keeps nothing else of
a command than its operands. What it keeps is therefore in the same ranges after every operation.

- `TileRect.InRange`, `TileProperties.InRange`, `Tile.InRange`, `TileTable.InRange`: the ranges of
  what describes a tile.
- `Command.InRange`: the ranges of the operands of a command; `Command.inRange_decode`.
- `Processor.InRange`: the ranges of all that the processor keeps; `Processor.InRange.execute` for a
  command, `Processor.InRange.after` for any operations.
-/

namespace DisplayProcessor

/-! ## Tiles -/

/-- Coordinates are fields of ten bits. -/
structure TileRect.InRange (rect : TileRect) : Prop where
  slo_le : rect.slo ≤ 1023
  shi_le : rect.shi ≤ 1023
  tlo_le : rect.tlo ≤ 1023
  thi_le : rect.thi ≤ 1023

/-- Offset and stride are fields of nine bits that count quad-words; masks are cut off. -/
structure TileProperties.InRange (properties : TileProperties) : Prop where
  offset_le : properties.offset ≤ 4088
  offset_dvd : 8 ∣ properties.offset
  stride_le : properties.stride ≤ 4088
  stride_dvd : 8 ∣ properties.stride
  s_mask_le : properties.s.mask ≤ 10
  t_mask_le : properties.t.mask ≤ 10

/-- The ranges of what describes a tile. -/
structure Tile.InRange (tile : Tile) : Prop where
  properties : tile.properties.InRange
  rect : tile.rect.InRange

/-- The axes of a rectangle are fields of ten bits. -/
theorem TileRect.inRange_ofWords (w0 w1 : Word) : (TileRect.ofWords w0 w1).InRange where
  slo_le := Nat.le_of_lt_succ (w0.field_lt 14 10)
  shi_le := Nat.le_of_lt_succ (w1.field_lt 14 10)
  tlo_le := Nat.le_of_lt_succ (w0.field_lt 2 10)
  thi_le := Nat.le_of_lt_succ (w1.field_lt 2 10)

/-- Offset and stride are fields of nine bits, in quad-words. -/
theorem TileProperties.inRange_ofWords (w0 w1 : Word) :
    (TileProperties.ofWords w0 w1).InRange where
  offset_le := Nat.mul_le_mul_right 8 (Nat.le_of_lt_succ (w0.field_lt 0 9))
  offset_dvd := Nat.dvd_mul_left 8 (w0.field 0 9)
  stride_le := Nat.mul_le_mul_right 8 (Nat.le_of_lt_succ (w0.field_lt 9 9))
  stride_dvd := Nat.dvd_mul_left 8 (w0.field 9 9)
  s_mask_le := Nat.min_le_right _ _
  t_mask_le := Nat.min_le_right _ _

theorem Tile.inRange_powerOn : Tile.powerOn.InRange := by
  refine ⟨?_, ?_⟩ <;> constructor <;> decide

namespace TileTable

/-- Every slot is in range. -/
def InRange (table : TileTable) : Prop :=
  ∀ i, (table.get i).InRange

namespace InRange

variable {table : TileTable}

theorem powerOn : TileTable.powerOn.InRange := fun i => by
  rw [get_powerOn]
  exact Tile.inRange_powerOn

/-- A table with one slot replaced by one in range. -/
theorem set (h : table.InRange) (i : TileIndex) {tile : Tile} (htile : tile.InRange) :
    (table.set i tile).InRange := fun j => by
  by_cases hj : j = i
  · rw [hj, get_set_self]
    exact htile
  · rw [get_set_of_ne _ hj]
    exact h j

theorem drop (h : table.InRange) (i : TileIndex) : (table.drop i).InRange := by
  have htile : Tile.InRange { table.get i with texture := none } :=
    ⟨(h i).properties, (h i).rect⟩
  exact h.set i htile

theorem install (h : table.InRange) (i : TileIndex) (texture : TextureRef) :
    (table.install i texture).InRange :=
  (h.drop i).set i ⟨(h.drop i i).properties, (h.drop i i).rect⟩

theorem setProperties (h : table.InRange) (i : TileIndex) {properties : TileProperties}
    (hproperties : properties.InRange) : (table.setProperties i properties).InRange :=
  (h.drop i).set i ⟨hproperties, (h.drop i i).rect⟩

theorem setRect (h : table.InRange) (i : TileIndex) {rect : TileRect} (hrect : rect.InRange)
    (texelsLoaded : Nat) : (table.setRect i rect texelsLoaded).InRange := by
  refine (h.drop i).set i ?_
  split
  · exact ⟨(h.drop i i).properties, hrect⟩
  · exact ⟨(h.drop i i).properties, hrect⟩

/-- A table of which all slots are dropped and counted anew. -/
theorem dropAll (h : table.InRange) (texelsLoaded : Nat) :
    (table.dropAll texelsLoaded).InRange := fun i => by
  rw [get_dropAll]
  exact ⟨(h i).properties, (h i).rect⟩

end InRange

end TileTable

/-! ## Commands -/

namespace Command

/-- The ranges of the operands that take part in the addressing of texels. -/
def InRange : Command → Prop
  | .setTileSize _ rect => rect.InRange
  | .loadBlock _ slo tlo shi _ => slo ≤ 4095 ∧ tlo ≤ 4095 ∧ shi ≤ 4095
  | .loadTile _ rect => rect.InRange
  | .setTile _ properties => properties.InRange
  | .setTextureImage image => image.width ≤ 1024
  | _ => True

/-- Operands are in the range of their fields, whatever the words are. -/
theorem inRange_decodeAs (opcode : Opcode) (row : Row) : (decodeAs opcode row).InRange := by
  cases opcode with
  | setTileSize => exact TileRect.inRange_ofWords _ _
  | loadBlock =>
    exact ⟨Nat.le_of_lt_succ (Word.field_lt _ 12 12), Nat.le_of_lt_succ (Word.field_lt _ 0 12),
      Nat.le_of_lt_succ (Word.field_lt _ 12 12)⟩
  | loadTile => exact TileRect.inRange_ofWords _ _
  | setTile => exact TileProperties.inRange_ofWords _ _
  | setTextureImage => exact Word.field_lt _ 0 10
  | _ => exact trivial

/-- Operands of a row are in range, whatever words it has. -/
theorem inRange_decode (row : Row) : (decode row).InRange :=
  inRange_decodeAs _ row

end Command

/-! ## Processors -/

/-- There are four permutations of the bytes of a quad-word. -/
theorem Swizzle.mask_mem (s : Swizzle) : (s.mask : Nat) ∈ [0, 1, 3, 7] := by
  cases s <;> decide

namespace Processor

variable {α : Type}

/-- The ranges of what the processor keeps for the addressing of texels. -/
structure InRange (p : Processor α) : Prop where
  tiles : p.tiles.InRange
  imageWidth_le : p.textureImage.width ≤ 1024
  swizzle_mem (k : Fin 512) : (p.textureMemory.quads[k].swizzle.mask : Nat) ∈ [0, 1, 3, 7]

namespace InRange

variable {p : Processor α}

theorem of_tiles (htiles : p.tiles.InRange) (himage : p.textureImage.width ≤ 1024) : p.InRange :=
  ⟨htiles, himage, fun k => p.textureMemory.quads[k].swizzle.mask_mem⟩

theorem powerOn (settings : Settings) (allocator : α) :
    (Processor.powerOn settings allocator).InRange :=
  of_tiles .powerOn (Nat.zero_le 1024)

theorem prepareTileLoad (h : p.InRange) (i : TileIndex) {rect : TileRect} (hrect : rect.InRange) :
    (p.prepareTileLoad i rect).InRange :=
  of_tiles ((h.tiles.drop i).set i ⟨(h.tiles.drop i i).properties, hrect⟩) h.imageWidth_le

theorem cacheTexture (h : p.InRange) (allocator : α) (i : TileIndex) (texture : TextureRef) :
    (p.cacheTexture allocator i texture).InRange :=
  of_tiles (h.tiles.install i texture) h.imageWidth_le

theorem setLoadedRows (h : p.InRange) (i : TileIndex) (rows : Nat) :
    (p.setLoadedRows i rows).InRange :=
  of_tiles (h.tiles.set i ⟨(h.tiles i).properties, (h.tiles i).rect⟩) h.imageWidth_le

variable [TextureAllocator α]

/-- The search for a texture does not change what is in range. -/
theorem resolveTexture (h : p.InRange) (i : TileIndex) : (p.resolveTexture i).2.InRange := by
  have hspec := p.resolveTexture_spec i
  generalize p.resolveTexture i = result at hspec
  cases hspec with
  | cached => exact h
  | empty => exact h
  | undecodable => exact h
  | refused => exact of_tiles h.tiles h.imageWidth_le
  | built => exact h.cacheTexture _ i _

/-- A tile load takes a rectangle in range, and leaves loaded rows that need no range. -/
theorem loadTile (h : p.InRange) (m : ExternalMemory) (tile : Nat) {rect : TileRect}
    (hrect : rect.InRange) : (p.loadTile m tile rect).2.InRange := by
  have hprepared := h.prepareTileLoad (.wrap tile) hrect
  have hspec := p.loadTile_spec m tile rect
  generalize p.loadTile m tile rect = result at hspec
  cases hspec with
  | empty => exact hprepared
  | undecodable => exact hprepared
  | refused => exact of_tiles hprepared.tiles h.imageWidth_le
  | built => exact (hprepared.cacheTexture _ _ _).setLoadedRows _ _

/-- A command with operands in range keeps all in range. -/
theorem execute (h : p.InRange) (m : ExternalMemory) {command : Command}
    (hcommand : command.InRange) : (p.execute m command).2.InRange := by
  cases command with
  | triangle t =>
    exact drawTriangle_induction h h.resolveTexture
      (fun q frame hq => of_tiles hq.tiles hq.imageWidth_le) t
  | setTileSize tile rect => exact of_tiles (h.tiles.setRect _ hcommand _) h.imageWidth_le
  | loadBlock tile slo tlo shi dt =>
    -- A dropped load changes nothing; any other one only counts rows.
    show (p.loadBlock m tile slo tlo shi dt).2.InRange
    rw [loadBlock_eq]
    split
    · exact h
    · exact of_tiles (h.tiles.dropAll _) h.imageWidth_le
  | loadTile tile rect => exact h.loadTile m tile hcommand
  | setTile tile properties => exact of_tiles (h.tiles.setProperties _ hcommand) h.imageWidth_le
  | setTextureImage image => exact of_tiles h.tiles hcommand
  | _ => exact of_tiles h.tiles h.imageWidth_le

/-- Every operation keeps the state in range. -/
theorem perform (h : p.InRange) (op : Operation) : (p.perform op).2.InRange := by
  cases op with
  | processBatch m batch =>
    exact processBatch_induction_row
      (fun q row hq => hq.execute m (Command.inRange_decode row)) h batch
  | execute m row => exact h.execute m (Command.inRange_decode row)
  | decodeTile n => exact decodeTile_induction h h.resolveTexture n
  | takeFrame => exact of_tiles h.tiles h.imageWidth_le
  | reset => exact of_tiles TileTable.InRange.powerOn (Nat.zero_le 1024)
  | release handles => exact of_tiles h.tiles h.imageWidth_le

/-- All that the processor keeps is in range, whatever was asked of it. -/
theorem after (h : p.InRange) (ops : List Operation) : (p.after ops).InRange := by
  induction ops generalizing p with
  | nil => exact h
  | cons op rest ih => exact ih (h.perform op)

end InRange

end Processor

end DisplayProcessor
