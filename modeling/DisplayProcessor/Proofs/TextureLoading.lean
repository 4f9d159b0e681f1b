import DisplayProcessor.Assembly
import DisplayProcessor.Proofs.BlockContents
import DisplayProcessor.Proofs.CommandCases
import DisplayProcessor.Proofs.Session

/-!
# Textures of loaded texels

A texture can come from external memory in two ways: a block load copies its texels into texture
memory, where the tile is decoded later, or a tile load reads them directly. Both deliver the texels
of the texture image, row by row; the swizzled copy in between does not show.

- `TileSetup`: the two rows that describe a tile of sixteen-bit colour texels.
- `Processor.execute_loadBlock`, `Processor.execute_loadTile`: loads that are accepted.
- `Processor.decodeTile_loadBlock`: what a tile is decoded to after a block load to it.
- `Processor.blockLoad_texels`: the main result on block loads.
- `Processor.tileLoad_eq_blockLoad`: both ways deliver the same image.
-/

namespace DisplayProcessor

/-! ## The description of a tile -/

/-- A row that sets the properties of a tile has them in its two words. -/
theorem Command.decode_eq_setTile {row : Row} {tile : Nat} {properties : TileProperties}
    (h : Command.decode row = .setTile tile properties) :
    tile = tileField (row.word 1) ∧ properties = .ofWords (row.word 0) (row.word 1) := by
  unfold Command.decode at h
  generalize Opcode.ofWord (row.word 0) = opcode at h
  cases opcode with
  | setTile =>
    cases h
    exact ⟨rfl, rfl⟩
  | _ => cases h

/-- Two rows that describe a tile of sixteen-bit colour texels: one sets its properties and the
other its rectangle. -/
structure TileSetup (i : Nat) where
  setTile : Row
  setTileSize : Row
  properties : TileProperties
  rect : TileRect
  decode_setTile : Command.decode setTile = .setTile i properties
  decode_setTileSize : Command.decode setTileSize = .setTileSize i rect
  format_eq : properties.format = .rgba
  size_eq : properties.size = .bits16

namespace TileSetup

variable {i : Nat}

/-- The rows as operations. -/
def operations (setup : TileSetup i) (m : ExternalMemory) : List Operation :=
  [.execute m setup.setTile, .execute m setup.setTileSize]

theorem tile_lt (setup : TileSetup i) : i < 8 := by
  obtain ⟨htile, -⟩ := Command.decode_eq_setTile setup.decode_setTile
  have hfield : Command.tileField (setup.setTile.word 1) < 8 := Word.field_lt _ 24 3
  omega

/-- A row gives the offset in quad-words. -/
theorem offset_mod (setup : TileSetup i) : setup.properties.offset % 8 = 0 := by
  obtain ⟨-, h⟩ := Command.decode_eq_setTile setup.decode_setTile
  rw [h]
  exact Nat.mul_mod_left _ 8

/-- The processor after its tile was described. -/
structure Applied (setup : TileSetup i) (p q : Processor TexturePool) : Prop where
  settings : q.settings = p.settings
  textureMemory : q.textureMemory = p.textureMemory
  textureImage : q.textureImage = p.textureImage
  properties : (q.tiles.get (.wrap i)).properties = setup.properties
  rect : (q.tiles.get (.wrap i)).rect = setup.rect

/-- After the setup the tile has its properties and its rectangle, and the rest is as it was. -/
theorem applied (setup : TileSetup i) (p : Processor TexturePool) (m : ExternalMemory) :
    setup.Applied p (p.after (setup.operations m)) := by
  have hafter : p.after (setup.operations m) =
      ((p.execute m (.setTile i setup.properties)).2.execute m (.setTileSize i setup.rect)).2 := by
    rw [← setup.decode_setTile, ← setup.decode_setTileSize]
    rfl
  rw [hafter]
  let described := p.tiles.setProperties (.wrap i) setup.properties
  have hproperties : (described.get (.wrap i)).properties = setup.properties := by
    show ((p.tiles.setProperties _ setup.properties).get _).properties = _
    rw [TileTable.get_setProperties_self]
  -- The rows may be counted anew, which leaves properties and rectangle.
  refine ⟨rfl, rfl, rfl, ?_, ?_⟩
  · show ((described.setRect _ setup.rect p.textureMemory.texelsLoaded).get _).properties = _
    rw [TileTable.get_setRect_self]
    split <;> exact hproperties
  · show ((described.setRect _ setup.rect p.textureMemory.texelsLoaded).get _).rect = _
    rw [TileTable.get_setRect_self]
    split <;> rfl

theorem Applied.offset_mod {setup : TileSetup i} {p q : Processor TexturePool}
    (hq : setup.Applied p q) : (q.tiles.get (.wrap i)).properties.offset % 8 = 0 := by
  rw [hq.properties]
  exact setup.offset_mod

/-- Four by two texels that lie at the end of texture memory and, from the fifth one on, at its
start. -/
def wrapped : TileSetup 3 where
  setTile := .setTile 3 0 2 4088 8 0 default default
  setTileSize := .setTileSize 3 ⟨0, 3, 1, 2⟩
  properties := ⟨.rgba, .bits16, 4088, 8, 0, default, default⟩
  rect := ⟨0, 3, 1, 2⟩
  decode_setTile := by decide
  decode_setTileSize := by decide
  format_eq := rfl
  size_eq := rfl

end TileSetup

/-! ## Loading and decoding -/

namespace Processor

/-- A block load that has texels, and no more than the settings allow, is accepted. -/
theorem execute_loadBlock (p : Processor TexturePool) (m : ExternalMemory) (tile tlo dt : Nat)
    {slo shi : Nat} (hcount : slo ≤ shi)
    (hlimit : shi - slo + 1 ≤ p.settings.maxBlockTexels.toNat) :
    ∃ memory,
      p.textureMemory.load? m (p.blockLoad tile slo tlo shi dt) p.settings.maxBlockTexels.toNat =
        some memory ∧
      p.execute m (.loadBlock tile slo tlo shi dt) =
        (.ok .applied,
          { p with textureMemory := memory, tiles := p.tiles.dropAll memory.texelsLoaded }) := by
  have htexels : (p.blockLoad tile slo tlo shi dt).texelCount = shi + 1 - slo := rfl
  have haccepted : 0 < (p.blockLoad tile slo tlo shi dt).texelCount ∧
      (p.blockLoad tile slo tlo shi dt).texelCount ≤ p.settings.maxBlockTexels.toNat := by
    rw [htexels]
    omega
  obtain ⟨memory, hload⟩ : ∃ memory, p.textureMemory.load? m (p.blockLoad tile slo tlo shi dt)
      p.settings.maxBlockTexels.toNat = some memory :=
    ⟨_, TextureMemory.load?_eq_some_iff.mpr ⟨haccepted, rfl⟩⟩
  exact ⟨memory, hload, execute_loadBlock_of_some hload⟩

/-- The texels of a block load of sixteen-bit texels are those of the texture image from its first
texel on. -/
theorem texel16At_blockLoad {p : Processor TexturePool} {m : ExternalMemory} (hm : m.Bytewise)
    {memory : TextureMemory} {tile slo tlo shi dt limit : Nat}
    (hload : p.textureMemory.load? m (p.blockLoad tile slo tlo shi dt) limit = some memory)
    (hsize : p.textureImage.size = .bits16)
    (haligned : (p.tiles.get (.wrap tile)).properties.offset % 8 = 0) (hcount : slo ≤ shi)
    (hfits : 2 * (shi - slo + 1) ≤ 4096) {k : Nat} (hk : k + 2 ≤ 2 * (shi - slo + 1)) :
    memory.texel16At ((p.tiles.get (.wrap tile)).properties.offset + k) =
      m.read16 (p.textureImage.address + .ofNat (2 * (p.textureImage.width * tlo + slo)) +
        .ofNat k) := by
  have hbytes : (p.blockLoad tile slo tlo shi dt).byteCount = 2 * (shi - slo + 1) := by
    show (shi + 1 - slo) * p.textureImage.size.bytesPerTexel = _
    rw [hsize]
    show (shi + 1 - slo) * 2 = _
    omega
  have hsource : (p.blockLoad tile slo tlo shi dt).source =
      p.textureImage.address + .ofNat (2 * (p.textureImage.width * tlo + slo)) := by
    show p.textureImage.address + .ofNat ((p.textureImage.width * tlo + slo) *
      2 ^ p.textureImage.size.addressShift) = _
    rw [hsize, Nat.mul_comm 2]
    rfl
  rw [← hsource]
  exact TextureMemory.texel16At_load? hm hload haligned (by omega) (by omega)

/-- A tile that has no texture yet gets the one that texture memory has for it. -/
theorem decodeTile_of_decode {p : Processor TexturePool} {n : Nat} {image : Image} (hn : n < 8)
    (htexture : (p.tiles.get (.wrap n)).texture = none)
    (hdecode : p.textureMemory.decode (p.tiles.get (.wrap n)) = .ok (some image)) :
    (p.decodeTile n).1 = .ok (some ⟨p.allocator.fresh, image.width, image.height⟩) ∧
      (p.decodeTile n).2.allocator.get? p.allocator.fresh = some image := by
  have hindex : TileIndex.ofNat? n = some (.wrap n) := by
    unfold TileIndex.ofNat? TileIndex.wrap
    simp only [dif_pos hn, Nat.mod_eq_of_lt hn]
  have hresolve : p.resolveTexture (.wrap n) =
      (.ok (some ⟨p.allocator.fresh, image.width, image.height⟩),
        p.cacheImage (.wrap n) image) := by
    -- Nothing is cached and the tile decodes, so a texture is built.
    rcases p.resolveTexture_cases (.wrap n) with
      ⟨_, hcached, -⟩ | ⟨-, ⟨_, hother, -⟩ | ⟨hother, -⟩ | ⟨_, hother, heq⟩⟩
    · rw [htexture] at hcached
      cases hcached
    · rw [hdecode] at hother
      cases hother
    · rw [hdecode] at hother
      cases hother
    · rw [hdecode] at hother
      cases hother
      exact heq
  unfold decodeTile
  rw [hindex]
  simp only [hresolve, true_and]
  show (p.allocator.keep image).get? p.allocator.fresh = some image
  rw [TexturePool.get?_keep, if_pos rfl]

/-- After a block load every tile of sixteen-bit colour texels is decoded to what texture memory
has now, in as many rows as are loaded. -/
theorem decodeTile_dropAll (p : Processor TexturePool) (memory : TextureMemory) {n : Nat}
    (hn : n < 8) {tile : Tile} (htile : p.tiles.get (.wrap n) = tile)
    (hformat : tile.properties.format = .rgba) (hsize : tile.properties.size = .bits16)
    (hheight : 0 < min tile.rect.height (memory.texelsLoaded / tile.rect.width)) :
    let r : Processor TexturePool :=
      { p with textureMemory := memory, tiles := p.tiles.dropAll memory.texelsLoaded }
    let height := min tile.rect.height (memory.texelsLoaded / tile.rect.width)
    let texel x y :=
      memory.texel16At (tile.properties.offset + y * tile.properties.stride + 2 * x)
    (r.decodeTile n).1 = .ok (some ⟨p.allocator.fresh, tile.rect.width, height⟩) ∧
      (r.decodeTile n).2.allocator.get? p.allocator.fresh =
        some (.ofTexels tile.rect.width height texel) := by
  intro r height texel
  have hget : r.tiles.get (.wrap n) =
      { tile with texture := none }.countRows memory.texelsLoaded := by
    rw [← htile]
    exact p.tiles.get_dropAll _ _
  -- An empty rectangle has no loaded rows, so there is a width if there is a height.
  have hwidth : 0 < tile.rect.width := by
    rcases Nat.eq_zero_or_pos tile.rect.width with hzero | hpos
    · rw [hzero, Nat.div_zero, Nat.min_zero] at hheight
      exact absurd hheight (Nat.lt_irrefl 0)
    · exact hpos
  have hdecode : r.textureMemory.decode (r.tiles.get (.wrap n)) =
      .ok (some (.ofTexels tile.rect.width height texel)) := by
    rw [hget]
    refine Image.decode_eq_some_iff.mpr ⟨⟨hwidth, hheight⟩, ?_, rfl⟩
    exact if_pos ⟨hformat, hsize⟩
  refine decodeTile_of_decode hn ?_ hdecode
  rw [hget]
  rfl

/-- A block load to a tile that was described is accepted, and the tile is decoded to what the load
left in texture memory, in as many rows as are loaded. -/
theorem decodeTile_loadBlock {i : Nat} {setup : TileSetup i} {p q : Processor TexturePool}
    (hq : setup.Applied p q) (m : ExternalMemory) (tlo dt : Nat) {slo shi : Nat}
    (hcount : slo ≤ shi) (hlimit : shi - slo + 1 ≤ p.settings.maxBlockTexels.toNat) :
    let r := (q.execute m (.loadBlock i slo tlo shi dt)).2
    let height := min setup.rect.height (r.textureMemory.texelsLoaded / setup.rect.width)
    let texel x y := r.textureMemory.texel16At
      (setup.properties.offset + y * setup.properties.stride + 2 * x)
    (q.execute m (.loadBlock i slo tlo shi dt)).1 = .ok .applied ∧
    q.textureMemory.load? m (q.blockLoad i slo tlo shi dt) q.settings.maxBlockTexels.toNat =
      some r.textureMemory ∧
    (0 < height →
      (r.decodeTile i).1 = .ok (some ⟨q.allocator.fresh, setup.rect.width, height⟩) ∧
      (r.decodeTile i).2.allocator.get? q.allocator.fresh =
        some (.ofTexels setup.rect.width height texel)) := by
  intro r height texel
  rw [← hq.settings] at hlimit
  obtain ⟨memory, hmemory, hexecute⟩ := q.execute_loadBlock m i tlo dt hcount hlimit
  -- The block drops what was cached, so that decoding the tile builds from what was just loaded.
  have hr : r = { q with
      textureMemory := memory, tiles := q.tiles.dropAll memory.texelsLoaded } := by
    show (q.execute m _).2 = _
    rw [hexecute]
  have hloaded : r.textureMemory = memory := by rw [hr]
  refine ⟨by rw [hexecute], hloaded ▸ hmemory, fun hheight => ?_⟩
  have hdecoded := q.decodeTile_dropAll memory setup.tile_lt rfl
    (by rw [hq.properties, setup.format_eq]) (by rw [hq.properties, setup.size_eq])
    (by rw [hq.rect, ← hloaded]; exact hheight)
  rw [← hr, hq.properties, hq.rect, ← hloaded] at hdecoded
  exact hdecoded

/-- **A block load brings the texels of the texture image to its tile.** Whatever the processor did
before: once a texture image and a tile of sixteen-bit colour texels are described, a block load to
that tile that fits in texture memory is accepted, and the tile is decoded to an image of its width
and as many of its rows as are loaded. Every pixel whose bytes the load wrote is the texel at the
same place in external memory, for any offset, stride and line step. -/
theorem blockLoad_texels (p : Processor TexturePool) {m : ExternalMemory} (hm : m.Bytewise)
    {i width slo tlo shi dt : Nat} {address : UInt32} {image load : Row} (setup : TileSetup i)
    (himage : Command.decode image = .setTextureImage ⟨.rgba, .bits16, width, address⟩)
    (hload : Command.decode load = .loadBlock i slo tlo shi dt) (hcount : slo ≤ shi)
    (hlimit : shi - slo + 1 ≤ p.settings.maxBlockTexels.toNat)
    (hfits : 2 * (shi - slo + 1) ≤ 4096) :
    let q := p.after (.execute m image :: setup.operations m)
    let r := (q.execute m (.decode load)).2
    let source := (address &&& p.settings.addressMask) + .ofNat (2 * (width * tlo + slo))
    let height := min setup.rect.height (r.textureMemory.texelsLoaded / setup.rect.width)
    (q.execute m (.decode load)).1 = .ok .applied ∧
    (0 < height → ∃ handle picture,
      (r.decodeTile i).1 = .ok (some ⟨handle, setup.rect.width, height⟩) ∧
      (r.decodeTile i).2.allocator.get? handle = some picture ∧
      picture.width = setup.rect.width ∧ picture.height = height ∧
      ∀ x y, x < setup.rect.width → y < height →
        y * setup.properties.stride + 2 * x + 2 ≤ 2 * (shi - slo + 1) →
        picture.pixel? x y = some (.ofTexel16
          (m.read16 (source + .ofNat (y * setup.properties.stride + 2 * x))))) := by
  intro q r source height
  -- First the image is set, then the tile is set up; the block is loaded in the state they leave.
  let described := (p.execute m (.decode image)).2
  have hdescribed : described =
      { p with textureImage := ⟨.rgba, .bits16, width, address &&& p.settings.addressMask⟩ } := by
    show (p.execute m (.decode image)).2 = _
    rw [himage]
    rfl
  have hq : setup.Applied described q := setup.applied described m
  have htexture : q.textureImage =
      ⟨.rgba, .bits16, width, address &&& p.settings.addressMask⟩ := by
    rw [hq.textureImage, hdescribed]
  have hsize : q.textureImage.size = .bits16 := by rw [htexture]
  obtain ⟨haccepted, hmemory, hdecoded⟩ := decodeTile_loadBlock hq m tlo dt hcount
    (by rw [hdescribed]; exact hlimit)
  rw [← hload] at haccepted hmemory hdecoded
  refine ⟨haccepted, fun hheight => ?_⟩
  obtain ⟨hdecode, hget⟩ := hdecoded hheight
  refine ⟨_, _, hdecode, hget, rfl, rfl, fun x y hx hy hbytes => ?_⟩
  have htexel := texel16At_blockLoad hm hmemory hsize hq.offset_mod hcount hfits hbytes
  rw [htexture, ← Nat.add_assoc, hq.properties] at htexel
  rw [Image.ofTexels, Image.pixel?_tabulate _ hx hy, htexel]

/-- A tiled load of eight texels that wraps around: the tile shows the second row of the texture
image, from its third texel on. -/
theorem blockLoad_texels_wrapped :
    let p : Processor TexturePool := .powerOn .standard .empty
    let memory : ExternalMemory := .ofBytes fun address => .ofNat address.toNat
    let q := p.after (.execute memory (.setTextureImage 0 2 8 0x20) ::
      TileSetup.wrapped.operations memory)
    let r := (q.execute memory (.decode (.loadBlock 3 2 1 9 2048))).2
    memory.Bytewise ∧ ∃ handle picture,
      (r.decodeTile 3).1 = .ok (some ⟨handle, 4, 2⟩) ∧
      (r.decodeTile 3).2.allocator.get? handle = some picture ∧
      picture.pixel? 1 1 = some (.ofTexel16 0x3E3F) := by
  intro p memory q r
  have hbytewise : memory.Bytewise := ExternalMemory.ofBytes_bytewise _
  have himage : Command.decode (.setTextureImage 0 2 8 0x20) =
      .setTextureImage ⟨.rgba, .bits16, 8, 0x20⟩ := by decide
  have hload : Command.decode (.loadBlock 3 2 1 9 2048) = .loadBlock 3 2 1 9 2048 := by decide
  obtain ⟨-, htexture⟩ := p.blockLoad_texels hbytewise TileSetup.wrapped himage hload (by decide)
    (by decide) (by decide)
  have hheight : min TileSetup.wrapped.rect.height
      (r.textureMemory.texelsLoaded / TileSetup.wrapped.rect.width) = 2 := by decide +kernel
  rw [hheight] at htexture
  obtain ⟨handle, picture, hdecode, hpicture, -, -, hpixel⟩ := htexture (by decide)
  have htexel := hpixel 1 1 (by decide) (by decide) (by decide)
  exact ⟨hbytewise, handle, picture, hdecode, hpicture, htexel.trans (by decide +kernel)⟩

/-- A tile load of sixteen-bit colour texels caches the image that it reads. -/
theorem execute_loadTile (p : Processor TexturePool) (m : ExternalMemory) (i : Nat)
    {rect : TileRect} (hformat : p.textureImage.format = .rgba)
    (hsize : p.textureImage.size = .bits16) (hwidth : 0 < rect.width)
    (hheight : 0 < rect.height) :
    let direct := (p.execute m (.loadTile i rect)).2
    let source := p.textureImage.address + .ofNat (2 * (p.textureImage.width * rect.tlo + rect.slo))
    let texel x y := m.read16 (source + .ofNat (2 * (y * p.textureImage.width + x)))
    (direct.tiles.get (.wrap i)).texture =
        some ⟨p.allocator.fresh, rect.width, rect.height⟩ ∧
      direct.allocator.get? p.allocator.fresh =
        some (.ofTexels rect.width rect.height texel) := by
  intro direct source texel
  -- The format can be decoded, and the rectangle has columns and rows.
  have himage : p.tileLoadImage m rect =
      .ok (some (.ofTexels rect.width rect.height texel)) := by
    rw [Processor.tileLoadImage, ExternalMemory.decode_eq]
    refine Image.decode_eq_some_iff.mpr ⟨⟨hwidth, hheight⟩, ?_, rfl⟩
    exact if_pos ⟨hformat, hsize⟩
  have hdirect : direct = (p.prepareTileLoad (.wrap i) rect).cacheLoadedImage (.wrap i) rect
      (.ofTexels rect.width rect.height texel) := by
    show (p.loadTile m i rect).2 = _
    rcases p.loadTile_cases m i rect with ⟨_, hother, -⟩ | ⟨hother, -⟩ | ⟨_, hother, heq⟩
    · rw [himage] at hother
      cases hother
    · rw [himage] at hother
      cases hother
    · rw [himage] at hother
      cases hother
      rw [heq]
  rw [hdirect, get_cacheLoadedImage]
  refine ⟨rfl, ?_⟩
  show (p.allocator.keep _).get? p.allocator.fresh = _
  rw [TexturePool.get?_keep, if_pos rfl]

/-- **Both ways to load a texture deliver the same image.** With a texture image of sixteen-bit
colour texels, take the whole width of `height` of its rows from row `first` on. A tile load of them
caches the same image as a block load of the same texels leads to, once the tile is decoded: for any
offset in texture memory and any line step. -/
theorem tileLoad_eq_blockLoad (p : Processor TexturePool) {m : ExternalMemory} (hm : m.Bytewise)
    {i width first height dt : Nat} {tileLoad blockLoad : Row} (setup : TileSetup i)
    (hformat : p.textureImage.format = .rgba) (hsize : p.textureImage.size = .bits16)
    (hwidth : p.textureImage.width = width)
    (hs : setup.rect.slo = 0 ∧ setup.rect.shi + 1 = width)
    (ht : setup.rect.tlo = first ∧ setup.rect.thi + 1 = first + height) (hheight : 0 < height)
    (hstride : setup.properties.stride = 2 * width)
    (htileLoad : Command.decode tileLoad = .loadTile i setup.rect)
    (hblockLoad : Command.decode blockLoad = .loadBlock i 0 first (width * height - 1) dt)
    (hfits : width * height ≤ 2048)
    (hlimit : width * height ≤ p.settings.maxBlockTexels.toNat) :
    let direct := p.after [.execute m tileLoad]
    let staged := p.after (setup.operations m ++ [.execute m blockLoad])
    ∃ picture handle handle',
      picture.width = width ∧ picture.height = height ∧
      (direct.tiles.get (.wrap i)).texture = some ⟨handle, width, height⟩ ∧
      direct.allocator.get? handle = some picture ∧
      (staged.decodeTile i).1 = .ok (some ⟨handle', width, height⟩) ∧
      (staged.decodeTile i).2.allocator.get? handle' = some picture := by
  intro direct staged
  have hrectWidth : setup.rect.width = width := by
    unfold TileRect.width
    omega
  have hrectHeight : setup.rect.height = height := by
    unfold TileRect.height
    omega
  have hpos : 0 < width := by omega
  have htexels : 0 < width * height := Nat.mul_pos hpos hheight
  have hcount : width * height - 1 - 0 + 1 = width * height := by omega
  -- The tile load reads its image from external memory.
  obtain ⟨hcached, hdirect⟩ := p.execute_loadTile m i hformat hsize
    (hrectWidth.symm ▸ hpos) (hrectHeight.symm ▸ hheight)
  rw [← htileLoad] at hcached hdirect
  -- The block load copies the same texels, and all rows of the tile are loaded then.
  let q := p.after (setup.operations m)
  have hq : setup.Applied p q := setup.applied p m
  obtain ⟨-, hmemory, hdecoded⟩ := decodeTile_loadBlock hq m first dt
    (Nat.zero_le (width * height - 1)) (by rw [hcount]; exact hlimit)
  have hstaged : (q.execute m (.loadBlock i 0 first (width * height - 1) dt)).2 = staged := by
    rw [← hblockLoad]
    rfl
  rw [hstaged] at hmemory hdecoded
  have hrows : min setup.rect.height
      (staged.textureMemory.texelsLoaded / setup.rect.width) = height := by
    have hmax : TextureMemory.maxTexelsLoaded = 2 ^ 32 - 1 := rfl
    have htexelCount : (q.blockLoad i 0 first (width * height - 1) dt).texelCount =
        width * height := Nat.succ_pred_eq_of_pos htexels
    have hcovered : height * width ≤ staged.textureMemory.texelsLoaded := by
      rw [Nat.mul_comm, ← htexelCount]
      exact TextureMemory.texelCount_le_texelsLoaded hmemory (by omega)
    have hfull : height ≤ staged.textureMemory.texelsLoaded / width :=
      (Nat.le_div_iff_mul_le hpos).mpr hcovered
    rw [hrectHeight, hrectWidth]
    exact Nat.min_eq_left hfull
  obtain ⟨hdecode, hget⟩ := hdecoded (Nat.lt_of_lt_of_eq hheight hrows.symm)
  rw [hrows, hrectWidth] at hdecode hget
  rw [hrectWidth, hrectHeight] at hcached hdirect
  refine ⟨_, _, _, rfl, rfl, hcached, hdirect, hdecode, hget.trans (congrArg some ?_)⟩
  -- Texel `(x, y)` lies `2 * (y * width + x)` bytes into the block, which holds whole rows.
  refine Image.ofTexels_congr fun x y hx hy => ?_
  have hinside : (y * width + x) + 1 ≤ width * height := by
    have hrow : (y + 1) * width ≤ height * width := Nat.mul_le_mul_right width (by omega)
    rw [Nat.succ_mul] at hrow
    rw [Nat.mul_comm width]
    omega
  have hplace : y * (2 * width) + 2 * x = 2 * (y * width + x) := by
    rw [Nat.mul_left_comm, Nat.mul_add]
  have htexel := texel16At_blockLoad hm hmemory (by rw [hq.textureImage, hsize]) hq.offset_mod
    (Nat.zero_le _) (by omega) (k := 2 * (y * width + x)) (by omega)
  rw [hq.properties, hq.textureImage, hwidth] at htexel
  rw [hstride, Nat.add_assoc, hplace, htexel, hwidth, hs.1, ht.1]

/-- Two rows of four texels, loaded both ways to the end of texture memory. -/
theorem tileLoad_eq_blockLoad_wrapped :
    let memory : ExternalMemory := .ofBytes fun address => .ofNat address.toNat
    let p := (powerOn .standard TexturePool.empty).after
      [.execute memory (.setTextureImage 0 2 4 0x20)]
    let direct := p.after [.execute memory (.loadTile 3 ⟨0, 3, 1, 2⟩)]
    let staged := p.after (TileSetup.wrapped.operations memory ++
      [.execute memory (.loadBlock 3 0 1 7 0)])
    memory.Bytewise ∧ ∃ picture handle handle',
      (direct.tiles.get (.wrap 3)).texture = some ⟨handle, 4, 2⟩ ∧
      direct.allocator.get? handle = some picture ∧
      (staged.decodeTile 3).1 = .ok (some ⟨handle', 4, 2⟩) ∧
      (staged.decodeTile 3).2.allocator.get? handle' = some picture := by
  intro memory p direct staged
  have hbytewise : memory.Bytewise := ExternalMemory.ofBytes_bytewise _
  have hs : TileSetup.wrapped.rect.slo = 0 ∧ TileSetup.wrapped.rect.shi + 1 = 4 := by decide
  have ht : TileSetup.wrapped.rect.tlo = 1 ∧ TileSetup.wrapped.rect.thi + 1 = 1 + 2 := by decide
  have htileLoad : Command.decode (.loadTile 3 ⟨0, 3, 1, 2⟩) = .loadTile 3 ⟨0, 3, 1, 2⟩ := by decide
  have hblockLoad : Command.decode (.loadBlock 3 0 1 7 0) = .loadBlock 3 0 1 7 0 := by decide
  obtain ⟨picture, handle, handle', -, -, hsame⟩ := p.tileLoad_eq_blockLoad hbytewise
    TileSetup.wrapped rfl rfl rfl hs ht (by decide) rfl htileLoad hblockLoad (by decide) (by decide)
  exact ⟨hbytewise, picture, handle, handle', hsame⟩

end Processor

end DisplayProcessor
