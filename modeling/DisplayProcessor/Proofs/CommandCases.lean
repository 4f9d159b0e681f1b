import DisplayProcessor.Proofs.PoolAllocation
import DisplayProcessor.Processor

/-!
# What a command can do

Each command with more than one outcome, with all that it can do: its answer and the processor
afterwards, under the condition that leads there. Over any allocator commands that build textures
are taken only as far as the tile table goes; over a texture pool, which never refuses what they
build, they are taken in full.

- `Processor.loadBlock_eq`: a block load; `Processor.execute_loadBlock_of_none` and
  `Processor.execute_loadBlock_of_some` by what texture memory does.
- `Processor.ResolveSpec`, `Processor.LoadTileSpec`: the two ways to build a texture, over any
  allocator.
- `Processor.resolveTexture_cases`, `Processor.loadTile_cases`: the same over a texture pool.
- `Processor.loadBlock_changes`, `Processor.resolveTexture_changes`, `Processor.loadTile_changes`:
  the fields of the processor that may change.
- `Processor.drawTriangle_cases`: a triangle, with or without texture.
- `Processor.decodeTile_induction`, `Processor.drawTriangle_induction`: what the search for a
  texture keeps.
-/

namespace DisplayProcessor

namespace Processor

section

variable {α : Type}

/-- The operands of a block load of the present texture image to the offset of a tile. -/
def blockLoad (p : Processor α) (tile slo tlo shi dt : Nat) : BlockLoad where
  address := p.textureImage.address
  imageWidth := p.textureImage.width
  size := p.textureImage.size
  slo := slo
  shi := shi
  tlo := tlo
  dt := dt
  offset := (p.tiles.get (.wrap tile)).properties.offset

/-- A block load is what texture memory makes of its operands. -/
theorem loadBlock_eq (p : Processor α) (m : ExternalMemory) (tile slo tlo shi dt : Nat) :
    p.loadBlock m tile slo tlo shi dt =
      match p.textureMemory.load? m (p.blockLoad tile slo tlo shi dt)
        p.settings.maxBlockTexels.toNat with
      | none => (.dropped, p)
      | some memory =>
        (.applied,
          { p with textureMemory := memory, tiles := p.tiles.dropAll memory.texelsLoaded }) :=
  rfl

/-- A block load changes only texture memory and the tile table. -/
theorem loadBlock_changes (p : Processor α) (m : ExternalMemory) (tile slo tlo shi dt : Nat) :
    ∃ memory tiles, (p.loadBlock m tile slo tlo shi dt).2 =
      { p with textureMemory := memory, tiles := tiles } := by
  rw [loadBlock_eq]
  split <;> exact ⟨_, _, rfl⟩

/-- A block load that is not applied changes nothing. -/
theorem loadBlock_eq_self {p : Processor α} {m : ExternalMemory} {tile slo tlo shi dt : Nat}
    (h : (p.loadBlock m tile slo tlo shi dt).1 ≠ .applied) :
    (p.loadBlock m tile slo tlo shi dt).2 = p := by
  rw [loadBlock_eq] at h ⊢
  split at h
  · rfl
  · exact absurd rfl h

/-- Before a tile load its slot has the new rectangle, and neither a texture nor loaded rows. -/
theorem get_prepareTileLoad (p : Processor α) (i : TileIndex) (rect : TileRect) :
    (p.prepareTileLoad i rect).tiles.get i =
      { p.tiles.get i with rect := rect, texture := none, validHeight := 0 } := by
  show (((p.tiles.drop i).set i _).get i) = _
  rw [TileTable.get_set_self, TileTable.get_drop_self]

/-- The processor after an allocator kept an image, and its texture was cached in a tile. -/
def cacheTexture (p : Processor α) (allocator : α) (i : TileIndex) (texture : TextureRef) :
    Processor α :=
  { p with allocator := allocator, tiles := p.tiles.install i texture }

/-- The processor with a number of loaded rows in a tile. -/
def setLoadedRows (p : Processor α) (i : TileIndex) (rows : Nat) : Processor α :=
  { p with tiles := p.tiles.set i { p.tiles.get i with validHeight := rows } }

theorem get_cacheTexture_of_ne (p : Processor α) (allocator : α) {i j : TileIndex} (h : j ≠ i)
    (texture : TextureRef) :
    (p.cacheTexture allocator i texture).tiles.get j = p.tiles.get j :=
  p.tiles.get_set_drop_of_ne h _

theorem get_setLoadedRows_of_ne (p : Processor α) {i j : TileIndex} (h : j ≠ i) (rows : Nat) :
    (p.setLoadedRows i rows).tiles.get j = p.tiles.get j :=
  p.tiles.get_set_of_ne h _

theorem get_prepareTileLoad_of_ne (p : Processor α) {i j : TileIndex} (h : j ≠ i)
    (rect : TileRect) : (p.prepareTileLoad i rect).tiles.get j = p.tiles.get j :=
  p.tiles.get_set_drop_of_ne h _

/-- A texture error skips a command or is an error of it. -/
theorem textureFailure_cases (settings : Settings) (e : TextureError) :
    textureFailure settings e = .ok .skipped ∨ textureFailure settings e = .error (.texture e) := by
  cases e with
  | allocationFailed reason => exact .inr rfl
  | unsupportedFormat format size =>
    cases hstrict : settings.strictFormats with
    | true => exact .inr (if_pos hstrict)
    | false => exact .inl (if_neg (Bool.eq_false_iff.mp hstrict))

variable [TextureAllocator α]

/-- All that the search for the texture of a tile can do. -/
inductive ResolveSpec (p : Processor α) (i : TileIndex) :
    Except TextureError (Option TextureRef) × Processor α → Prop
  | cached {texture : TextureRef} (htexture : (p.tiles.get i).texture = some texture) :
      ResolveSpec p i (.ok (some texture), p)
  | empty (htexture : (p.tiles.get i).texture = none)
      (hdecode : p.textureMemory.decode (p.tiles.get i) = .ok none) :
      ResolveSpec p i (.ok none, p)
  | undecodable {e : TextureError} (htexture : (p.tiles.get i).texture = none)
      (hdecode : p.textureMemory.decode (p.tiles.get i) = .error e) :
      ResolveSpec p i (.error e, p)
  | refused {image : Image} {e : TextureError} {allocator : α}
      (htexture : (p.tiles.get i).texture = none)
      (hdecode : p.textureMemory.decode (p.tiles.get i) = .ok (some image))
      (hrefused : TextureAllocator.allocate p.allocator image = (.error e, allocator)) :
      ResolveSpec p i (.error e, { p with allocator := allocator })
  | built {image : Image} {handle : TextureHandle} {allocator : α}
      (htexture : (p.tiles.get i).texture = none)
      (hdecode : p.textureMemory.decode (p.tiles.get i) = .ok (some image))
      (hbuilt : TextureAllocator.allocate p.allocator image = (.ok handle, allocator)) :
      ResolveSpec p i (.ok (some ⟨handle, image.width, image.height⟩),
        p.cacheTexture allocator i ⟨handle, image.width, image.height⟩)

/-- The search for a texture ends in one of these ways. -/
theorem resolveTexture_spec (p : Processor α) (i : TileIndex) :
    p.ResolveSpec i (p.resolveTexture i) := by
  unfold resolveTexture
  cases htexture : (p.tiles.get i).texture with
  | some texture => exact .cached htexture
  | none =>
    cases hdecode : p.textureMemory.decode (p.tiles.get i) with
    | error e => exact .undecodable htexture hdecode
    | ok image? =>
      cases image? with
      | none => exact .empty htexture hdecode
      | some image =>
        dsimp only
        rcases hallocate : TextureAllocator.allocate p.allocator image with ⟨e | handle, allocator⟩
        · exact .refused htexture hdecode hallocate
        · exact .built htexture hdecode hallocate

/-- The search for a texture changes only the tile table and the allocator. -/
theorem resolveTexture_changes (p : Processor α) (i : TileIndex) :
    ∃ tiles allocator, (p.resolveTexture i).2 =
      { p with tiles := tiles, allocator := allocator } := by
  have hspec := p.resolveTexture_spec i
  generalize p.resolveTexture i = result at hspec
  cases hspec <;> exact ⟨_, _, rfl⟩

/-- All that a tile load can do. Its slot is prepared in any case. -/
inductive LoadTileSpec (p : Processor α) (m : ExternalMemory) (tile : Nat) (rect : TileRect) :
    Except Error Outcome × Processor α → Prop
  | empty (himage : p.tileLoadImage m rect = .ok none) :
      LoadTileSpec p m tile rect (.ok .applied, p.prepareTileLoad (.wrap tile) rect)
  | undecodable {e : TextureError} (himage : p.tileLoadImage m rect = .error e) :
      LoadTileSpec p m tile rect
        (textureFailure p.settings e, p.prepareTileLoad (.wrap tile) rect)
  | refused {image : Image} {e : TextureError} {allocator : α}
      (himage : p.tileLoadImage m rect = .ok (some image))
      (hrefused : TextureAllocator.allocate p.allocator image = (.error e, allocator)) :
      LoadTileSpec p m tile rect (.error (.texture e),
        { p.prepareTileLoad (.wrap tile) rect with allocator := allocator })
  | built {image : Image} {handle : TextureHandle} {allocator : α}
      (himage : p.tileLoadImage m rect = .ok (some image))
      (hbuilt : TextureAllocator.allocate p.allocator image = (.ok handle, allocator)) :
      LoadTileSpec p m tile rect (.ok .applied,
        ((p.prepareTileLoad (.wrap tile) rect).cacheTexture allocator (.wrap tile)
          ⟨handle, rect.width, rect.height⟩).setLoadedRows (.wrap tile) rect.height)

/-- A tile load ends in one of these ways. -/
theorem loadTile_spec (p : Processor α) (m : ExternalMemory) (tile : Nat) (rect : TileRect) :
    p.LoadTileSpec m tile rect (p.loadTile m tile rect) := by
  unfold loadTile
  -- Preparing the slot leaves alone what the image is read from, and the allocator.
  have himage : (p.prepareTileLoad (.wrap tile) rect).tileLoadImage m rect =
      p.tileLoadImage m rect := rfl
  have hallocator : (p.prepareTileLoad (.wrap tile) rect).allocator = p.allocator := rfl
  simp only [himage, hallocator]
  cases hdecode : p.tileLoadImage m rect with
  | error e => exact .undecodable hdecode
  | ok image? =>
    cases image? with
    | none => exact .empty hdecode
    | some image =>
      dsimp only
      rcases hallocate : TextureAllocator.allocate p.allocator image with ⟨e | handle, allocator⟩
      · exact .refused hdecode hallocate
      · exact .built hdecode hallocate

/-- A tile load changes only the tile table, the allocator and the current tile. -/
theorem loadTile_changes (p : Processor α) (m : ExternalMemory) (tile : Nat) (rect : TileRect) :
    ∃ tiles allocator, (p.loadTile m tile rect).2 =
      { p with currentTile := .wrap tile, tiles := tiles, allocator := allocator } := by
  have hspec := p.loadTile_spec m tile rect
  generalize p.loadTile m tile rect = result at hspec
  cases hspec <;> exact ⟨_, _, rfl⟩

/-- A block load that texture memory drops has no effect. -/
theorem execute_loadBlock_of_none {p : Processor α} {m : ExternalMemory} {tile slo tlo shi dt : Nat}
    (h : p.textureMemory.load? m (p.blockLoad tile slo tlo shi dt)
      p.settings.maxBlockTexels.toNat = none) :
    p.execute m (.loadBlock tile slo tlo shi dt) = (.ok .dropped, p) := by
  simp only [execute, loadBlock_eq, h]

/-- A block load that texture memory carries out counts the rows of all slots anew. -/
theorem execute_loadBlock_of_some {p : Processor α} {m : ExternalMemory} {tile slo tlo shi dt : Nat}
    {memory : TextureMemory}
    (h : p.textureMemory.load? m (p.blockLoad tile slo tlo shi dt)
      p.settings.maxBlockTexels.toNat = some memory) :
    p.execute m (.loadBlock tile slo tlo shi dt) =
      (.ok .applied,
        { p with textureMemory := memory, tiles := p.tiles.dropAll memory.texelsLoaded }) := by
  simp only [execute, loadBlock_eq, h]

/-- A triangle has no texture; or the texture of its tile is found and it is drawn with that; or
there is an error and it is not drawn. -/
theorem drawTriangle_cases (p : Processor α) (t : TriangleCommand) :
    (t.kind.texture = false ∧ p.drawTriangle t = (.ok .applied, p.pushTriangle t none 0)) ∨
    (∃ texture q, t.kind.texture = true ∧
      p.resolveTexture (.wrap t.edges.tile) = (.ok texture, q) ∧
      p.drawTriangle t = (.ok .applied,
        q.pushTriangle t texture (q.tiles.get (.wrap t.edges.tile)).validHeight)) ∨
    (∃ e q, t.kind.texture = true ∧ p.resolveTexture (.wrap t.edges.tile) = (.error e, q) ∧
      p.drawTriangle t = (textureFailure q.settings e, q)) := by
  unfold drawTriangle
  by_cases htexture : t.kind.texture = true
  · rcases hresolve : p.resolveTexture (.wrap t.edges.tile) with ⟨e | texture, q⟩
    · exact .inr (.inr ⟨e, q, htexture, rfl, by simp only [if_pos htexture, hresolve]⟩)
    · exact .inr (.inl ⟨texture, q, htexture, rfl, by simp only [if_pos htexture, hresolve]⟩)
  · exact .inl ⟨Bool.eq_false_iff.mpr htexture, if_neg htexture⟩

/-- The search for the texture of a tile leaves the tile table alone, or installs the texture that
was decoded: with the width of the rectangle and the rows that are loaded. -/
theorem resolveTexture_tiles (p : Processor α) (i : TileIndex) :
    (p.resolveTexture i).2.textureMemory = p.textureMemory ∧
      ((p.resolveTexture i).2.tiles = p.tiles ∨
        ∃ texture, (p.resolveTexture i).2.tiles = p.tiles.install i texture ∧
          texture.width = (p.tiles.get i).rect.width ∧
          texture.height = (p.tiles.get i).loadedHeight) := by
  have hspec := p.resolveTexture_spec i
  generalize p.resolveTexture i = result at hspec
  cases hspec with
  | cached => exact ⟨rfl, .inl rfl⟩
  | empty => exact ⟨rfl, .inl rfl⟩
  | undecodable => exact ⟨rfl, .inl rfl⟩
  | refused => exact ⟨rfl, .inl rfl⟩
  | built _ hdecode =>
    have hsize := TextureMemory.hasSize_of_decode hdecode
    exact ⟨rfl, .inr ⟨_, rfl, hsize.width_eq, hsize.height_eq⟩⟩

/-- A tile load only prepares its slot; or it installs a texture there and all rows of the rectangle
count as loaded. -/
theorem loadTile_tiles (p : Processor α) (m : ExternalMemory) (tile : Nat) (rect : TileRect) :
    let prepared := (p.prepareTileLoad (.wrap tile) rect).tiles
    let after := (p.loadTile m tile rect).2
    after.textureMemory = p.textureMemory ∧
      (after.tiles = prepared ∨
        ∃ texture, after.tiles = (prepared.install (.wrap tile) texture).set (.wrap tile)
          { (prepared.install (.wrap tile) texture).get (.wrap tile) with
            validHeight := rect.height }) := by
  intro prepared after
  have hspec := p.loadTile_spec m tile rect
  simp only [after]
  -- Whatever the outcome, texture memory is not written to.
  generalize p.loadTile m tile rect = result at hspec
  cases hspec with
  | empty => exact ⟨rfl, .inl rfl⟩
  | undecodable => exact ⟨rfl, .inl rfl⟩
  | refused => exact ⟨rfl, .inl rfl⟩
  | built => exact ⟨rfl, .inr ⟨_, rfl⟩⟩

/-- To decode a tile is to search for the texture of its slot, if there is one with its number. -/
theorem decodeTile_state (p : Processor α) (n : Nat) :
    (p.decodeTile n).2 = p ∨ ∃ i, (p.decodeTile n).2 = (p.resolveTexture i).2 := by
  unfold decodeTile
  cases TileIndex.ofNat? n with
  | none => exact .inl rfl
  | some i =>
    refine .inr ⟨i, ?_⟩
    dsimp only
    rcases p.resolveTexture i with ⟨e | texture, q⟩
    · rfl
    · rfl

/-- To draw a triangle is to search for the texture of its slot, if it has one, and to add to the
frame. -/
theorem drawTriangle_state (p : Processor α) (t : TriangleCommand) :
    ∃ q, (q = p ∨ ∃ i, q = (p.resolveTexture i).2) ∧
      (p.drawTriangle t).2 = { q with frame := (p.drawTriangle t).2.frame } := by
  rcases p.drawTriangle_cases t with ⟨-, heq⟩ | ⟨texture, q, -, hresolve, heq⟩ |
    ⟨e, q, -, hresolve, heq⟩
  · refine ⟨p, .inl rfl, ?_⟩
    rw [heq]
    rfl
  · refine ⟨q, .inr ⟨.wrap t.edges.tile, by rw [hresolve]⟩, ?_⟩
    rw [heq]
    rfl
  · refine ⟨q, .inr ⟨.wrap t.edges.tile, by rw [hresolve]⟩, ?_⟩
    rw [heq]

/-- What a search for a texture keeps, the decoding of a tile keeps. -/
theorem decodeTile_induction {P : Processor α → Prop} {p : Processor α} (hp : P p)
    (hresolve : ∀ i, P (p.resolveTexture i).2) (n : Nat) : P (p.decodeTile n).2 := by
  rcases p.decodeTile_state n with heq | ⟨i, heq⟩
  · rw [heq]
    exact hp
  · rw [heq]
    exact hresolve i

/-- What a search for a texture keeps and a change of the frame, a triangle keeps. -/
theorem drawTriangle_induction {P : Processor α → Prop} {p : Processor α} (hp : P p)
    (hresolve : ∀ i, P (p.resolveTexture i).2)
    (hframe : ∀ q frame, P q → P { q with frame := frame }) (t : TriangleCommand) :
    P (p.drawTriangle t).2 := by
  obtain ⟨q, hq, heq⟩ := p.drawTriangle_state t
  rw [heq]
  rcases hq with rfl | ⟨i, rfl⟩
  · exact hframe _ _ hp
  · exact hframe _ _ (hresolve i)

/-- The search for a texture does not touch the frame. -/
theorem resolveTexture_frame (p : Processor α) (i : TileIndex) :
    (p.resolveTexture i).2.frame = p.frame := by
  obtain ⟨tiles, allocator, heq⟩ := p.resolveTexture_changes i
  rw [heq]

theorem loadTile_frame (p : Processor α) (m : ExternalMemory) (tile : Nat) (rect : TileRect) :
    (p.loadTile m tile rect).2.frame = p.frame := by
  obtain ⟨tiles, allocator, heq⟩ := p.loadTile_changes m tile rect
  rw [heq]

omit [TextureAllocator α] in
theorem loadBlock_frame (p : Processor α) (m : ExternalMemory) (tile slo tlo shi dt : Nat) :
    (p.loadBlock m tile slo tlo shi dt).2.frame = p.frame := by
  obtain ⟨memory, tiles, heq⟩ := p.loadBlock_changes m tile slo tlo shi dt
  rw [heq]

theorem decodeTile_frame (p : Processor α) (n : Nat) : (p.decodeTile n).2.frame = p.frame :=
  decodeTile_induction (P := fun q => q.frame = p.frame) rfl p.resolveTexture_frame n

theorem settings_resolveTexture (p : Processor α) (i : TileIndex) :
    (p.resolveTexture i).2.settings = p.settings := by
  obtain ⟨tiles, allocator, heq⟩ := p.resolveTexture_changes i
  rw [heq]

/-- No command changes the settings. -/
theorem settings_execute (p : Processor α) (m : ExternalMemory) (command : Command) :
    (p.execute m command).2.settings = p.settings := by
  cases command with
  | triangle t =>
    exact drawTriangle_induction (P := fun q => q.settings = p.settings) rfl
      p.settings_resolveTexture (fun _ _ h => h) t
  | loadBlock tile slo tlo shi dt =>
    obtain ⟨memory, tiles, heq⟩ := p.loadBlock_changes m tile slo tlo shi dt
    show (p.loadBlock m tile slo tlo shi dt).2.settings = _
    rw [heq]
  | loadTile tile rect =>
    obtain ⟨tiles, allocator, heq⟩ := p.loadTile_changes m tile rect
    show (p.loadTile m tile rect).2.settings = _
    rw [heq]
  | _ => rfl

end

/-- The processor after an image went to the pool and was cached in a tile. -/
def cacheImage (p : Processor TexturePool) (i : TileIndex) (image : Image) :
    Processor TexturePool :=
  { p with
    allocator := p.allocator.keep image
    tiles := p.tiles.install i ⟨p.allocator.fresh, image.width, image.height⟩ }

/-- The texture of a tile is cached; or texture memory has a format that is not decoded, or nothing,
or an image, which is then cached. -/
theorem resolveTexture_cases (p : Processor TexturePool) (i : TileIndex) :
    (∃ texture, (p.tiles.get i).texture = some texture ∧
      p.resolveTexture i = (.ok (some texture), p)) ∨
    (p.tiles.get i).texture = none ∧
      ((∃ e, p.textureMemory.decode (p.tiles.get i) = .error e ∧
        p.resolveTexture i = (.error e, p)) ∨
      (p.textureMemory.decode (p.tiles.get i) = .ok none ∧
        p.resolveTexture i = (.ok none, p)) ∨
      (∃ image, p.textureMemory.decode (p.tiles.get i) = .ok (some image) ∧
        p.resolveTexture i =
          (.ok (some ⟨p.allocator.fresh, image.width, image.height⟩), p.cacheImage i image))) := by
  have hspec := p.resolveTexture_spec i
  generalize p.resolveTexture i = result at hspec
  cases hspec with
  | cached htexture => exact .inl ⟨_, htexture, rfl⟩
  | empty htexture hdecode => exact .inr ⟨htexture, .inr (.inl ⟨hdecode, rfl⟩)⟩
  | undecodable htexture hdecode => exact .inr ⟨htexture, .inl ⟨_, hdecode, rfl⟩⟩
  | refused _ hdecode hrefused =>
    -- A decoded image has as many bytes as its dimensions ask for, so the pool keeps it.
    have hsize := (TextureMemory.hasSize_of_decode hdecode).size_bytes
    cases (p.allocator.allocate_eq_keep hsize).symm.trans hrefused
  | built htexture hdecode hbuilt =>
    have hsize := (TextureMemory.hasSize_of_decode hdecode).size_bytes
    cases (p.allocator.allocate_eq_keep hsize).symm.trans hbuilt
    exact .inr ⟨htexture, .inr (.inr ⟨_, hdecode, rfl⟩)⟩

/-- The processor after a tile load that built the texture of its tile. -/
def cacheLoadedImage (p : Processor TexturePool) (i : TileIndex) (rect : TileRect)
    (image : Image) : Processor TexturePool :=
  let p := p.cacheImage i image
  { p with tiles := p.tiles.set i { p.tiles.get i with validHeight := rect.height } }

/-- After a tile load its slot has the new texture, with all rows of the rectangle. -/
theorem get_cacheLoadedImage (p : Processor TexturePool) (i : TileIndex) (rect : TileRect)
    (image : Image) :
    (p.cacheLoadedImage i rect image).tiles.get i =
      { p.tiles.get i with
        texture := some ⟨p.allocator.fresh, image.width, image.height⟩
        validHeight := rect.height } := by
  show ((p.tiles.install i _).set i { (p.tiles.install i _).get i with validHeight := _ }).get i = _
  rw [TileTable.get_set_self, TileTable.get_install_self]

/-- A tile load finds a format that is not decoded, or nothing, or an image, which is then cached.
Its slot is prepared in any case. -/
theorem loadTile_cases (p : Processor TexturePool) (m : ExternalMemory) (tile : Nat)
    (rect : TileRect) :
    (∃ e, p.tileLoadImage m rect = .error e ∧
      p.loadTile m tile rect =
        (textureFailure p.settings e, p.prepareTileLoad (.wrap tile) rect)) ∨
    (p.tileLoadImage m rect = .ok none ∧
      p.loadTile m tile rect = (.ok .applied, p.prepareTileLoad (.wrap tile) rect)) ∨
    (∃ image, p.tileLoadImage m rect = .ok (some image) ∧
      p.loadTile m tile rect =
        (.ok .applied,
          (p.prepareTileLoad (.wrap tile) rect).cacheLoadedImage (.wrap tile) rect image)) := by
  have hspec := p.loadTile_spec m tile rect
  generalize p.loadTile m tile rect = result at hspec
  cases hspec with
  | empty himage => exact .inr (.inl ⟨himage, rfl⟩)
  | undecodable himage => exact .inl ⟨_, himage, rfl⟩
  -- A pool refuses no image that was decoded, since it has as many bytes as it should.
  | refused himage hrefused =>
    have hsize := (Image.hasSize_of_decode himage).size_bytes
    cases (p.allocator.allocate_eq_keep hsize).symm.trans hrefused
  | built himage hbuilt =>
    have hsize : Image.HasSize _ rect.width rect.height := Image.hasSize_of_decode himage
    cases (p.allocator.allocate_eq_keep hsize.size_bytes).symm.trans hbuilt
    refine .inr (.inr ⟨_, himage, ?_⟩)
    rw [cacheLoadedImage, cacheImage, hsize.width_eq, hsize.height_eq]
    rfl

end Processor

end DisplayProcessor
