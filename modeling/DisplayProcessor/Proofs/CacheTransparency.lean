import DisplayProcessor.Proofs.FrameTextures
import DisplayProcessor.Proofs.Uncached
import Mathlib.Data.List.Forall2

/-!
# The texture cache does not show

A processor that caches textures draws the same pixels as one that decodes texture memory for every
triangle. A cached texture has the image that its slot would be decoded to now, because whatever
changes a slot or the bytes under it drops the texture first.

- `TextureRef.Shows`, `Triangle.Shows`, `Frame.Shows`, `Answer.Shows`: the same with a handle and
  with the image behind it.
- `Tile.Shows`: the invariant of a slot; `Processor.Mirrors`: that of a processor.
- `Processor.Mirrors.execute`, `Session.Mirrors.after`: what one command and what a session keeps.
- `Session.cache_unobservable`: the main result.
-/

namespace DisplayProcessor

/-! ## Handles and images -/

/-- The image is behind the handle of the texture, and has its dimensions. -/
structure TextureRef.Shows (pool : TexturePool) (texture : TextureRef) (image : Image) : Prop where
  get? : pool.get? texture.handle = some image
  width : texture.width = image.width
  height : texture.height = image.height

/-- The triangles differ in that one has a texture and the other its image. -/
structure Triangle.Shows (pool : TexturePool) (triangle : Triangle) (direct : Uncached.Triangle) :
    Prop where
  texture : Option.Rel (TextureRef.Shows pool) triangle.texture direct.image
  edges : triangle.edges = direct.edges
  validHeight : triangle.validHeight = direct.validHeight
  color : triangle.color = direct.color
  coordinates : triangle.coordinates = direct.coordinates
  depth : triangle.depth = direct.depth

/-- The frames differ in that one has textures and the other images. -/
structure Frame.Shows (pool : TexturePool) (frame : Frame) (direct : Uncached.Frame) : Prop where
  triangles : List.Forall₂ (Triangle.Shows pool) frame.triangles.toList direct.triangles
  fillRects : frame.fillRects = direct.fillRects
  canRender : frame.canRender = direct.canRender
  registers : frame.registers = direct.registers

/-- The answers are the same, up to textures in one and images in the other. -/
inductive Answer.Shows (pool : TexturePool) : Answer → Uncached.Answer → Prop where
  | counts (result : Except Error BatchCounts) : Shows pool (.counts result) (.counts result)
  | outcome (result : Except Error Outcome) : Shows pool (.outcome result) (.outcome result)
  | noTexture (e : Error) : Shows pool (.texture (.error e)) (.image (.error e))
  | texture {texture : Option TextureRef} {image : Option Image}
      (h : Option.Rel (TextureRef.Shows pool) texture image) :
      Shows pool (.texture (.ok texture)) (.image (.ok image))
  | frame {frame : Frame} {direct : Uncached.Frame} (h : frame.Shows pool direct) :
      Shows pool (.frame frame) (.frame direct)
  | done : Shows pool .done .done

section

variable {pool after : TexturePool}

/-- A texture that the pool keeps shows the same image. -/
theorem TextureRef.Shows.retain {texture : TextureRef} {image : Image}
    (h : texture.Shows pool image) (hkept : pool.Retains after texture.handle) :
    texture.Shows after image :=
  ⟨hkept image h.get?, h.width, h.height⟩

/-- A triangle of which the pool keeps the texture shows the same image. -/
theorem Triangle.Shows.retain {triangle : Triangle} {direct : Uncached.Triangle}
    (h : triangle.Shows pool direct)
    (hkept : ∀ texture, triangle.texture = some texture → pool.Retains after texture.handle) :
    triangle.Shows after direct := by
  refine { h with texture := ?_ }
  have hrel := h.texture
  generalize triangle.texture = texture?, direct.image = image? at hrel hkept ⊢
  cases hrel with
  | some hshows => exact .some (hshows.retain (hkept _ rfl))
  | none => exact .none

/-- A frame shows the same while the pool retains the images of its triangles. -/
theorem Frame.Shows.retain {frame : Frame} {direct : Uncached.Frame} (h : frame.Shows pool direct)
    (hkept : ∀ triangle ∈ frame.triangles, ∀ texture, triangle.texture = some texture →
      pool.Retains after texture.handle) : frame.Shows after direct := by
  refine { h with triangles := ?_ }
  have hall := h.triangles
  have hkept : ∀ triangle ∈ frame.triangles.toList, ∀ texture, triangle.texture = some texture →
      pool.Retains after texture.handle := fun t ht => hkept t (Array.mem_toList_iff.mp ht)
  generalize frame.triangles.toList = triangles, direct.triangles = others at hall hkept ⊢
  induction hall with
  | nil => exact .nil
  | cons hhead _ ih =>
    refine .cons (hhead.retain (hkept _ List.mem_cons_self)) (ih fun t ht => ?_)
    exact hkept t (List.mem_cons_of_mem _ ht)

end

/-! ## Slots -/

/-- A slot that caches textures and one that does not. A cached texture shows the image that the
other slot samples, and its dimensions are those that the slot describes. -/
structure Tile.Shows (pool : TexturePool) (memory : TextureMemory) (tile : Tile)
    (slot : Uncached.Slot) : Prop where
  properties : slot.properties = tile.properties
  rect : slot.rect = tile.rect
  validHeight : slot.validHeight = tile.validHeight
  /-- The image of a tile load is always cached. -/
  loaded : tile.texture = none → slot.loaded = none
  texture : ∀ texture, tile.texture = some texture → ∃ image, texture.Shows pool image ∧
    slot.sample memory = .ok (some image) ∧ image.HasSize tile.rect.width tile.loadedHeight

namespace Tile.Shows

variable {pool after : TexturePool} {memory : TextureMemory} {tile : Tile} {slot : Uncached.Slot}

theorem powerOn : Tile.powerOn.Shows pool memory .powerOn :=
  ⟨rfl, rfl, rfl, fun _ => rfl, nofun⟩

/-- A slot without a texture shows nothing but its description. -/
theorem of_texture_none (htexture : tile.texture = none) (hloaded : slot.loaded = none)
    (hproperties : slot.properties = tile.properties) (hrect : slot.rect = tile.rect)
    (hheight : slot.validHeight = tile.validHeight) : tile.Shows pool memory slot where
  properties := hproperties
  rect := hrect
  validHeight := hheight
  loaded _ := hloaded
  texture texture h := by
    rw [htexture] at h
    cases h

/-- A slot of which the pool keeps the texture shows the same. -/
theorem retain (h : tile.Shows pool memory slot)
    (hkept : ∀ texture, tile.texture = some texture → pool.Retains after texture.handle) :
    tile.Shows after memory slot := by
  refine { h with texture := fun texture htexture => ?_ }
  obtain ⟨image, hshows, hsample⟩ := h.texture texture htexture
  exact ⟨image, hshows.retain (hkept texture htexture), hsample⟩

/-- No image depends on the load count. -/
theorem clearLoadCount (h : tile.Shows pool memory slot) :
    tile.Shows pool memory.clearLoadCount slot :=
  ⟨h.properties, h.rect, h.validHeight, h.loaded, h.texture⟩

/-- What is decoded depends on the description of the slot only. -/
theorem decode_tile (h : tile.Shows pool memory slot) :
    memory.decode slot.tile = memory.decode tile := by
  unfold TextureMemory.decode Tile.loadedHeight Uncached.Slot.tile
  rw [h.properties, h.rect, h.validHeight]

/-- Without a texture, texture memory is sampled. -/
theorem sample_eq_decode (h : tile.Shows pool memory slot) (htexture : tile.texture = none) :
    slot.sample memory = memory.decode tile := by
  rw [Uncached.Slot.sample, h.loaded htexture]
  exact h.decode_tile

/-- A cached texture has the image of a tile load, or else the one that texture memory has now. -/
theorem image_eq (h : tile.Shows pool memory slot) {image : Image}
    (hsample : slot.sample memory = .ok (some image)) :
    slot.loaded = some image ∨ slot.loaded = none ∧ memory.decode tile = .ok (some image) := by
  unfold Uncached.Slot.sample at hsample
  cases hloaded : slot.loaded with
  | some loaded =>
    rw [hloaded] at hsample
    cases hsample
    exact .inl rfl
  | none =>
    rw [hloaded] at hsample
    exact .inr ⟨rfl, h.decode_tile.symm.trans hsample⟩

end Tile.Shows

/-! ## Commands -/

namespace Processor

/-- The processor with other slots and another frame. -/
def uncached {α : Type} (p : Processor α) (slots : TileIndex → Uncached.Slot)
    (frame : Uncached.Frame) : Uncached :=
  ⟨p.settings, p.textureMemory, slots, p.textureImage, p.fillColor, p.registers, p.currentTile,
    frame⟩

/-- The processors differ in that one caches textures and the other does not. -/
def Mirrors (p : Processor TexturePool) (u : Uncached) : Prop :=
  ∃ slots frame, u = p.uncached slots frame ∧
    (∀ i, (p.tiles.get i).Shows p.allocator p.textureMemory (slots i)) ∧
    p.frame.Shows p.allocator frame

/-- At power-on no slot has a texture, and both frames are empty. -/
theorem mirrors_powerOn (settings : Settings) (pool : TexturePool) :
    (powerOn settings pool).Mirrors (.powerOn settings) := by
  refine ⟨_, _, rfl, fun i => ?_, ⟨.nil, rfl, rfl, rfl⟩⟩
  have hget : TileTable.powerOn.get i = .powerOn := Vector.getElem_replicate i.isLt
  show (TileTable.powerOn.get i).Shows pool .powerOn .powerOn
  rw [hget]
  exact .powerOn

/-- Slots that show the same do so after a change to one of them. -/
theorem shows_update {tiles changed : TileTable} {slots : TileIndex → Uncached.Slot}
    {pool : TexturePool} {memory : TextureMemory} {i : TileIndex} {slot : Uncached.Slot}
    (h : ∀ j, (tiles.get j).Shows pool memory (slots j))
    (hi : (changed.get i).Shows pool memory slot)
    (hne : ∀ j, j ≠ i → changed.get j = tiles.get j) (j : TileIndex) :
    (changed.get j).Shows pool memory (Function.update slots i slot j) := by
  by_cases hj : j = i
  · subst hj
    rwa [Function.update_self]
  · rw [Function.update_of_ne hj, hne j hj]
    exact h j

namespace Mirrors

variable {p : Processor TexturePool} {u : Uncached}

theorem settings_eq (h : p.Mirrors u) : u.settings = p.settings := by
  obtain ⟨slots, frame, rfl, -⟩ := h
  rfl

/-- The loaded rows of a slot are the same on both sides. -/
theorem validHeight_eq (h : p.Mirrors u) (i : TileIndex) :
    (u.slots i).validHeight = (p.tiles.get i).validHeight := by
  obtain ⟨slots, frame, rfl, hslots, -⟩ := h
  exact (hslots i).validHeight

/-- An image that is decoded and kept for a slot is what the slot has without a cache. -/
theorem cacheImage (h : p.Mirrors u) (i : TileIndex) {image : Image}
    (htexture : (p.tiles.get i).texture = none)
    (hdecode : p.textureMemory.decode (p.tiles.get i) = .ok (some image)) :
    (p.cacheImage i image).Mirrors u := by
  obtain ⟨slots, frame, rfl, hslots, hframe⟩ := h
  have hkept := p.allocator.retains_keep image
  refine ⟨slots, frame, rfl, fun j => ?_, hframe.retain fun _ _ _ _ => hkept _⟩
  show ((p.tiles.install i _).get j).Shows (p.allocator.keep image) _ _
  by_cases hj : j = i
  · -- The image was decoded from what the slot describes now, which is what is sampled.
    subst hj
    have hslot := hslots j
    have hsize := TextureMemory.hasSize_of_decode hdecode
    rw [TileTable.get_install_self]
    refine ⟨hslot.properties, hslot.rect, hslot.validHeight, nofun, fun texture hnew => ?_⟩
    cases hnew
    refine ⟨image, ⟨?_, rfl, rfl⟩, (hslot.sample_eq_decode htexture).trans hdecode, hsize⟩
    rw [TexturePool.get?_keep, if_pos rfl]
  · rw [TileTable.install, TileTable.get_set_drop_of_ne _ hj]
    exact (hslots j).retain fun _ _ => hkept _

/-- The texture of a tile shows what its slot samples, and so does finding it. -/
theorem resolveTexture (h : p.Mirrors u) (i : TileIndex) :
    ∃ q, q.Mirrors u ∧
      ((∃ e, p.resolveTexture i = (.error e, q) ∧
        (u.slots i).sample u.textureMemory = .error e) ∨
      ∃ texture image, p.resolveTexture i = (.ok texture, q) ∧
        (u.slots i).sample u.textureMemory = .ok image ∧
        Option.Rel (TextureRef.Shows q.allocator) texture image) := by
  have hcache (image : Image) := @cacheImage p u h i image
  obtain ⟨slots, frame, rfl, hslots, hframe⟩ := h
  have hslot := hslots i
  have hsame : p.Mirrors (p.uncached slots frame) := ⟨slots, frame, rfl, hslots, hframe⟩
  show ∃ q, _ ∧ ((∃ e, _ ∧ (slots i).sample p.textureMemory = .error e) ∨
    ∃ texture image, _ ∧ (slots i).sample p.textureMemory = .ok image ∧ _)
  -- The slot has a texture, which shows what is sampled; or it has none, and both sides decode.
  rcases p.resolveTexture_cases i with ⟨texture, htexture, heq⟩ | ⟨hnone, hdecoded⟩
  · obtain ⟨image, hshows, hsample, -⟩ := hslot.texture texture htexture
    exact ⟨p, hsame, .inr ⟨some texture, some image, heq, hsample, .some hshows⟩⟩
  · rw [hslot.sample_eq_decode hnone]
    rcases hdecoded with ⟨e, hdecode, heq⟩ | ⟨hdecode, heq⟩ | ⟨image, hdecode, heq⟩
    · exact ⟨p, hsame, .inl ⟨e, heq, hdecode⟩⟩
    · exact ⟨p, hsame, .inr ⟨none, none, heq, hdecode, .none⟩⟩
    · refine ⟨_, hcache image hnone hdecode,
        .inr ⟨_, some image, heq, hdecode, .some ⟨?_, rfl, rfl⟩⟩⟩
      show (p.allocator.keep image).get? p.allocator.fresh = some image
      rw [TexturePool.get?_keep, if_pos rfl]

/-- Triangles are recorded alike if their textures are. -/
theorem pushTriangle (h : p.Mirrors u) (t : TriangleCommand) {texture : Option TextureRef}
    {image : Option Image} (hshows : Option.Rel (TextureRef.Shows p.allocator) texture image)
    (validHeight : Nat) :
    (p.pushTriangle t texture validHeight).Mirrors (u.pushTriangle t image validHeight) := by
  obtain ⟨slots, frame, rfl, hslots, hframe⟩ := h
  refine ⟨slots, _, rfl, hslots, ⟨?_, hframe.fillRects, rfl, hframe.registers⟩⟩
  show List.Forall₂ _ (p.frame.triangles.push _).toList (frame.triangles ++ [_])
  rw [Array.toList_push]
  exact List.rel_append hframe.triangles (.cons ⟨hshows, rfl, rfl, rfl, rfl, rfl⟩ .nil)

/-- A triangle has the same outcome on both sides. -/
theorem drawTriangle (h : p.Mirrors u) (t : TriangleCommand) :
    (p.drawTriangle t).1 = (u.drawTriangle t).1 ∧
      (p.drawTriangle t).2.Mirrors (u.drawTriangle t).2 := by
  unfold Processor.drawTriangle Uncached.drawTriangle
  by_cases htexture : t.kind.texture = true
  · rw [if_pos htexture, if_pos htexture]
    obtain ⟨q, hq, ⟨e, heq, hsample⟩ | ⟨texture, image, heq, hsample, hshows⟩⟩ :=
      h.resolveTexture (.wrap t.edges.tile)
    · simp only [heq, hsample, hq.settings_eq, true_and]
      exact hq
    · simp only [heq, hsample, hq.validHeight_eq, true_and]
      exact hq.pushTriangle t hshows _
  · rw [if_neg htexture, if_neg htexture]
    exact ⟨rfl, h.pushTriangle t .none 0⟩

theorem setTile (h : p.Mirrors u) (m : ExternalMemory) (tile : Nat)
    (properties : TileProperties) :
    (p.execute m (.setTile tile properties)).2.Mirrors
      (u.execute m (.setTile tile properties)).2 := by
  obtain ⟨slots, frame, rfl, hslots, hframe⟩ := h
  have hslot := hslots (.wrap tile)
  refine ⟨_, frame, rfl,
    shows_update hslots ?_ fun j hj => p.tiles.get_set_drop_of_ne hj _, hframe⟩
  show ((p.tiles.setProperties _ properties).get _).Shows _ _ _
  rw [TileTable.get_setProperties_self]
  exact .of_texture_none rfl rfl rfl hslot.rect hslot.validHeight

theorem setTileSize (h : p.Mirrors u) (m : ExternalMemory) (tile : Nat) (rect : TileRect) :
    (p.execute m (.setTileSize tile rect)).2.Mirrors
      (u.execute m (.setTileSize tile rect)).2 := by
  -- Whether rows are counted anew depends on texture memory, which is the same on both sides.
  obtain ⟨slots, frame, rfl, hslots, hframe⟩ := h
  have hslot := hslots (.wrap tile)
  refine ⟨_, frame, rfl,
    shows_update hslots ?_ fun j hj => p.tiles.get_set_drop_of_ne hj _, hframe⟩
  show ((p.tiles.setRect _ rect p.textureMemory.texelsLoaded).get _).Shows _ _
    ((slots (.wrap tile)).setRect rect p.textureMemory.texelsLoaded)
  rw [TileTable.get_setRect_self]
  unfold Uncached.Slot.setRect
  by_cases hloaded : p.textureMemory.texelsLoaded = 0
  · rw [if_pos hloaded, if_pos hloaded]
    exact .of_texture_none rfl rfl hslot.properties rfl hslot.validHeight
  · rw [if_neg hloaded, if_neg hloaded]
    exact .of_texture_none rfl rfl hslot.properties rfl rfl

/-- A block load changes texture memory on both sides and drops every texture. -/
theorem loadBlock (h : p.Mirrors u) (m : ExternalMemory) (tile slo tlo shi dt : Nat) :
    (p.loadBlock m tile slo tlo shi dt).1 = (u.loadBlock m tile slo tlo shi dt).1 ∧
      (p.loadBlock m tile slo tlo shi dt).2.Mirrors (u.loadBlock m tile slo tlo shi dt).2 := by
  have hsame := h
  obtain ⟨slots, frame, rfl, hslots, hframe⟩ := h
  have hload : (⟨p.textureImage.address, p.textureImage.width, p.textureImage.size, slo, shi, tlo,
      dt, (slots (.wrap tile)).properties.offset⟩ : BlockLoad) =
      p.blockLoad tile slo tlo shi dt := by
    rw [(hslots _).properties]
    rfl
  rw [loadBlock_eq]
  unfold Uncached.loadBlock
  simp only [uncached, hload]
  cases hmemory : p.textureMemory.load? m (p.blockLoad tile slo tlo shi dt)
      p.settings.maxBlockTexels.toNat with
  | none => exact ⟨rfl, hsame⟩
  | some memory =>
    -- Every slot loses its texture, on both sides.
    refine ⟨rfl, _, frame, rfl, fun i => ?_, hframe⟩
    show ((p.tiles.dropAll memory.texelsLoaded).get i).Shows _ _ _
    rw [TileTable.get_dropAll]
    refine .of_texture_none rfl rfl (hslots i).properties (hslots i).rect ?_
    show memory.texelsLoaded / (slots i).rect.width = _
    rw [(hslots i).rect]
    rfl

/-- A tile load without an image leaves its slot without a texture. -/
theorem prepareTileLoad (h : p.Mirrors u) (i : TileIndex) (rect : TileRect) :
    (p.prepareTileLoad i rect).Mirrors
      { u.setSlot i ((u.slots i).load rect none) with currentTile := i } := by
  obtain ⟨slots, frame, rfl, hslots, hframe⟩ := h
  refine ⟨_, frame, rfl,
    shows_update hslots ?_ fun j hj => p.tiles.get_set_drop_of_ne hj _, hframe⟩
  rw [get_prepareTileLoad]
  exact .of_texture_none rfl rfl (hslots i).properties rfl rfl

/-- A tile load with an image caches it. -/
theorem cacheLoadedImage (h : p.Mirrors u) (i : TileIndex) {rect : TileRect} {image : Image}
    (hsize : image.HasSize rect.width rect.height) :
    ((p.prepareTileLoad i rect).cacheLoadedImage i rect image).Mirrors
      { u.setSlot i ((u.slots i).load rect (some image)) with currentTile := i } := by
  obtain ⟨slots, frame, rfl, hslots, hframe⟩ := h
  have hkept := p.allocator.retains_keep image
  have hslots' (j : TileIndex) : (p.tiles.get j).Shows (p.allocator.keep image) p.textureMemory
      (slots j) := (hslots j).retain fun _ _ => hkept _
  refine ⟨_, frame, rfl, shows_update hslots' ?_ fun j hj => ?_,
    hframe.retain fun _ _ _ _ => hkept _⟩
  · -- The slot itself has the loaded image from now on.
    rw [get_cacheLoadedImage, get_prepareTileLoad]
    refine ⟨(hslots i).properties, rfl, rfl, nofun, fun texture hnew => ?_⟩
    cases hnew
    refine ⟨image, ⟨?_, rfl, rfl⟩, rfl, ?_⟩
    · show (p.allocator.keep image).get? p.allocator.fresh = some image
      rw [TexturePool.get?_keep, if_pos rfl]
    · show image.HasSize rect.width (min rect.height rect.height)
      rwa [Nat.min_self]
  · show (TileTable.set _ i _).get j = _
    rw [TileTable.get_set_of_ne _ hj]
    exact (TileTable.get_set_drop_of_ne _ hj _).trans (p.tiles.get_set_drop_of_ne hj _)

/-- A tile load has the same outcome on both sides. -/
theorem loadTile (h : p.Mirrors u) (m : ExternalMemory) (tile : Nat) (rect : TileRect) :
    (p.loadTile m tile rect).1 = (u.loadTile m tile rect).1 ∧
      (p.loadTile m tile rect).2.Mirrors (u.loadTile m tile rect).2 := by
  have hsettings := h.settings_eq
  -- Both sides read the same image from external memory.
  have himage : m.decode (u.textureImage.address +
      .ofNat (2 * (u.textureImage.width * rect.tlo + rect.slo))) u.textureImage.width rect.width
      rect.height u.textureImage.format u.textureImage.size = p.tileLoadImage m rect := by
    obtain ⟨slots, frame, rfl, -⟩ := h
    rfl
  unfold Uncached.loadTile
  simp only [himage, hsettings]
  rcases p.loadTile_cases m tile rect with
    ⟨e, hdecode, heq⟩ | ⟨hdecode, heq⟩ | ⟨image, hdecode, heq⟩
  · rw [heq, hdecode]
    exact ⟨rfl, h.prepareTileLoad _ rect⟩
  · rw [heq, hdecode]
    exact ⟨rfl, h.prepareTileLoad _ rect⟩
  · rw [heq, hdecode]
    exact ⟨rfl, h.cacheLoadedImage _ (Image.hasSize_of_decode hdecode)⟩

/-- A command has the same outcome with and without a cache, and the processors stay alike. -/
theorem execute (h : p.Mirrors u) (m : ExternalMemory) (command : Command) :
    (p.execute m command).1 = (u.execute m command).1 ∧
      (p.execute m command).2.Mirrors (u.execute m command).2 := by
  cases command with
  | triangle t => exact h.drawTriangle t
  | setTileSize tile rect => exact ⟨rfl, h.setTileSize m tile rect⟩
  | loadBlock tile slo tlo shi dt =>
    obtain ⟨hsame, hstate⟩ := h.loadBlock m tile slo tlo shi dt
    exact ⟨congrArg Except.ok hsame, hstate⟩
  | loadTile tile rect => exact h.loadTile m tile rect
  | setTile tile properties => exact ⟨rfl, h.setTile m tile properties⟩
  -- A rectangle is recorded with the fill colour, the same on both sides.
  | fillRectangle corners =>
    obtain ⟨slots, frame, rfl, hslots, hframe⟩ := h
    refine ⟨rfl, slots, _, rfl, hslots, hframe.triangles, ?_, rfl, hframe.registers⟩
    exact congrArg (Array.push · ⟨corners, p.fillColor⟩) hframe.fillRects
  | _ =>
    obtain ⟨slots, frame, rfl, hslots, hframe⟩ := h
    exact ⟨rfl, slots, frame, rfl, hslots, hframe⟩

/-- Rows have the same counts on both sides. -/
theorem run (m : ExternalMemory) (rows : List Row) :
    ∀ (counts : BatchCounts) {p : Processor TexturePool} {u : Uncached}, p.Mirrors u →
      (p.run m counts rows).1 = (u.run m counts rows).1 ∧
        (p.run m counts rows).2.Mirrors (u.run m counts rows).2 := by
  induction rows with
  | nil => exact fun counts p u h => ⟨rfl, h⟩
  | cons row rest ih =>
    intro counts p u h
    obtain ⟨hsame, hstate⟩ := h.execute m (.decode row)
    unfold Processor.run Uncached.run
    rcases hp : p.execute m (.decode row) with ⟨result, q⟩
    rcases hu : u.execute m (.decode row) with ⟨result', v⟩
    rw [hp, hu] at hsame hstate
    obtain rfl : result = result' := hsame
    cases result with
    | error e => exact ⟨rfl, hstate⟩
    | ok outcome => exact ih (counts.record outcome) hstate

theorem processBatch (h : p.Mirrors u) (m : ExternalMemory) (batch : Batch) :
    (p.processBatch m batch).1 = (u.processBatch m batch).1 ∧
      (p.processBatch m batch).2.Mirrors (u.processBatch m batch).2 := by
  unfold Processor.processBatch Uncached.processBatch
  cases batch.validate with
  | error e => exact ⟨rfl, h⟩
  | ok => exact run m batch.rows .zero h

/-- A slot that is decoded shows the image that is sampled without a cache. -/
theorem decodeTile (h : p.Mirrors u) (n : Nat) :
    (p.decodeTile n).2.Mirrors u ∧
      Answer.Shows (p.decodeTile n).2.allocator (.texture (p.decodeTile n).1)
        (.image (u.decodeTile n)) := by
  unfold Processor.decodeTile Uncached.decodeTile
  cases TileIndex.ofNat? n with
  | none => exact ⟨h, .noTexture _⟩
  | some i =>
    obtain ⟨q, hq, ⟨e, heq, hsample⟩ | ⟨texture, image, heq, hsample, hshows⟩⟩ :=
      h.resolveTexture i
    · simp only [heq, hsample]
      exact ⟨hq, .noTexture _⟩
    · simp only [heq, hsample]
      exact ⟨hq, .texture hshows⟩

theorem takeFrame (h : p.Mirrors u) : p.takeFrame.2.Mirrors u.takeFrame.2 := by
  obtain ⟨slots, frame, rfl, hslots, -⟩ := h
  exact ⟨slots, .empty, rfl, fun i => (hslots i).clearLoadCount, .nil, rfl, rfl, rfl⟩

theorem shows_takeFrame (h : p.Mirrors u) : p.takeFrame.1.Shows p.allocator u.takeFrame.1 := by
  obtain ⟨slots, frame, rfl, -, hframe⟩ := h
  exact ⟨hframe.triangles, hframe.fillRects, hframe.canRender, rfl⟩

theorem reset (h : p.Mirrors u) : p.reset.Mirrors (.powerOn u.settings) := by
  rw [h.settings_eq]
  exact mirrors_powerOn p.settings _

end Mirrors

end Processor

/-! ## Sessions -/

namespace Session

/-- A session over a pool and a processor without textures. The handles of the session are accounted
for, so a release takes none that is still needed. -/
structure Mirrors (base : TexturePool) (s : Session) (u : Uncached) : Prop where
  accounted : s.Accounted base
  anchored : s.Anchored
  processor : s.processor.Mirrors u

namespace Mirrors

variable {base : TexturePool} {s : Session} {u : Uncached}

/-- A release of handles that were handed off takes no image that is cached or queued. -/
theorem release (h : s.Mirrors base u) {handles : List TextureHandle}
    (hoff : ∀ handle ∈ handles, handle ∈ s.handedOff) :
    (s.processor.releaseTextures handles).Mirrors u := by
  -- Cached and queued handles are the table's, and none of those was handed off.
  have hkept {handle : TextureHandle} (hmem : handle ∈ s.processor.tiles.handles) :
      s.pool.Retains (TextureAllocator.releaseAll s.pool handles) handle :=
    s.pool.retains_releaseAll fun hin => h.accounted.not_mem_handedOff hmem (hoff _ hin)
  obtain ⟨slots, frame, rfl, hslots, hframe⟩ := h.processor
  refine ⟨slots, frame, rfl, fun i => (hslots i).retain fun texture htexture => ?_,
    hframe.retain fun triangle hmem texture htexture => ?_⟩
  · exact hkept (List.mem_append_left _ (TileTable.mem_cached_iff.mpr ⟨i, texture, htexture, rfl⟩))
  · exact hkept (h.anchored triangle hmem texture htexture)

/-- An operation has the same answer with and without a cache, and the sessions stay alike. -/
theorem perform (h : s.Mirrors base u) {op : Operation} (hop : s.Permits op) :
    (s.perform op).Mirrors base (u.perform op).2 ∧
      Answer.Shows (s.perform op).pool (s.processor.perform op).1 (u.perform op).1 := by
  -- Ownership of handles is kept on its own; what is left is to compare the answers.
  have haccounted := h.accounted.perform hop
  have hanchored := h.anchored.perform op
  cases op with
  | processBatch m batch =>
    obtain ⟨hsame, hstate⟩ := h.processor.processBatch m batch
    refine ⟨⟨haccounted, hanchored, hstate⟩, ?_⟩
    show Answer.Shows _ (.counts _) (.counts _)
    rw [hsame]
    exact .counts _
  | execute m row =>
    obtain ⟨hsame, hstate⟩ := h.processor.execute m (.decode row)
    refine ⟨⟨haccounted, hanchored, hstate⟩, ?_⟩
    show Answer.Shows _ (.outcome _) (.outcome _)
    rw [hsame]
    exact .outcome _
  | decodeTile n =>
    obtain ⟨hstate, hshows⟩ := h.processor.decodeTile n
    exact ⟨⟨haccounted, hanchored, hstate⟩, hshows⟩
  | takeFrame =>
    exact ⟨⟨haccounted, hanchored, h.processor.takeFrame⟩, .frame h.processor.shows_takeFrame⟩
  | reset => exact ⟨⟨haccounted, hanchored, h.processor.reset⟩, .done⟩
  | release handles => exact ⟨⟨haccounted, hanchored, h.release hop⟩, .done⟩

/-- Sessions that are permitted keep both sides alike. -/
theorem after (h : s.Mirrors base u) {ops : List Operation} (hops : s.PermitsAll ops) :
    (s.after ops).Mirrors base (u.after ops) := by
  induction ops generalizing s u with
  | nil => exact h
  | cons op rest ih => exact ih (h.perform hops.1).1 hops.2

end Mirrors

/-- **The texture cache does not show.** After any session, the pool has an image behind every
cached texture; its dimensions are those of the texture and of what is loaded of the rectangle of
the slot, and none of them is zero; and it is the image that the slot and texture memory have now,
or that the last tile load had if the texture comes from there. So the triangles in the frame have
the pixels that they would have without a cache, and so has every answer to the next operation,
frames that are handed off included. -/
theorem cache_unobservable (settings : Settings) (pool : TexturePool) {ops : List Operation}
    (hops : (start settings pool).PermitsAll ops) :
    let s := (start settings pool).after ops
    let u := (Uncached.powerOn settings).after ops
    (∀ i texture, (s.processor.tiles.get i).texture = some texture →
      let tile := s.processor.tiles.get i
      ∃ image, s.pool.get? texture.handle = some image ∧
        (image.width = texture.width ∧ image.width = tile.rect.width ∧ 0 < image.width) ∧
        (image.height = texture.height ∧ image.height = min tile.rect.height tile.validHeight ∧
          0 < image.height) ∧
        image.bytes.size = 4 * image.width * image.height ∧
        ((u.slots i).loaded = some image ∨
          (u.slots i).loaded = none ∧ s.processor.textureMemory.decode tile = .ok (some image))) ∧
    s.processor.frame.Shows s.pool u.frame ∧
    ∀ op, s.Permits op →
      Answer.Shows (s.perform op).pool (s.processor.perform op).1 (u.perform op).1 := by
  intro s u
  have hstart : (start settings pool).Mirrors pool (.powerOn settings) :=
    ⟨Accounted.start settings pool, Anchored.start settings pool,
      Processor.mirrors_powerOn settings pool⟩
  have h : s.Mirrors pool u := hstart.after hops
  obtain ⟨slots, frame, hu, hslots, hframe⟩ := h.processor
  refine ⟨fun i texture htexture => ?_, ?_, fun op hop => (h.perform hop).2⟩
  · -- The image of a slot, from what the mirrored slot is sampled to.
    obtain ⟨image, hshows, hsample, hsize⟩ := (hslots i).texture texture htexture
    refine ⟨image, hshows.get?, ⟨hshows.width.symm, hsize.width_eq, ?_⟩,
      ⟨hshows.height.symm, hsize.height_eq, ?_⟩, ?_, ?_⟩
    · rw [hsize.width_eq]
      exact hsize.width_pos
    · rw [hsize.height_eq]
      exact hsize.height_pos
    · rw [hsize.size_bytes, Image.expectedBytes, Nat.mul_comm, Nat.mul_assoc]
    · rw [hu]
      exact (hslots i).image_eq hsample
  · rw [hu]
    exact hframe

/-- One tile has its texture from texture memory, another one straight from external memory. Both
are drawn, and one of them again in the next frame. -/
def drawFromBoth : List Operation :=
  let memory := .ofBytes fun address => .ofNat address.toNat
  let axis : TileAxis := default
  [.processBatch memory (.ofRows [
      .setTextureImage 0 2 4 0, .setTile 0 0 2 0 8 0 axis axis, .setTileSize 0 ⟨0, 3, 0, 0⟩,
      .loadBlock 0 0 0 3 0, [0x0A000000], .loadTile 1 ⟨0, 1, 0, 0⟩, [0x0A010000]]),
    .takeFrame, .execute memory [0x0A000000]]

/-- A slot decoded from texture memory and one filled by a tile load, with a triangle from the
first. -/
theorem cache_unobservable_drawFromBoth :
    (start .standard .empty).PermitsAll drawFromBoth ∧
    let s := (start .standard .empty).after drawFromBoth
    let u := (Uncached.powerOn .standard).after drawFromBoth
    s.cached = [⟨1⟩, ⟨2⟩] ∧
    (∃ image, s.pool.get? ⟨1⟩ = some image ∧
      s.processor.textureMemory.decode (s.processor.tiles.get 0) = .ok (some image)) ∧
    (∃ image, s.pool.get? ⟨2⟩ = some image ∧ (u.slots 1).loaded = some image) ∧
    u.frame.triangles.length = 1 ∧ s.processor.frame.Shows s.pool u.frame := by
  refine ⟨by decide +kernel, by decide +kernel, ?_⟩
  obtain ⟨hslots, hframe, -⟩ :=
    @cache_unobservable .standard .empty drawFromBoth (by decide +kernel)
  obtain ⟨image, hget, -, -, -, hmemory⟩ := hslots 0 ⟨⟨1⟩, 4, 1⟩ (by decide +kernel)
  obtain ⟨loaded, hloaded, -, -, -, hexternal⟩ := hslots 1 ⟨⟨2⟩, 2, 1⟩ (by decide +kernel)
  -- Only the second slot was filled by a tile load.
  have hnone : (((Uncached.powerOn .standard).after drawFromBoth).slots 0).loaded = none := by
    decide +kernel
  have hsome : (((Uncached.powerOn .standard).after drawFromBoth).slots 1).loaded ≠ none := by
    decide +kernel
  rw [hnone] at hmemory
  refine ⟨⟨image, hget, ?_⟩, ⟨loaded, hloaded, ?_⟩, by decide +kernel, hframe⟩
  · exact (hmemory.resolve_left nofun).2
  · exact hexternal.resolve_right fun h => hsome h.1

end Session

end DisplayProcessor
