import DisplayProcessor.Assembly
import DisplayProcessor.Proofs.RowByRow
import Mathlib.Data.List.Perm.Basic

/-!
# Who owns a texture handle

Every texture handle has one owner: the tile slot that caches it, the list of retired handles that
wait for the next frame, or a frame that was handed off. Changes to tiles move handles between
owners as a permutation, so none is lost and none is owned twice, and the live textures of the pool
are exactly those that have an owner.

- `TileTable.handles`: the handles that the table owns, cached or retired.
- `TileTable.handles_drop`, `TileTable.handles_install` and so on: how changes of the table move
  them.
- `Processor.MovesHandles`: all that a command does to handles, over any allocator;
  `Processor.Accrues`: the same over a texture pool.
- `Session.Accounted`: the invariant of sessions; `Session.live_iff_owned`: what it says.
-/

namespace DisplayProcessor

open scoped List
open List (Perm)

namespace TileTable

/-- The handles that slots cache. -/
def cached (table : TileTable) : List TextureHandle :=
  table.toList.flatMap cachedHandles

/-- The handles that the table owns. -/
def handles (table : TileTable) : List TextureHandle :=
  table.cached ++ table.retired

/-- A handle is cached if some slot caches a texture with this handle. -/
theorem mem_cached_iff {table : TileTable} {handle : TextureHandle} :
    handle ∈ table.cached ↔
      ∃ i texture, (table.get i).texture = some texture ∧ texture.handle = handle := by
  unfold cached toList cachedHandles
  simp only [List.mem_flatMap, Option.mem_toList, Option.map_eq_some_iff]
  constructor
  · rintro ⟨tile, htile, texture, htexture, rfl⟩
    obtain ⟨i, hi, rfl⟩ := List.getElem_of_mem htile
    have hlt : i < 8 := by simpa using hi
    exact ⟨⟨i, hlt⟩, texture, htexture, rfl⟩
  · rintro ⟨i, texture, htexture, rfl⟩
    refine ⟨table.get i, ?_, texture, htexture, rfl⟩
    exact Vector.mem_toList_iff.mpr (Vector.getElem_mem i.isLt)

/-- Replacing a slot trades the handle of the old slot for that of the new one. -/
theorem cached_set (table : TileTable) (i : TileIndex) (tile : Tile) :
    cachedHandles (table.get i) ++ (table.set i tile).cached ~
      cachedHandles tile ++ table.cached := by
  have hlt : i.val < table.toList.length := by simp [toList]
  have hset : (table.set i tile).toList = table.toList.set i tile := Vector.toList_set i.isLt
  have hget : table.toList[i.val] = table.get i := by simp [toList, get]
  -- Both tables have the same seven other slots.
  have hnew := (List.set_perm_cons_eraseIdx hlt tile).flatMap_right cachedHandles
  have hold := (List.getElem_cons_eraseIdx_perm hlt).flatMap_right cachedHandles
  rw [List.flatMap_cons, ← hset] at hnew
  rw [List.flatMap_cons, hget] at hold
  calc cachedHandles (table.get i) ++ (table.set i tile).cached
    _ ~ cachedHandles (table.get i) ++ (cachedHandles tile ++ _) := hnew.append_left _
    _ ~ cachedHandles tile ++ (cachedHandles (table.get i) ++ _) :=
      List.perm_append_comm_assoc ..
    _ ~ cachedHandles tile ++ table.cached := hold.append_left _

/-- A change to a slot that leaves its texture alone moves no handle. -/
theorem handles_set {table : TileTable} {i : TileIndex} {tile : Tile}
    (h : tile.texture = (table.get i).texture) : (table.set i tile).handles ~ table.handles := by
  have hsame : cachedHandles tile = cachedHandles (table.get i) := by
    unfold cachedHandles
    rw [h]
  have hset := table.cached_set i tile
  rw [hsame, List.perm_append_left_iff] at hset
  exact hset.append_right _

/-- The handle of a dropped texture moves from its slot to the retired ones. -/
theorem handles_drop (table : TileTable) (i : TileIndex) :
    (table.drop i).handles ~ table.handles := by
  have hset : cachedHandles (table.get i) ++ (table.drop i).cached ~ table.cached :=
    table.cached_set i { table.get i with texture := none }
  calc (table.drop i).cached ++ (table.retired ++ cachedHandles (table.get i))
    _ ~ (table.drop i).cached ++ (cachedHandles (table.get i) ++ table.retired) :=
      List.perm_append_comm.append_left _
    _ ~ cachedHandles (table.get i) ++ ((table.drop i).cached ++ table.retired) :=
      List.perm_append_comm_assoc ..
    _ = (cachedHandles (table.get i) ++ (table.drop i).cached) ++ table.retired :=
      (List.append_assoc ..).symm
    _ ~ table.cached ++ table.retired := hset.append_right _

/-- New properties of a slot move its handle to the pending ones. -/
theorem handles_setProperties (table : TileTable) (i : TileIndex) (properties : TileProperties) :
    (table.setProperties i properties).handles ~ table.handles := by
  refine Perm.trans (handles_set ?_) (table.handles_drop i)
  rfl

/-- A new rectangle of a slot moves its handle to the pending ones. -/
theorem handles_setRect (table : TileTable) (i : TileIndex) (rect : TileRect)
    (texelsLoaded : Nat) : (table.setRect i rect texelsLoaded).handles ~ table.handles := by
  refine Perm.trans (handles_set ?_) (table.handles_drop i)
  split <;> rfl

/-- A texture that is installed joins the handles of the table. -/
theorem handles_install (table : TileTable) (i : TileIndex) (texture : TextureRef) :
    (table.install i texture).handles ~ texture.handle :: table.handles := by
  have hset := (table.drop i).cached_set i
    { (table.drop i).get i with texture := some texture }
  have hempty : cachedHandles ((table.drop i).get i) = [] := by
    rw [get_drop_self]
    rfl
  rw [hempty] at hset
  calc (table.install i texture).cached ++ (table.drop i).retired
    _ ~ (texture.handle :: (table.drop i).cached) ++ (table.drop i).retired :=
      hset.append_right _
    _ ~ texture.handle :: table.handles := (table.handles_drop i).cons _

/-- After a block load no slot has a texture. -/
theorem cached_dropAll (table : TileTable) (texelsLoaded : Nat) :
    (table.dropAll texelsLoaded).cached = [] := by
  refine List.flatMap_eq_nil_iff.mpr fun tile htile => ?_
  have hmap : tile ∈ (table.tiles.map fun tile =>
      { tile with texture := none }.countRows texelsLoaded).toList := htile
  rw [Vector.toList_map] at hmap
  obtain ⟨old, -, rfl⟩ := List.mem_map.mp hmap
  rfl

/-- A block load moves all cached handles to the retired ones. -/
theorem handles_dropAll (table : TileTable) (texelsLoaded : Nat) :
    (table.dropAll texelsLoaded).handles ~ table.handles := by
  show (table.dropAll texelsLoaded).cached ++ (table.retired ++ table.cached) ~
    table.cached ++ table.retired
  rw [cached_dropAll, List.nil_append]
  exact List.perm_append_comm

end TileTable

/-! ## What a command does to handles -/

namespace Processor

section

variable {α : Type} [TextureAllocator α]

/-- All that a command does to handles and to the allocator. Handles move between owners. One image
may have been offered to the allocator, and if it was kept, its handle joins the others; it has as
many bytes as its dimensions ask for. -/
inductive MovesHandles (p q : Processor α) : Prop
  | moved (hallocator : q.allocator = p.allocator)
      (hhandles : q.tiles.handles ~ p.tiles.handles)
  | refused {image : Image} {e : TextureError} (hsize : image.bytes.size = image.expectedBytes)
      (hrefused : TextureAllocator.allocate p.allocator image = (.error e, q.allocator))
      (hhandles : q.tiles.handles ~ p.tiles.handles)
  | built {image : Image} {handle : TextureHandle}
      (hsize : image.bytes.size = image.expectedBytes)
      (hbuilt : TextureAllocator.allocate p.allocator image = (.ok handle, q.allocator))
      (hhandles : q.tiles.handles ~ handle :: p.tiles.handles)

theorem MovesHandles.refl (p : Processor α) : p.MovesHandles p :=
  .moved rfl (Perm.refl _)

/-- The frame owns no handle. -/
theorem MovesHandles.withFrame {p q : Processor α} (h : p.MovesHandles q) (frame : Frame) :
    p.MovesHandles { q with frame := frame } := by
  cases h with
  | moved hallocator hhandles => exact .moved hallocator hhandles
  | refused hsize hrefused hhandles => exact .refused hsize hrefused hhandles
  | built hsize hbuilt hhandles => exact .built hsize hbuilt hhandles

/-- The search for a texture builds at most one, for a slot that has none. -/
theorem resolveTexture_movesHandles (p : Processor α) (i : TileIndex) :
    p.MovesHandles (p.resolveTexture i).2 := by
  have hspec := p.resolveTexture_spec i
  generalize p.resolveTexture i = result at hspec
  cases hspec with
  | cached => exact .refl p
  | empty => exact .refl p
  | undecodable => exact .refl p
  | refused _ hdecode hrefused =>
    exact .refused (TextureMemory.hasSize_of_decode hdecode).size_bytes hrefused (Perm.refl _)
  | built _ hdecode hbuilt =>
    exact .built (TextureMemory.hasSize_of_decode hdecode).size_bytes hbuilt
      (p.tiles.handles_install i _)

theorem decodeTile_movesHandles (p : Processor α) (n : Nat) :
    p.MovesHandles (p.decodeTile n).2 :=
  decodeTile_induction (P := p.MovesHandles) (.refl p) p.resolveTexture_movesHandles n

/-- A block load moves every handle to the pending ones. -/
theorem loadBlock_movesHandles (p : Processor α) (m : ExternalMemory)
    (tile slo tlo shi dt : Nat) : p.MovesHandles (p.loadBlock m tile slo tlo shi dt).2 := by
  rw [loadBlock_eq]
  split
  · exact .refl p
  · exact .moved rfl (p.tiles.handles_dropAll _)

omit [TextureAllocator α] in
/-- Before a tile load the handle of the slot is moved to the pending ones. -/
theorem prepareTileLoad_handles (p : Processor α) (i : TileIndex) (rect : TileRect) :
    (p.prepareTileLoad i rect).tiles.handles ~ p.tiles.handles := by
  refine Perm.trans (TileTable.handles_set ?_) (p.tiles.handles_drop i)
  rfl

/-- A tile load builds at most one texture, for a slot from which the old one was taken. -/
theorem loadTile_movesHandles (p : Processor α) (m : ExternalMemory) (tile : Nat)
    (rect : TileRect) : p.MovesHandles (p.loadTile m tile rect).2 := by
  have hprepare := p.prepareTileLoad_handles (.wrap tile) rect
  have hspec := p.loadTile_spec m tile rect
  generalize p.loadTile m tile rect = result at hspec
  cases hspec with
  | empty => exact .moved rfl hprepare
  | undecodable => exact .moved rfl hprepare
  | refused himage hrefused =>
    exact .refused (Image.hasSize_of_decode himage).size_bytes hrefused hprepare
  | built himage hbuilt =>
    refine .built (Image.hasSize_of_decode himage).size_bytes hbuilt
      (Perm.trans (TileTable.handles_set ?_) ?_)
    · rfl
    · exact (TileTable.handles_install _ _ _).trans (hprepare.cons _)

/-- A command moves handles, and builds at most one texture. -/
theorem execute_movesHandles (p : Processor α) (m : ExternalMemory) (command : Command) :
    p.MovesHandles (p.execute m command).2 := by
  cases command with
  | triangle t =>
    exact drawTriangle_induction (P := p.MovesHandles) (.refl p) p.resolveTexture_movesHandles
      (fun _ frame h => h.withFrame frame) t
  | setTileSize tile rect => exact .moved rfl (p.tiles.handles_setRect _ _ _)
  | loadBlock tile slo tlo shi dt => exact p.loadBlock_movesHandles m tile slo tlo shi dt
  | loadTile tile rect => exact p.loadTile_movesHandles m tile rect
  | setTile tile properties => exact .moved rfl (p.tiles.handles_setProperties _ _)
  | _ => exact .moved rfl (Perm.refl _)

end

/-- The textures of `q` are those of `p`, up to one that was built since. Handles may have moved
between owners. -/
def Accrues (p q : Processor TexturePool) : Prop :=
  (q.allocator = p.allocator ∧ q.tiles.handles ~ p.tiles.handles) ∨
  ∃ image, q.allocator = p.allocator.keep image ∧
    q.tiles.handles ~ p.allocator.fresh :: p.tiles.handles

/-- A pool keeps every image that it is offered. -/
theorem MovesHandles.accrues {p q : Processor TexturePool} (h : p.MovesHandles q) :
    p.Accrues q := by
  cases h with
  | moved hallocator hhandles => exact .inl ⟨hallocator, hhandles⟩
  | refused hsize hrefused =>
    cases (p.allocator.allocate_eq_keep hsize).symm.trans hrefused
  | built hsize hbuilt hhandles =>
    obtain ⟨hhandle, hallocator⟩ :=
      Prod.mk.inj ((p.allocator.allocate_eq_keep hsize).symm.trans hbuilt)
    cases hhandle
    exact .inr ⟨_, hallocator.symm, hhandles⟩

theorem resolveTexture_accrues (p : Processor TexturePool) (i : TileIndex) :
    p.Accrues (p.resolveTexture i).2 :=
  (p.resolveTexture_movesHandles i).accrues

theorem decodeTile_accrues (p : Processor TexturePool) (n : Nat) :
    p.Accrues (p.decodeTile n).2 :=
  (p.decodeTile_movesHandles n).accrues

theorem loadTile_accrues (p : Processor TexturePool) (m : ExternalMemory) (tile : Nat)
    (rect : TileRect) : p.Accrues (p.loadTile m tile rect).2 :=
  (p.loadTile_movesHandles m tile rect).accrues

/-- A command only adds handles to those of the tile table, and to the pool. -/
theorem execute_accrues (p : Processor TexturePool) (m : ExternalMemory) (command : Command) :
    p.Accrues (p.execute m command).2 :=
  (p.execute_movesHandles m command).accrues

end Processor

/-! ## What a command does to the frame -/

namespace Processor

/-- The texture that was found for a tile is cached there. -/
theorem texture_of_resolveTexture {p q : Processor TexturePool} {i : TileIndex}
    {texture : TextureRef} (h : p.resolveTexture i = (.ok (some texture), q)) :
    (q.tiles.get i).texture = some texture := by
  rcases p.resolveTexture_cases i with
    ⟨_, htexture, heq⟩ | ⟨-, ⟨_, -, heq⟩ | ⟨-, heq⟩ | ⟨image, -, heq⟩⟩ <;>
    rw [heq] at h <;> cases h
  · exact htexture
  · show ((p.tiles.install i _).get i).texture = _
    rw [TileTable.get_install_self]

/-- A triangle is recorded with a texture that a slot caches, or with none. -/
theorem drawTriangle_frame (p : Processor TexturePool) (t : TriangleCommand) :
    (p.drawTriangle t).2.frame = p.frame ∨
    ∃ triangle, (p.drawTriangle t).2.frame = p.frame.pushTriangle triangle ∧
      ∀ texture, triangle.texture = some texture →
        texture.handle ∈ (p.drawTriangle t).2.tiles.cached := by
  have hresolve := p.resolveTexture_frame (.wrap t.edges.tile)
  rcases p.drawTriangle_cases t with ⟨-, heq⟩ | ⟨texture, q, -, hq, heq⟩ | ⟨e, q, -, hq, heq⟩
  · rw [heq]
    refine .inr ⟨_, rfl, fun texture htexture => ?_⟩
    cases htexture
  · rw [hq] at hresolve
    rw [heq, ← show q.frame = p.frame from hresolve]
    refine .inr ⟨_, rfl, fun found hfound => ?_⟩
    have htexture : texture = some found := hfound
    rw [htexture] at hq
    -- The texture was found in a slot or built for it, and is still there.
    show found.handle ∈ q.tiles.cached
    exact TileTable.mem_cached_iff.mpr ⟨_, found, texture_of_resolveTexture hq, rfl⟩
  · rw [hq] at hresolve
    rw [heq]
    exact .inl hresolve

/-- A command leaves the frame alone, or adds a rectangle, or adds a triangle with a texture that
is then cached. -/
theorem execute_frame (p : Processor TexturePool) (m : ExternalMemory) (command : Command) :
    (p.execute m command).2.frame = p.frame ∨
    (∃ rect, (p.execute m command).2.frame = p.frame.pushFillRect rect) ∨
    ∃ triangle, (p.execute m command).2.frame = p.frame.pushTriangle triangle ∧
      ∀ texture, triangle.texture = some texture →
        texture.handle ∈ (p.execute m command).2.tiles.cached := by
  cases command with
  | triangle t =>
    rcases p.drawTriangle_frame t with h | h
    · exact .inl h
    · exact .inr (.inr h)
  | loadBlock tile slo tlo shi dt => exact .inl (p.loadBlock_frame m tile slo tlo shi dt)
  | loadTile tile rect => exact .inl (p.loadTile_frame m tile rect)
  | fillRectangle corners => exact .inr (.inl ⟨_, rfl⟩)
  | _ => exact .inl rfl

/-- No command retires a handle to the frame under construction. -/
theorem execute_frame_retired (p : Processor TexturePool) (m : ExternalMemory)
    (command : Command) : (p.execute m command).2.frame.retired = p.frame.retired := by
  rcases p.execute_frame m command with h | ⟨rect, h⟩ | ⟨triangle, h, -⟩
  · rw [h]
  · rw [h]
    rfl
  · rw [h]
    rfl

end Processor

/-! ## Sessions -/

namespace Session

/-- The handles that tile slots cache. -/
def cached (s : Session) : List TextureHandle :=
  s.processor.tiles.cached

/-- The retired handles that wait for the next frame. -/
def pending (s : Session) : List TextureHandle :=
  s.processor.tiles.retired

/-- The handles with an owner, and what the pool knows of them. `base` is the pool at power-on. -/
structure Accounted (base : TexturePool) (s : Session) : Prop where
  distinct : (s.processor.tiles.handles ++ s.handedOff).Nodup
  issued : ∀ handle ∈ s.processor.tiles.handles ++ s.handedOff,
    s.pool.Issued handle ∧ ¬ base.Issued handle
  base_issued : ∀ handle, base.Issued handle → s.pool.Issued handle
  released : ∀ handle ∈ s.released, handle ∈ s.handedOff
  live : ∀ handle, s.pool.Live handle ↔
    base.Live handle ∨ handle ∈ s.processor.tiles.handles ∨
      (handle ∈ s.handedOff ∧ handle ∉ s.released)
  frame_retired : s.processor.frame.retired = []

namespace Accounted

variable {base : TexturePool} {s : Session}

/-- At power-on nothing is owned, and only the textures that were there before are live. -/
theorem start (settings : Settings) (base : TexturePool) :
    Accounted base (Session.start settings base) where
  distinct := List.nodup_nil
  issued _ h := absurd h List.not_mem_nil
  base_issued _ h := h
  released _ h := absurd h List.not_mem_nil
  live handle := by
    refine ⟨.inl, ?_⟩
    rintro (h | h | ⟨h, -⟩)
    · exact h
    · exact absurd h List.not_mem_nil
    · exact absurd h List.not_mem_nil
  frame_retired := rfl

/-- A handle with an owner in the table was not handed off. -/
theorem not_mem_handedOff (h : Accounted base s) {handle : TextureHandle}
    (hmem : handle ∈ s.processor.tiles.handles) : handle ∉ s.handedOff :=
  fun hoff => (List.nodup_append.mp h.distinct).2.2 handle hmem handle hoff rfl

theorem not_mem_released (h : Accounted base s) {handle : TextureHandle}
    (hmem : handle ∈ s.processor.tiles.handles) : handle ∉ s.released :=
  fun hreleased => h.not_mem_handedOff hmem (h.released handle hreleased)

/-- A handle in the tile table is live. -/
theorem live_of_mem (h : Accounted base s) {handle : TextureHandle}
    (hmem : handle ∈ s.processor.tiles.handles) : s.pool.Live handle :=
  (h.live handle).mpr (.inr (.inl hmem))

/-- What moves handles and builds at most one texture keeps the account. -/
theorem of_accrues (h : Accounted base s) {q : Processor TexturePool}
    (hq : s.processor.Accrues q) (hretired : q.frame.retired = []) :
    Accounted base (s.withProcessor q) := by
  obtain ⟨hpool, hperm⟩ | ⟨image, hpool, hperm⟩ := hq
  · -- Nothing was built, and handles have moved within the table.
    have hmem (handle : TextureHandle) :
        handle ∈ q.tiles.handles ↔ handle ∈ s.processor.tiles.handles := hperm.mem_iff
    have hsame : (s.withProcessor q).pool = s.pool := hpool
    constructor
    · exact ((hperm.append_right _).nodup_iff).mpr h.distinct
    · intro handle hin
      rw [hsame]
      exact h.issued handle ((hperm.append_right _).mem_iff.mp hin)
    · rw [hsame]
      exact h.base_issued
    · exact h.released
    · intro handle
      rw [hsame]
      show _ ↔ _ ∨ handle ∈ q.tiles.handles ∨ _
      rw [hmem]
      exact h.live handle
    · exact hretired
  · -- The handle that was built is new to the pool, so it has no other owner.
    have hkeep : (s.withProcessor q).pool = s.pool.keep image := hpool
    have hperm : q.tiles.handles ~ s.pool.fresh :: s.processor.tiles.handles := hperm
    have hall : q.tiles.handles ++ s.handedOff ~
        s.pool.fresh :: (s.processor.tiles.handles ++ s.handedOff) := hperm.append_right _
    have hfresh : s.pool.fresh ∉ s.processor.tiles.handles ++ s.handedOff :=
      fun hin => s.pool.not_issued_fresh (h.issued _ hin).1
    constructor
    · exact hall.nodup_iff.mpr (List.nodup_cons.mpr ⟨hfresh, h.distinct⟩)
    · intro handle hin
      rw [hkeep]
      rcases List.mem_cons.mp (hall.mem_iff.mp hin) with rfl | hold
      · -- The new handle was not issued by the pool before, and so not by the one at power-on
        -- either.
        exact ⟨s.pool.issued_fresh_keep image,
          fun hbase => s.pool.not_issued_fresh (h.base_issued _ hbase)⟩
      · exact ⟨(h.issued handle hold).1.keep image, (h.issued handle hold).2⟩
    · intro handle hbase
      rw [hkeep]
      exact (h.base_issued handle hbase).keep image
    · exact h.released
    · intro handle
      show (s.withProcessor q).pool.Live handle ↔ _ ∨ handle ∈ q.tiles.handles ∨ _
      rw [hkeep, TexturePool.Live, TexturePool.get?_keep, hperm.mem_iff, List.mem_cons]
      by_cases heq : handle = s.pool.fresh
      · -- The new handle is live and in the table; for the others nothing has changed.
        exact iff_of_true (by rw [if_pos heq]; rfl) (.inr (.inl (.inl heq)))
      · rw [if_neg heq, or_iff_right heq]
        exact h.live handle
    · exact hretired

/-- A command keeps account of the handles. -/
theorem execute (h : Accounted base s) (m : ExternalMemory) (command : Command) :
    Accounted base (s.withProcessor (s.processor.execute m command).2) :=
  h.of_accrues (s.processor.execute_accrues m command)
    ((s.processor.execute_frame_retired m command).trans h.frame_retired)

/-- The hand-off of a frame takes the retired handles along. -/
theorem takeFrame (h : Accounted base s) : Accounted base (s.perform .takeFrame) := by
  have hoff : (s.perform .takeFrame).handedOff = s.handedOff ++ s.pending := by
    show (s.frames ++ [_]).flatMap Frame.retired = _
    rw [List.flatMap_append, List.flatMap_singleton]
    rfl
  have htable : (s.perform .takeFrame).processor.tiles.handles = s.cached :=
    List.append_nil _
  -- Handles only change their owner: those that were pending belong to the frame now.
  have hall : (s.perform .takeFrame).processor.tiles.handles ++ (s.perform .takeFrame).handedOff ~
      s.processor.tiles.handles ++ s.handedOff := by
    rw [hoff, htable]
    show _ ~ (s.cached ++ s.pending) ++ s.handedOff
    rw [List.append_assoc]
    exact List.perm_append_comm.append_left _
  constructor
  · exact hall.nodup_iff.mpr h.distinct
  · exact fun handle hin => h.issued handle (hall.mem_iff.mp hin)
  · exact h.base_issued
  · intro handle hin
    rw [hoff]
    exact List.mem_append_left _ (h.released handle hin)
  · -- What was pending is handed off now, and none of it was released before.
    intro handle
    have hpending : handle ∈ s.pending → handle ∉ s.released :=
      fun hin => h.not_mem_released (List.mem_append_right _ hin)
    have hlive := h.live handle
    rw [show s.processor.tiles.handles = s.cached ++ s.pending from rfl] at hlive
    rw [hoff, htable]
    show s.pool.Live handle ↔ _ ∨ _ ∨ _ ∧ handle ∉ s.released
    rw [hlive, List.mem_append, List.mem_append]
    by_cases hin : handle ∈ s.pending
    · simp only [hin, hpending hin, or_true, not_false_eq_true, and_true, true_or]
    · simp only [hin, or_false]
  · rfl

/-- A reset releases what the table owns. -/
theorem live_reset (h : Accounted base s) (handle : TextureHandle) :
    (s.perform .reset).pool.Live handle ↔
      base.Live handle ∨ (handle ∈ s.handedOff ∧ handle ∉ s.released) := by
  have hpool : (s.perform .reset).pool = TextureAllocator.releaseAll s.pool
      ((s.pending ++ s.cached) ++ s.processor.frame.retired) := rfl
  -- The frame under construction has no retired handles, so what is released is the table's.
  rw [hpool, h.frame_retired, List.append_nil, TexturePool.Live, TexturePool.get?_releaseAll]
  by_cases hin : handle ∈ s.pending ++ s.cached
  · have htable : handle ∈ s.processor.tiles.handles := List.perm_append_comm.mem_iff.mp hin
    rw [if_pos hin]
    refine iff_of_false Bool.false_ne_true ?_
    rintro (hbase | ⟨hoff, -⟩)
    · exact (h.issued handle (List.mem_append_left _ htable)).2 hbase.issued
    · exact h.not_mem_handedOff htable hoff
  · have htable : handle ∉ s.processor.tiles.handles :=
      fun hmem => hin (List.perm_append_comm.mem_iff.mp hmem)
    rw [if_neg hin]
    refine (h.live handle).trans ?_
    rw [or_iff_right htable]

/-- A reset releases all handles in the tile table, and no others. -/
theorem reset (h : Accounted base s) : Accounted base (s.perform .reset) := by
  have htable : (s.perform .reset).processor.tiles.handles = [] := rfl
  -- Released handles stay issued, so they are never given out again.
  have hsize : (s.perform .reset).pool.entries.size = s.pool.entries.size :=
    s.pool.size_entries_releaseAll _
  have hissued (handle : TextureHandle) :
      (s.perform .reset).pool.Issued handle ↔ s.pool.Issued handle := by
    unfold TexturePool.Issued
    rw [hsize]
  constructor
  · exact (List.nodup_append.mp h.distinct).2.1
  · intro handle hin
    rw [hissued]
    exact h.issued handle (List.mem_append_right _ hin)
  · exact fun handle hbase => (hissued handle).mpr (h.base_issued handle hbase)
  · exact h.released
  · intro handle
    rw [h.live_reset, htable, or_iff_right (List.not_mem_nil)]
    rfl
  · rfl

/-- A release of handles that were handed off. -/
theorem release (h : Accounted base s) {handles : List TextureHandle}
    (hoff : ∀ handle ∈ handles, handle ∈ s.handedOff) :
    Accounted base (s.perform (.release handles)) := by
  have hpool : (s.perform (.release handles)).pool =
      TextureAllocator.releaseAll s.pool handles := rfl
  have hissued (handle : TextureHandle) :
      (s.perform (.release handles)).pool.Issued handle ↔ s.pool.Issued handle := by
    unfold TexturePool.Issued
    rw [hpool, s.pool.size_entries_releaseAll]
  constructor
  · exact h.distinct
  · intro handle hin
    rw [hissued]
    exact h.issued handle hin
  · exact fun handle hbase => (hissued handle).mpr (h.base_issued handle hbase)
  · intro handle hin
    rcases List.mem_append.mp hin with hold | hnew
    · exact h.released handle hold
    · exact hoff handle hnew
  · intro handle
    rw [hpool, TexturePool.Live, TexturePool.get?_releaseAll]
    show _ ↔ _ ∨ handle ∈ s.processor.tiles.handles ∨
      (handle ∈ s.handedOff ∧ handle ∉ s.released ++ handles)
    by_cases hin : handle ∈ handles
    · rw [if_pos hin]
      refine iff_of_false Bool.false_ne_true ?_
      -- What the consumer releases was handed off, so it has no other owner.
      rintro (hbase | htable | ⟨-, hkept⟩)
      · exact (h.issued handle (List.mem_append_right _ (hoff handle hin))).2 hbase.issued
      · exact h.not_mem_handedOff htable (hoff handle hin)
      · exact hkept (List.mem_append_right _ hin)
    · rw [if_neg hin, List.mem_append, or_iff_left hin]
      exact h.live handle
  · exact h.frame_retired

/-- Every permitted operation keeps the account. -/
theorem perform (h : Accounted base s) {op : Operation} (hop : s.Permits op) :
    Accounted base (s.perform op) := by
  cases op with
  | processBatch m batch =>
    exact Processor.processBatch_induction
      (P := fun p => Accounted base (s.withProcessor p))
      (fun p command hp => hp.execute m command) h batch
  | execute m row => exact h.execute m (.decode row)
  | decodeTile n =>
    exact h.of_accrues (s.processor.decodeTile_accrues n)
      ((congrArg Frame.retired (s.processor.decodeTile_frame n)).trans h.frame_retired)
  | takeFrame => exact h.takeFrame
  | reset => exact h.reset
  | release handles => exact h.release hop

/-- Sessions that are permitted keep account of the handles. -/
theorem after (h : Accounted base s) {ops : List Operation} (hops : s.PermitsAll ops) :
    Accounted base (s.after ops) :=
  after_induction (fun _ _ hop hs => hs.perform hop) hops h

end Accounted

/-- **Every texture handle has exactly one owner.** Cached, retired and handed-off handles are
pairwise distinct, and a texture is live if its handle is cached, or waits for the next frame, or
was handed off and not yet released; a pool that was in use before power-on keeps what it had. After
a reset only what was handed off and not yet released is left of them. -/
theorem live_iff_owned (settings : Settings) (pool : TexturePool) {ops : List Operation}
    (hops : (start settings pool).PermitsAll ops) :
    let s := (start settings pool).after ops
    (s.cached ++ s.pending ++ s.handedOff).Nodup ∧
    (∀ handle, s.pool.Live handle ↔
      pool.Live handle ∨ handle ∈ s.cached ∨ handle ∈ s.pending ∨
        (handle ∈ s.handedOff ∧ handle ∉ s.released)) ∧
    ∀ handle, (s.perform .reset).pool.Live handle ↔
      pool.Live handle ∨ (handle ∈ s.handedOff ∧ handle ∉ s.released) := by
  intro s
  have h : Accounted pool s := (Accounted.start settings pool).after hops
  refine ⟨h.distinct, fun handle => ?_, h.live_reset⟩
  have htable : handle ∈ s.processor.tiles.handles ↔ handle ∈ s.cached ∨ handle ∈ s.pending :=
    List.mem_append
  rw [h.live handle, htable, or_assoc]

/-- Two tiles are drawn, one from texture memory and one from external memory. The second one
changes, its texture goes out with the frame and is released; then a block load drops the first. -/
def redefineAndReload : List Operation :=
  let memory := .ofBytes fun address => .ofNat address.toNat
  let axis : TileAxis := default
  [.processBatch memory (.ofRows [
      .setTextureImage 0 2 4 0, .setTile 0 0 2 0 8 0 axis axis, .setTileSize 0 ⟨0, 3, 0, 0⟩,
      .loadBlock 0 0 0 3 0, [0x0A000000], .loadTile 1 ⟨0, 1, 0, 0⟩, [0x0A010000]]),
    .execute memory (.setTile 1 0 2 0 8 0 axis axis), .takeFrame, .release [⟨2⟩],
    .execute memory (.loadBlock 0 0 0 3 0), .decodeTile 0]

/-- Handles of all owners at once: cached, pending and handed off, one of these released. -/
theorem live_iff_owned_redefineAndReload :
    (start .standard .empty).PermitsAll redefineAndReload ∧
    let s := (start .standard .empty).after redefineAndReload
    (s.cached = [⟨3⟩] ∧ s.pending = [⟨1⟩] ∧ s.handedOff = [⟨2⟩] ∧ s.released = [⟨2⟩]) ∧
    (s.cached ++ s.pending ++ s.handedOff).Nodup ∧
    (∀ handle, s.pool.Live handle ↔
      TexturePool.empty.Live handle ∨ handle ∈ s.cached ∨ handle ∈ s.pending ∨
        (handle ∈ s.handedOff ∧ handle ∉ s.released)) ∧
    ∀ handle, (s.perform .reset).pool.Live handle ↔
      TexturePool.empty.Live handle ∨ (handle ∈ s.handedOff ∧ handle ∉ s.released) :=
  ⟨by decide +kernel, by decide +kernel, live_iff_owned .standard .empty (by decide +kernel)⟩

end Session

end DisplayProcessor
