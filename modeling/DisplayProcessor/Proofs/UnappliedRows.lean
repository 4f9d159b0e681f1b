import DisplayProcessor.Assembly
import DisplayProcessor.BudgetedPool
import DisplayProcessor.Proofs.CommandCases
import DisplayProcessor.Proofs.RowByRow

/-!
# Rows that are not applied

A row that has no effect, is skipped, is dropped or fails leaves the processor as it was, if the
allocator is not changed by what it refuses. The exception is a tile load, which gives up what its
slot had before it reads any texels. It leaves a vacant slot behind: without a texture, and without
loaded rows from which one could be decoded. Triangles then have no texture rather than an old one,
until the rows of the slot are counted again.

- `TextureAllocator.KeptByRefusal`: a refusal does not change the allocator.
- `Processor.prepareTileLoad_eq`: all that the preparation of a slot changes.
- `Processor.Vacant`, `Processor.vacant_after`: a slot without texture and rows stays so.
- `Processor.recounts`: what counts the rows of a slot again.
- `Processor.unapplied_changes`: the main result.
-/

namespace DisplayProcessor

/-! ## Refusals -/

namespace TextureAllocator

/-- Whatever image an allocator refuses, it is the same afterwards. -/
def KeptByRefusal (α : Type) [TextureAllocator α] : Prop :=
  ∀ (store after : α) (image : Image) (e : TextureError),
    allocate store image = (.error e, after) → after = store

end TextureAllocator

/-- A pool that refuses a texture stays as it is. -/
theorem TexturePool.keptByRefusal : TextureAllocator.KeptByRefusal TexturePool := by
  intro pool after image e h
  have h : pool.allocate image = (.error e, after) := h
  unfold allocate at h
  split at h
  · cases h
  · cases h
    rfl

/-- A budget that refuses a texture spends nothing. -/
theorem BudgetedPool.keptByRefusal : TextureAllocator.KeptByRefusal BudgetedPool := by
  intro store after image e h
  have h : store.allocate image = (.error e, after) := h
  unfold allocate at h
  split at h
  · cases h
    rfl
  · rcases hpool : store.pool.allocate image with ⟨e' | handle, pool⟩
    · rw [hpool] at h
      cases h
      obtain rfl : pool = store.pool := TexturePool.keptByRefusal _ _ _ _ hpool
      rfl
    · rw [hpool] at h
      cases h

namespace Processor

section

variable {α : Type}

/-! ## The slot of a tile load -/

/-- The preparation of a slot changes its rectangle, its rows and its texture, which is retired, and
the current tile. -/
theorem prepareTileLoad_eq (p : Processor α) (i : TileIndex) (rect : TileRect) :
    p.prepareTileLoad i rect =
      { p with
        currentTile := i
        tiles := { p.tiles.set i
            { p.tiles.get i with rect := rect, validHeight := 0, texture := none } with
          retired := p.tiles.retired ++ TileTable.cachedHandles (p.tiles.get i) } } := by
  show { p with
    currentTile := i
    tiles := (p.tiles.drop i).set i
      { (p.tiles.drop i).get i with rect := rect, validHeight := 0 } } = _
  rw [TileTable.set_drop, TileTable.get_drop_self]

/-- A slot without a texture, and without loaded rows from which one could be decoded. -/
structure Vacant (p : Processor α) (i : TileIndex) : Prop where
  texture : (p.tiles.get i).texture = none
  rows : (p.tiles.get i).validHeight = 0

namespace Vacant

variable {p q : Processor α} {i : TileIndex}

/-- Only the slot matters. -/
theorem of_get_eq (h : p.Vacant i) (heq : q.tiles.get i = p.tiles.get i) : q.Vacant i :=
  ⟨heq ▸ h.texture, heq ▸ h.rows⟩

/-- There is nothing to decode in a vacant slot. -/
theorem decode_eq_none (h : p.Vacant i) : p.textureMemory.decode (p.tiles.get i) = .ok none := by
  refine Image.decode_eq_none_iff.mpr (.inr ?_)
  rw [Tile.loadedHeight, h.rows]
  exact Nat.min_zero _

end Vacant

theorem vacant_prepareTileLoad (p : Processor α) (i : TileIndex) (rect : TileRect) :
    (p.prepareTileLoad i rect).Vacant i := by
  have hslot := p.get_prepareTileLoad i rect
  exact ⟨by rw [hslot], by rw [hslot]⟩

end

variable {α : Type} [TextureAllocator α]

/-! ## One command -/

/-- A tile load that is not applied has prepared its slot, and no more. -/
theorem loadTile_eq_prepare (hrefusal : TextureAllocator.KeptByRefusal α) {p : Processor α}
    {m : ExternalMemory} {tile : Nat} {rect : TileRect}
    (h : (p.loadTile m tile rect).1 ≠ .ok .applied) :
    (p.loadTile m tile rect).2 = p.prepareTileLoad (.wrap tile) rect := by
  have hspec := p.loadTile_spec m tile rect
  generalize p.loadTile m tile rect = result at h hspec
  cases hspec with
  | empty => exact absurd rfl h
  -- The tile was prepared before its image was looked at.
  | undecodable => rfl
  | refused himage hrefused =>
    obtain rfl := hrefusal _ _ _ _ hrefused
    rfl
  | built => exact absurd rfl h

/-- A triangle that is not applied changes nothing. -/
theorem drawTriangle_eq_self (hrefusal : TextureAllocator.KeptByRefusal α) {p : Processor α}
    {t : TriangleCommand} (h : (p.drawTriangle t).1 ≠ .ok .applied) : (p.drawTriangle t).2 = p := by
  rcases p.drawTriangle_cases t with ⟨-, heq⟩ | ⟨texture, q, -, -, heq⟩ | ⟨e, q, -, hresolve, heq⟩
  · exact absurd (congrArg Prod.fst heq) h
  · exact absurd (congrArg Prod.fst heq) h
  · -- Only a search that failed leaves the triangle unapplied.
    rw [heq]
    have hspec := p.resolveTexture_spec (.wrap t.edges.tile)
    rw [hresolve] at hspec
    cases hspec with
    | undecodable => rfl
    | refused _ _ hrefused =>
      obtain rfl := hrefusal _ _ _ _ hrefused
      rfl

/-- A tile load has an effect, and is no block load. -/
theorem loadTile_ne (p : Processor α) (m : ExternalMemory) (tile : Nat) (rect : TileRect) :
    (p.loadTile m tile rect).1 ≠ .ok .nop ∧ (p.loadTile m tile rect).1 ≠ .ok .dropped := by
  have hspec := p.loadTile_spec m tile rect
  generalize p.loadTile m tile rect = result at hspec
  cases hspec with
  | empty => exact ⟨nofun, nofun⟩
  | undecodable =>
    rcases textureFailure_cases p.settings _ with heq | heq
    · rw [heq]
      exact ⟨nofun, nofun⟩
    · rw [heq]
      exact ⟨nofun, nofun⟩
  | refused => exact ⟨nofun, nofun⟩
  | built => exact ⟨nofun, nofun⟩

/-- Of the commands that are not applied only a tile load changes anything. -/
theorem execute_eq_self (hrefusal : TextureAllocator.KeptByRefusal α) {p : Processor α}
    {m : ExternalMemory} {command : Command}
    (hcommand : ∀ tile rect, command ≠ .loadTile tile rect)
    (h : (p.execute m command).1 ≠ .ok .applied) : (p.execute m command).2 = p := by
  cases command with
  | nop => rfl
  | ignored opcode => rfl
  | triangle t => exact drawTriangle_eq_self hrefusal h
  | loadBlock tile slo tlo shi dt =>
    exact loadBlock_eq_self fun happlied => h (congrArg Except.ok happlied)
  | loadTile tile rect => exact absurd rfl (hcommand tile rect)
  | _ => exact absurd rfl h

/-! ## Vacant slots -/

/-- The commands that count the loaded rows of a slot again: a block load, a tile load to the slot,
and a new rectangle for it once texels are loaded. -/
def commandRecounts (p : Processor α) (m : ExternalMemory) (i : TileIndex) : Command → Bool
  | .setTileSize tile _ => TileIndex.wrap tile = i && p.textureMemory.texelsLoaded != 0
  | .loadBlock tile slo tlo shi dt => (p.loadBlock m tile slo tlo shi dt).1 = .applied
  | .loadTile tile rect => TileIndex.wrap tile = i && Outcome.isApplied (p.loadTile m tile rect).1
  | _ => false

/-- What counts the loaded rows of a slot again: such a command only. -/
def recounts (p : Processor α) (i : TileIndex) : Operation → Bool
  | .execute m row => p.commandRecounts m i (.decode row)
  | _ => false

namespace Vacant

variable {p : Processor α} {i : TileIndex}

theorem resolveTexture (h : p.Vacant i) (j : TileIndex) : (p.resolveTexture j).2.Vacant i := by
  have hspec := p.resolveTexture_spec j
  generalize p.resolveTexture j = result at hspec
  cases hspec with
  | cached => exact h
  | empty => exact h
  | undecodable => exact h
  | refused => exact h.of_get_eq rfl
  | built htexture hdecode =>
    -- An image was decoded, so the slot is another one.
    have hne : i ≠ j := by
      rintro rfl
      rw [h.decode_eq_none] at hdecode
      cases hdecode
    exact h.of_get_eq (p.get_cacheTexture_of_ne _ hne _)

theorem drawTriangle (h : p.Vacant i) (t : TriangleCommand) : (p.drawTriangle t).2.Vacant i :=
  drawTriangle_induction (P := fun q => q.Vacant i) h h.resolveTexture
    (fun _ _ hq => hq.of_get_eq rfl) t

theorem setTileSize (h : p.Vacant i) {tile : Nat} (rect : TileRect) {m : ExternalMemory}
    (hcount : TileIndex.wrap tile = i → p.textureMemory.texelsLoaded = 0) :
    (p.execute m (.setTileSize tile rect)).2.Vacant i := by
  by_cases hi : i = .wrap tile
  · subst hi
    have hslot : (p.execute m (.setTileSize tile rect)).2.tiles.get (.wrap tile) =
        { p.tiles.get (.wrap tile) with rect := rect, texture := none } :=
      (p.tiles.get_setRect_self (.wrap tile) rect _).trans (if_pos (hcount rfl))
    exact ⟨by rw [hslot], by rw [hslot]; exact h.rows⟩
  · exact h.of_get_eq (p.tiles.get_set_drop_of_ne hi _)

theorem setTile (h : p.Vacant i) (tile : Nat) (properties : TileProperties) (m : ExternalMemory) :
    (p.execute m (.setTile tile properties)).2.Vacant i := by
  by_cases hi : i = .wrap tile
  · subst hi
    have hslot : (p.execute m (.setTile tile properties)).2.tiles.get (.wrap tile) =
        { p.tiles.get (.wrap tile) with properties := properties, texture := none } :=
      p.tiles.get_setProperties_self _ _
    exact ⟨by rw [hslot], by rw [hslot]; exact h.rows⟩
  · exact h.of_get_eq (p.tiles.get_set_drop_of_ne hi _)

/-- A tile load for a vacant slot that is not carried out leaves it vacant, and so does any for
another slot. -/
theorem loadTile (h : p.Vacant i) {m : ExternalMemory} {tile : Nat} {rect : TileRect}
    (hfailed : TileIndex.wrap tile = i → (p.loadTile m tile rect).1 ≠ .ok .applied) :
    (p.loadTile m tile rect).2.Vacant i := by
  have hspec := p.loadTile_spec m tile rect
  generalize p.loadTile m tile rect = result at hfailed hspec
  by_cases hi : i = .wrap tile
  · subst hi
    have hprepared := p.vacant_prepareTileLoad (.wrap tile) rect
    cases hspec with
    | empty => exact absurd rfl (hfailed rfl)
    | undecodable => exact hprepared
    | refused => exact hprepared.of_get_eq rfl
    | built => exact absurd rfl (hfailed rfl)
  · -- The load is for another slot.
    have hprepared : (p.prepareTileLoad (.wrap tile) rect).Vacant i :=
      h.of_get_eq (p.get_prepareTileLoad_of_ne hi rect)
    cases hspec with
    | empty => exact hprepared
    | undecodable => exact hprepared
    | refused => exact hprepared.of_get_eq rfl
    | built =>
      refine hprepared.of_get_eq ?_
      rw [get_setLoadedRows_of_ne _ hi, get_cacheTexture_of_ne _ _ hi]

/-- A command that does not count the rows of a vacant slot leaves it vacant. -/
theorem execute (h : p.Vacant i) (m : ExternalMemory) {command : Command}
    (hcount : p.commandRecounts m i command = false) : (p.execute m command).2.Vacant i := by
  cases command with
  | triangle t => exact h.drawTriangle t
  | setTileSize tile rect =>
    refine h.setTileSize rect fun hi => ?_
    simpa [commandRecounts, hi] using hcount
  | loadBlock tile slo tlo shi dt =>
    have hdropped : (p.loadBlock m tile slo tlo shi dt).1 ≠ .applied := of_decide_eq_false hcount
    exact h.of_get_eq (congrArg (fun q => q.tiles.get i) (loadBlock_eq_self hdropped))
  | loadTile tile rect =>
    refine h.loadTile fun hi happlied => ?_
    simp [commandRecounts, hi, happlied, Outcome.isApplied] at hcount
  | setTile tile properties => exact h.setTile tile properties m
  | _ => exact h.of_get_eq rfl

theorem perform (h : p.Vacant i) {op : Operation} (hstep : op.IsStep)
    (hcount : p.recounts i op = false) : (p.perform op).2.Vacant i := by
  cases op with
  | processBatch m batch => exact hstep.elim
  | execute m row => exact h.execute m hcount
  | decodeTile n => exact decodeTile_induction (P := fun q => q.Vacant i) h h.resolveTexture n
  | takeFrame => exact h.of_get_eq rfl
  | reset =>
    have hslot : (p.perform .reset).2.tiles.get i = .powerOn := TileTable.get_powerOn i
    exact ⟨by rw [hslot]; rfl, by rw [hslot]; rfl⟩
  | release handles => exact h.of_get_eq rfl

/-- A vacant slot stays vacant until its rows are counted. -/
theorem after (h : p.Vacant i) {ops : List Operation}
    (hcount : p.someStep (fun q => q.recounts i) (p.steps ops) = false) :
    (p.after ops).Vacant i := by
  rw [← p.after_steps ops]
  exact after_induction_of_someStep (P := fun q => q.Vacant i)
    (fun _ _ hstep hnot hvacant => hvacant.perform hstep hnot)
    (fun _ hmem => isStep_of_mem_steps hmem) hcount h

/-- A triangle with the texture of a vacant slot is drawn without. -/
theorem drawTriangle_eq (h : p.Vacant i) {t : TriangleCommand} (htexture : t.kind.texture = true)
    (htile : TileIndex.wrap t.edges.tile = i) :
    p.drawTriangle t = (.ok .applied, p.pushTriangle t none 0) := by
  -- Nothing is cached and there are no rows to decode, so no texture is found and none is asked
  -- for.
  have hresolve : p.resolveTexture i = (.ok none, p) := by
    have hspec := p.resolveTexture_spec i
    generalize p.resolveTexture i = result at hspec
    cases hspec with
    | cached htexture => exact absurd (h.texture.symm.trans htexture) nofun
    | empty => rfl
    | undecodable _ hdecode => exact absurd (h.decode_eq_none.symm.trans hdecode) nofun
    | refused _ hdecode => exact absurd (h.decode_eq_none.symm.trans hdecode) nofun
    | built _ hdecode => exact absurd (h.decode_eq_none.symm.trans hdecode) nofun
  unfold Processor.drawTriangle
  simp only [if_pos htexture, htile, hresolve, h.rows]

end Vacant

/-- **A row that is not applied changes nothing, or vacates the slot of a tile load.** The row of a
tile load that is skipped or fails changes the current tile, and of its slot the rectangle, the rows
and the texture, whose handle is retired. Until the rows of this slot are counted again, every
triangle with its texture is drawn without one. -/
theorem unapplied_changes (hrefusal : TextureAllocator.KeptByRefusal α) (p : Processor α)
    (m : ExternalMemory) (command : Command) :
    let result := p.execute m command
    (result.1 = .ok .nop ∨ result.1 = .ok .dropped → result.2 = p) ∧
    ((∀ tile rect, command ≠ .loadTile tile rect) → result.1 ≠ .ok .applied → result.2 = p) ∧
    ∀ tile rect, command = .loadTile tile rect → result.1 ≠ .ok .applied →
      let i := TileIndex.wrap tile
      let slot := p.tiles.get i
      result.2 = { p with
        currentTile := i
        tiles := { p.tiles.set i { slot with rect := rect, validHeight := 0, texture := none } with
          retired := p.tiles.retired ++ TileTable.cachedHandles slot } } ∧
      ∀ ops, result.2.someStep (fun q => q.recounts i) (result.2.steps ops) = false →
        ∀ (m' : ExternalMemory) (t : TriangleCommand),
          t.kind.texture = true → TileIndex.wrap t.edges.tile = i →
            (result.2.after ops).execute m' (.triangle t) =
              (.ok .applied, (result.2.after ops).pushTriangle t none 0) := by
  intro result
  refine ⟨fun houtcome => ?_, fun hcommand => execute_eq_self hrefusal hcommand, ?_⟩
  · refine execute_eq_self hrefusal ?_ fun happlied => ?_
    · rintro tile rect rfl
      obtain ⟨hnop, hdropped⟩ := p.loadTile_ne m tile rect
      exact houtcome.elim hnop hdropped
    · rcases houtcome with heq | heq
      · exact absurd (heq.symm.trans happlied) nofun
      · exact absurd (heq.symm.trans happlied) nofun
  · -- A tile load that fails leaves its slot vacant, and it is vacant until its rows are counted
    -- again.
    rintro tile rect rfl hfailed
    have hstate : result.2 = p.prepareTileLoad (.wrap tile) rect :=
      loadTile_eq_prepare hrefusal hfailed
    refine ⟨hstate.trans (p.prepareTileLoad_eq _ _), fun ops hcount m' t htexture htile => ?_⟩
    have hvacant : result.2.Vacant (.wrap tile) := hstate ▸ p.vacant_prepareTileLoad _ _
    exact (hvacant.after hcount).drawTriangle_eq htexture htile

/-- The budget is spent on the texture of a tile, and another load for this tile is refused: it
takes the texture away and brings none. The frame is handed off and the tile gets new properties and
another rectangle before a triangle asks for its texture. -/
theorem unapplied_changes_overBudget :
    let memory : ExternalMemory := .ofBytes fun address => .ofNat address.toNat
    let axis : TileAxis := default
    let p := (powerOn .standard (BudgetedPool.empty (some 16))).after
      [.processBatch memory (.ofRows [.setTextureImage 0 2 4 0, .loadTile 1 ⟨0, 3, 0, 0⟩])]
    let q := (p.execute memory (.loadTile 1 ⟨0, 1, 0, 0⟩)).2
    let later := q.after [.takeFrame, .execute memory (.setTile 1 0 2 0 8 0 axis axis),
      .execute memory (.setTileSize 1 ⟨0, 3, 0, 0⟩)]
    let t := TriangleCommand.decode ⟨false, true, false⟩ [0x0A010000]
    (p.execute memory (.loadTile 1 ⟨0, 1, 0, 0⟩)).1.toOption = none ∧
    (p.tiles.get 1).texture = some ⟨⟨1⟩, 4, 1⟩ ∧
    q = { p with
      currentTile := 1
      tiles := { p.tiles.set 1
          { p.tiles.get 1 with rect := ⟨0, 1, 0, 0⟩, validHeight := 0, texture := none } with
        retired := p.tiles.retired ++ [⟨1⟩] } } ∧
    later.execute memory (.triangle t) = (.ok .applied, later.pushTriangle t none 0) := by
  intro memory axis p q later t
  have hnone : (p.execute memory (.loadTile 1 ⟨0, 1, 0, 0⟩)).1.toOption = none := by
    decide +kernel
  have htexture : (p.tiles.get 1).texture = some ⟨⟨1⟩, 4, 1⟩ := by decide +kernel
  have hfailed : (p.execute memory (.loadTile 1 ⟨0, 1, 0, 0⟩)).1 ≠ .ok .applied := by
    intro happlied
    rw [happlied] at hnone
    cases hnone
  obtain ⟨hstate, hdrawn⟩ :=
    (unapplied_changes BudgetedPool.keptByRefusal p memory _).2.2 1 ⟨0, 1, 0, 0⟩ rfl hfailed
  have hhandles : TileTable.cachedHandles (p.tiles.get 1) = [⟨1⟩] := by
    rw [TileTable.cachedHandles, htexture]
    rfl
  refine ⟨hnone, htexture, hhandles ▸ hstate, ?_⟩
  exact hdrawn _ (by decide +kernel) memory t rfl (by decide +kernel)

end Processor

end DisplayProcessor
