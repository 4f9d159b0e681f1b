import DisplayProcessor.Proofs.BlockContents
import DisplayProcessor.Proofs.CommandCases
import DisplayProcessor.Proofs.Session

/-!
# The history of loads

The processor counts how many texels were loaded, and how many rows of each slot they fill. Few
things change these counts: block loads and tile loads, new rectangles, hand-offs and resets. A run
leaves a list of such events, and replaying them alone gives the counts of the processor after the
run. What holds of every list of events then holds of every run.

- `LoadEvent`, `Processor.history`: the events of a run, the last one first.
- `LoadCounts`, `Processor.loadCounts`: what is counted, and the counts of a processor.
- `LoadCounts.record`, `LoadCounts.replay`: what an event does to the counts, and a history.
- `Processor.loadCounts_execute`: a command changes the counts as its events say.
- `Processor.loadCounts_after`: the same for a run.
-/

namespace DisplayProcessor

/-! ## Events -/

/-- What can change how much counts as loaded. -/
inductive LoadEvent where
  /-- A block load of a number of texels was carried out. -/
  | blockLoad (texels : Nat)
  /-- A rectangle was loaded for a slot, and gave it a texture or not. -/
  | tileLoad (i : TileIndex) (rect : TileRect) (built : Bool)
  /-- A slot got a rectangle, and no texels. -/
  | setRect (i : TileIndex) (rect : TileRect)
  | takeFrame
  | reset
deriving DecidableEq

namespace Processor

variable {α : Type} [TextureAllocator α]

/-- The events of one command. A block load that is dropped is none. -/
def commandEvents (p : Processor α) (m : ExternalMemory) : Command → List LoadEvent
  | .loadBlock tile slo tlo shi dt =>
    if (p.loadBlock m tile slo tlo shi dt).1 = .applied then [.blockLoad (shi + 1 - slo)] else []
  | .loadTile tile rect =>
    -- A tile load takes away the texture that was there, so one that is there now was built by it.
    [.tileLoad (.wrap tile) rect
      ((p.loadTile m tile rect).2.tiles.get (.wrap tile)).texture.isSome]
  | .setTileSize tile rect => [.setRect (.wrap tile) rect]
  | _ => []

/-- The events of rows, the last one first: those up to the row that fails, and of that row. -/
def rowEvents (p : Processor α) (m : ExternalMemory) : List Row → List LoadEvent
  | [] => []
  | row :: rest =>
    (match p.execute m (.decode row) with
      | (.error _, _) => []
      | (.ok _, p) => p.rowEvents m rest) ++ p.commandEvents m (.decode row)

/-- The events of a batch, the last one first. -/
def batchEvents (p : Processor α) (m : ExternalMemory) (batch : Batch) : List LoadEvent :=
  match batch.validate with
  | .error _ => []
  | .ok () => p.rowEvents m batch.rows

/-- The events of one operation, the last one first. -/
def operationEvents (p : Processor α) : Operation → List LoadEvent
  | .processBatch m batch => p.batchEvents m batch
  | .execute m row => p.commandEvents m (.decode row)
  | .decodeTile _ => []
  | .takeFrame => [.takeFrame]
  | .reset => [.reset]
  | .release _ => []

/-- The events of some operations, the last one first. -/
def history (p : Processor α) : List Operation → List LoadEvent
  | [] => []
  | op :: rest => (p.perform op).2.history rest ++ p.operationEvents op

end Processor

/-! ## Counts -/

/-- A slot as far as loaded texels are concerned: its rectangle and its loaded rows. -/
structure SlotRows where
  rect : TileRect
  rows : Nat

/-- The slot with its rows counted anew. -/
def SlotRows.recount (slot : SlotRows) (texelsLoaded : Nat) : SlotRows :=
  { slot with rows := texelsLoaded / slot.rect.width }

/-- How many texels count as loaded, and the rows of every slot. -/
structure LoadCounts where
  texelsLoaded : Nat
  slot : TileIndex → SlotRows

namespace LoadCounts

/-- The counts at power-on. -/
def powerOn : LoadCounts := ⟨0, fun _ => ⟨default, 0⟩⟩

/-- The counts with another slot in one place. -/
def setSlot (counts : LoadCounts) (i : TileIndex) (slot : SlotRows) : LoadCounts :=
  { counts with slot := fun j => if j = i then slot else counts.slot j }

theorem slot_setSlot_self (counts : LoadCounts) (i : TileIndex) (slot : SlotRows) :
    (counts.setSlot i slot).slot i = slot :=
  if_pos rfl

theorem slot_setSlot_of_ne (counts : LoadCounts) {i j : TileIndex} (h : j ≠ i) (slot : SlotRows) :
    (counts.setSlot i slot).slot j = counts.slot j :=
  if_neg h

/-- The counts after an event. -/
def record (counts : LoadCounts) : LoadEvent → LoadCounts
  | .blockLoad texels =>
    let loaded := min TextureMemory.maxTexelsLoaded (counts.texelsLoaded + texels)
    ⟨loaded, fun i => (counts.slot i).recount loaded⟩
  | .tileLoad i rect built => counts.setSlot i ⟨rect, if built then rect.height else 0⟩
  | .setRect i rect =>
    let slot := { counts.slot i with rect := rect }
    counts.setSlot i
      (if counts.texelsLoaded = 0 then slot else slot.recount counts.texelsLoaded)
  | .takeFrame => { counts with texelsLoaded := 0 }
  | .reset => powerOn

/-- The counts after a history, which has its last event first. -/
def replay (counts : LoadCounts) (history : List LoadEvent) : LoadCounts :=
  history.foldr (fun event counts => counts.record event) counts

@[simp] theorem replay_cons (counts : LoadCounts) (event : LoadEvent) (earlier : List LoadEvent) :
    counts.replay (event :: earlier) = (counts.replay earlier).record event := rfl

@[simp] theorem replay_singleton (counts : LoadCounts) (event : LoadEvent) :
    counts.replay [event] = counts.record event := rfl

/-- Events are replayed one part after the other, the earlier ones first. -/
theorem replay_append (counts : LoadCounts) (later earlier : List LoadEvent) :
    counts.replay (later ++ earlier) = (counts.replay earlier).replay later :=
  List.foldr_append

end LoadCounts

/-! ## The rows of a tile table -/

namespace TileTable

/-- The rectangle and the loaded rows of a slot. -/
def slotRows (table : TileTable) (i : TileIndex) : SlotRows :=
  ⟨(table.get i).rect, (table.get i).validHeight⟩

/-- A slot that is set has its rectangle and rows; those of the others stay. -/
theorem slotRows_set (table : TileTable) (i : TileIndex) (tile : Tile) :
    (table.set i tile).slotRows =
      fun j => if j = i then ⟨tile.rect, tile.validHeight⟩ else table.slotRows j := by
  funext j
  by_cases h : j = i
  · subst h
    rw [if_pos rfl, slotRows, get_set_self]
  · rw [if_neg h, slotRows, get_set_of_ne _ h]
    rfl

/-- A replaced slot with the same rectangle and rows does not show. -/
theorem slotRows_set_of_eq {table : TileTable} {i : TileIndex} {tile : Tile}
    (hrect : tile.rect = (table.get i).rect)
    (hrows : tile.validHeight = (table.get i).validHeight) :
    (table.set i tile).slotRows = table.slotRows := by
  rw [slotRows_set]
  funext j
  by_cases h : j = i
  · subst h
    rw [if_pos rfl, hrect, hrows]
    rfl
  · exact if_neg h

@[simp] theorem slotRows_drop (table : TileTable) (i : TileIndex) :
    (table.drop i).slotRows = table.slotRows := by
  have hset : (table.set i { table.get i with texture := none }).slotRows = table.slotRows :=
    slotRows_set_of_eq rfl rfl
  exact hset

@[simp] theorem slotRows_setProperties (table : TileTable) (i : TileIndex)
    (properties : TileProperties) :
    (table.setProperties i properties).slotRows = table.slotRows := by
  have hset : (table.setProperties i properties).slotRows = (table.drop i).slotRows :=
    slotRows_set_of_eq rfl rfl
  rw [hset, slotRows_drop]

@[simp] theorem slotRows_install (table : TileTable) (i : TileIndex) (texture : TextureRef) :
    (table.install i texture).slotRows = table.slotRows := by
  have hset : (table.install i texture).slotRows = (table.drop i).slotRows :=
    slotRows_set_of_eq rfl rfl
  rw [hset, slotRows_drop]

/-- A new rectangle has its rows counted, unless nothing is loaded: then they stay. -/
theorem slotRows_setRect (table : TileTable) (i : TileIndex) (rect : TileRect)
    (texelsLoaded : Nat) :
    (table.setRect i rect texelsLoaded).slotRows = fun j =>
      if j = i then
        if texelsLoaded = 0 then { table.slotRows i with rect := rect }
        else { table.slotRows i with rect := rect }.recount texelsLoaded
      else table.slotRows j := by
  rw [setRect, slotRows_set, slotRows_drop, get_drop_self]
  funext j
  split
  · split <;> rfl
  · rfl

/-- A block load counts the rows of every slot anew. -/
theorem slotRows_dropAll (table : TileTable) (texelsLoaded : Nat) :
    (table.dropAll texelsLoaded).slotRows = fun i => (table.slotRows i).recount texelsLoaded := by
  funext i
  rw [slotRows, get_dropAll]
  rfl

end TileTable

namespace Processor

variable {α : Type}

/-- What the processor counts. -/
def loadCounts (p : Processor α) : LoadCounts :=
  ⟨p.textureMemory.texelsLoaded, p.tiles.slotRows⟩

/-- The counts are in texture memory and the tile table. -/
theorem loadCounts_congr {p q : Processor α}
    (hmemory : q.textureMemory.texelsLoaded = p.textureMemory.texelsLoaded)
    (htiles : q.tiles.slotRows = p.tiles.slotRows) : q.loadCounts = p.loadCounts := by
  unfold loadCounts
  rw [hmemory, htiles]

/-- At power-on nothing is loaded. -/
theorem loadCounts_powerOn (settings : Settings) (allocator : α) :
    (powerOn settings allocator).loadCounts = .powerOn := by
  have hslots : TileTable.powerOn.slotRows = LoadCounts.powerOn.slot := by
    funext i
    rw [TileTable.slotRows, TileTable.get_powerOn]
    rfl
  show LoadCounts.mk 0 TileTable.powerOn.slotRows = _
  rw [hslots]
  rfl

/-! ## One command -/

variable [TextureAllocator α]

/-- The search for a texture loads nothing. -/
theorem loadCounts_resolveTexture (p : Processor α) (i : TileIndex) :
    (p.resolveTexture i).2.loadCounts = p.loadCounts := by
  obtain ⟨hmemory, htiles⟩ := p.resolveTexture_tiles i
  refine loadCounts_congr (congrArg _ hmemory) ?_
  rcases htiles with htiles | ⟨texture, htiles, -⟩
  · rw [htiles]
  · rw [htiles, TileTable.slotRows_install]

theorem loadCounts_decodeTile (p : Processor α) (n : Nat) :
    (p.decodeTile n).2.loadCounts = p.loadCounts :=
  decodeTile_induction (P := fun q => q.loadCounts = p.loadCounts) rfl
    p.loadCounts_resolveTexture n

theorem loadCounts_drawTriangle (p : Processor α) (t : TriangleCommand) :
    (p.drawTriangle t).2.loadCounts = p.loadCounts :=
  drawTriangle_induction (P := fun q => q.loadCounts = p.loadCounts) rfl
    p.loadCounts_resolveTexture (fun _ _ h => h) t

/-- A block load that is carried out is an event with the number of its texels; one that is dropped
is none. -/
theorem loadCounts_loadBlock (p : Processor α) (m : ExternalMemory) (tile slo tlo shi dt : Nat) :
    (p.loadBlock m tile slo tlo shi dt).2.loadCounts =
      p.loadCounts.replay (p.commandEvents m (.loadBlock tile slo tlo shi dt)) := by
  unfold commandEvents
  have heq := p.loadBlock_eq m tile slo tlo shi dt
  cases hload : p.textureMemory.load? m (p.blockLoad tile slo tlo shi dt)
    p.settings.maxBlockTexels.toNat with
  | none =>
    rw [hload] at heq
    simp only [heq]
    rfl
  | some memory =>
    rw [hload] at heq
    have hloaded : memory.texelsLoaded = min TextureMemory.maxTexelsLoaded
        (p.textureMemory.texelsLoaded + (shi + 1 - slo)) := by
      obtain ⟨-, rfl⟩ := TextureMemory.load?_eq_some_iff.mp hload
      rfl
    simp only [heq, if_true]
    -- Every slot is counted with the new number of texels.
    show LoadCounts.mk memory.texelsLoaded (p.tiles.dropAll memory.texelsLoaded).slotRows = _
    rw [TileTable.slotRows_dropAll, hloaded]
    rfl

/-- A tile load is an event of its slot, with its rectangle and whether it built a texture. -/
theorem loadCounts_loadTile (p : Processor α) (m : ExternalMemory) (tile : Nat)
    (rect : TileRect) :
    (p.loadTile m tile rect).2.loadCounts =
      p.loadCounts.replay (p.commandEvents m (.loadTile tile rect)) := by
  obtain ⟨hmemory, htiles⟩ := p.loadTile_tiles m tile rect
  have hslot := p.get_prepareTileLoad (.wrap tile) rect
  -- Before its image is known the slot has the rectangle, and no rows.
  have hprepared : (p.prepareTileLoad (.wrap tile) rect).tiles.slotRows =
      fun j => if j = .wrap tile then ⟨rect, 0⟩ else p.tiles.slotRows j := by
    show ((p.tiles.drop (.wrap tile)).set (.wrap tile) _).slotRows = _
    rw [TileTable.slotRows_set, TileTable.slotRows_drop]
  unfold commandEvents loadCounts
  rw [hmemory, LoadCounts.replay_singleton]
  refine congrArg (LoadCounts.mk _) ?_
  funext j
  rcases htiles with htiles | ⟨texture, htiles⟩
  · rw [htiles, hslot, hprepared]
    rfl
  · rw [htiles, TileTable.get_set_self, TileTable.get_install_self, TileTable.slotRows_set,
      TileTable.slotRows_install, hprepared, hslot]
    by_cases hj : j = .wrap tile
    · simp only [if_pos hj]
      rfl
    · simp only [if_neg hj]

/-- A command changes the counts as its events say. -/
theorem loadCounts_execute (p : Processor α) (m : ExternalMemory) (command : Command) :
    (p.execute m command).2.loadCounts = p.loadCounts.replay (p.commandEvents m command) := by
  cases command with
  | triangle t => exact p.loadCounts_drawTriangle t
  | loadBlock tile slo tlo shi dt => exact p.loadCounts_loadBlock m tile slo tlo shi dt
  | loadTile tile rect => exact p.loadCounts_loadTile m tile rect
  | setTile tile properties =>
    exact loadCounts_congr rfl (TileTable.slotRows_setProperties _ _ _)
  | setTileSize tile rect =>
    show LoadCounts.mk _ (p.tiles.setRect _ _ _).slotRows = LoadCounts.mk _ _
    rw [TileTable.slotRows_setRect]
    rfl
  | _ => rfl

/-! ## Runs -/

/-- Rows change the counts as their events say. -/
theorem loadCounts_run (m : ExternalMemory) :
    ∀ (rows : List Row) (counts : BatchCounts) (p : Processor α),
      (p.run m counts rows).2.loadCounts = p.loadCounts.replay (p.rowEvents m rows)
  | [], _, _ => rfl
  | row :: rest, counts, p => by
    have hrow := p.loadCounts_execute m (.decode row)
    rw [run, rowEvents, LoadCounts.replay_append, ← hrow]
    rcases p.execute m (.decode row) with ⟨e | outcome, q⟩
    · rfl
    · exact loadCounts_run m rest (counts.record outcome) q

/-- A batch loads what its rows do, and a malformed one nothing. -/
theorem loadCounts_processBatch (p : Processor α) (m : ExternalMemory) (batch : Batch) :
    (p.processBatch m batch).2.loadCounts = p.loadCounts.replay (p.batchEvents m batch) := by
  unfold processBatch batchEvents
  cases batch.validate with
  | error e => rfl
  | ok valid => exact loadCounts_run m batch.rows .zero p

/-- An operation changes the counts as its events say. -/
theorem loadCounts_perform (p : Processor α) (op : Operation) :
    (p.perform op).2.loadCounts = p.loadCounts.replay (p.operationEvents op) := by
  cases op with
  | processBatch m batch => exact p.loadCounts_processBatch m batch
  | execute m row => exact p.loadCounts_execute m (.decode row)
  | decodeTile n => exact p.loadCounts_decodeTile n
  | takeFrame => rfl
  | reset => exact loadCounts_powerOn p.settings p.allocator
  | release handles => rfl

/-- **The history accounts for the counts.** After a run, what counts as loaded is what the events
of the run make of what counted before. -/
theorem loadCounts_after (p : Processor α) (ops : List Operation) :
    (p.after ops).loadCounts = p.loadCounts.replay (p.history ops) := by
  induction ops generalizing p with
  | nil => rfl
  | cons op rest ih =>
    have hrest : (p.after (op :: rest)).loadCounts = _ := ih (p.perform op).2
    rw [hrest, history, LoadCounts.replay_append, loadCounts_perform]

/-! ## Hand-offs -/

/-- Rows and batches do not hand off frames. -/
theorem takeFrame_not_mem_commandEvents (p : Processor α) (m : ExternalMemory)
    (command : Command) : .takeFrame ∉ p.commandEvents m command := by
  intro hmem
  cases command with
  | loadBlock tile slo tlo shi dt =>
    simp only [commandEvents] at hmem
    split at hmem
    · cases List.mem_singleton.mp hmem
    · cases hmem
  | loadTile tile rect => cases List.mem_singleton.mp hmem
  | setTileSize tile rect => cases List.mem_singleton.mp hmem
  | _ => cases hmem

/-- No row hands a frame off. -/
theorem takeFrame_not_mem_rowEvents (m : ExternalMemory) (rows : List Row) (p : Processor α) :
    .takeFrame ∉ p.rowEvents m rows := by
  induction rows generalizing p with
  | nil => exact List.not_mem_nil
  | cons row rest ih =>
    intro hmem
    rcases List.mem_append.mp hmem with hrest | hrow
    · revert hrest
      rcases p.execute m (.decode row) with ⟨e | outcome, q⟩
      · exact List.not_mem_nil
      · exact ih q
    · exact p.takeFrame_not_mem_commandEvents m _ hrow

/-- A run without hand-offs has none in its history. -/
theorem takeFrame_not_mem_history (p : Processor α) {ops : List Operation}
    (h : Operation.takeFrame ∉ ops) : .takeFrame ∉ p.history ops := by
  induction ops generalizing p with
  | nil => exact List.not_mem_nil
  | cons op rest ih =>
    intro hmem
    rcases List.mem_append.mp hmem with hrest | hop
    · exact ih _ (fun hlater => h (List.mem_cons_of_mem _ hlater)) hrest
    · cases op with
      | processBatch m batch =>
        simp only [operationEvents, batchEvents] at hop
        split at hop
        · cases hop
        · exact takeFrame_not_mem_rowEvents m _ p hop
      | execute m row => exact p.takeFrame_not_mem_commandEvents m _ hop
      | takeFrame => exact h List.mem_cons_self
      | reset => cases List.mem_singleton.mp hop
      | decodeTile n => cases hop
      | release handles => cases hop

end Processor

end DisplayProcessor
