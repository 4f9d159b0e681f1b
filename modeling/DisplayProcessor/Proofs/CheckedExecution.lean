import DisplayProcessor.Proofs.CheckedTextures

/-!
# Checked execution

The processor is defined once more with checked arithmetic, which stops it without a result where a
number overflows or an index lies outside its array. From power-on it is never stopped, whatever is
asked of it, and does the same as without checks.

- `Processor.checkedExecute`, `Processor.checkedRun`: one command, and rows in order.
- `Processor.checkedPerform`, `Processor.checkedOperations`: one operation, and a list of them.
- `Processor.checkedOperations_powerOn`: the main result.
-/

namespace DisplayProcessor

namespace Processor

variable {α : Type}

/-- Carry out a block load, with checks. -/
def checkedLoadBlock (p : Processor α) (m : ExternalMemory) (tile slo tlo shi dt : Nat) :
    Option (Outcome × Processor α) := do
  let load := p.blockLoad tile slo tlo shi dt
  match ← p.textureMemory.checkedLoad m load p.settings.maxBlockTexels.toNat with
  | none => return (.dropped, p)
  | some memory =>
    let tiles ← p.tiles.checkedDropAll memory.texelsLoaded
    return (.applied, { p with textureMemory := memory, tiles := tiles })

/-- A block load does not fail, with operands and a state in range. -/
theorem checkedLoadBlock_eq {p : Processor α} (h : p.InRange) (m : ExternalMemory)
    {tile slo tlo shi dt : Nat} (hload : (Command.loadBlock tile slo tlo shi dt).InRange) :
    p.checkedLoadBlock m tile slo tlo shi dt = some (p.loadBlock m tile slo tlo shi dt) := by
  have hrange : (p.blockLoad tile slo tlo shi dt).InRange :=
    ⟨h.imageWidth_le, hload.1, hload.2.1, hload.2.2⟩
  unfold checkedLoadBlock
  simp only [loadBlock_eq, TextureMemory.checkedLoad_eq _ m hrange, Option.bind_eq_bind,
    Option.bind_some]
  cases p.textureMemory.load? m (p.blockLoad tile slo tlo shi dt)
      p.settings.maxBlockTexels.toNat with
  | none => rfl
  | some memory =>
    simp only [TileTable.checkedDropAll_eq h.tiles, Option.bind_some]
    rfl

variable [TextureAllocator α]

/-- The texture of a tile, with checks. -/
def checkedResolveTexture (p : Processor α) (i : TileIndex) :
    Option (Except TextureError (Option TextureRef) × Processor α) :=
  match (p.tiles.get i).texture with
  | some texture => some (.ok (some texture), p)
  | none => do
    match ← p.textureMemory.checkedDecode (p.tiles.get i) with
    | .error e => return (.error e, p)
    | .ok none => return (.ok none, p)
    | .ok (some image) =>
      match TextureAllocator.allocate p.allocator image with
      | (.error e, allocator) => return (.error e, { p with allocator := allocator })
      | (.ok handle, allocator) =>
        let texture := ⟨handle, image.width, image.height⟩
        return (.ok (some texture), p.cacheTexture allocator i texture)

/-- The search for a texture does not fail. -/
theorem checkedResolveTexture_eq {p : Processor α} (h : p.InRange) (i : TileIndex) :
    p.checkedResolveTexture i = some (p.resolveTexture i) := by
  have hdecode := (h.tiles i).checkedDecode_eq p.textureMemory
  have hspec := p.resolveTexture_spec i
  unfold checkedResolveTexture
  generalize p.resolveTexture i = result at hspec
  cases hspec with
  | cached htexture => rw [htexture]
  | empty htexture hresult => rw [htexture, hdecode, hresult]; rfl
  | undecodable htexture hresult => rw [htexture, hdecode, hresult]; rfl
  | refused htexture hresult hrefused =>
    rw [htexture, hdecode, hresult]
    simp only [Option.bind_eq_bind, Option.bind_some, hrefused, Option.pure_def]
  | built htexture hresult hbuilt =>
    rw [htexture, hdecode, hresult]
    simp only [Option.bind_eq_bind, Option.bind_some, hbuilt, Option.pure_def]

/-- Draw a triangle, with checks. -/
def checkedDrawTriangle (p : Processor α) (t : TriangleCommand) :
    Option (Except Error Outcome × Processor α) :=
  if t.kind.texture then do
    let i := TileIndex.wrap t.edges.tile
    match ← p.checkedResolveTexture i with
    | (.ok texture, p) =>
      return (.ok .applied, p.pushTriangle t texture (p.tiles.get i).validHeight)
    | (.error e, p) => return (textureFailure p.settings e, p)
  else some (.ok .applied, p.pushTriangle t none 0)

/-- A triangle does not fail. -/
theorem checkedDrawTriangle_eq {p : Processor α} (h : p.InRange) (t : TriangleCommand) :
    p.checkedDrawTriangle t = some (p.drawTriangle t) := by
  unfold checkedDrawTriangle drawTriangle
  dsimp only
  rw [checkedResolveTexture_eq h]
  by_cases htexture : t.kind.texture = true
  · rw [if_pos htexture, if_pos htexture]
    rcases p.resolveTexture (.wrap t.edges.tile) with ⟨e | texture, q⟩
    · rfl
    · rfl
  · rw [if_neg htexture, if_neg htexture]

omit [TextureAllocator α] in
/-- The image that a tile load reads from external memory, with checks. -/
def checkedTileLoadImage (p : Processor α) (m : ExternalMemory) (rect : TileRect)
    (width height : Nat) : Option (Except TextureError (Option Image)) := do
  let source := p.textureImage
  let texel := Checked.texelIndex source.width rect.tlo rect.slo
  let address := source.address + .ofNat (← Checked.shiftLeft texel 1)
  m.checkedDecode address source.width width height source.format source.size

omit [TextureAllocator α] in
/-- The image of a tile load is read without a failure. -/
theorem checkedTileLoadImage_eq {p : Processor α} (h : p.InRange) (m : ExternalMemory)
    {rect : TileRect} (hrect : rect.InRange) :
    p.checkedTileLoadImage m rect rect.width rect.height = some (p.tileLoadImage m rect) := by
  have hrow : p.textureImage.width * rect.tlo ≤ 1024 * 1023 :=
    Nat.mul_le_mul h.imageWidth_le hrect.tlo_le
  have hslo := hrect.slo_le
  have htexel : Checked.texelIndex p.textureImage.width rect.tlo rect.slo =
      p.textureImage.width * rect.tlo + rect.slo := Checked.texelIndex_of_lt (by omega)
  have hshift : Checked.shiftLeft (p.textureImage.width * rect.tlo + rect.slo) 1 =
      some (2 * (p.textureImage.width * rect.tlo + rect.slo)) := by
    rw [Checked.shiftLeft_of_lt (by omega), Nat.mul_comm]
  unfold checkedTileLoadImage
  simp only [htexel, hshift, Option.bind_eq_bind, Option.bind_some]
  exact m.checkedDecode_eq _ h.imageWidth_le hrect.width_le hrect.height_le _ _

/-- Build the texture of a tile straight from external memory, with checks. -/
def checkedLoadTile (p : Processor α) (m : ExternalMemory) (tile : Nat) (rect : TileRect) :
    Option (Except Error Outcome × Processor α) := do
  let i := TileIndex.wrap tile
  let p := p.prepareTileLoad i rect
  let width ← Checked.span rect.slo rect.shi
  let height ← Checked.span rect.tlo rect.thi
  match ← p.checkedTileLoadImage m rect width height with
  | .error e => return (textureFailure p.settings e, p)
  | .ok none => return (.ok .applied, p)
  | .ok (some image) =>
    match TextureAllocator.allocate p.allocator image with
    | (.error e, allocator) => return (.error (.texture e), { p with allocator := allocator })
    | (.ok handle, allocator) =>
      return (.ok .applied,
        (p.cacheTexture allocator i ⟨handle, width, height⟩).setLoadedRows i height)

/-- A tile load does not fail. -/
theorem checkedLoadTile_eq {p : Processor α} (h : p.InRange) (m : ExternalMemory) (tile : Nat)
    {rect : TileRect} (hrect : rect.InRange) :
    p.checkedLoadTile m tile rect = some (p.loadTile m tile rect) := by
  -- Preparing the slot leaves alone what the image is read from, and the allocator.
  have himage : (p.prepareTileLoad (.wrap tile) rect).checkedTileLoadImage m rect rect.width
      rect.height = some (p.tileLoadImage m rect) :=
    checkedTileLoadImage_eq (h.prepareTileLoad _ hrect) m hrect
  have hallocator : (p.prepareTileLoad (.wrap tile) rect).allocator = p.allocator := rfl
  have hspec := p.loadTile_spec m tile rect
  unfold checkedLoadTile
  simp only [hrect.span_width, hrect.span_height, himage, hallocator, Option.bind_eq_bind,
    Option.bind_some]
  generalize p.loadTile m tile rect = result at hspec
  cases hspec with
  | empty hresult => rw [hresult]; rfl
  | undecodable hresult => rw [hresult]; rfl
  | refused hresult hrefused =>
    rw [hresult]
    simp only [hrefused, Option.pure_def]
  | built hresult hbuilt =>
    rw [hresult]
    simp only [hbuilt, Option.pure_def]

/-- Execute one command, with checks. Commands that compute nothing are executed as they are. -/
def checkedExecute (p : Processor α) (m : ExternalMemory) :
    Command → Option (Except Error Outcome × Processor α)
  | .triangle t => p.checkedDrawTriangle t
  | .setTileSize tile rect => do
    let i := TileIndex.wrap tile
    let tiles ← p.tiles.checkedSetRect i rect p.textureMemory.texelsLoaded
    return (.ok .applied, { p with currentTile := i, tiles := tiles })
  | .loadBlock tile slo tlo shi dt => do
    let (outcome, p) ← p.checkedLoadBlock m tile slo tlo shi dt
    return (.ok outcome, p)
  | .loadTile tile rect => p.checkedLoadTile m tile rect
  | command => some (p.execute m command)

/-- The checks of a command whose operands are in range all hold. -/
theorem checkedExecute_eq {p : Processor α} (h : p.InRange) (m : ExternalMemory)
    {command : Command} (hcommand : command.InRange) :
    p.checkedExecute m command = some (p.execute m command) := by
  cases command with
  | triangle t => exact checkedDrawTriangle_eq h t
  | setTileSize tile rect =>
    simp only [checkedExecute, TileTable.checkedSetRect_eq h.tiles _ hcommand, Option.bind_eq_bind,
      Option.bind_some]
    rfl
  | loadBlock tile slo tlo shi dt =>
    simp only [checkedExecute, checkedLoadBlock_eq h m hcommand, Option.bind_eq_bind,
      Option.bind_some]
    rfl
  | loadTile tile rect => exact checkedLoadTile_eq h m tile hcommand
  | _ => rfl

/-- Execute rows in order until one fails, with checks. -/
def checkedRun (p : Processor α) (m : ExternalMemory) (counts : BatchCounts) :
    List Row → Option (Except Error BatchCounts × Processor α)
  | [] => some (.ok counts, p)
  | row :: rest => do
    match ← p.checkedExecute m (← Command.checkedDecode row) with
    | (.error e, p) => return (.error e, p)
    | (.ok outcome, p) => p.checkedRun m (counts.record outcome) rest

/-- Rows do not fail, one after the other, as each leaves the state in range. -/
theorem checkedRun_eq {p : Processor α} (h : p.InRange) (m : ExternalMemory) (counts : BatchCounts)
    (rows : List Row) : p.checkedRun m counts rows = some (p.run m counts rows) := by
  induction rows generalizing p counts with
  | nil => rfl
  | cons row rest ih =>
    have hnext := h.execute m (Command.inRange_decode row)
    rw [checkedRun, run]
    simp only [Command.checkedDecode_eq, checkedExecute_eq h m (Command.inRange_decode row),
      Option.bind_eq_bind, Option.bind_some]
    rcases hresult : p.execute m (.decode row) with ⟨e | outcome, q⟩
    · rfl
    · rw [hresult] at hnext
      exact ih hnext (counts.record outcome)

/-- Execute a batch, with checks. -/
def checkedProcessBatch (p : Processor α) (m : ExternalMemory) (batch : Batch) :
    Option (Except Error BatchCounts × Processor α) :=
  match batch.validate with
  | .error e => some (.error e, p)
  | .ok () => p.checkedRun m .zero batch.rows

/-- A batch does not fail, well-formed or not. -/
theorem checkedProcessBatch_eq {p : Processor α} (h : p.InRange) (m : ExternalMemory)
    (batch : Batch) : p.checkedProcessBatch m batch = some (p.processBatch m batch) := by
  unfold checkedProcessBatch processBatch
  rcases batch.validate with e | ⟨⟩
  · rfl
  · exact checkedRun_eq h m .zero batch.rows

/-- The texture of the tile with a number, with checks. -/
def checkedDecodeTile (p : Processor α) (n : Nat) :
    Option (Except Error (Option TextureRef) × Processor α) :=
  match TileIndex.ofNat? n with
  | none => some (.error (.invalidTileIndex n), p)
  | some i => do
    match ← p.checkedResolveTexture i with
    | (.ok texture, p) => return (.ok texture, p)
    | (.error e, p) => return (.error (.texture e), p)

theorem checkedDecodeTile_eq {p : Processor α} (h : p.InRange) (n : Nat) :
    p.checkedDecodeTile n = some (p.decodeTile n) := by
  unfold checkedDecodeTile decodeTile
  cases TileIndex.ofNat? n with
  | none => rfl
  | some i =>
    simp only [checkedResolveTexture_eq h, Option.bind_eq_bind, Option.bind_some]
    rcases p.resolveTexture i with ⟨e | texture, q⟩
    · rfl
    · rfl

/-- Carry out one operation, with checks. A hand-off, a reset and a release compute nothing. -/
def checkedPerform (p : Processor α) : Operation → Option (Answer × Processor α)
  | .processBatch m batch => do
    let (result, p) ← p.checkedProcessBatch m batch
    return (.counts result, p)
  | .execute m row => do
    let (result, p) ← p.checkedExecute m (← Command.checkedDecode row)
    return (.outcome result, p)
  | .decodeTile n => do
    let (result, p) ← p.checkedDecodeTile n
    return (.texture result, p)
  | op => some (p.perform op)

/-- No operation fails. -/
theorem checkedPerform_eq {p : Processor α} (h : p.InRange) (op : Operation) :
    p.checkedPerform op = some (p.perform op) := by
  cases op with
  | processBatch m batch => rw [checkedPerform, checkedProcessBatch_eq h]; rfl
  | execute m row =>
    simp only [checkedPerform, Command.checkedDecode_eq, Option.bind_eq_bind, Option.bind_some,
      checkedExecute_eq h m (Command.inRange_decode row)]
    rfl
  | decodeTile n => rw [checkedPerform, checkedDecodeTile_eq h]; rfl
  | _ => rfl

/-- Carry out some operations, with checks: the answers and the processor afterwards. -/
def checkedOperations (p : Processor α) : List Operation → Option (List Answer × Processor α)
  | [] => some ([], p)
  | op :: rest => do
    let (answer, p) ← p.checkedPerform op
    let (answers, p) ← p.checkedOperations rest
    return (answer :: answers, p)

/-- No run fails from a state in range, and it gives the same answers. -/
theorem checkedOperations_eq {p : Processor α} (h : p.InRange) (ops : List Operation) :
    p.checkedOperations ops = some (p.answers ops, p.after ops) := by
  induction ops generalizing p with
  | nil => rfl
  | cons op rest ih =>
    simp only [checkedOperations, checkedPerform_eq h, ih (h.perform op), Option.bind_eq_bind,
      Option.bind_some]
    rfl

/-- **No batch overflows or leaves an array.** Whatever is asked of a processor since power-on, all
that it keeps is in range: coordinates, offsets and strides, masks, the width of the texture image
and the records of quad-words. So every check holds, and with checks the processor gives the same
answers and is in the same state. -/
theorem checkedOperations_powerOn (settings : Settings) (allocator : α) (ops : List Operation) :
    let p := powerOn settings allocator
    (p.after ops).InRange ∧ p.checkedOperations ops = some (p.answers ops, p.after ops) := by
  intro p
  have hp : p.InRange := InRange.powerOn settings allocator
  exact ⟨hp.after ops, checkedOperations_eq hp ops⟩

end Processor

end DisplayProcessor
