import DisplayProcessor.Proofs.BatchBoundaries
import DisplayProcessor.Proofs.CommandCases

/-!
# Rows that do not matter

A row without effect does not matter for the rest of its batch. Neither does a row that sets one of
the registers which only the rasterizer reads, or a row that describes a tile from which nothing is
loaded or drawn. A batch from which such rows are left out does the same otherwise. The eight slots
have the retired handles in common, and the two batches may retire the textures of such a tile at
different times. So retired handles are compared slot by slot.

- `Erasure`: a list, what is kept of it, and what is left out.
- `Command.Erasable`: the rows that may be left out. `Command.sourceTile?`, `Command.describedTile?`
  and `Command.register?`: what a command reads from a tile, and what it sets.
- `Processor.SameOutside`: two processors that differ at most in some slots and registers.
- `Processor.rowRetirements`: the handles that rows retire, each with its slot.
- `Processor.execute_sameOutside`, `Processor.erase_sameOutside`: a row that is kept and one that is
  left out.
- `Processor.processBatch_erasure`: the main result.
-/

namespace DisplayProcessor

/-- The elements of a list are kept or left out, and stay in order. -/
inductive Erasure {β : Type} : (whole kept erased : List β) → Prop
  | nil : Erasure [] [] []
  | keep {whole kept erased : List β} (x : β) (rest : Erasure whole kept erased) :
      Erasure (x :: whole) (x :: kept) erased
  | erase {whole kept erased : List β} (x : β) (rest : Erasure whole kept erased) :
      Erasure (x :: whole) kept (x :: erased)

/-- What is kept was there. -/
theorem Erasure.mem_of_mem_kept {β : Type} {whole kept erased : List β}
    (h : Erasure whole kept erased) {x : β} (hx : x ∈ kept) : x ∈ whole := by
  induction h with
  | nil => exact hx
  | keep y rest ih =>
    rcases List.mem_cons.mp hx with rfl | hrest
    · exact List.mem_cons_self
    · exact List.mem_cons_of_mem y (ih hrest)
  | erase y rest ih => exact List.mem_cons_of_mem y (ih hx)

/-! ## Commands -/

/-- The registers that only the rasterizer reads. -/
inductive Register where
  | environment
  | blend
  | fog
  | scissor
  | colorImage
  | depthImage
deriving DecidableEq

namespace Command

/-- Whether a command has no effect. -/
def isNop : Command → Bool
  | .nop | .ignored _ => true
  | _ => false

/-- The tile from which a command loads or draws. -/
def sourceTile? : Command → Option TileIndex
  | .loadBlock tile _ _ _ _ => some (.wrap tile)
  | .triangle t => if t.kind.texture then some (.wrap t.edges.tile) else none
  | _ => none

/-- The tile that a command describes. -/
def describedTile? : Command → Option TileIndex
  | .setTile tile _ => some (.wrap tile)
  | .setTileSize tile _ => some (.wrap tile)
  | _ => none

/-- The register that a command sets. -/
def register? : Command → Option Register
  | .setEnvColor _ => some .environment
  | .setBlendColor _ => some .blend
  | .setFogColor _ => some .fog
  | .setScissor _ => some .scissor
  | .setColorImage _ => some .colorImage
  | .setZImage _ => some .depthImage
  | _ => none

/-- A command that may be left out of some rows: it has no effect, it sets a register that only the
rasterizer reads, or it describes a tile from which no row loads or draws. -/
def Erasable (rows : List Row) : Command → Prop
  | .nop | .ignored _ => True
  | .setEnvColor _ | .setBlendColor _ | .setFogColor _ => True
  | .setScissor _ | .setColorImage _ | .setZImage _ => True
  | .setTile tile _ => ∀ row ∈ rows, (decode row).sourceTile? ≠ some (.wrap tile)
  | .setTileSize tile _ => ∀ row ∈ rows, (decode row).sourceTile? ≠ some (.wrap tile)
  | _ => False

instance decidableErasable (rows : List Row) :
    (command : Command) → Decidable (command.Erasable rows)
  | .nop | .ignored _ => .isTrue trivial
  | .setEnvColor _ | .setBlendColor _ | .setFogColor _ => .isTrue trivial
  | .setScissor _ | .setColorImage _ | .setZImage _ => .isTrue trivial
  | .setTile tile _ =>
    inferInstanceAs (Decidable (∀ row ∈ rows, (decode row).sourceTile? ≠ some (.wrap tile)))
  | .setTileSize tile _ =>
    inferInstanceAs (Decidable (∀ row ∈ rows, (decode row).sourceTile? ≠ some (.wrap tile)))
  | .triangle _ | .loadBlock .. | .loadTile .. | .fillRectangle _ => .isFalse id
  | .setFillColor _ | .setTextureImage _ | .setPrimColor _ => .isFalse id

/-- No row reads from a tile that is described by a command that may be left out. -/
theorem Erasable.not_source {rows : List Row} {command : Command} (h : command.Erasable rows)
    {i : TileIndex} (hi : command.describedTile? = some i) :
    ∀ row ∈ rows, (decode row).sourceTile? ≠ some i := by
  cases command with
  | setTile tile properties =>
    obtain rfl : TileIndex.wrap tile = i := Option.some.inj hi
    exact h
  | setTileSize tile rect =>
    obtain rfl : TileIndex.wrap tile = i := Option.some.inj hi
    exact h
  | _ => cases hi

end Command

/-- The tiles that some rows describe. -/
def describedTiles (rows : List Row) : List TileIndex :=
  rows.filterMap fun row => (Command.decode row).describedTile?

/-- The registers that some rows set. -/
def setRegisters (rows : List Row) : List Register :=
  rows.filterMap fun row => (Command.decode row).register?

/-- What rows that may be left out count for. -/
def erasedCounts (erased : List Row) : BatchCounts where
  rows := erased.length
  nops := erased.countP fun row => (Command.decode row).isNop
  skipped := 0
  dropped := 0

theorem BatchCounts.add_left_comm (a b c : BatchCounts) : (a.add b).add c = b.add (a.add c) := by
  simp only [add, mk.injEq]
  omega

/-- The counts of the rows that are left out, from the first of them. -/
theorem erasedCounts_cons (row : Row) (erased : List Row) :
    erasedCounts (row :: erased) =
      (BatchCounts.zero.record (if (Command.decode row).isNop then .nop else .applied)).add
        (erasedCounts erased) := by
  unfold erasedCounts
  rw [List.length_cons, List.countP_cons]
  cases (Command.decode row).isNop with
  | true => simp [BatchCounts.record, BatchCounts.add, BatchCounts.zero, Nat.add_comm]
  | false => simp [BatchCounts.record, BatchCounts.add, BatchCounts.zero, Nat.add_comm]

/-! ## Registers and tables -/

/-- Registers that differ at most in some that only the rasterizer reads. -/
structure Registers.SameOutside (registers : List Register) (a b : Registers) : Prop where
  primitive : a.primitive = b.primitive
  environment : .environment ∉ registers → a.environment = b.environment
  blend : .blend ∉ registers → a.blend = b.blend
  fog : .fog ∉ registers → a.fog = b.fog
  scissor : .scissor ∉ registers → a.scissor = b.scissor
  colorImage : .colorImage ∉ registers → a.colorImage = b.colorImage
  depthImage : .depthImage ∉ registers → a.depthImage = b.depthImage

theorem Registers.SameOutside.refl (registers : List Register) (a : Registers) :
    a.SameOutside registers a :=
  ⟨rfl, fun _ => rfl, fun _ => rfl, fun _ => rfl, fun _ => rfl, fun _ => rfl, fun _ => rfl⟩

namespace TileTable

/-- Tables that differ at most in some slots and in the retired handles. -/
def SameOutside (slots : List TileIndex) (a b : TileTable) : Prop :=
  ∀ i, i ∉ slots → a.get i = b.get i

namespace SameOutside

variable {slots : List TileIndex} {a b : TileTable}

/-- A slot may be set to two different tiles only if it is one of those that may differ. -/
theorem set (h : a.SameOutside slots b) (i : TileIndex) {tile tile' : Tile}
    (htile : i ∉ slots → tile = tile') : (a.set i tile).SameOutside slots (b.set i tile') := by
  intro j hj
  by_cases heq : j = i
  · subst heq
    rw [get_set_self, get_set_self, htile hj]
  · rw [get_set_of_ne _ heq, get_set_of_ne _ heq]
    exact h j hj

/-- A slot that may differ anyway may change on one side. -/
theorem of_ne (h : a.SameOutside slots b) {i : TileIndex} (hi : i ∈ slots) {after : TileTable}
    (hne : ∀ j, j ≠ i → after.get j = a.get j) : after.SameOutside slots b := by
  intro j hj
  rw [hne j fun heq => hj (heq ▸ hi)]
  exact h j hj

theorem drop (h : a.SameOutside slots b) (i : TileIndex) :
    (a.drop i).SameOutside slots (b.drop i) :=
  h.set i fun hi => by rw [h i hi]

theorem install (h : a.SameOutside slots b) (i : TileIndex) (texture : TextureRef) :
    (a.install i texture).SameOutside slots (b.install i texture) :=
  (h.drop i).set i fun hi => by rw [h.drop i i hi]

theorem setProperties (h : a.SameOutside slots b) (i : TileIndex) (properties : TileProperties) :
    (a.setProperties i properties).SameOutside slots (b.setProperties i properties) :=
  (h.drop i).set i fun hi => by rw [h.drop i i hi]

theorem setRect (h : a.SameOutside slots b) (i : TileIndex) (rect : TileRect)
    (texelsLoaded : Nat) :
    (a.setRect i rect texelsLoaded).SameOutside slots (b.setRect i rect texelsLoaded) :=
  (h.drop i).set i fun hi => by rw [h.drop i i hi]

/-- All textures dropped on both sides. The rows are counted from texels that both have loaded. -/
theorem dropAll (h : a.SameOutside slots b) (texelsLoaded : Nat) :
    (a.dropAll texelsLoaded).SameOutside slots (b.dropAll texelsLoaded) := by
  intro i hi
  rw [get_dropAll, get_dropAll, h i hi]

end SameOutside

/-- The handle that a slot would retire, with the slot. -/
def retiring (table : TileTable) (i : TileIndex) : List (TileIndex × TextureHandle) :=
  (cachedHandles (table.get i)).map (i, ·)

/-- The handles that a slot would retire, without the slot. -/
theorem map_snd_retiring (table : TileTable) (i : TileIndex) :
    (table.retiring i).map Prod.snd = cachedHandles (table.get i) := by
  rw [retiring, List.map_map]
  exact List.map_id _

/-- All slots in order retire what the table retires if all textures are dropped. -/
theorem map_snd_retiring_all (table : TileTable) :
    ((List.finRange 8).flatMap table.retiring).map Prod.snd =
      table.toList.flatMap cachedHandles := by
  rw [toList_eq, List.flatMap_map, List.map_flatMap]
  simp only [map_snd_retiring]

/-- A slot that may differ retires nothing outside the slots that may differ. -/
theorem filter_retiring_of_mem {slots : List TileIndex} (table : TileTable) {i : TileIndex}
    (hi : i ∈ slots) : (table.retiring i).filter (·.1 ∉ slots) = [] := by
  rw [List.filter_eq_nil_iff]
  intro entry hentry
  obtain ⟨handle, -, rfl⟩ := List.mem_map.mp hentry
  simp [hi]

/-- Two tables retire the same handles from a slot that must agree. -/
theorem SameOutside.filter_retiring {slots : List TileIndex} {a b : TileTable}
    (h : a.SameOutside slots b) (i : TileIndex) :
    (a.retiring i).filter (·.1 ∉ slots) = (b.retiring i).filter (·.1 ∉ slots) := by
  by_cases hi : i ∈ slots
  · rw [filter_retiring_of_mem a hi, filter_retiring_of_mem b hi]
  · rw [retiring, retiring, h i hi]

end TileTable

namespace Processor

/-! ## Retirements -/

section

variable {α : Type}

/-- The handles that a command retires, each with its slot. -/
def retirements (p : Processor α) (m : ExternalMemory) :
    Command → List (TileIndex × TextureHandle)
  | .setTileSize tile _ => p.tiles.retiring (.wrap tile)
  | .setTile tile _ => p.tiles.retiring (.wrap tile)
  | .loadTile tile _ => p.tiles.retiring (.wrap tile)
  | .loadBlock tile slo tlo shi dt =>
    if (p.loadBlock m tile slo tlo shi dt).1 = .applied then
      (List.finRange 8).flatMap p.tiles.retiring
    else []
  | _ => []

end

variable {α : Type} [TextureAllocator α]

/-- The handles that rows retire up to the first error, each with its slot. -/
def rowRetirements (p : Processor α) (m : ExternalMemory) :
    List Row → List (TileIndex × TextureHandle)
  | [] => []
  | row :: rest =>
    p.retirements m (.decode row) ++
      match p.execute m (.decode row) with
      | (.error _, _) => []
      | (.ok _, q) => q.rowRetirements m rest

/-- The search for a texture retires nothing: it caches one only where there was none. -/
theorem resolveTexture_retired (p : Processor α) (i : TileIndex) :
    (p.resolveTexture i).2.tiles.retired = p.tiles.retired := by
  have hspec := p.resolveTexture_spec i
  generalize p.resolveTexture i = result at hspec
  cases hspec with
  | built htexture =>
    show p.tiles.retired ++ TileTable.cachedHandles (p.tiles.get i) = _
    rw [TileTable.cachedHandles, htexture]
    exact List.append_nil _
  | _ => rfl

/-- A tile load retires the handle of its slot when it prepares it, and none after that. -/
theorem loadTile_retired (p : Processor α) (m : ExternalMemory) (tile : Nat) (rect : TileRect) :
    (p.loadTile m tile rect).2.tiles.retired =
      p.tiles.retired ++ TileTable.cachedHandles (p.tiles.get (.wrap tile)) := by
  have hspec := p.loadTile_spec m tile rect
  generalize p.loadTile m tile rect = result at hspec
  cases hspec with
  | built =>
    show (p.prepareTileLoad (.wrap tile) rect).tiles.retired ++
      TileTable.cachedHandles ((p.prepareTileLoad (.wrap tile) rect).tiles.get (.wrap tile)) = _
    -- The prepared slot has dropped its texture, so installing the new one retires nothing more.
    rw [get_prepareTileLoad]
    exact List.append_nil _
  | _ => rfl

/-- The retired handles of a command are put after the earlier ones. -/
theorem retired_execute (p : Processor α) (m : ExternalMemory) (command : Command) :
    (p.execute m command).2.tiles.retired =
      p.tiles.retired ++ (p.retirements m command).map Prod.snd := by
  have hnone (q : Processor α) (hq : q.tiles.retired = p.tiles.retired) :
      q.tiles.retired = p.tiles.retired ++ [].map (Prod.snd : TileIndex × TextureHandle → _) := by
    rw [hq, List.map_nil, List.append_nil]
  cases command with
  | triangle t =>
    refine hnone _ ?_
    -- A triangle may cache a texture, but it drops none.
    exact drawTriangle_induction (P := fun q => q.tiles.retired = p.tiles.retired) rfl
      p.resolveTexture_retired (fun _ _ h => h) t
  | setTileSize tile rect =>
    rw [retirements, TileTable.map_snd_retiring]
    rfl
  | setTile tile properties =>
    rw [retirements, TileTable.map_snd_retiring]
    rfl
  | loadTile tile rect =>
    rw [retirements, TileTable.map_snd_retiring]
    exact p.loadTile_retired m tile rect
  | loadBlock tile slo tlo shi dt =>
    rw [retirements]
    show (p.loadBlock m tile slo tlo shi dt).2.tiles.retired = _
    rw [loadBlock_eq]
    cases p.textureMemory.load? m (p.blockLoad tile slo tlo shi dt)
        p.settings.maxBlockTexels.toNat with
    | none => exact hnone p rfl
    | some memory =>
      -- A block that was accepted drops the textures of all slots, in slot order.
      rw [if_pos rfl, TileTable.map_snd_retiring_all]
      rfl
  | _ => exact hnone _ rfl

/-- The retired list grows by what the rows retire, in row order. -/
theorem retired_run (p : Processor α) (m : ExternalMemory) (counts : BatchCounts)
    (rows : List Row) :
    (p.run m counts rows).2.tiles.retired =
      p.tiles.retired ++ (p.rowRetirements m rows).map Prod.snd := by
  induction rows generalizing p counts with
  | nil => exact (List.append_nil _).symm
  | cons row rest ih =>
    have hrow := p.retired_execute m (.decode row)
    rw [run, rowRetirements, List.map_append, ← List.append_assoc, ← hrow]
    rcases p.execute m (.decode row) with ⟨e | outcome, q⟩
    · exact (List.append_nil _).symm
    · exact ih q (counts.record outcome)

/-! ## Two runs -/

omit [TextureAllocator α] in
/-- The second processor is the first one, except that some slots, some registers, the retired
handles and the current tile may differ. -/
def SameOutside (slots : List TileIndex) (registers : List Register) (p q : Processor α) : Prop :=
  ∃ tiles latched current, p.tiles.SameOutside slots tiles ∧
    p.registers.SameOutside registers latched ∧
    q = { p with tiles := tiles, registers := latched, currentTile := current }

omit [TextureAllocator α] in
/-- Two runs give the same result, and processors that are the same outside of some slots and
registers. -/
def AgreeOutside {β : Type} (slots : List TileIndex) (registers : List Register)
    (r r' : β × Processor α) : Prop :=
  r'.1 = r.1 ∧ r.2.SameOutside slots registers r'.2

section

variable {slots : List TileIndex} {registers : List Register} {p q : Processor α}

omit [TextureAllocator α] in
theorem SameOutside.refl (p : Processor α) : p.SameOutside slots registers p :=
  ⟨p.tiles, p.registers, p.currentTile, fun _ _ => rfl, .refl registers p.registers, rfl⟩

omit [TextureAllocator α] in
theorem SameOutside.settings_eq (h : p.SameOutside slots registers q) :
    q.settings = p.settings := by
  obtain ⟨tiles, latched, current, -, -, rfl⟩ := h
  rfl

omit [TextureAllocator α] in
theorem SameOutside.tiles (h : p.SameOutside slots registers q) :
    p.tiles.SameOutside slots q.tiles := by
  obtain ⟨tiles, latched, current, htiles, -, rfl⟩ := h
  exact htiles

omit [TextureAllocator α] in
/-- The same triangle appended on both sides. -/
theorem SameOutside.pushTriangle (h : p.SameOutside slots registers q) (t : TriangleCommand)
    (texture : Option TextureRef) (validHeight : Nat) :
    (p.pushTriangle t texture validHeight).SameOutside slots registers
      (q.pushTriangle t texture validHeight) := by
  obtain ⟨tiles, latched, current, htiles, hlatched, rfl⟩ := h
  refine ⟨tiles, latched, current, htiles, hlatched, ?_⟩
  simp only [Processor.pushTriangle, hlatched.primitive]

omit [TextureAllocator α] in
/-- A tile load prepared on both sides. -/
theorem SameOutside.prepareTileLoad (h : p.SameOutside slots registers q) (i : TileIndex)
    (rect : TileRect) :
    (p.prepareTileLoad i rect).SameOutside slots registers (q.prepareTileLoad i rect) := by
  obtain ⟨tiles, latched, current, htiles, hlatched, rfl⟩ := h
  have hprepared := (htiles.drop i).set i fun hi =>
    congrArg (fun tile : Tile => { tile with rect := rect, validHeight := 0 }) (htiles.drop i i hi)
  exact ⟨_, latched, i, hprepared, hlatched, rfl⟩

/-- A slot that must agree resolves to the same texture on both sides, with the same allocation. -/
theorem SameOutside.resolveTexture (h : p.SameOutside slots registers q) {i : TileIndex}
    (hi : i ∉ slots) :
    AgreeOutside slots registers (p.resolveTexture i) (q.resolveTexture i) := by
  obtain ⟨tiles, latched, current, htiles, hlatched, rfl⟩ := h
  unfold Processor.resolveTexture
  dsimp only
  -- Texture memory and the allocator are common, and so is the tile: every branch is the same
  -- branch on the other side.
  rw [← htiles i hi]
  cases (p.tiles.get i).texture with
  | some texture => exact ⟨rfl, tiles, latched, current, htiles, hlatched, rfl⟩
  | none =>
    rcases p.textureMemory.decode (p.tiles.get i) with e | _ | image
    · exact ⟨rfl, tiles, latched, current, htiles, hlatched, rfl⟩
    · exact ⟨rfl, tiles, latched, current, htiles, hlatched, rfl⟩
    · dsimp only
      rcases TextureAllocator.allocate p.allocator image with ⟨e | handle, allocator⟩
      · exact ⟨rfl, tiles, latched, current, htiles, hlatched, rfl⟩
      · exact ⟨rfl, tiles.install i _, latched, current, htiles.install i _, hlatched, rfl⟩

/-- A triangle that is drawn from a slot that must agree is the same on both sides. -/
theorem SameOutside.drawTriangle (h : p.SameOutside slots registers q) (t : TriangleCommand)
    (ht : ∀ i ∈ slots, (Command.triangle t).sourceTile? ≠ some i) :
    AgreeOutside slots registers (p.drawTriangle t) (q.drawTriangle t) := by
  unfold Processor.drawTriangle
  by_cases htexture : t.kind.texture = true
  · have hi : TileIndex.wrap t.edges.tile ∉ slots := fun hmem =>
      ht _ hmem (if_pos htexture)
    rw [if_pos htexture, if_pos htexture]
    have hagree := h.resolveTexture hi
    rcases hp : p.resolveTexture (.wrap t.edges.tile) with ⟨result, after⟩
    rcases hq : q.resolveTexture (.wrap t.edges.tile) with ⟨result', after'⟩
    rw [hp, hq] at hagree
    simp only [hp, hq]
    obtain rfl : result' = result := hagree.1
    have hstate : after.SameOutside slots registers after' := hagree.2
    cases result' with
    | error e =>
      refine ⟨?_, hstate⟩
      dsimp only
      rw [hstate.settings_eq]
    | ok texture =>
      dsimp only
      -- The height that the triangle carries is read from the slot, which is common too.
      rw [← hstate.tiles _ hi]
      exact ⟨rfl, hstate.pushTriangle t texture _⟩
  · rw [if_neg htexture, if_neg htexture]
    exact ⟨rfl, h.pushTriangle t none 0⟩

omit [TextureAllocator α] in
/-- A block is loaded alike on both sides: its operands are read from a slot that must agree. -/
theorem SameOutside.loadBlock (h : p.SameOutside slots registers q) (m : ExternalMemory)
    {tile : Nat} (htile : TileIndex.wrap tile ∉ slots) (slo tlo shi dt : Nat) :
    AgreeOutside slots registers (p.loadBlock m tile slo tlo shi dt)
      (q.loadBlock m tile slo tlo shi dt) := by
  obtain ⟨tiles, latched, current, htiles, hlatched, rfl⟩ := h
  -- The block is found through registers that are never among those that may differ.
  have hoperands :
      ({ p with tiles := tiles, registers := latched, currentTile := current } :
        Processor α).blockLoad tile slo tlo shi dt = p.blockLoad tile slo tlo shi dt := by
    simp only [blockLoad, htiles _ htile]
  rw [loadBlock_eq, loadBlock_eq, hoperands]
  dsimp only
  cases p.textureMemory.load? m (p.blockLoad tile slo tlo shi dt)
      p.settings.maxBlockTexels.toNat with
  | none => exact ⟨rfl, tiles, latched, current, htiles, hlatched, rfl⟩
  | some memory => exact ⟨rfl, _, latched, current, htiles.dropAll _, hlatched, rfl⟩

/-- A tile is loaded alike on both sides. The slot may be one of those that differ, since the
texture comes from memory. -/
theorem SameOutside.loadTile (h : p.SameOutside slots registers q) (m : ExternalMemory)
    (tile : Nat) (rect : TileRect) :
    AgreeOutside slots registers (p.loadTile m tile rect) (q.loadTile m tile rect) := by
  have hprepared := h.prepareTileLoad (.wrap tile) rect
  unfold Processor.loadTile
  dsimp only
  generalize p.prepareTileLoad (.wrap tile) rect = before,
    q.prepareTileLoad (.wrap tile) rect = before' at hprepared ⊢
  obtain ⟨tiles, latched, current, htiles, hlatched, rfl⟩ := hprepared
  -- The image does not come from the tile table.
  have himage : ({ before with tiles := tiles, registers := latched, currentTile := current } :
      Processor α).tileLoadImage m rect = before.tileLoadImage m rect := rfl
  rw [himage]
  rcases before.tileLoadImage m rect with e | _ | image
  · exact ⟨rfl, tiles, latched, current, htiles, hlatched, rfl⟩
  · exact ⟨rfl, tiles, latched, current, htiles, hlatched, rfl⟩
  · dsimp only
    rcases TextureAllocator.allocate before.allocator image with ⟨e | handle, allocator⟩
    · exact ⟨rfl, tiles, latched, current, htiles, hlatched, rfl⟩
    · have hinstalled := htiles.install (.wrap tile) ⟨handle, rect.width, rect.height⟩
      have hcounted := hinstalled.set (.wrap tile) fun hi =>
        congrArg (fun tile : Tile => { tile with validHeight := rect.height }) (hinstalled _ hi)
      exact ⟨rfl, _, latched, current, hcounted, hlatched, rfl⟩

/-- A command that is kept does the same, unless it loads or draws from a slot that may differ. -/
theorem execute_sameOutside (h : p.SameOutside slots registers q) (m : ExternalMemory)
    {command : Command} (hsource : ∀ i ∈ slots, command.sourceTile? ≠ some i) :
    AgreeOutside slots registers (p.execute m command) (q.execute m command) := by
  cases command with
  -- A triangle and a block read the slot they name, so here it must be one that agrees.
  | triangle t => exact h.drawTriangle t hsource
  | loadBlock tile slo tlo shi dt =>
    have htile : TileIndex.wrap tile ∉ slots := fun hmem => hsource _ hmem rfl
    obtain ⟨hsame, hstate⟩ := h.loadBlock m htile slo tlo shi dt
    exact ⟨congrArg Except.ok hsame, hstate⟩
  | loadTile tile rect => exact h.loadTile m tile rect
  -- A description may go to any slot: it leaves that slot alike, or as different as it was.
  | setTileSize tile rect =>
    obtain ⟨tiles, latched, current, htiles, hlatched, rfl⟩ := h
    exact ⟨rfl, _, latched, _, htiles.setRect _ rect _, hlatched, rfl⟩
  | setTile tile properties =>
    obtain ⟨tiles, latched, current, htiles, hlatched, rfl⟩ := h
    exact ⟨rfl, _, latched, current, htiles.setProperties _ properties, hlatched, rfl⟩
  -- A register that is set on both sides agrees from here on.
  | setScissor scissor =>
    obtain ⟨tiles, latched, current, htiles, hlatched, rfl⟩ := h
    exact ⟨rfl, tiles, { latched with scissor := scissor }, current, htiles,
      { hlatched with scissor := fun _ => rfl }, rfl⟩
  | setPrimColor color =>
    obtain ⟨tiles, latched, current, htiles, hlatched, rfl⟩ := h
    exact ⟨rfl, tiles, { latched with primitive := color }, current, htiles,
      { hlatched with primitive := rfl }, rfl⟩
  | setEnvColor color =>
    obtain ⟨tiles, latched, current, htiles, hlatched, rfl⟩ := h
    exact ⟨rfl, tiles, { latched with environment := color }, current, htiles,
      { hlatched with environment := fun _ => rfl }, rfl⟩
  | setBlendColor color =>
    obtain ⟨tiles, latched, current, htiles, hlatched, rfl⟩ := h
    exact ⟨rfl, tiles, { latched with blend := color }, current, htiles,
      { hlatched with blend := fun _ => rfl }, rfl⟩
  | setFogColor color =>
    obtain ⟨tiles, latched, current, htiles, hlatched, rfl⟩ := h
    exact ⟨rfl, tiles, { latched with fog := color }, current, htiles,
      { hlatched with fog := fun _ => rfl }, rfl⟩
  | setColorImage image =>
    obtain ⟨tiles, latched, current, htiles, hlatched, rfl⟩ := h
    exact ⟨rfl, tiles, { latched with colorImage := image.maskAddress p.settings.addressMask },
      current, htiles, { hlatched with colorImage := fun _ => rfl }, rfl⟩
  | setZImage address =>
    obtain ⟨tiles, latched, current, htiles, hlatched, rfl⟩ := h
    exact ⟨rfl, tiles, { latched with depthImage := address &&& p.settings.addressMask }, current,
      htiles, { hlatched with depthImage := fun _ => rfl }, rfl⟩
  | _ =>
    obtain ⟨tiles, latched, current, htiles, hlatched, rfl⟩ := h
    exact ⟨rfl, tiles, latched, current, htiles, hlatched, rfl⟩

omit [TextureAllocator α] in
/-- A kept command retires the same handles outside of the slots that may differ. -/
theorem filter_retirements (h : p.SameOutside slots registers q) (m : ExternalMemory)
    {command : Command} (hsource : ∀ i ∈ slots, command.sourceTile? ≠ some i) :
    (p.retirements m command).filter (·.1 ∉ slots) =
      (q.retirements m command).filter (·.1 ∉ slots) := by
  cases command with
  | setTileSize tile rect => exact h.tiles.filter_retiring _
  | setTile tile properties => exact h.tiles.filter_retiring _
  | loadTile tile rect => exact h.tiles.filter_retiring _
  | loadBlock tile slo tlo shi dt =>
    have htile : TileIndex.wrap tile ∉ slots := fun hmem => hsource _ hmem rfl
    have houtcome := (h.loadBlock m htile slo tlo shi dt).1
    -- The block is accepted on both sides or on neither, and then all slots are dropped on both.
    rw [retirements, retirements, houtcome]
    by_cases happlied : (p.loadBlock m tile slo tlo shi dt).1 = .applied
    · rw [if_pos happlied, if_pos happlied, List.filter_flatMap, List.filter_flatMap]
      simp only [h.tiles.filter_retiring]
    · rw [if_neg happlied, if_neg happlied]
  | _ => rfl

/-- A command that is left out changes only its slot or its register, and always succeeds. -/
theorem erase_sameOutside (h : p.SameOutside slots registers q) (m : ExternalMemory)
    {rows : List Row} {command : Command} (herasable : command.Erasable rows)
    (hslot : ∀ i, command.describedTile? = some i → i ∈ slots)
    (hregister : ∀ r, command.register? = some r → r ∈ registers) :
    (p.execute m command).1 = .ok (if command.isNop then .nop else .applied) ∧
      (p.execute m command).2.SameOutside slots registers q ∧
      (p.retirements m command).filter (·.1 ∉ slots) = [] := by
  obtain ⟨tiles, latched, current, htiles, hlatched, rfl⟩ := h
  cases command with
  | nop => exact ⟨rfl, ⟨tiles, latched, current, htiles, hlatched, rfl⟩, rfl⟩
  | ignored opcode => exact ⟨rfl, ⟨tiles, latched, current, htiles, hlatched, rfl⟩, rfl⟩
  -- A description changes and retires in its own slot, which is one of those that may differ.
  | setTile tile properties =>
    have hmem := hslot _ rfl
    have hset := htiles.of_ne hmem fun j hj => p.tiles.get_setProperties_of_ne hj properties
    exact ⟨rfl, ⟨tiles, latched, current, hset, hlatched, rfl⟩,
      p.tiles.filter_retiring_of_mem hmem⟩
  | setTileSize tile rect =>
    have hmem := hslot _ rfl
    have hset := htiles.of_ne hmem fun j hj =>
      p.tiles.get_setRect_of_ne hj rect p.textureMemory.texelsLoaded
    exact ⟨rfl, ⟨tiles, latched, current, hset, hlatched, rfl⟩,
      p.tiles.filter_retiring_of_mem hmem⟩
  -- A register is set on one side only, and it is one of those that may differ.
  | setEnvColor color =>
    exact ⟨rfl, ⟨tiles, latched, current, htiles, { hlatched with
      environment := fun hout => absurd (hregister _ rfl) hout }, rfl⟩, rfl⟩
  | setBlendColor color =>
    exact ⟨rfl, ⟨tiles, latched, current, htiles, { hlatched with
      blend := fun hout => absurd (hregister _ rfl) hout }, rfl⟩, rfl⟩
  | setFogColor color =>
    exact ⟨rfl, ⟨tiles, latched, current, htiles, { hlatched with
      fog := fun hout => absurd (hregister _ rfl) hout }, rfl⟩, rfl⟩
  | setScissor scissor =>
    exact ⟨rfl, ⟨tiles, latched, current, htiles, { hlatched with
      scissor := fun hout => absurd (hregister _ rfl) hout }, rfl⟩, rfl⟩
  | setColorImage image =>
    exact ⟨rfl, ⟨tiles, latched, current, htiles, { hlatched with
      colorImage := fun hout => absurd (hregister _ rfl) hout }, rfl⟩, rfl⟩
  | setZImage address =>
    exact ⟨rfl, ⟨tiles, latched, current, htiles, { hlatched with
      depthImage := fun hout => absurd (hregister _ rfl) hout }, rfl⟩, rfl⟩
  | triangle _ | loadBlock | loadTile | fillRectangle _ => exact herasable.elim
  | setFillColor _ | setTextureImage _ | setPrimColor _ => exact herasable.elim

end

/-- Rows after one more row: the same, and one more is counted. -/
theorem run_record (p : Processor α) (m : ExternalMemory) (counts : BatchCounts)
    (outcome : Outcome) (rows : List Row) :
    p.run m (counts.record outcome) rows =
      ((p.run m counts rows).1.map (BatchCounts.zero.record outcome).add,
        (p.run m counts rows).2) := by
  have hcounts : counts.record outcome = (BatchCounts.zero.record outcome).add counts := by
    simp only [BatchCounts.record, BatchCounts.add, BatchCounts.zero, Nat.zero_add, Nat.add_comm]
  rw [hcounts, run_add]

/-- Rows of which some are left out: the same result but for the counts of those that are left out,
and the same processor and the same retired handles outside of what they set. -/
theorem run_erasure (m : ExternalMemory) {slots : List TileIndex} {registers : List Register}
    {rows whole kept erased : List Row} (hsplit : Erasure whole kept erased)
    (herasable : ∀ row ∈ erased, (Command.decode row).Erasable rows)
    (hslots : ∀ row ∈ erased, ∀ i, (Command.decode row).describedTile? = some i → i ∈ slots)
    (hregisters : ∀ row ∈ erased, ∀ r, (Command.decode row).register? = some r → r ∈ registers)
    (hsource : ∀ row ∈ kept, ∀ i ∈ slots, (Command.decode row).sourceTile? ≠ some i)
    (counts : BatchCounts) {p q : Processor α} (h : p.SameOutside slots registers q) :
    (p.run m counts whole).1 = (q.run m counts kept).1.map (·.add (erasedCounts erased)) ∧
      (p.run m counts whole).2.SameOutside slots registers (q.run m counts kept).2 ∧
      (p.rowRetirements m whole).filter (·.1 ∉ slots) =
        (q.rowRetirements m kept).filter (·.1 ∉ slots) := by
  induction hsplit generalizing counts p q with
  | nil => exact ⟨rfl, h, rfl⟩
  | keep row _ ih =>
    have hrow := hsource row List.mem_cons_self
    have hagree := execute_sameOutside h m hrow
    have hretired := filter_retirements h m hrow
    rw [run, run, rowRetirements, rowRetirements, List.filter_append, List.filter_append, hretired]
    rcases hp : p.execute m (.decode row) with ⟨result, after⟩
    rcases hq : q.execute m (.decode row) with ⟨result', after'⟩
    rw [hp, hq] at hagree
    obtain rfl : result' = result := hagree.1
    have hstate : after.SameOutside slots registers after' := hagree.2
    cases result' with
    | error e => exact ⟨rfl, hstate, rfl⟩
    | ok outcome =>
      obtain ⟨hresult, hafter, hlater⟩ := ih herasable hslots hregisters
        (fun later hmem => hsource later (List.mem_cons_of_mem _ hmem)) (counts.record outcome)
        hstate
      exact ⟨hresult, hafter, congrArg _ hlater⟩
  | @erase _ kept erased row _ ih =>
    obtain ⟨hresult, hstate, hretired⟩ := erase_sameOutside h m
      (herasable row List.mem_cons_self) (hslots row List.mem_cons_self)
      (hregisters row List.mem_cons_self)
    let outcome : Outcome := if (Command.decode row).isNop then .nop else .applied
    rcases hp : p.execute m (.decode row) with ⟨result, after⟩
    rw [hp] at hresult hstate
    obtain rfl : result = .ok outcome := hresult
    -- This side goes on with one more row counted.
    obtain ⟨hrun, hafter, hlater⟩ := ih
      (fun later hmem => herasable later (List.mem_cons_of_mem _ hmem))
      (fun later hmem => hslots later (List.mem_cons_of_mem _ hmem))
      (fun later hmem => hregisters later (List.mem_cons_of_mem _ hmem)) hsource
      (counts.record outcome) hstate
    rw [q.run_record] at hrun hafter
    rw [run, rowRetirements, hp, List.filter_append, hretired, List.nil_append]
    refine ⟨hrun.trans ?_, hafter, hlater⟩
    rw [erasedCounts_cons]
    cases (q.run m counts kept).1 with
    | error e => rfl
    | ok total => exact congrArg Except.ok (BatchCounts.add_left_comm _ total _)

/-- **Rows that do not matter can be left out.** From a batch that is well-formed, as every batch is
that was made of rows, some rows are left out that have no effect, set registers that only the
rasterizer reads, or describe a tile from which no row of the batch loads or draws. The batch of the
other rows fails with the same error, or succeeds and counts just those rows less. Everything is the
same afterwards: frame, textures, texels and operands; except that the current tile may differ, the
registers that were set, the slots that were described, and the handles that these retired. -/
theorem processBatch_erasure (p : Processor α) (m : ExternalMemory) {batch : Batch}
    (hvalid : batch.validate = .ok ()) {kept erased : List Row}
    (hsplit : Erasure batch.rows kept erased)
    (herasable : ∀ row ∈ erased, (Command.decode row).Erasable batch.rows) :
    let whole := p.processBatch m batch
    let short := p.processBatch m (.ofRows kept)
    let slots := describedTiles erased
    whole.1 = short.1.map (·.add (erasedCounts erased)) ∧
    short.2 = { whole.2 with
      tiles := short.2.tiles
      registers := short.2.registers
      currentTile := short.2.currentTile } ∧
    whole.2.registers.SameOutside (setRegisters erased) short.2.registers ∧
    (∀ i, i ∉ slots → whole.2.tiles.get i = short.2.tiles.get i) ∧
    whole.2.tiles.retired =
      p.tiles.retired ++ (p.rowRetirements m batch.rows).map Prod.snd ∧
    short.2.tiles.retired = p.tiles.retired ++ (p.rowRetirements m kept).map Prod.snd ∧
    (p.rowRetirements m batch.rows).filter (·.1 ∉ slots) =
      (p.rowRetirements m kept).filter (·.1 ∉ slots) := by
  intro whole short slots
  have hlengths : ∀ row ∈ kept, row.length < 2 ^ 32 := fun row hmem =>
    Batch.length_lt_of_mem_rows (hsplit.mem_of_mem_kept hmem)
  have hwhole : whole = p.run m .zero batch.rows := by
    simp only [whole, processBatch, hvalid]
  have hshort : short = p.run m .zero kept := by
    simp only [short, processBatch_ofRows, Batch.rows_ofRows hlengths]
  -- A tile that is described by a row that is left out is not read by any row.
  have hsource : ∀ row ∈ kept, ∀ i ∈ slots, (Command.decode row).sourceTile? ≠ some i := by
    intro row hrow i hi
    obtain ⟨described, hmem, htile⟩ := List.mem_filterMap.mp hi
    exact (herasable described hmem).not_source htile row (hsplit.mem_of_mem_kept hrow)
  obtain ⟨hresult, ⟨tiles, latched, current, htiles, hlatched, hstate⟩, hretired⟩ :=
    run_erasure m hsplit herasable
      (fun row hmem i hi => List.mem_filterMap.mpr ⟨row, hmem, hi⟩)
      (fun row hmem r hr => List.mem_filterMap.mpr ⟨row, hmem, hr⟩) hsource .zero
      (SameOutside.refl p)
  rw [hwhole, hshort]
  refine ⟨hresult, ?_, ?_, ?_, p.retired_run m .zero batch.rows, p.retired_run m .zero kept,
    hretired⟩
  · rw [hstate]
  · rw [hstate]
    exact hlatched
  · rw [hstate]
    exact htiles

/-- A tile is loaded and described, another one gets a texture, and the first one is drawn after
some rows in between. -/
def drawAfter (between : List Row) : List Row :=
  let axis : TileAxis := default
  [.setTextureImage 0 2 4 0, .setTile 0 0 2 0 8 0 axis axis, .setTileSize 0 ⟨0, 3, 0, 0⟩,
    .loadBlock 0 0 0 3 0, .loadTile 3 ⟨0, 1, 0, 0⟩] ++ between ++ [[0x0A000000]]

/-- Rows that do not matter for the triangle: the other tile is described anew. -/
def unrelatedRows : List Row :=
  [.setTile 3 0 2 8 8 0 default default, [0], .setEnvColor 5]

/-- Without the rows in between, the texture of the other tile stays where it is. -/
theorem processBatch_erasure_unrelatedRows :
    let memory : ExternalMemory := .ofBytes fun address => .ofNat address.toNat
    let p : Processor TexturePool := .powerOn .standard .empty
    let batch : Batch := .ofRows (drawAfter unrelatedRows)
    let whole := p.processBatch memory batch
    let short := p.processBatch memory (.ofRows (drawAfter []))
    Erasure batch.rows (drawAfter []) unrelatedRows ∧
    (∀ row ∈ unrelatedRows, (Command.decode row).Erasable batch.rows) ∧
    (whole.1.toOption = some ⟨9, 1, 0, 0⟩ ∧ short.1.toOption = some ⟨6, 0, 0, 0⟩) ∧
    (whole.2.tiles.retired = [⟨1⟩] ∧ short.2.tiles.retired = []) ∧
    whole.1 = short.1.map (·.add ⟨3, 1, 0, 0⟩) ∧
    short.2 = { whole.2 with
      tiles := short.2.tiles
      registers := short.2.registers
      currentTile := short.2.currentTile } ∧
    whole.2.registers.SameOutside [.environment] short.2.registers ∧
    ∀ i, i ∉ [(3 : TileIndex)] → whole.2.tiles.get i = short.2.tiles.get i := by
  intro memory p
  have hrows : (Batch.ofRows (drawAfter unrelatedRows)).rows = drawAfter unrelatedRows :=
    Batch.rows_ofRows (by decide +kernel)
  have hsplit : Erasure (Batch.ofRows (drawAfter unrelatedRows)).rows (drawAfter [])
      unrelatedRows := by
    rw [hrows]
    exact .keep _ (.keep _ (.keep _ (.keep _ (.keep _
      (.erase _ (.erase _ (.erase _ (.keep _ .nil))))))))
  have herasable : ∀ row ∈ unrelatedRows,
      (Command.decode row).Erasable (Batch.ofRows (drawAfter unrelatedRows)).rows := by
    rw [hrows]
    decide +kernel
  obtain ⟨hresult, hstate, hregisters, hslots, -⟩ :=
    processBatch_erasure p memory (Batch.validate_ofRows _) hsplit herasable
  have hcounts : erasedCounts unrelatedRows = ⟨3, 1, 0, 0⟩ := by decide +kernel
  have htiles : describedTiles unrelatedRows = [3] := by decide +kernel
  have hset : setRegisters unrelatedRows = [.environment] := by decide +kernel
  rw [hcounts] at hresult
  rw [htiles] at hslots
  rw [hset] at hregisters
  exact ⟨hsplit, herasable, by decide +kernel, by decide +kernel, hresult, hstate, hregisters,
    hslots⟩

end Processor

end DisplayProcessor
