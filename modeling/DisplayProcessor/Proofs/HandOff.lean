import DisplayProcessor.Assembly
import DisplayProcessor.Proofs.BatchBoundaries
import DisplayProcessor.Proofs.FrameContents

/-!
# Where a frame ends

A hand-off takes away what was accumulated: the frame, the retired handles and the count of loaded
texels. Commands only add to the first two, and only a block load and a new rectangle read the
third. So a processor that keeps what a hand-off would have taken does the same at all other
commands, and a hand-off between them cuts the frame in two without any other effect.

- `Frame.append`: what two frames have to draw, in one frame.
- `Backlog`, `Processor.withBacklog`: what a hand-off takes, and a processor that still has it.
- `Command.readsLoadCount`: the commands that read the count of loaded texels.
- `Processor.execute_withBacklog`, `Processor.run_withBacklog`: a backlog does not matter.
- `Processor.takeFrame_cuts_frame`: the main result.
-/

namespace DisplayProcessor

/-! ## Frames after frames -/

namespace Frame

/-- The frame with all that a later one has to draw after its own. -/
def append (earlier later : Frame) : Frame :=
  { earlier with
    triangles := earlier.triangles ++ later.triangles
    fillRects := earlier.fillRects ++ later.fillRects
    canRender := earlier.canRender || later.canRender }

@[simp] theorem append_empty (earlier : Frame) : earlier.append .empty = earlier := by
  simp [append, empty]

/-- A triangle that is added to the later frame comes last in both. -/
theorem append_pushTriangle (earlier later : Frame) (t : Triangle) :
    earlier.append (later.pushTriangle t) = (earlier.append later).pushTriangle t := by
  simp [append, pushTriangle]

theorem append_pushFillRect (earlier later : Frame) (rect : FillRect) :
    earlier.append (later.pushFillRect rect) = (earlier.append later).pushFillRect rect := by
  simp [append, pushFillRect]

/-- The lists of two frames in one are those of both, one after the other. -/
theorem lists_append (earlier later : Frame) :
    (earlier.append later).lists = earlier.lists.append later.lists := by
  simp [lists, append, FrameLists.ofRecords_append]

end Frame

/-! ## Retired handles -/

namespace TileTable

/-- The table with some handles that were retired earlier. -/
def retiredAfter (table : TileTable) (earlier : List TextureHandle) : TileTable :=
  { table with retired := earlier ++ table.retired }

variable (table : TileTable) (earlier : List TextureHandle)

/-- Handles that were retired earlier are in no slot. -/
@[simp] theorem get_retiredAfter (i : TileIndex) :
    (table.retiredAfter earlier).get i = table.get i := rfl

theorem drop_retiredAfter (i : TileIndex) :
    (table.retiredAfter earlier).drop i = (table.drop i).retiredAfter earlier := by
  simp [retiredAfter, drop, get]

theorem set_retiredAfter (i : TileIndex) (tile : Tile) :
    (table.retiredAfter earlier).set i tile = (table.set i tile).retiredAfter earlier := rfl

theorem setProperties_retiredAfter (i : TileIndex) (properties : TileProperties) :
    (table.retiredAfter earlier).setProperties i properties =
      (table.setProperties i properties).retiredAfter earlier := by
  simp only [setProperties, drop_retiredAfter, get_retiredAfter, set_retiredAfter]

theorem install_retiredAfter (i : TileIndex) (texture : TextureRef) :
    (table.retiredAfter earlier).install i texture =
      (table.install i texture).retiredAfter earlier := by
  simp only [install, drop_retiredAfter, get_retiredAfter, set_retiredAfter]

end TileTable

/-! ## Backlogs -/

/-- What a hand-off takes away. -/
structure Backlog where
  frame : Frame
  retired : List TextureHandle
  texelsLoaded : Nat

/-- Whether a command reads the count of loaded texels. -/
def Command.readsLoadCount : Command → Bool
  | .setTileSize _ _ | .loadBlock .. => true
  | _ => false

namespace Processor

section

variable {α : Type}

/-- What the next hand-off will take away. -/
def backlog (p : Processor α) : Backlog :=
  ⟨p.frame, p.tiles.retired, p.textureMemory.texelsLoaded⟩

/-- The processor as if no hand-off had taken a backlog: what it has accumulated comes after, and
the count of loaded texels is the old one. -/
def withBacklog (p : Processor α) (b : Backlog) : Processor α :=
  { p with
    frame := b.frame.append p.frame
    tiles := p.tiles.retiredAfter b.retired
    textureMemory.texelsLoaded := b.texelsLoaded }

/-- After a hand-off the processor is the same, but for its backlog. -/
theorem takeFrame_withBacklog_backlog (p : Processor α) :
    p.takeFrame.2.withBacklog p.backlog = p := by
  simp [takeFrame, withBacklog, backlog, TileTable.takeRetired, TileTable.retiredAfter,
    TextureMemory.clearLoadCount]

/-- The next hand-off takes a backlog along: what two hand-offs would have taken, the one that was
left out and this one, comes in one frame. It leaves the same processor. -/
theorem takeFrame_withBacklog (earlier p : Processor α) :
    let whole := (p.withBacklog earlier.backlog).takeFrame
    let cut := earlier.takeFrame
    let rest := p.takeFrame
    whole.1.lists = cut.1.lists.append rest.1.lists ∧
    whole.1.retired = cut.1.retired ++ rest.1.retired ∧
    whole.1.registers = rest.1.registers ∧
    whole.1.canRender = (cut.1.canRender || rest.1.canRender) ∧
    whole.2 = rest.2 :=
  ⟨earlier.frame.lists_append p.frame, rfl, rfl, rfl, rfl⟩

/-- Texels are decoded the same, whatever the count of loaded ones. -/
theorem decode_withBacklog (p : Processor α) (b : Backlog) (tile : Tile) :
    (p.withBacklog b).textureMemory.decode tile = p.textureMemory.decode tile := rfl

theorem pushTriangle_withBacklog (p : Processor α) (b : Backlog) (t : TriangleCommand)
    (texture : Option TextureRef) (validHeight : Nat) :
    (p.withBacklog b).pushTriangle t texture validHeight =
      (p.pushTriangle t texture validHeight).withBacklog b := by
  simp only [pushTriangle, withBacklog, Frame.append_pushTriangle]

theorem cacheTexture_withBacklog (p : Processor α) (b : Backlog) (allocator : α) (i : TileIndex)
    (texture : TextureRef) :
    (p.withBacklog b).cacheTexture allocator i texture =
      (p.cacheTexture allocator i texture).withBacklog b := by
  simp only [cacheTexture, withBacklog, TileTable.install_retiredAfter]

theorem setLoadedRows_withBacklog (p : Processor α) (b : Backlog) (i : TileIndex) (rows : Nat) :
    (p.withBacklog b).setLoadedRows i rows = (p.setLoadedRows i rows).withBacklog b := rfl

theorem prepareTileLoad_withBacklog (p : Processor α) (b : Backlog) (i : TileIndex)
    (rect : TileRect) :
    (p.withBacklog b).prepareTileLoad i rect = (p.prepareTileLoad i rect).withBacklog b := by
  simp only [prepareTileLoad, withBacklog, TileTable.drop_retiredAfter,
    TileTable.get_retiredAfter, TileTable.set_retiredAfter]

end

variable {α : Type} [TextureAllocator α] (p : Processor α) (b : Backlog)

/-- The search for a texture is the same with a backlog. -/
theorem resolveTexture_withBacklog (i : TileIndex) :
    (p.withBacklog b).resolveTexture i =
      ((p.resolveTexture i).1, (p.resolveTexture i).2.withBacklog b) := by
  have hspec := p.resolveTexture_spec i
  generalize p.resolveTexture i = result at hspec
  -- The search reads the same slot, the same texels and the same allocator.
  have hslot : (p.withBacklog b).tiles.get i = p.tiles.get i := rfl
  have hallocator : (p.withBacklog b).allocator = p.allocator := rfl
  unfold resolveTexture
  rw [hslot, decode_withBacklog, hallocator]
  cases hspec with
  | cached htexture => rw [htexture]
  | empty htexture hdecode => rw [htexture, hdecode]
  | undecodable htexture hdecode => rw [htexture, hdecode]
  | refused htexture hdecode hrefused =>
    simp only [htexture, hdecode, hrefused]
    rfl
  | built htexture hdecode hbuilt =>
    simp only [htexture, hdecode, hbuilt]
    exact congrArg _ (p.cacheTexture_withBacklog b _ i _)

/-- A triangle is the same with a backlog: its entry comes behind those of the backlog. -/
theorem drawTriangle_withBacklog (t : TriangleCommand) :
    (p.withBacklog b).drawTriangle t =
      ((p.drawTriangle t).1, (p.drawTriangle t).2.withBacklog b) := by
  unfold drawTriangle
  by_cases htexture : t.kind.texture = true
  · simp only [if_pos htexture, resolveTexture_withBacklog]
    rcases p.resolveTexture (.wrap t.edges.tile) with ⟨e | texture, q⟩
    · rfl
    · exact congrArg _ (q.pushTriangle_withBacklog b t texture _)
  · simp only [if_neg htexture]
    exact congrArg _ (p.pushTriangle_withBacklog b t none 0)

/-- A tile load is the same with a backlog. -/
theorem loadTile_withBacklog (m : ExternalMemory) (tile : Nat) (rect : TileRect) :
    (p.withBacklog b).loadTile m tile rect =
      ((p.loadTile m tile rect).1, (p.loadTile m tile rect).2.withBacklog b) := by
  have hspec := p.loadTile_spec m tile rect
  generalize p.loadTile m tile rect = result at hspec
  -- The load prepares the same slot, and reads the same image.
  let prepared := p.prepareTileLoad (.wrap tile) rect
  have himage : (prepared.withBacklog b).tileLoadImage m rect = p.tileLoadImage m rect := rfl
  have hallocator : (prepared.withBacklog b).allocator = p.allocator := rfl
  unfold loadTile
  simp only [prepareTileLoad_withBacklog]
  rw [himage, hallocator]
  cases hspec with
  | empty himage => rw [himage]
  | undecodable himage =>
    rw [himage]
    rfl
  | refused himage hrefused =>
    simp only [himage, hrefused]
    rfl
  | built himage hbuilt =>
    simp only [himage, hbuilt]
    have hcache := prepared.cacheTexture_withBacklog b
    refine congrArg _ ?_
    show ((prepared.withBacklog b).cacheTexture _ (.wrap tile) _).setLoadedRows _ _ = _
    rw [hcache, setLoadedRows_withBacklog]

/-- A command that does not read the count of loaded texels does the same with a backlog. -/
theorem execute_withBacklog (m : ExternalMemory) {command : Command}
    (h : command.readsLoadCount = false) :
    (p.withBacklog b).execute m command =
      ((p.execute m command).1, (p.execute m command).2.withBacklog b) := by
  cases command with
  | triangle t => exact p.drawTriangle_withBacklog b t
  | setTileSize tile rect => cases h
  | loadBlock tile slo tlo shi dt => cases h
  | loadTile tile rect => exact p.loadTile_withBacklog b m tile rect
  | setTile tile properties =>
    simp only [execute, withBacklog, TileTable.setProperties_retiredAfter]
  | fillRectangle corners =>
    simp only [execute, withBacklog, Frame.append_pushFillRect]
  | _ => rfl

/-- Rows of such commands do the same with a backlog. -/
theorem run_withBacklog (m : ExternalMemory) (counts : BatchCounts) {rows : List Row}
    (hrows : ∀ row ∈ rows, (Command.decode row).readsLoadCount = false) :
    (p.withBacklog b).run m counts rows =
      ((p.run m counts rows).1, (p.run m counts rows).2.withBacklog b) := by
  induction rows generalizing p counts with
  | nil => rfl
  | cons row rest ih =>
    rw [run, run, p.execute_withBacklog b m (hrows row List.mem_cons_self)]
    rcases p.execute m (.decode row) with ⟨e | outcome, q⟩
    · rfl
    · exact ih q _ fun later hmem => hrows later (List.mem_cons_of_mem _ hmem)

/-- **A hand-off only cuts the frame.** Rows that do not fail are executed with a hand-off between
them, none of those after it a block load or a new rectangle: they do not fail either, and are
counted the same. The two frames have to draw and to release, one after the other, what a single
frame after all rows has; the second one has the same registers; and the processor is the same in
the end. -/
theorem takeFrame_cuts_frame (m : ExternalMemory) (first second : List Row) {total : BatchCounts}
    (hsecond : ∀ row ∈ second, (Command.decode row).readsLoadCount = false)
    (htotal : (p.run m .zero (first ++ second)).1 = .ok total) :
    let whole := (p.run m .zero (first ++ second)).2.takeFrame
    let cut := (p.run m .zero first).2.takeFrame
    let rest := (cut.2.run m .zero second).2.takeFrame
    (∃ counts more, (p.run m .zero first).1 = .ok counts ∧
      (cut.2.run m .zero second).1 = .ok more ∧ total = counts.add more) ∧
    whole.1.lists = cut.1.lists.append rest.1.lists ∧
    whole.1.retired = cut.1.retired ++ rest.1.retired ∧
    whole.1.registers = rest.1.registers ∧
    whole.1.canRender = (cut.1.canRender || rest.1.canRender) ∧
    whole.2 = rest.2 := by
  intro whole cut rest
  have happend := p.run_append m .zero first second
  rcases hfirst : p.run m .zero first with ⟨e | counts, q⟩
  · rw [happend, hfirst] at htotal
    cases htotal
  · let later := q.takeFrame.2.run m .zero second
    -- Without the hand-off the rows after it are executed with what it would have taken.
    have hrun : q.run m .zero second = (later.1, later.2.withBacklog q.backlog) := by
      rw [← run_withBacklog _ _ m .zero hsecond, takeFrame_withBacklog_backlog]
    have hadd : q.run m counts second =
        (later.1.map counts.add, later.2.withBacklog q.backlog) := by
      have hcounts := q.run_add m counts .zero second
      rwa [BatchCounts.add_zero, hrun] at hcounts
    have hall : p.run m .zero (first ++ second) =
        (later.1.map counts.add, later.2.withBacklog q.backlog) := by
      rw [happend, hfirst]
      exact hadd
    have hcut : cut = q.takeFrame := congrArg (fun result => result.2.takeFrame) hfirst
    have hrest : cut.2.run m .zero second = later := by rw [hcut]
    have hframes := takeFrame_withBacklog q later.2
    rw [hall] at htotal
    refine ⟨?_, ?_⟩
    · rcases hmore : later.1 with e | more
      · rw [hmore] at htotal
        cases htotal
      · rw [hmore] at htotal
        exact ⟨counts, more, rfl, hrest ▸ hmore, (Except.ok.inj htotal).symm⟩
    · simp only [whole, rest, hall, hrest]
      rw [hcut]
      exact hframes

/-- A block of texels is loaded for a tile, and drawn. -/
def loadAndDraw : List Row :=
  let axis : TileAxis := default
  [.setTextureImage 0 2 4 0, .setTile 0 0 2 0 8 0 axis axis, .setTileSize 0 ⟨0, 3, 0, 0⟩,
    .loadBlock 0 0 0 3 0, [0x0A000000]]

/-- The tile is drawn again and then described anew, and another one gets its texels. -/
def drawAndRedefine : List Row :=
  let axis : TileAxis := default
  [[0x0A000000], .setTile 0 0 2 8 8 0 axis axis, .loadTile 1 ⟨0, 1, 0, 0⟩, [0x0A010000],
    .setEnvColor 5, .fillRectangle ⟨⟨0⟩, ⟨0⟩, ⟨8⟩, ⟨8⟩⟩]

/-- The texture that both frames draw is retired with the second one. -/
theorem takeFrame_cuts_frame_drawAndRedefine :
    let memory : ExternalMemory := .ofBytes fun address => .ofNat address.toNat
    let p : Processor TexturePool := .powerOn .standard .empty
    let whole := (p.run memory .zero (loadAndDraw ++ drawAndRedefine)).2.takeFrame
    let cut := (p.run memory .zero loadAndDraw).2.takeFrame
    let rest := (cut.2.run memory .zero drawAndRedefine).2.takeFrame
    (cut.1.lists.setups.map TriangleSetup.texture = [some ⟨⟨1⟩, 4, 1⟩] ∧
      rest.1.lists.setups.map TriangleSetup.texture = [some ⟨⟨1⟩, 4, 1⟩, some ⟨⟨2⟩, 2, 1⟩] ∧
      cut.1.retired = [] ∧ rest.1.retired = [⟨1⟩]) ∧
    (∀ row ∈ drawAndRedefine, (Command.decode row).readsLoadCount = false) ∧
    (p.run memory .zero (loadAndDraw ++ drawAndRedefine)).1.toOption = some ⟨11, 0, 0, 0⟩ ∧
    whole.1.lists = cut.1.lists.append rest.1.lists ∧
    whole.1.retired = cut.1.retired ++ rest.1.retired ∧
    whole.1.registers = rest.1.registers ∧
    whole.1.canRender = (cut.1.canRender || rest.1.canRender) ∧
    whole.2 = rest.2 := by
  intro memory p
  have hplain : ∀ row ∈ drawAndRedefine, (Command.decode row).readsLoadCount = false := by
    decide +kernel
  have hcounts : (p.run memory .zero (loadAndDraw ++ drawAndRedefine)).1.toOption =
      some ⟨11, 0, 0, 0⟩ := by decide +kernel
  refine ⟨by decide +kernel, hplain, hcounts, ?_⟩
  -- The whole run succeeds, which is what the theorem asks for.
  rcases hresult : (p.run memory .zero (loadAndDraw ++ drawAndRedefine)).1 with e | total
  · rw [hresult] at hcounts
    cases hcounts
  · exact (takeFrame_cuts_frame p memory loadAndDraw drawAndRedefine hplain hresult).2

end Processor

end DisplayProcessor
