import DisplayProcessor.Assembly
import DisplayProcessor.Proofs.RowByRow
import Mathlib.Data.List.Forall2

/-!
# What rows add to a frame

The rasterizer gets a frame as lists: four with an entry for every triangle, at the same place of
each, and one of filled rectangles. Rows only add to the ends of these lists. What a batch adds can
be read off its rows and their outcomes: one triangle for each triangle row that was applied, and
one rectangle for each row that fills one.

- `FrameLists`, `Frame.lists`: a frame as lists; `FrameLists.Shows`: a triangle command in them.
- `Command.drawn?`, `Command.filled?`: what a command adds, by its outcome.
- `Processor.RecordSpec`, `Processor.execute_recordSpec`: all that a command can do to the frame.
- `Processor.rowOutcomes_extends`: what rows add.
- `Processor.batch_appends_to_frame`: the main result.
-/

namespace DisplayProcessor

/-! ## A frame as lists -/

/-- A triangle without its coefficients. -/
structure TriangleSetup where
  edges : Edges
  texture : Option TextureRef
  validHeight : Nat
deriving DecidableEq

/-- The lists of a frame. A triangle has an entry in each of the first four. -/
structure FrameLists where
  setups : List TriangleSetup
  colors : List ShadeGradient
  coordinates : List (Option TextureGradient)
  depths : List (Option Gradient)
  fillRects : List FillRect
deriving DecidableEq

namespace FrameLists

/-- The lists for some triangles and rectangles. -/
def ofRecords (triangles : List Triangle) (fillRects : List FillRect) : FrameLists where
  setups := triangles.map fun t => ⟨t.edges, t.texture, t.validHeight⟩
  colors := triangles.map Triangle.color
  coordinates := triangles.map Triangle.coordinates
  depths := triangles.map Triangle.depth
  fillRects := fillRects

/-- Each list with the entries of another after its own. -/
def append (a b : FrameLists) : FrameLists where
  setups := a.setups ++ b.setups
  colors := a.colors ++ b.colors
  coordinates := a.coordinates ++ b.coordinates
  depths := a.depths ++ b.depths
  fillRects := a.fillRects ++ b.fillRects

/-- There is an entry for each of `n` triangles in every list of triangles. -/
structure Parallel (lists : FrameLists) (n : Nat) : Prop where
  setups : lists.setups.length = n
  colors : lists.colors.length = n
  coordinates : lists.coordinates.length = n
  depths : lists.depths.length = n

/-- The entries at place `k` are those of a triangle command: the geometry is its own, the
coefficient blocks are its own where its kind has them, and there is a texture only if its kind has
one. -/
structure Shows (lists : FrameLists) (k : Nat) (t : TriangleCommand) : Prop where
  setup : ∃ setup, lists.setups[k]? = some setup ∧ setup.edges = t.edges ∧
    (t.kind.texture = false → setup.texture = none ∧ setup.validHeight = 0)
  color : ∃ color, lists.colors[k]? = some color ∧ (t.shade = some color ↔ t.kind.shade = true)
  coordinates : ∃ coordinates, lists.coordinates[k]? = some coordinates ∧
    coordinates = t.texture ∧ (coordinates.isSome ↔ t.kind.texture = true)
  depth : ∃ depth, lists.depths[k]? = some depth ∧
    depth = t.depth ∧ (depth.isSome ↔ t.kind.depth = true)

theorem ofRecords_append (triangles later : List Triangle) (rects laterRects : List FillRect) :
    ofRecords (triangles ++ later) (rects ++ laterRects) =
      (ofRecords triangles rects).append (ofRecords later laterRects) := by
  simp only [ofRecords, append, List.map_append]

theorem parallel_ofRecords (triangles : List Triangle) (rects : List FillRect) :
    (ofRecords triangles rects).Parallel triangles.length :=
  ⟨List.length_map _, List.length_map _, List.length_map _, List.length_map _⟩

end FrameLists

/-- The frame as lists. -/
def Frame.lists (frame : Frame) : FrameLists :=
  .ofRecords frame.triangles.toList frame.fillRects.toList

theorem Frame.lists_empty : Frame.empty.lists = ⟨[], [], [], [], []⟩ := rfl

/-- A triangle is one more entry in each of four lists. -/
theorem Frame.lists_pushTriangle (frame : Frame) (t : Triangle) :
    (frame.pushTriangle t).lists =
      { frame.lists with
        setups := frame.lists.setups ++ [⟨t.edges, t.texture, t.validHeight⟩]
        colors := frame.lists.colors ++ [t.color]
        coordinates := frame.lists.coordinates ++ [t.coordinates]
        depths := frame.lists.depths ++ [t.depth] } := by
  simp [lists, FrameLists.ofRecords, pushTriangle]

theorem Frame.lists_pushFillRect (frame : Frame) (rect : FillRect) :
    (frame.pushFillRect rect).lists =
      { frame.lists with fillRects := frame.lists.fillRects ++ [rect] } := by
  simp [lists, FrameLists.ofRecords, pushFillRect]

/-- The frame is marked for the rasterizer if there is something to draw. -/
def Frame.Marked (frame : Frame) : Prop :=
  frame.canRender = true ↔ frame.lists.setups ≠ [] ∨ frame.lists.fillRects ≠ []

theorem Frame.Marked.empty : Frame.empty.Marked := by
  rw [Marked, lists_empty]
  simp [Frame.empty]

theorem Frame.Marked.pushTriangle (frame : Frame) (t : Triangle) :
    (frame.pushTriangle t).Marked := by
  rw [Marked, lists_pushTriangle]
  exact iff_of_true rfl (.inl (List.append_ne_nil_of_right_ne_nil _ (List.cons_ne_nil _ _)))

theorem Frame.Marked.pushFillRect (frame : Frame) (rect : FillRect) :
    (frame.pushFillRect rect).Marked := by
  rw [Marked, lists_pushFillRect]
  exact iff_of_true rfl (.inr (List.append_ne_nil_of_right_ne_nil _ (List.cons_ne_nil _ _)))

/-! ## What a command adds -/

namespace Command

/-- The triangle that a command adds to the frame, if it was applied. -/
def drawn? : Command → Except Error Outcome → Option TriangleCommand
  | .triangle t, .ok .applied => some t
  | _, _ => none

theorem eq_triangle_of_drawn? {command : Command} {result : Except Error Outcome}
    {t : TriangleCommand} (h : command.drawn? result = some t) : command = .triangle t := by
  unfold drawn? at h
  split at h
  · cases h
    rfl
  · cases h

/-- The rectangle that a command adds to the frame. -/
def filled? : Command → Option Corners
  | .fillRectangle corners => some corners
  | _ => none

end Command

/-- A triangle in the frame is what its command says, with the given colour if it has no shade, and
without a texture if its kind has none. -/
structure Triangle.Draws (primitive : Word) (t : TriangleCommand) (triangle : Triangle) : Prop where
  edges : triangle.edges = t.edges
  color : triangle.color = t.shade.getD (.flat primitive)
  coordinates : triangle.coordinates = t.texture
  depth : triangle.depth = t.depth
  plain : t.kind.texture = false → triangle.texture = none ∧ triangle.validHeight = 0

/-- The same with some colour. -/
def Triangle.Depicts (t : TriangleCommand) (triangle : Triangle) : Prop :=
  ∃ primitive, triangle.Draws primitive t

namespace Processor

variable {α : Type}

/-- All that a command can do to the frame: add the triangle that it draws, add the rectangle that
it fills, or leave it as it is. -/
inductive RecordSpec (p : Processor α) (command : Command) (result : Except Error Outcome) :
    Frame → Prop
  | triangle {t : TriangleCommand} {triangle : Triangle}
      (hdrawn : command.drawn? result = some t) (hfilled : command.filled? = none)
      (hdraws : Triangle.Draws p.registers.primitive.color t triangle) :
      RecordSpec p command result (p.frame.pushTriangle triangle)
  | fillRect {corners : Corners} (hdrawn : command.drawn? result = none)
      (hfilled : command.filled? = some corners) :
      RecordSpec p command result (p.frame.pushFillRect ⟨corners, p.fillColor⟩)
  | nothing (hdrawn : command.drawn? result = none) (hfilled : command.filled? = none) :
      RecordSpec p command result p.frame

variable [TextureAllocator α]

theorem drawTriangle_recordSpec (p : Processor α) (t : TriangleCommand) :
    p.RecordSpec (.triangle t) (p.drawTriangle t).1 (p.drawTriangle t).2.frame := by
  rcases p.drawTriangle_cases t with
    ⟨-, heq⟩ | ⟨texture, q, hkind, hresolve, heq⟩ | ⟨e, q, -, hresolve, heq⟩
  · rw [heq]
    exact .triangle rfl rfl ⟨rfl, rfl, rfl, rfl, fun _ => ⟨rfl, rfl⟩⟩
  · -- The search for the texture leaves the primitive colour and the frame alone.
    obtain ⟨tiles, allocator, hq⟩ := p.resolveTexture_changes (.wrap t.edges.tile)
    rw [hresolve] at hq
    rw [heq, show q = _ from hq]
    exact .triangle rfl rfl
      ⟨rfl, rfl, rfl, rfl, fun hplain => absurd (hkind.symm.trans hplain) nofun⟩
  · have hframe := p.resolveTexture_frame (.wrap t.edges.tile)
    rw [hresolve] at hframe
    rw [heq, show q.frame = p.frame from hframe]
    refine .nothing ?_ rfl
    rcases textureFailure_cases q.settings e with hfailure | hfailure
    · rw [hfailure]
      rfl
    · rw [hfailure]
      rfl

/-- A command does one of these things to the frame. -/
theorem execute_recordSpec (p : Processor α) (m : ExternalMemory) (command : Command) :
    p.RecordSpec command (p.execute m command).1 (p.execute m command).2.frame := by
  cases command with
  | triangle t => exact p.drawTriangle_recordSpec t
  | loadBlock tile slo tlo shi dt =>
    rw [show (p.execute m (.loadBlock tile slo tlo shi dt)).2.frame = p.frame from
      p.loadBlock_frame m tile slo tlo shi dt]
    exact .nothing rfl rfl
  | loadTile tile rect =>
    rw [show (p.execute m (.loadTile tile rect)).2.frame = p.frame from
      p.loadTile_frame m tile rect]
    exact .nothing rfl rfl
  | fillRectangle corners => exact .fillRect rfl rfl
  | _ => exact .nothing rfl rfl

end Processor

/-! ## Frames that grow -/

/-- A frame with some triangles and rectangles after those of another. -/
structure Frame.Extends (before after : Frame) (triangles : List Triangle) (rects : List FillRect) :
    Prop where
  triangles_eq : after.triangles.toList = before.triangles.toList ++ triangles
  fillRects_eq : after.fillRects.toList = before.fillRects.toList ++ rects

namespace Frame.Extends

theorem refl (frame : Frame) : frame.Extends frame [] [] :=
  ⟨(List.append_nil _).symm, (List.append_nil _).symm⟩

theorem trans {a b c : Frame} {triangles later : List Triangle} {rects laterRects : List FillRect}
    (hb : a.Extends b triangles rects) (hc : b.Extends c later laterRects) :
    a.Extends c (triangles ++ later) (rects ++ laterRects) :=
  ⟨by rw [hc.triangles_eq, hb.triangles_eq, List.append_assoc],
    by rw [hc.fillRects_eq, hb.fillRects_eq, List.append_assoc]⟩

theorem lists_eq {before after : Frame} {triangles : List Triangle} {rects : List FillRect}
    (h : before.Extends after triangles rects) :
    after.lists = before.lists.append (.ofRecords triangles rects) := by
  unfold Frame.lists
  rw [h.triangles_eq, h.fillRects_eq, FrameLists.ofRecords_append]

end Frame.Extends

namespace Processor

/-- What a command adds to the frame, by its outcome. -/
theorem RecordSpec.extends {α : Type} {p : Processor α} {command : Command}
    {result : Except Error Outcome} {frame : Frame} (h : p.RecordSpec command result frame) :
    ∃ triangles, p.frame.Extends frame triangles
        (command.filled?.toList.map fun corners => ⟨corners, p.fillColor⟩) ∧
      List.Forall₂ (Triangle.Draws p.registers.primitive.color) (command.drawn? result).toList
        triangles := by
  cases h with
  | triangle hdrawn hfilled hdraws =>
    rw [hdrawn, hfilled]
    exact ⟨[_], ⟨Array.toList_push, (List.append_nil _).symm⟩, .cons hdraws .nil⟩
  | fillRect hdrawn hfilled =>
    rw [hdrawn, hfilled]
    exact ⟨[], ⟨(List.append_nil _).symm, Array.toList_push⟩, .nil⟩
  | nothing hdrawn hfilled =>
    rw [hdrawn, hfilled]
    exact ⟨[], .refl _, .nil⟩

end Processor

/-! ## Rows -/

/-- The triangles of the rows that were applied, in order. -/
def drawnTriangles (rows : List Row) (results : List (Except Error Outcome)) :
    List TriangleCommand :=
  (rows.zip results).filterMap fun (row, result) => (Command.decode row).drawn? result

/-- The corners of the rectangles that rows fill, in order. -/
def filledCorners (rows : List Row) : List Corners :=
  rows.filterMap fun row => (Command.decode row).filled?

/-- The first row comes first among what is drawn. -/
theorem drawnTriangles_cons (row : Row) (rest : List Row) (result : Except Error Outcome)
    (results : List (Except Error Outcome)) :
    drawnTriangles (row :: rest) (result :: results) =
      ((Command.decode row).drawn? result).toList ++ drawnTriangles rest results := by
  unfold drawnTriangles
  rw [List.zip_cons_cons, List.filterMap_cons]
  dsimp only
  cases (Command.decode row).drawn? result <;> rfl

theorem drawnTriangles_nil_right (rows : List Row) : drawnTriangles rows [] = [] := by
  rw [drawnTriangles, List.zip_nil_right, List.filterMap_nil]

/-- The first row comes first among what is filled. -/
theorem filledCorners_cons (row : Row) (rest : List Row) :
    filledCorners (row :: rest) = (Command.decode row).filled?.toList ++ filledCorners rest := by
  unfold filledCorners
  rw [List.filterMap_cons]
  cases (Command.decode row).filled? <;> rfl

namespace Processor

variable {α : Type} [TextureAllocator α]

/-- What a command adds to the frame, whatever the colours are. -/
theorem execute_extends (p : Processor α) (m : ExternalMemory) (command : Command) :
    ∃ triangles rects, p.frame.Extends (p.execute m command).2.frame triangles rects ∧
      List.Forall₂ Triangle.Depicts (command.drawn? (p.execute m command).1).toList triangles ∧
      rects.map FillRect.corners = command.filled?.toList := by
  obtain ⟨triangles, hextends, hdraws⟩ := (p.execute_recordSpec m command).extends
  refine ⟨triangles, _, hextends, hdraws.imp fun _ _ h => ⟨_, h⟩, ?_⟩
  rw [List.map_map]
  exact List.map_id _

/-- What rows add to the frame, up to the one that fails. -/
theorem rowOutcomes_extends (p : Processor α) (m : ExternalMemory) (rows : List Row) :
    ∃ triangles rects,
      p.frame.Extends (p.afterRows m (rows.take (p.rowOutcomes m rows).length)).frame
        triangles rects ∧
      List.Forall₂ Triangle.Depicts (drawnTriangles rows (p.rowOutcomes m rows)) triangles ∧
      rects.map FillRect.corners = filledCorners (rows.take (p.rowOutcomes m rows).length) := by
  induction rows generalizing p with
  | nil => exact ⟨[], [], .refl _, .nil, rfl⟩
  | cons row rest ih =>
    obtain ⟨triangles, rects, hextends, hdrawn, hfilled⟩ := p.execute_extends m (.decode row)
    rcases hrow : p.execute m (.decode row) with ⟨e | outcome, q⟩
    · -- The failing row may still have changed the frame; nothing comes after it.
      rw [hrow] at hextends hdrawn
      rw [rowOutcomes_of_error hrow, List.length_singleton, List.take_succ_cons, afterRows_cons,
        hrow, drawnTriangles_cons, drawnTriangles_nil_right, List.append_nil, filledCorners_cons,
        ← hfilled]
      exact ⟨triangles, rects, hextends, hdrawn, (List.append_nil _).symm⟩
    · -- What the rest adds comes behind what this row adds.
      obtain ⟨later, laterRects, hlater, hlaterDrawn, hlaterFilled⟩ := ih q
      rw [hrow] at hextends hdrawn
      rw [rowOutcomes_of_ok hrow, List.length_cons, List.take_succ_cons, afterRows_cons, hrow,
        drawnTriangles_cons, filledCorners_cons, ← hfilled]
      refine ⟨triangles ++ later, rects ++ laterRects, hextends.trans hlater,
        List.rel_append hdrawn hlaterDrawn, ?_⟩
      rw [List.map_append, hlaterFilled]

/-- A batch that ends without a failure has an outcome for every row. -/
theorem batchOutcomes_of_ok {p : Processor α} {m : ExternalMemory} {batch : Batch}
    {counts : BatchCounts} (h : (p.processBatch m batch).1 = .ok counts) :
    p.batchOutcomes m batch = p.rowOutcomes m batch.rows ∧
      (p.batchOutcomes m batch).length = batch.rows.length := by
  have hvalid : batch.validate = .ok () := by
    rw [processBatch_eq] at h
    cases hvalid : batch.validate with
    | error e =>
      rw [hvalid] at h
      cases h
    | ok => rfl
  have hrows : p.batchOutcomes m batch = p.rowOutcomes m batch.rows := by
    rw [batchOutcomes, hvalid]
  refine ⟨hrows, ?_⟩
  rw [hrows]
  -- No outcome is an error, so every row has one.
  refine length_rowOutcomes fun e hmem => ?_
  rw [← hrows] at hmem
  cases h.symm.trans (processBatch_eq_error hmem)

end Processor

/-! ## Places in the lists -/

/-- A triangle command has the blocks of its kind. -/
structure TriangleCommand.Complete (t : TriangleCommand) : Prop where
  shade : t.shade.isSome = t.kind.shade
  texture : t.texture.isSome = t.kind.texture
  depth : t.depth.isSome = t.kind.depth

/-- A triangle that is decoded has the blocks of its kind, and no others. -/
theorem TriangleCommand.complete_decode (kind : TriangleKind) (row : Row) :
    (decode kind row).Complete := by
  constructor
  · cases h : kind.shade <;> simp [decode, h]
  · cases h : kind.texture <;> simp [decode, h]
  · cases h : kind.depth <;> simp [decode, h]

/-- A row that is a triangle was decoded as one of its kind. -/
theorem Command.complete_of_decode {row : Row} {t : TriangleCommand}
    (h : decode row = .triangle t) : t.Complete := by
  unfold decode decodeAs at h
  cases hopcode : Opcode.ofWord (row.word 0) with
  | triangle kind =>
    rw [hopcode] at h
    cases h
    exact TriangleCommand.complete_decode kind row
  | _ =>
    rw [hopcode] at h
    cases h

/-- What rows draw was decoded from them. -/
theorem complete_of_mem_drawnTriangles {rows : List Row} {results : List (Except Error Outcome)}
    {t : TriangleCommand} (h : t ∈ drawnTriangles rows results) : t.Complete := by
  obtain ⟨⟨row, result⟩, -, hdrawn⟩ := List.mem_filterMap.mp h
  exact Command.complete_of_decode (Command.eq_triangle_of_drawn? hdrawn)

/-- The entries of a triangle are at the place of its command. -/
theorem FrameLists.shows_ofRecords {drawn : List TriangleCommand} {triangles : List Triangle}
    (h : List.Forall₂ Triangle.Depicts drawn triangles) {k : Nat} {t : TriangleCommand}
    (hk : drawn[k]? = some t) (ht : t.Complete) (rects : List FillRect) :
    (ofRecords triangles rects).Shows k t := by
  -- The command and the triangle at the same place belong together.
  obtain ⟨triangle, htriangle, primitive, hdraws⟩ :
      ∃ triangle, triangles[k]? = some triangle ∧ triangle.Depicts t := by
    obtain ⟨hlt, rfl⟩ := List.getElem?_eq_some_iff.mp hk
    have hlt' : k < triangles.length := h.length_eq ▸ hlt
    exact ⟨_, List.getElem?_eq_getElem hlt', h.get hlt hlt'⟩
  have hentry {β : Type} (f : Triangle → β) : (triangles.map f)[k]? = some (f triangle) := by
    rw [List.getElem?_map, htriangle]
    rfl
  refine ⟨⟨_, hentry _, hdraws.edges, hdraws.plain⟩, ⟨_, hentry _, ?_⟩,
    ⟨_, hentry _, hdraws.coordinates, ?_⟩, ⟨_, hentry _, hdraws.depth, ?_⟩⟩
  · rw [hdraws.color, ← ht.shade]
    cases t.shade <;> simp
  · rw [hdraws.coordinates, ht.texture]
  · rw [hdraws.depth, ht.depth]

/-! ## Every frame -/

namespace Processor

variable {α : Type}

/-- Whatever a command does to the frame, the mark stays right. -/
theorem marked_of_recordSpec {p : Processor α} {command : Command} {result : Except Error Outcome}
    {frame : Frame} (h : p.RecordSpec command result frame) (hp : p.frame.Marked) :
    frame.Marked := by
  cases h with
  | triangle => exact .pushTriangle _ _
  | fillRect => exact .pushFillRect _ _
  | nothing => exact hp

variable [TextureAllocator α]

/-- Every operation keeps the mark of the frame right. -/
theorem marked_perform {p : Processor α} (hp : p.frame.Marked) (op : Operation) :
    (p.perform op).2.frame.Marked := by
  cases op with
  | processBatch m batch =>
    exact processBatch_induction (P := fun q => q.frame.Marked)
      (fun q command hq => marked_of_recordSpec (q.execute_recordSpec m command) hq) hp batch
  | execute m row => exact marked_of_recordSpec (p.execute_recordSpec m (.decode row)) hp
  | decodeTile n =>
    show (p.decodeTile n).2.frame.Marked
    rw [decodeTile_frame]
    exact hp
  | takeFrame => exact .empty
  | reset => exact .empty
  | release handles => exact hp

/-- In every state the frame is marked if there is something to draw. -/
theorem marked_after {p : Processor α} (hp : p.frame.Marked) (ops : List Operation) :
    (p.after ops).frame.Marked := by
  induction ops generalizing p with
  | nil => exact hp
  | cons op rest ih => exact ih (marked_perform hp op)

/-- **Nothing is lost, reordered or altered in a frame.** A batch that is completed leaves the
entries of all lists as they are and adds its own after them: in the order of its rows, one triangle
for each triangle row that was applied, at the same place in four lists, and one rectangle for each
row that fills one. In every state after power-on the lists of triangles have the same length, and
the frame is marked for the rasterizer exactly if there is a triangle or a rectangle. -/
theorem batch_appends_to_frame :
    (∀ {α : Type} [TextureAllocator α] (p : Processor α) (m : ExternalMemory) (batch : Batch)
        (counts : BatchCounts), (p.processBatch m batch).1 = .ok counts →
      let drawn := drawnTriangles batch.rows (p.batchOutcomes m batch)
      ∃ new : FrameLists,
        (p.processBatch m batch).2.frame.lists = p.frame.lists.append new ∧
        new.Parallel drawn.length ∧
        (∀ k t, drawn[k]? = some t → new.Shows k t) ∧
        new.fillRects.map FillRect.corners = filledCorners batch.rows) ∧
    ∀ {α : Type} [TextureAllocator α] (settings : Settings) (allocator : α) (ops : List Operation),
      let frame := ((powerOn settings allocator).after ops).frame
      frame.lists.Parallel frame.lists.setups.length ∧
      (frame.canRender = true ↔ frame.lists.setups ≠ [] ∨ frame.lists.fillRects ≠ []) := by
  constructor
  · intro α _ p m batch counts h drawn
    obtain ⟨hrows, hlength⟩ := batchOutcomes_of_ok h
    obtain ⟨triangles, rects, hextends, hdrawn, hfilled⟩ := p.rowOutcomes_extends m batch.rows
    rw [← hrows] at hextends hdrawn hfilled
    rw [hlength, List.take_length] at hextends hfilled
    -- The batch succeeded, so none of its rows was left out.
    have hstate : (p.processBatch m batch).2 = p.afterRows m batch.rows := by
      rw [processBatch_eq]
      show p.afterRows m (batch.rows.take _) = _
      rw [hlength, List.take_length]
    refine ⟨.ofRecords triangles rects, ?_, ?_, fun k t hk => ?_, hfilled⟩
    · rw [hstate]
      exact hextends.lists_eq
    · rw [show drawn.length = triangles.length from hdrawn.length_eq]
      exact FrameLists.parallel_ofRecords triangles rects
    · have hcomplete := complete_of_mem_drawnTriangles (List.mem_of_getElem? hk)
      exact FrameLists.shows_ofRecords hdrawn hk hcomplete rects
  · intro α _ settings allocator ops frame
    have hparallel := FrameLists.parallel_ofRecords frame.triangles.toList frame.fillRects.toList
    exact ⟨hparallel.setups.symm ▸ hparallel, marked_after .empty ops⟩

/-- A rectangle, a shaded triangle, a tile load of texels that are not decoded, a triangle with a
texture of which there is nothing, another rectangle and a triangle with depth. -/
def mixedPrimitives : List Row :=
  [.setFillColor 7, .fillRectangle ⟨⟨0⟩, ⟨0⟩, ⟨8⟩, ⟨8⟩⟩, [0x0C000000], .setTextureImage 2 1 4 0,
    .loadTile 0 ⟨0, 3, 0, 0⟩, [0x0A010000], .fillRectangle ⟨⟨8⟩, ⟨8⟩, ⟨16⟩, ⟨16⟩⟩, [0x09000000]]

/-- Three kinds of triangles and two rectangles, among rows that add nothing to the frame. -/
theorem batch_appends_to_frame_mixedPrimitives :
    let memory : ExternalMemory := .ofBytes fun address => .ofNat address.toNat
    let p : Processor TexturePool := .powerOn .standard .empty
    let batch : Batch := .ofRows mixedPrimitives
    let drawn := drawnTriangles batch.rows (p.batchOutcomes memory batch)
    (p.processBatch memory batch).1.toOption = some ⟨8, 0, 1, 0⟩ ∧
    drawn.map TriangleCommand.kind = [⟨true, false, false⟩, ⟨false, true, false⟩,
      ⟨false, false, true⟩] ∧
    ∃ new : FrameLists, (p.processBatch memory batch).2.frame.lists = p.frame.lists.append new ∧
      new.Parallel 3 ∧ (∀ k t, drawn[k]? = some t → new.Shows k t) ∧
      new.fillRects.map FillRect.corners =
        [⟨⟨0⟩, ⟨0⟩, ⟨8⟩, ⟨8⟩⟩, ⟨⟨8⟩, ⟨8⟩, ⟨16⟩, ⟨16⟩⟩] := by
  intro memory p batch drawn
  have hcounts : (p.processBatch memory batch).1.toOption = some ⟨8, 0, 1, 0⟩ := by decide +kernel
  have hkinds : drawn.map TriangleCommand.kind = [⟨true, false, false⟩, ⟨false, true, false⟩,
    ⟨false, false, true⟩] := by decide +kernel
  have hlength : drawn.length = 3 := (List.length_map _).symm.trans (congrArg List.length hkinds)
  refine ⟨hcounts, hkinds, ?_⟩
  rcases hresult : (p.processBatch memory batch).1 with e | counts
  · rw [hresult] at hcounts
    cases hcounts
  · obtain ⟨new, hlists, hparallel, hshows, hfilled⟩ :=
      batch_appends_to_frame.1 p memory batch counts hresult
    exact ⟨new, hlists, hlength ▸ hparallel, hshows, hfilled.trans (by decide +kernel)⟩

end Processor

end DisplayProcessor
