import DisplayProcessor.Assembly
import DisplayProcessor.Proofs.CommandCases
import DisplayProcessor.Proofs.Session
import Mathlib.Data.List.Forall2

/-!
# The swizzle does not show

The line step of a block load decides how the bytes of its quad-words are permuted, and nothing
else: each quad-word records its permutation, and every read of texels undoes it. Two runs that
differ only in line steps have the same answers, and the same state up to the raw bytes of texture
memory.

- `TextureMemory.SameTexels`: the same texels, whatever the permutations.
- `Row.SameButDt`, `Batch.SameButDt`: the same up to the line steps of block loads.
- `Processor.SameTexels`, `Processor.Agree`: the same state up to the raw bytes, and the same result.
- `Processor.SameTexels.execute`, `Processor.SameTexels.after`: what one command and what any
  operations keep.
- `Processor.swizzle_unobservable`: the main result.
-/

namespace DisplayProcessor

/-! ## Texture memory -/

namespace TextureMemory

/-- The memories have the same texels, and as many of them count as loaded. -/
structure SameTexels (a b : TextureMemory) : Prop where
  texelsLoaded : b.texelsLoaded = a.texelsLoaded
  read : ∀ (i : Fin 512) (j : Fin 8), b.quads[i].read j = a.quads[i].read j

namespace SameTexels

variable {a b : TextureMemory}

theorem refl (a : TextureMemory) : a.SameTexels a :=
  ⟨rfl, fun _ _ => rfl⟩

/-- A block load of the same bytes with another line step stores the same texels. -/
theorem storeQuads (h : a.SameTexels b) (load : BlockLoad) (dt : Nat) (source : Nat → UInt8) :
    SameTexels { a with quads := TextureMemory.storeQuads a.quads load source }
      { b with quads := TextureMemory.storeQuads b.quads { load with dt := dt } source } := by
  have hcount : { load with dt := dt }.quadCount = load.quadCount := rfl
  unfold TextureMemory.storeQuads
  rw [hcount]
  generalize List.range load.quadCount = indices
  induction indices generalizing a b with
  | nil => exact h
  | cons k rest ih =>
    refine ih (a := { a with quads := a.quads.set _ _ (Fin.isLt _) })
      (b := { b with quads := b.quads.set _ _ (Fin.isLt _) }) ⟨h.texelsLoaded, fun i j => ?_⟩
    -- The quad-word that is written reads as its source on both sides.
    by_cases hi : quadIndex (load.offset + 8 * k) = i
    · subst hi
      simp
    · have hne : (quadIndex (load.offset + 8 * k)).val ≠ i.val := fun heq => hi (Fin.ext heq)
      simp only [Fin.getElem_fin, Vector.getElem_set, if_neg hne]
      exact h.read i j

theorem texel16At (h : a.SameTexels b) (address : Nat) :
    b.texel16At address = a.texel16At address := by
  unfold TextureMemory.texel16At sourceByteAt
  rw [h.read, h.read]

theorem decode (h : a.SameTexels b) (tile : Tile) : b.decode tile = a.decode tile := by
  unfold TextureMemory.decode
  simp only [h.texel16At]

/-- The same block load, up to its line step, is dropped by both memories or by none, and leaves the
same texels. -/
theorem load? (h : a.SameTexels b) (m : ExternalMemory) (load : BlockLoad) (dt limit : Nat) :
    Option.Rel SameTexels (a.load? m load limit) (b.load? m { load with dt := dt } limit) := by
  have hcount : { load with dt := dt }.texelCount = load.texelCount := rfl
  unfold TextureMemory.load?
  -- The line step has no part in the count of texels, so both are accepted or both dropped.
  rw [hcount]
  by_cases hdrop : load.texelCount = 0 ∨ limit < load.texelCount
  · rw [if_pos hdrop, if_pos hdrop]
    exact .none
  · rw [if_neg hdrop, if_neg hdrop]
    have hquads := h.storeQuads load dt fun k =>
      (m.bytesAt load.source (load.byteCount + 7))[k]?.getD 0
    refine .some ⟨?_, hquads.read⟩
    show min _ (b.texelsLoaded + load.texelCount) = min _ (a.texelsLoaded + load.texelCount)
    rw [h.texelsLoaded]

end SameTexels

end TextureMemory

/-! ## Commands that differ in a line step -/

/-- The same command, or two block loads with the same operands up to the line step. -/
inductive Command.SameButDt : Command → Command → Prop where
  | same (command : Command) : SameButDt command command
  | loadBlock (tile slo tlo shi dt dt' : Nat) :
      SameButDt (.loadBlock tile slo tlo shi dt) (.loadBlock tile slo tlo shi dt')

/-- The same row, or two rows of block loads that differ at most in bits 0-11 of the second word. -/
def Row.SameButDt (row row' : Row) : Prop :=
  row' = row ∨
    (Opcode.ofWord (row.word 0) = .loadBlock ∧ row'.set 1 0 = row.set 1 0 ∧
      (row'.word 1).field 12 20 = (row.word 1).field 12 20)

instance (row row' : Row) : Decidable (row.SameButDt row') :=
  inferInstanceAs (Decidable (_ ∨ _))

/-- The same buffer size and row lengths, and the same rows up to line steps. -/
structure Batch.SameButDt (batch batch' : Batch) : Prop where
  wordCount : batch'.wordCount = batch.wordCount
  rowLengths : batch'.rowLengths = batch.rowLengths
  rows : List.Forall₂ Row.SameButDt batch.rows batch'.rows

theorem Batch.SameButDt.refl (batch : Batch) : batch.SameButDt batch :=
  ⟨rfl, rfl, List.forall₂_same.mpr fun _ _ => .inl rfl⟩

/-- The row lengths are common, so both batches are well formed or neither is. -/
theorem Batch.SameButDt.validate_eq {batch batch' : Batch} (h : batch.SameButDt batch') :
    batch'.validate = batch.validate := by
  unfold Batch.validate Batch.expectedWords
  rw [h.wordCount, h.rowLengths]

/-- Rows that differ in a line step are commands that differ in a line step. -/
theorem Row.SameButDt.decode {row row' : Row} (h : row.SameButDt row') :
    (Command.decode row).SameButDt (.decode row') := by
  obtain rfl | ⟨hopcode, hset, hfield⟩ := h
  · exact .same _
  · have hfirst : row'.word 0 = row.word 0 := by
      have hget := congrArg (·.getD 0 0) hset
      simpa [word, List.getD_eq_getElem?_getD] using hget
    -- The tile number and the last texel lie in the upper 20 bits of the second word.
    have htile : Command.tileField (row'.word 1) = Command.tileField (row.word 1) := by
      unfold Command.tileField
      unfold Word.field at hfield ⊢
      omega
    have hshi : (row'.word 1).field 12 12 = (row.word 1).field 12 12 := by
      unfold Word.field at hfield ⊢
      omega
    rw [Command.decode, Command.decode, hfirst, hopcode]
    show Command.SameButDt (.loadBlock _ _ _ _ _)
      (.loadBlock (Command.tileField (row'.word 1)) ((row'.word 0).field 12 12)
        ((row'.word 0).field 0 12) ((row'.word 1).field 12 12) _)
    rw [hfirst, htile, hshi]
    exact .loadBlock ..

/-! ## Processors that differ in raw bytes -/

namespace Processor

variable {α : Type}

/-- The processors differ at most in how the bytes of texture memory are permuted. -/
def SameTexels (p q : Processor α) : Prop :=
  ∃ memory, p.textureMemory.SameTexels memory ∧ q = { p with textureMemory := memory }

/-- Two runs give the same result, and processors that differ at most in raw bytes. -/
def Agree {β : Type} (r r' : β × Processor α) : Prop :=
  r'.1 = r.1 ∧ r.2.SameTexels r'.2

namespace SameTexels

variable {p q : Processor α}

theorem refl (p : Processor α) : p.SameTexels p :=
  ⟨p.textureMemory, .refl _, rfl⟩

/-- Two block loads that differ in dt at most are both accepted or both dropped. -/
theorem loadBlock (h : p.SameTexels q) (m : ExternalMemory) (tile slo tlo shi dt dt' : Nat) :
    Agree (p.loadBlock m tile slo tlo shi dt) (q.loadBlock m tile slo tlo shi dt') := by
  obtain ⟨memory, hmemory, rfl⟩ := h
  have hload := hmemory.load? m (p.blockLoad tile slo tlo shi dt) dt'
    p.settings.maxBlockTexels.toNat
  have hoperands :
      ({ p with textureMemory := memory } : Processor α).blockLoad tile slo tlo shi dt' =
        { p.blockLoad tile slo tlo shi dt with dt := dt' } := rfl
  rw [loadBlock_eq, loadBlock_eq, hoperands]
  simp only
  generalize p.textureMemory.load? m _ _ = after, memory.load? m _ _ = after' at hload ⊢
  cases hload with
  | none => exact ⟨rfl, memory, hmemory, rfl⟩
  | some hafter =>
    -- The tiles count their rows anew from the number of loaded texels, which is the same.
    refine ⟨rfl, _, hafter, ?_⟩
    simp only [hafter.texelsLoaded]

theorem takeFrame (h : p.SameTexels q) : Agree p.takeFrame q.takeFrame := by
  obtain ⟨memory, hmemory, rfl⟩ := h
  exact ⟨rfl, memory.clearLoadCount, ⟨rfl, hmemory.read⟩, rfl⟩

variable [TextureAllocator α]

/-- The same texture is found or built. -/
theorem resolveTexture (h : p.SameTexels q) (i : TileIndex) :
    Agree (p.resolveTexture i) (q.resolveTexture i) := by
  obtain ⟨memory, hmemory, rfl⟩ := h
  unfold Processor.resolveTexture
  -- Texture memory is read only here, and decodes the tile to the same image.
  simp only [hmemory.decode]
  cases (p.tiles.get i).texture with
  | some texture => exact ⟨rfl, memory, hmemory, rfl⟩
  | none =>
    rcases p.textureMemory.decode (p.tiles.get i) with e | _ | image
    · exact ⟨rfl, memory, hmemory, rfl⟩
    · exact ⟨rfl, memory, hmemory, rfl⟩
    · dsimp only
      rcases TextureAllocator.allocate p.allocator image with ⟨e | handle, allocator⟩
      · exact ⟨rfl, memory, hmemory, rfl⟩
      · exact ⟨rfl, memory, hmemory, rfl⟩

/-- A triangle is drawn alike. -/
theorem drawTriangle (h : p.SameTexels q) (t : TriangleCommand) :
    Agree (p.drawTriangle t) (q.drawTriangle t) := by
  unfold Processor.drawTriangle
  by_cases htexture : t.kind.texture = true
  · rw [if_pos htexture, if_pos htexture]
    have hagree := h.resolveTexture (.wrap t.edges.tile)
    rcases hp : p.resolveTexture (.wrap t.edges.tile) with ⟨result, after⟩
    rcases hq : q.resolveTexture (.wrap t.edges.tile) with ⟨result', after'⟩
    rw [hp, hq] at hagree
    simp only [hp, hq]
    obtain ⟨hsame, hstate⟩ := hagree
    obtain rfl : result' = result := hsame
    obtain ⟨memory, hmemory, rfl⟩ := hstate
    cases result' with
    | error e => exact ⟨rfl, memory, hmemory, rfl⟩
    | ok texture => exact ⟨rfl, memory, hmemory, rfl⟩
  · obtain ⟨memory, hmemory, rfl⟩ := h
    rw [if_neg htexture, if_neg htexture]
    exact ⟨rfl, memory, hmemory, rfl⟩

/-- A tile load does not read texture memory. -/
theorem loadTile (h : p.SameTexels q) (m : ExternalMemory) (tile : Nat) (rect : TileRect) :
    Agree (p.loadTile m tile rect) (q.loadTile m tile rect) := by
  obtain ⟨memory, hmemory, rfl⟩ := h
  unfold Processor.loadTile
  -- The image does not come from texture memory.
  have himage (p : Processor α) : (p.prepareTileLoad (.wrap tile) rect).tileLoadImage m rect =
      p.tileLoadImage m rect := rfl
  have hsame : ({ p with textureMemory := memory } : Processor α).tileLoadImage m rect =
      p.tileLoadImage m rect := rfl
  simp only [himage, hsame]
  rcases p.tileLoadImage m rect with e | _ | image
  · exact ⟨rfl, memory, hmemory, rfl⟩
  · exact ⟨rfl, memory, hmemory, rfl⟩
  · have hallocator (p : Processor α) :
        (p.prepareTileLoad (.wrap tile) rect).allocator = p.allocator := rfl
    simp only [hallocator]
    rcases TextureAllocator.allocate p.allocator image with ⟨e | handle, allocator⟩
    · exact ⟨rfl, memory, hmemory, rfl⟩
    · exact ⟨rfl, memory, hmemory, rfl⟩

/-- Commands that differ in a line step do the same, up to raw bytes. -/
theorem execute (h : p.SameTexels q) (m : ExternalMemory) {command command' : Command}
    (hcommand : command.SameButDt command') :
    Agree (p.execute m command) (q.execute m command') := by
  cases hcommand with
  | loadBlock tile slo tlo shi dt dt' =>
    obtain ⟨hsame, hstate⟩ := h.loadBlock m tile slo tlo shi dt dt'
    exact ⟨congrArg Except.ok hsame, hstate⟩
  | same =>
    cases command with
    | triangle t => exact h.drawTriangle t
    | loadBlock tile slo tlo shi dt =>
      obtain ⟨hsame, hstate⟩ := h.loadBlock m tile slo tlo shi dt dt
      exact ⟨congrArg Except.ok hsame, hstate⟩
    | loadTile tile rect => exact h.loadTile m tile rect
    | setTileSize tile rect =>
      obtain ⟨memory, hmemory, rfl⟩ := h
      refine ⟨rfl, memory, hmemory, ?_⟩
      unfold Processor.execute
      simp only [hmemory.texelsLoaded]
    | _ =>
      obtain ⟨memory, hmemory, rfl⟩ := h
      exact ⟨rfl, memory, hmemory, rfl⟩

/-- Rows that differ in dt at most have the same results. -/
theorem run (m : ExternalMemory) {rows rows' : List Row}
    (hrows : List.Forall₂ Row.SameButDt rows rows') :
    ∀ (counts : BatchCounts) {p q : Processor α}, p.SameTexels q →
      Agree (p.run m counts rows) (q.run m counts rows') := by
  induction hrows with
  | nil => exact fun counts p q h => ⟨rfl, h⟩
  | @cons row row' _ _ hrow _ ih =>
    intro counts p q h
    have hagree := h.execute m hrow.decode
    unfold Processor.run
    rcases hp : p.execute m (.decode row) with ⟨result, after⟩
    rcases hq : q.execute m (.decode row') with ⟨result', after'⟩
    rw [hp, hq] at hagree
    obtain ⟨hsame, hstate⟩ := hagree
    obtain rfl : result' = result := hsame
    cases result' with
    | error e => exact ⟨rfl, hstate⟩
    | ok outcome => exact ih (counts.record outcome) hstate

/-- Batches that differ in dt at most have the same results. -/
theorem processBatch (h : p.SameTexels q) (m : ExternalMemory) {batch batch' : Batch}
    (hbatch : batch.SameButDt batch') :
    Agree (p.processBatch m batch) (q.processBatch m batch') := by
  unfold Processor.processBatch
  rw [hbatch.validate_eq]
  cases batch.validate with
  | error e => exact ⟨rfl, h⟩
  | ok => exact run m hbatch.rows .zero h

theorem decodeTile (h : p.SameTexels q) (n : Nat) : Agree (p.decodeTile n) (q.decodeTile n) := by
  unfold Processor.decodeTile
  cases TileIndex.ofNat? n with
  | none => exact ⟨rfl, h⟩
  | some i =>
    have hagree := h.resolveTexture i
    rcases hp : p.resolveTexture i with ⟨result, after⟩
    rcases hq : q.resolveTexture i with ⟨result', after'⟩
    rw [hp, hq] at hagree
    simp only [hp, hq]
    obtain ⟨hsame, hstate⟩ := hagree
    obtain rfl : result' = result := hsame
    cases result' with
    | error e => exact ⟨rfl, hstate⟩
    | ok texture => exact ⟨rfl, hstate⟩

/-- The same operation does the same, up to raw bytes. -/
theorem perform (h : p.SameTexels q) (op : Operation) : Agree (p.perform op) (q.perform op) := by
  cases op with
  | processBatch m batch =>
    obtain ⟨hsame, hstate⟩ := h.processBatch m (.refl batch)
    exact ⟨congrArg Answer.counts hsame, hstate⟩
  | execute m row =>
    obtain ⟨hsame, hstate⟩ := h.execute m (.same (.decode row))
    exact ⟨congrArg Answer.outcome hsame, hstate⟩
  | decodeTile n =>
    obtain ⟨hsame, hstate⟩ := h.decodeTile n
    exact ⟨congrArg Answer.texture hsame, hstate⟩
  | takeFrame =>
    obtain ⟨hsame, hstate⟩ := h.takeFrame
    exact ⟨congrArg Answer.frame hsame, hstate⟩
  -- The reset state has nothing left of texture memory.
  | reset =>
    obtain ⟨memory, hmemory, rfl⟩ := h
    exact ⟨rfl, refl _⟩
  | release handles =>
    obtain ⟨memory, hmemory, rfl⟩ := h
    exact ⟨rfl, memory, hmemory, rfl⟩

/-- The same operations have the same answers, and differ at most in raw bytes afterwards. -/
theorem after (h : p.SameTexels q) (ops : List Operation) :
    q.answers ops = p.answers ops ∧ (p.after ops).SameTexels (q.after ops) := by
  induction ops generalizing p q with
  | nil => exact ⟨rfl, h⟩
  | cons op rest ih =>
    obtain ⟨hsame, hstate⟩ := h.perform op
    obtain ⟨hanswers, hafter⟩ := ih hstate
    refine ⟨?_, hafter⟩
    rw [answers, answers, hsame, hanswers]

end SameTexels

/-- **The swizzle does not show.** Two batches that differ only in the line steps of their block
loads have the same result, and so has every operation after them. At any later time the processors
differ in nothing but texture memory, which counts the same number of loaded texels and reads the
same at every address. -/
theorem swizzle_unobservable {α : Type} [TextureAllocator α] (p : Processor α)
    (m : ExternalMemory) {batch batch' : Batch} (hbatch : batch.SameButDt batch')
    (ops : List Operation) :
    let q := (p.processBatch m batch).2
    let q' := (p.processBatch m batch').2
    let r := q.after ops
    let r' := q'.after ops
    (p.processBatch m batch').1 = (p.processBatch m batch).1 ∧
    q'.answers ops = q.answers ops ∧
    (r'.tiles = r.tiles ∧ r'.frame = r.frame ∧ r'.allocator = r.allocator ∧
      r' = { r with textureMemory := r'.textureMemory }) ∧
    r'.textureMemory.texelsLoaded = r.textureMemory.texelsLoaded ∧
    ∀ address, r'.textureMemory.texel16At address = r.textureMemory.texel16At address := by
  intro q q' r r'
  obtain ⟨hresult, hstate⟩ := (SameTexels.refl p).processBatch m hbatch
  obtain ⟨hanswers, memory, hmemory, hafter⟩ := hstate.after ops
  have hr' : r' = { r with textureMemory := memory } := hafter
  rw [hr']
  exact ⟨hresult, hanswers, ⟨rfl, rfl, rfl, rfl⟩, hmemory.texelsLoaded, hmemory.texel16At⟩

/-- The load of a line of eight texels. -/
def loadLine (dt : Nat) : Batch :=
  .ofRows [.setTextureImage 0 2 8 0, .loadBlock 0 0 0 7 dt]

/-- A linear load and a tiled one leave other bytes and the same texels. -/
theorem swizzle_unobservable_loadLine :
    let p : Processor TexturePool := .powerOn .standard .empty
    let memory : ExternalMemory := .ofBytes fun address => .ofNat address.toNat
    let q := (p.processBatch memory (loadLine 0)).2
    let q' := (p.processBatch memory (loadLine 2048)).2
    let ops : List Operation := [.execute memory (.setTileSize 0 ⟨0, 7, 0, 0⟩), .takeFrame]
    (loadLine 0).SameButDt (loadLine 2048) ∧
    q'.textureMemory.bytes ≠ q.textureMemory.bytes ∧
    (q'.after ops).tiles = (q.after ops).tiles ∧
    ∀ address,
      (q'.after ops).textureMemory.texel16At address =
        (q.after ops).textureMemory.texel16At address := by
  intro p memory q q' ops
  have hsame : (loadLine 0).SameButDt (loadLine 2048) :=
    ⟨rfl, rfl, .cons (by decide) (.cons (by decide) .nil)⟩
  obtain ⟨-, -, ⟨htiles, -⟩, -, htexels⟩ := swizzle_unobservable p memory hsame ops
  exact ⟨hsame, by decide +kernel, htiles, htexels⟩

end Processor

end DisplayProcessor
