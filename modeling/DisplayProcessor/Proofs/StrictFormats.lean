import DisplayProcessor.Assembly
import DisplayProcessor.Proofs.CommandCases
import DisplayProcessor.Proofs.RowByRow
import Mathlib.Data.List.Perm.Basic

/-!
# Strict formats

Texels of a format that is not decoded are skipped, or an error if formats are strict. Nothing else
depends on the setting. So a strict run is a lenient run that ends at the first row that is skipped
there: with the same outcomes up to this row, and in the state in which the lenient run goes on.

- `Processor.withStrictFormats`: the same processor with the setting on or off.
- `Processor.StrictSpec`, `Processor.execute_strictSpec`: a command, strict against lenient.
- `StrictOutcomes`, `Processor.rowOutcomes_strict`: rows, strict against lenient.
- `Processor.strict_agrees_until_skipped`: the main result, about batches.
-/

namespace DisplayProcessor

/-! ## Commands -/

namespace Processor

variable {α : Type}

/-- The same processor, with formats strict or not. -/
def withStrictFormats (p : Processor α) (strict : Bool) : Processor α :=
  { p with settings.strictFormats := strict }

/-- What a strict processor does, by what a lenient one does: the same, unless that is to skip. -/
inductive StrictSpec (result : Except Error Outcome × Processor α) :
    Except Error Outcome × Processor α → Prop
  | same (h : result.1 ≠ .ok .skipped) :
      StrictSpec result (result.1, result.2.withStrictFormats true)
  | stopped {format : TexelFormat} {size : TexelSize} (h : result.1 = .ok .skipped) :
      StrictSpec result
        (.error (.texture (.unsupportedFormat format size)), result.2.withStrictFormats true)

/-- What becomes of a texture error. -/
theorem textureFailure_strictSpec {q : Processor α} (hlenient : q.settings.strictFormats = false)
    (e : TextureError) :
    StrictSpec (textureFailure q.settings e, q)
      (textureFailure (q.withStrictFormats true).settings e, q.withStrictFormats true) := by
  cases e with
  | allocationFailed reason => exact .same nofun
  | unsupportedFormat format size =>
    have hskipped : textureFailure q.settings (.unsupportedFormat format size) = .ok .skipped := by
      simp [textureFailure, hlenient]
    rw [hskipped]
    exact .stopped rfl

variable [TextureAllocator α]

/-- The search for a texture does not depend on the setting. -/
theorem resolveTexture_withStrictFormats (p : Processor α) (strict : Bool) (i : TileIndex) :
    (p.withStrictFormats strict).resolveTexture i =
      ((p.resolveTexture i).1, (p.resolveTexture i).2.withStrictFormats strict) := by
  have hspec := p.resolveTexture_spec i
  generalize p.resolveTexture i = result at hspec
  -- The strict search reads the same tile, the same texture memory and the same allocator.
  have htile : (p.withStrictFormats strict).tiles.get i = p.tiles.get i := rfl
  have hmemory : (p.withStrictFormats strict).textureMemory = p.textureMemory := rfl
  have hallocator : (p.withStrictFormats strict).allocator = p.allocator := rfl
  unfold resolveTexture
  rw [htile, hmemory, hallocator]
  cases hspec with
  | cached htexture => rw [htexture]
  | empty htexture hdecode => rw [htexture, hdecode]
  | undecodable htexture hdecode => rw [htexture, hdecode]
  | refused htexture hdecode hrefused =>
    simp only [htexture, hdecode, hrefused]
    rfl
  | built htexture hdecode hbuilt =>
    simp only [htexture, hdecode, hbuilt]
    rfl

/-- A triangle is the same under strict formats, unless its texture was skipped. -/
theorem drawTriangle_strictSpec {p : Processor α} (hlenient : p.settings.strictFormats = false)
    (t : TriangleCommand) :
    StrictSpec (p.drawTriangle t) ((p.withStrictFormats true).drawTriangle t) := by
  unfold drawTriangle
  by_cases htexture : t.kind.texture = true
  · simp only [if_pos htexture, resolveTexture_withStrictFormats]
    have hsettings := p.settings_resolveTexture (.wrap t.edges.tile)
    rcases hresolve : p.resolveTexture (.wrap t.edges.tile) with ⟨e | texture, q⟩
    · -- Only here do the two part: the failure is skipped or reported.
      rw [hresolve] at hsettings
      exact textureFailure_strictSpec (hsettings ▸ hlenient) e
    · exact .same nofun
  · simp only [if_neg htexture]
    exact .same nofun

/-- A tile load is the same under strict formats, unless it was skipped. -/
theorem loadTile_strictSpec {p : Processor α} (hlenient : p.settings.strictFormats = false)
    (m : ExternalMemory) (tile : Nat) (rect : TileRect) :
    StrictSpec (p.loadTile m tile rect) ((p.withStrictFormats true).loadTile m tile rect) := by
  have hspec := p.loadTile_spec m tile rect
  generalize p.loadTile m tile rect = result at hspec
  -- The strict load prepares the same slot, and reads the same image.
  have hprepare : (p.withStrictFormats true).prepareTileLoad (.wrap tile) rect =
      (p.prepareTileLoad (.wrap tile) rect).withStrictFormats true := rfl
  have himage :
      ((p.prepareTileLoad (.wrap tile) rect).withStrictFormats true).tileLoadImage m rect =
        p.tileLoadImage m rect := rfl
  have hallocator :
      ((p.prepareTileLoad (.wrap tile) rect).withStrictFormats true).allocator = p.allocator := rfl
  unfold loadTile
  simp only [hprepare, himage, hallocator]
  cases hspec with
  | empty himage =>
    simp only [himage]
    exact .same nofun
  | undecodable himage =>
    simp only [himage]
    exact textureFailure_strictSpec (q := p.prepareTileLoad (.wrap tile) rect) hlenient _
  | refused himage hrefused =>
    simp only [himage, hrefused]
    exact .same nofun
  | built himage hbuilt =>
    simp only [himage, hbuilt]
    exact .same nofun

/-- A block load is never skipped. -/
theorem loadBlock_strictSpec (p : Processor α) (m : ExternalMemory) (tile slo tlo shi dt : Nat) :
    StrictSpec (p.execute m (.loadBlock tile slo tlo shi dt))
      ((p.withStrictFormats true).execute m (.loadBlock tile slo tlo shi dt)) := by
  -- A block is copied without a look at the format, so both runs accept it or both drop it.
  let strict := p.withStrictFormats true
  cases hload : p.textureMemory.load? m (p.blockLoad tile slo tlo shi dt)
    p.settings.maxBlockTexels.toNat with
  | none =>
    have hstrict : strict.execute m (.loadBlock tile slo tlo shi dt) = (.ok .dropped, strict) :=
      execute_loadBlock_of_none hload
    rw [execute_loadBlock_of_none hload, hstrict]
    exact .same nofun
  | some memory =>
    have hstrict : strict.execute m (.loadBlock tile slo tlo shi dt) = (.ok .applied,
        { strict with
          textureMemory := memory, tiles := strict.tiles.dropAll memory.texelsLoaded }) :=
      execute_loadBlock_of_some hload
    rw [execute_loadBlock_of_some hload, hstrict]
    exact .same nofun

/-- A strict processor does at a command what a lenient one does, unless that is to skip. -/
theorem execute_strictSpec {p : Processor α} (hlenient : p.settings.strictFormats = false)
    (m : ExternalMemory) (command : Command) :
    StrictSpec (p.execute m command) ((p.withStrictFormats true).execute m command) := by
  cases command with
  | triangle t => exact drawTriangle_strictSpec hlenient t
  | loadBlock tile slo tlo shi dt => exact p.loadBlock_strictSpec m tile slo tlo shi dt
  | loadTile tile rect => exact loadTile_strictSpec hlenient m tile rect
  | _ => exact .same nofun

end Processor

/-! ## Rows -/

/-- The outcomes of a strict run, by those of a lenient one: the same up to the first row that is
skipped, which is an error. -/
inductive StrictOutcomes : List (Except Error Outcome) → List (Except Error Outcome) → Prop
  | nil : StrictOutcomes [] []
  | same {result : Except Error Outcome} {rest strictRest : List (Except Error Outcome)}
      (h : result ≠ .ok .skipped) (hrest : StrictOutcomes rest strictRest) :
      StrictOutcomes (result :: rest) (result :: strictRest)
  | stopped {format : TexelFormat} {size : TexelSize} {rest : List (Except Error Outcome)} :
      StrictOutcomes (.ok .skipped :: rest) [.error (.texture (.unsupportedFormat format size))]

namespace StrictOutcomes

/-- Without a skipped row the outcomes are the same. -/
theorem eq_of_not_mem {outcomes strict : List (Except Error Outcome)}
    (h : StrictOutcomes outcomes strict) (hnone : .ok .skipped ∉ outcomes) : strict = outcomes := by
  induction h with
  | nil => rfl
  | same _ _ ih => rw [ih fun hmem => hnone (List.mem_cons_of_mem _ hmem)]
  | stopped => exact absurd List.mem_cons_self hnone

/-- At the first skipped row the strict run ends. -/
theorem eq_append_error {before rest strict : List (Except Error Outcome)}
    (h : StrictOutcomes (before ++ .ok .skipped :: rest) strict) (hnone : .ok .skipped ∉ before) :
    ∃ format size, strict = before ++ [.error (.texture (.unsupportedFormat format size))] := by
  induction before generalizing strict with
  | nil =>
    cases h with
    | same hne => exact absurd rfl hne
    | stopped => exact ⟨_, _, rfl⟩
  | cons result before ih =>
    cases h with
    | same _ hrest =>
      obtain ⟨format, size, rfl⟩ := ih hrest fun hmem => hnone (List.mem_cons_of_mem _ hmem)
      exact ⟨format, size, rfl⟩
    | stopped => exact absurd List.mem_cons_self hnone

end StrictOutcomes

namespace Processor

variable {α : Type} [TextureAllocator α]

/-- Rows, strict against lenient: outcomes, and the state in which the strict run ends. -/
theorem rowOutcomes_strict {p : Processor α} (hlenient : p.settings.strictFormats = false)
    (m : ExternalMemory) (rows : List Row) :
    StrictOutcomes (p.rowOutcomes m rows) ((p.withStrictFormats true).rowOutcomes m rows) ∧
      let done := rows.take ((p.withStrictFormats true).rowOutcomes m rows).length
      (p.withStrictFormats true).afterRows m done =
        (p.afterRows m done).withStrictFormats true := by
  induction rows generalizing p with
  | nil => exact ⟨.nil, rfl⟩
  | cons row rest ih =>
    have hspec := execute_strictSpec hlenient m (.decode row)
    have hsettings := p.settings_execute m (.decode row)
    rcases hrow : p.execute m (.decode row) with ⟨result, q⟩
    rcases hstrict : (p.withStrictFormats true).execute m (.decode row) with ⟨result', q'⟩
    rw [hrow] at hspec hsettings
    rw [hstrict] at hspec
    cases hspec with
    | same hne =>
      cases result with
      | error e =>
        rw [rowOutcomes_of_error hrow, rowOutcomes_of_error hstrict]
        refine ⟨.same nofun .nil, ?_⟩
        simp only [List.length_singleton, List.take_succ_cons, afterRows_cons, hrow, hstrict]
        rfl
      | ok outcome =>
        obtain ⟨houtcomes, hstate⟩ := ih (hsettings ▸ hlenient)
        rw [rowOutcomes_of_ok hrow, rowOutcomes_of_ok hstrict]
        refine ⟨.same hne houtcomes, ?_⟩
        simp only [List.length_cons, List.take_succ_cons, afterRows_cons, hrow, hstrict]
        exact hstate
    | stopped hskipped =>
      cases hskipped
      rw [rowOutcomes_of_ok hrow, rowOutcomes_of_error hstrict]
      refine ⟨.stopped, ?_⟩
      simp only [List.length_singleton, List.take_succ_cons, afterRows_cons, hrow, hstrict]
      rfl

/-- Batches, strict against lenient. A malformed one has no outcomes either way. -/
theorem batchOutcomes_strict {p : Processor α} (hlenient : p.settings.strictFormats = false)
    (m : ExternalMemory) (batch : Batch) :
    StrictOutcomes (p.batchOutcomes m batch) ((p.withStrictFormats true).batchOutcomes m batch) ∧
      let done := batch.rows.take ((p.withStrictFormats true).batchOutcomes m batch).length
      (p.withStrictFormats true).afterRows m done =
        (p.afterRows m done).withStrictFormats true := by
  unfold batchOutcomes
  cases batch.validate with
  | error e => exact ⟨.nil, rfl⟩
  | ok => exact rowOutcomes_strict hlenient m batch.rows

/-- **A strict run is a lenient run up to the first row that is skipped there.** If no row is
skipped, both give the same answer and the same state. Otherwise the strict run ends with an error
at the first row that is skipped, in the state in which the lenient run leaves this row. The setting
itself apart, the two start in the same state. -/
theorem strict_agrees_until_skipped (p : Processor α) (m : ExternalMemory) (batch : Batch) :
    let lenient := p.withStrictFormats false
    let strict := p.withStrictFormats true
    let outcomes := lenient.batchOutcomes m batch
    (.ok .skipped ∉ outcomes →
      strict.batchOutcomes m batch = outcomes ∧
      (strict.processBatch m batch).1 = (lenient.processBatch m batch).1 ∧
      (strict.processBatch m batch).2 =
        (lenient.processBatch m batch).2.withStrictFormats true) ∧
    ∀ before rest, outcomes = before ++ .ok .skipped :: rest → .ok .skipped ∉ before →
      ∃ format size,
        strict.batchOutcomes m batch =
          before ++ [.error (.texture (.unsupportedFormat format size))] ∧
        (strict.processBatch m batch).1 = .error (.texture (.unsupportedFormat format size)) ∧
        (strict.processBatch m batch).2 =
          (lenient.afterRows m (batch.rows.take (before.length + 1))).withStrictFormats true := by
  intro lenient strict outcomes
  obtain ⟨houtcomes, hstate⟩ :
      StrictOutcomes outcomes (strict.batchOutcomes m batch) ∧
        strict.afterRows m (batch.rows.take (strict.batchOutcomes m batch).length) =
          (lenient.afterRows m
            (batch.rows.take (strict.batchOutcomes m batch).length)).withStrictFormats true :=
    batchOutcomes_strict rfl m batch
  constructor
  · -- Where no row is skipped the outcomes are equal, and so is what the batch makes of them.
    intro hnone
    have heq : strict.batchOutcomes m batch = outcomes := houtcomes.eq_of_not_mem hnone
    rw [heq] at hstate
    rw [processBatch_eq strict, heq, processBatch_eq lenient]
    exact ⟨rfl, rfl, hstate⟩
  · -- The strict run ends at the first skipped row, and has executed that row.
    intro before rest hbefore hnone
    rw [hbefore] at houtcomes
    obtain ⟨format, size, heq⟩ := houtcomes.eq_append_error hnone
    have hlength : (strict.batchOutcomes m batch).length = before.length + 1 := by
      rw [heq, List.length_append]
      rfl
    refine ⟨format, size, heq, processBatch_eq_error ?_, ?_⟩
    · rw [heq]
      exact List.mem_append_right _ List.mem_cons_self
    · rw [processBatch_eq, hlength]
      rw [hlength] at hstate
      exact hstate

/-- A block of texels is loaded for a tile, and drawn as if they were indices into a palette. -/
def indexedTriangle : List Row :=
  let axis : TileAxis := default
  [.setTextureImage 0 2 4 0, .setTile 0 2 1 0 8 0 axis axis, .setTileSize 0 ⟨0, 3, 0, 0⟩,
    .loadBlock 0 0 0 3 0, [0x0A000000], .setFillColor 7]

/-- Formats matter from the fifth row on. -/
theorem strict_agrees_until_skipped_indexedTriangle :
    let memory : ExternalMemory := .ofBytes fun address => .ofNat address.toNat
    let p : Processor TexturePool := .powerOn .standard .empty
    let lenient := p.withStrictFormats false
    let strict := p.withStrictFormats true
    let loaded : Batch := .ofRows (indexedTriangle.take 4)
    let all : Batch := .ofRows indexedTriangle
    let applied := List.replicate 4 (.ok .applied)
    (lenient.batchOutcomes memory loaded = applied ∧
      (strict.processBatch memory loaded).1 = (lenient.processBatch memory loaded).1) ∧
    lenient.batchOutcomes memory all = applied ++ [.ok .skipped, .ok .applied] ∧
    ∃ format size,
      strict.batchOutcomes memory all =
        applied ++ [.error (.texture (.unsupportedFormat format size))] ∧
      (strict.processBatch memory all).1 = .error (.texture (.unsupportedFormat format size)) ∧
      (strict.processBatch memory all).2 =
        (lenient.afterRows memory (all.rows.take 5)).withStrictFormats true := by
  intro memory p lenient strict loaded all applied
  have hloaded : lenient.batchOutcomes memory loaded = applied := by decide +kernel
  have hall : lenient.batchOutcomes memory all = applied ++ [.ok .skipped, .ok .applied] := by
    decide +kernel
  refine ⟨⟨hloaded, ?_⟩, hall, ?_⟩
  · have hnone : .ok .skipped ∉ lenient.batchOutcomes memory loaded := by
      rw [hloaded]
      decide
    exact ((strict_agrees_until_skipped p memory loaded).1 hnone).2.1
  · exact (strict_agrees_until_skipped p memory all).2 applied _ hall (by decide)

end Processor

end DisplayProcessor
