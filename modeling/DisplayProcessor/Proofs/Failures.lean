import DisplayProcessor.Assembly
import DisplayProcessor.BudgetedPool
import DisplayProcessor.Proofs.BatchRows
import DisplayProcessor.Proofs.CommandCases
import DisplayProcessor.Proofs.RowByRow

/-!
# How a batch can fail

A batch whose rows ask for more words than it has fails at once. Any other one fails with the first
of its rows that does, and a row fails for one of two reasons only: the allocator refused an image,
or texels have a format that is not decoded and formats are strict. A texture pool refuses no image
that the processor builds.

- `TextureAllocator.RefusesAllocation`: every refusal of an allocator is a failed allocation.
- `Processor.RowFailure`, `Processor.rowFailure_of_execute`: why a row fails.
- `Processor.processBatch_error_cases`: why a batch fails, and at which row.
- `Processor.processBatch_failures`: the main result.
-/

namespace DisplayProcessor

/-! ## Refusals -/

namespace TextureAllocator

/-- Whatever image an allocator refuses, it does so as a failed allocation. -/
def RefusesAllocation (α : Type) [TextureAllocator α] : Prop :=
  ∀ (store : α) (image : Image) (e : TextureError),
    (allocate store image).1 = .error e → ∃ reason, e = .allocationFailed reason

end TextureAllocator

/-- A pool refuses an image for the number of its bytes, as a failed allocation. -/
theorem TexturePool.refusesAllocation : TextureAllocator.RefusesAllocation TexturePool := by
  intro pool image e h
  have h : (pool.allocate image).1 = .error e := h
  unfold allocate at h
  split at h
  · cases h
  · cases h
    exact ⟨_, rfl⟩

/-- A pool with a budget refuses for the budget or as the pool does. -/
theorem BudgetedPool.refusesAllocation : TextureAllocator.RefusesAllocation BudgetedPool := by
  intro store image e h
  have h : (store.allocate image).1 = .error e := h
  unfold allocate at h
  split at h
  · cases h
    exact ⟨_, rfl⟩
  · rcases hpool : store.pool.allocate image with ⟨e' | handle, pool⟩
    · rw [hpool] at h
      cases h
      exact TexturePool.refusesAllocation store.pool image e (congrArg Prod.fst hpool)
    · rw [hpool] at h
      cases h

namespace Processor

variable {α : Type}

/-- What is made of a texture error that is not skipped. -/
theorem textureFailure_eq_error {settings : Settings} {cause : TextureError} {e : Error}
    (h : textureFailure settings cause = .error e) :
    e = .texture cause ∧
      ∀ format size, cause = .unsupportedFormat format size → settings.strictFormats = true := by
  cases cause with
  | allocationFailed reason =>
    cases h
    exact ⟨rfl, nofun⟩
  | unsupportedFormat format size =>
    cases hstrict : settings.strictFormats with
    | true =>
      simp only [textureFailure, hstrict, if_true] at h
      cases h
      exact ⟨rfl, fun _ _ _ => rfl⟩
    | false => simp [textureFailure, hstrict] at h

variable [TextureAllocator α]

/-! ## Rows -/

/-- Why a row of a processor fails with an error, and what the allocator is afterwards. An image
that is refused has as many bytes as its dimensions ask for. -/
inductive RowFailure (p : Processor α) : Error → α → Prop
  | refused {image : Image} {cause : TextureError} {allocator : α}
      (hsize : image.bytes.size = image.expectedBytes)
      (hrefused : TextureAllocator.allocate p.allocator image = (.error cause, allocator)) :
      RowFailure p (.texture cause) allocator
  | undecodable {format : TexelFormat} {size : TexelSize}
      (hformat : ¬ (format = .rgba ∧ size = .bits16))
      (hstrict : p.settings.strictFormats = true) :
      RowFailure p (.texture (.unsupportedFormat format size)) p.allocator

/-- A triangle fails in the search for its texture. -/
theorem rowFailure_of_drawTriangle {p q : Processor α} {t : TriangleCommand} {e : Error}
    (h : p.drawTriangle t = (.error e, q)) : p.RowFailure e q.allocator := by
  rcases p.drawTriangle_cases t with
    ⟨-, heq⟩ | ⟨texture, r, -, -, heq⟩ | ⟨cause, r, -, hresolve, heq⟩
  · rw [heq] at h
    cases h
  · rw [heq] at h
    cases h
  · rw [heq] at h
    obtain ⟨hfailure, rfl⟩ := Prod.mk.inj h
    obtain ⟨rfl, hstrict⟩ := textureFailure_eq_error hfailure
    -- What is left is an error of the search that was not skipped.
    have hspec := p.resolveTexture_spec (.wrap t.edges.tile)
    rw [hresolve] at hspec
    cases hspec with
    | undecodable _ hdecode =>
      obtain ⟨rfl, hformat⟩ := Image.unsupported_of_decode hdecode
      exact .undecodable hformat (hstrict _ _ rfl)
    | refused _ hdecode hrefused =>
      exact .refused (TextureMemory.hasSize_of_decode hdecode).size_bytes hrefused

/-- A tile load fails at the format of the image, or as the image is refused. -/
theorem rowFailure_of_loadTile {p q : Processor α} {m : ExternalMemory} {tile : Nat}
    {rect : TileRect} {e : Error} (h : p.loadTile m tile rect = (.error e, q)) :
    p.RowFailure e q.allocator := by
  have hspec := p.loadTile_spec m tile rect
  generalize p.loadTile m tile rect = result at h hspec
  cases hspec with
  | empty => cases h
  | undecodable himage =>
    obtain ⟨hfailure, rfl⟩ := Prod.mk.inj h
    obtain ⟨rfl, hstrict⟩ := textureFailure_eq_error hfailure
    obtain ⟨rfl, hformat⟩ := Image.unsupported_of_decode himage
    exact .undecodable hformat (hstrict _ _ rfl)
  | refused himage hrefused =>
    cases h
    exact .refused (Image.hasSize_of_decode himage).size_bytes hrefused
  | built => cases h

/-- Only a triangle and a tile load can fail. -/
theorem rowFailure_of_execute {p q : Processor α} {m : ExternalMemory} {command : Command}
    {e : Error} (h : p.execute m command = (.error e, q)) : p.RowFailure e q.allocator := by
  cases command with
  | triangle t => exact rowFailure_of_drawTriangle h
  | loadTile tile rect => exact rowFailure_of_loadTile h
  | _ => cases h

/-! ## Batches -/

/-- A malformed batch does nothing. -/
theorem processBatch_of_lt (p : Processor α) (m : ExternalMemory) {batch : Batch}
    (h : batch.wordCount < batch.expectedWords) :
    p.processBatch m batch =
      (.error (.malformedBatch batch.wordCount batch.expectedWords), p) := by
  rw [processBatch, Batch.validate_of_lt h]

/-- A well-formed batch that fails does so at a row, for one of the reasons of rows, and stops in
the state that this row leaves. -/
theorem processBatch_error_cases {p : Processor α} {m : ExternalMemory} {batch : Batch} {e : Error}
    (hvalid : batch.expectedWords ≤ batch.wordCount) (h : (p.processBatch m batch).1 = .error e) :
    ∃ n, (p.batchOutcomes m batch).length = n + 1 ∧
      (p.afterRows m (batch.rows.take n)).RowFailure e (p.processBatch m batch).2.allocator := by
  rw [processBatch_eq, Batch.validate_of_le hvalid] at h
  obtain ⟨before, rest, houtcomes⟩ := List.append_of_mem (BatchCounts.tally_eq_error h)
  have hrows : p.batchOutcomes m batch = p.rowOutcomes m batch.rows := by
    rw [batchOutcomes, Batch.validate_of_le hvalid]
  rw [hrows] at houtcomes
  -- An error ends the run, so it is the last of the outcomes.
  obtain rfl := eq_nil_of_rowOutcomes houtcomes
  obtain ⟨row, -, hexecute⟩ := execute_of_rowOutcomes houtcomes
  have hlength : (p.batchOutcomes m batch).length = before.length + 1 := by
    rw [hrows, houtcomes, List.length_append]
    rfl
  refine ⟨before.length, hlength, ?_⟩
  rw [processBatch_eq, hlength]
  exact rowFailure_of_execute hexecute

/-- The same for an allocator that refuses images only as failed allocations. -/
theorem processBatch_error_of_refusesAllocation {p : Processor α} {m : ExternalMemory}
    {batch : Batch} {e : Error} (hrefusal : TextureAllocator.RefusesAllocation α)
    (hvalid : batch.expectedWords ≤ batch.wordCount) (h : (p.processBatch m batch).1 = .error e) :
    (∃ reason n image, e = .texture (.allocationFailed reason) ∧
      (p.batchOutcomes m batch).length = n + 1 ∧
      TextureAllocator.allocate (p.afterRows m (batch.rows.take n)).allocator image =
        (.error (.allocationFailed reason), (p.processBatch m batch).2.allocator)) ∨
    ∃ format size, e = .texture (.unsupportedFormat format size) ∧
      p.settings.strictFormats = true := by
  obtain ⟨n, hlength, hfailure⟩ := processBatch_error_cases hvalid h
  have hsettings := p.settings_afterRows m (batch.rows.take n)
  -- Rows do not change the settings, so strictness is that of the start.
  generalize (p.processBatch m batch).2.allocator = allocator at hfailure ⊢
  cases hfailure with
  | refused _ hrefused =>
    obtain ⟨reason, rfl⟩ := hrefusal _ _ _ (congrArg Prod.fst hrefused)
    exact .inl ⟨reason, n, _, rfl, hlength, hrefused⟩
  | undecodable _ hstrict => exact .inr ⟨_, _, rfl, hsettings ▸ hstrict⟩

/-- Over a texture pool a row fails only for its format. -/
theorem RowFailure.of_pool {p : Processor TexturePool} {e : Error} {pool : TexturePool}
    (h : p.RowFailure e pool) :
    p.settings.strictFormats = true ∧
      ∃ format size, e = .texture (.unsupportedFormat format size) := by
  cases h with
  | refused hsize hrefused =>
    rw [p.allocator.allocate_eq_keep hsize] at hrefused
    cases hrefused
  | undecodable hformat hstrict => exact ⟨hstrict, _, _, rfl⟩

/-- Over a texture pool a well-formed batch ends, unless formats are strict, with one outcome for
every row. -/
theorem processBatch_ok_of_pool {p : Processor TexturePool} {m : ExternalMemory} {batch : Batch}
    (hlenient : p.settings.strictFormats = false) (hvalid : batch.expectedWords ≤ batch.wordCount) :
    ∃ counts, (p.processBatch m batch).1 = .ok counts ∧ counts.rows = batch.rowCount ∧
      (p.batchOutcomes m batch).length = batch.rowCount ∧
      counts.nops + counts.skipped + counts.dropped +
        (p.batchOutcomes m batch).countP Outcome.isApplied = batch.rowCount := by
  have hrows : p.batchOutcomes m batch = p.rowOutcomes m batch.rows := by
    rw [batchOutcomes, Batch.validate_of_le hvalid]
  -- An error would come from a row, and over a pool rows fail for their format only.
  have hok (e : Error) : .error e ∉ p.batchOutcomes m batch := by
    intro hmem
    rw [hrows] at hmem
    obtain ⟨before, rest, houtcomes⟩ := List.append_of_mem hmem
    obtain ⟨row, -, hexecute⟩ := execute_of_rowOutcomes houtcomes
    have hstrict := (rowFailure_of_execute hexecute).of_pool.1
    rw [settings_afterRows, hlenient] at hstrict
    cases hstrict
  have hlength : (p.batchOutcomes m batch).length = batch.rowCount := by
    rw [hrows] at hok ⊢
    rw [length_rowOutcomes hok]
    exact batch.length_rows
  -- Without errors every row is counted once.
  obtain ⟨counts, htally, htotal, hsum⟩ := BatchCounts.tally_of_forall_ok hok .zero
  refine ⟨counts, ?_, ?_, hlength, ?_⟩
  · rw [processBatch_eq, Batch.validate_of_le hvalid]
    exact htally
  · rw [htotal, hlength]
    exact Nat.zero_add _
  · rw [hsum, hlength]
    exact Nat.zero_add _

/-- **A batch fails only in these ways.** It is malformed exactly if its rows ask for more words
than it has, and then nothing changes. Any other error comes from a row: the allocator refused an
image, in the state in which this row found it; or a format is not decoded, and formats are strict.
Over a texture pool nothing is refused, since every image that is built has as many bytes as its
dimensions ask for; so unless formats are strict every well-formed batch succeeds, with each row
counted once for its outcome. -/
theorem processBatch_failures (m : ExternalMemory) (batch : Batch) :
    let words := batch.words.length
    let expected := (batch.rowLengths.map UInt32.toNat).sum
    (∀ {α : Type} [TextureAllocator α] (p : Processor α), TextureAllocator.RefusesAllocation α →
      let result := p.processBatch m batch
      ((∃ n k, result.1 = .error (.malformedBatch n k)) ↔ words < expected) ∧
      (words < expected → result.2 = p) ∧
      ∀ e, expected ≤ words → result.1 = .error e →
        (∃ reason n image, e = .texture (.allocationFailed reason) ∧
          (p.batchOutcomes m batch).length = n + 1 ∧
          TextureAllocator.allocate (p.afterRows m (batch.rows.take n)).allocator image =
            (.error (.allocationFailed reason), result.2.allocator)) ∨
        ∃ format size, e = .texture (.unsupportedFormat format size) ∧
          p.settings.strictFormats = true) ∧
    ∀ p : Processor TexturePool,
      let result := p.processBatch m batch
      (∀ tile image, p.textureMemory.decode tile = .ok (some image) →
        image.bytes.size = 4 * image.width * image.height) ∧
      (∀ rect image, p.tileLoadImage m rect = .ok (some image) →
        image.bytes.size = 4 * image.width * image.height) ∧
      (∀ reason, result.1 ≠ .error (.texture (.allocationFailed reason))) ∧
      (p.settings.strictFormats = false → expected ≤ words →
        ∃ counts, result.1 = .ok counts ∧ counts.rows = batch.rowCount ∧
          (p.batchOutcomes m batch).length = batch.rowCount ∧
          counts.rows = counts.nops + counts.skipped + counts.dropped +
            (p.batchOutcomes m batch).countP Outcome.isApplied) := by
  rw [← batch.expectedWords_eq_sum]
  intro words expected
  constructor
  · intro α _ p hrefusal result
    rcases Nat.lt_or_ge batch.wordCount batch.expectedWords with hlt | hvalid
    · have hresult : result = _ := p.processBatch_of_lt m hlt
      rw [hresult]
      refine ⟨iff_of_true ⟨_, _, rfl⟩ hlt, fun _ => rfl, fun e hle => ?_⟩
      exact absurd hle (Nat.not_le.mpr hlt)
    · -- A well-formed batch fails for its rows only, which never say that it is malformed.
      have hcases (e : Error) (he : result.1 = .error e) :=
        processBatch_error_of_refusesAllocation hrefusal hvalid he
      refine ⟨iff_of_false ?_ (Nat.not_lt.mpr hvalid), fun hlt => ?_, fun e _ he => hcases e he⟩
      · rintro ⟨words, expected, he⟩
        rcases hcases _ he with ⟨_, _, _, heq, -⟩ | ⟨_, _, heq, -⟩ <;> cases heq
      · exact absurd hvalid (Nat.not_le.mpr hlt)
  · intro p result
    have hbytes {width height : Nat} {image : Image} (hsize : image.HasSize width height) :
        image.bytes.size = 4 * image.width * image.height := by
      rw [hsize.size_bytes, Image.expectedBytes, Nat.mul_comm, Nat.mul_assoc]
    refine ⟨fun tile image h => hbytes (TextureMemory.hasSize_of_decode h),
      fun rect image h => hbytes (Image.hasSize_of_decode h), fun reason he => ?_,
      fun hlenient hvalid => ?_⟩
    · rcases Nat.lt_or_ge batch.wordCount batch.expectedWords with hlt | hvalid
      · have hresult : result = _ := p.processBatch_of_lt m hlt
        rw [hresult] at he
        cases he
      · -- The failing row fails for its format, so the error is no refusal.
        obtain ⟨n, -, hfailure⟩ := processBatch_error_cases hvalid he
        obtain ⟨-, format, size, heq⟩ := hfailure.of_pool
        cases heq
    · obtain ⟨counts, hcounts, hrows, hlength, hsum⟩ := processBatch_ok_of_pool hlenient hvalid
      exact ⟨counts, hcounts, hrows, hlength, hrows.trans hsum.symm⟩

/-- Six rows, among them one without effect, a tile load of texels that are not decoded, a block
load whose last texel lies before its first, and at the end a tile load that builds a texture. -/
def mixedRows : Batch :=
  .ofRows [[0], .setTextureImage 2 1 4 0, .loadTile 0 ⟨0, 3, 0, 0⟩, .loadBlock 0 3 0 0 0,
    .setTextureImage 0 2 4 0, .loadTile 1 ⟨0, 3, 0, 0⟩]

/-- A pool executes all rows. One that may not hand out any bytes refuses the image of the last
row. -/
theorem processBatch_failures_mixedRows :
    let memory : ExternalMemory := .ofBytes fun address => .ofNat address.toNat
    let p : Processor TexturePool := .powerOn .standard .empty
    let q : Processor BudgetedPool := .powerOn .standard (.empty (some 0))
    (∃ counts, (p.processBatch memory mixedRows).1 = .ok counts ∧ counts.rows = 6 ∧
      6 = counts.nops + counts.skipped + counts.dropped +
        (p.batchOutcomes memory mixedRows).countP Outcome.isApplied) ∧
    ∃ reason image, (q.processBatch memory mixedRows).1 =
        .error (.texture (.allocationFailed reason)) ∧
      TextureAllocator.allocate (q.afterRows memory (mixedRows.rows.take 5)).allocator image =
        (.error (.allocationFailed reason), (q.processBatch memory mixedRows).2.allocator) := by
  intro memory p q
  obtain ⟨hany, hpool⟩ := processBatch_failures memory mixedRows
  constructor
  · obtain ⟨-, -, -, hok⟩ := hpool p
    obtain ⟨counts, hcounts, hrows, -, hsum⟩ := hok rfl (by decide +kernel)
    have htotal : counts.rows = 6 := hrows
    exact ⟨counts, hcounts, htotal, htotal ▸ hsum⟩
  · obtain ⟨-, -, herror⟩ := hany q BudgetedPool.refusesAllocation
    have hfails : (q.processBatch memory mixedRows).1.toOption = none := by decide +kernel
    have hlast : (q.batchOutcomes memory mixedRows).length = 6 := by decide +kernel
    rcases hresult : (q.processBatch memory mixedRows).1 with e | counts
    · rcases herror e (by decide +kernel) hresult with
        ⟨reason, n, image, rfl, hlength, hrefused⟩ | ⟨_, _, -, hstrict⟩
      · obtain rfl : n = 5 := by omega
        exact ⟨reason, image, rfl, hrefused⟩
      · cases hstrict
    · rw [hresult] at hfails
      cases hfails

end Processor

end DisplayProcessor
