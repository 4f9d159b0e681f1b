import DisplayProcessor.Assembly
import DisplayProcessor.BudgetedPool
import DisplayProcessor.Proofs.BatchRows
import DisplayProcessor.Proofs.RowByRow

/-!
# Where a batch ends

Rows may be cut into batches anywhere. A batch that was made of the rows of two others does what
these do one after the other, and if the first one fails, what that one does alone.

- `Processor.run_append`, `Processor.run_add`: rows after other rows, and their counts.
- `Processor.processBatch_ofRows`: a batch is executed as the rows that it has.
- `Processor.run_eq_error`: where rows fail, and in which state.
- `Processor.processBatch_ofRows_append`: the main result.
-/

namespace DisplayProcessor

/-! ## Counts -/

namespace BatchCounts

theorem add_zero (counts : BatchCounts) : counts.add .zero = counts := rfl

/-- Counts of earlier rows may be added before or after. -/
theorem record_add (earlier counts : BatchCounts) (outcome : Outcome) :
    (earlier.add counts).record outcome = earlier.add (counts.record outcome) := by
  simp only [record, add, Nat.add_assoc]

end BatchCounts

/-! ## Rows after rows -/

namespace Processor

variable {α : Type} [TextureAllocator α]

/-- Rows after other rows: nothing more if these fail, and else what is done where they end. -/
theorem run_append (p : Processor α) (m : ExternalMemory) (counts : BatchCounts)
    (first second : List Row) :
    p.run m counts (first ++ second) =
      match p.run m counts first with
      | (.error e, q) => (.error e, q)
      | (.ok counts, q) => q.run m counts second := by
  induction first generalizing p counts with
  | nil => rfl
  | cons row rest ih =>
    rw [List.cons_append, run, run]
    rcases p.execute m (.decode row) with ⟨e | outcome, q⟩
    · rfl
    · exact ih q (counts.record outcome)

/-- Rows are counted in addition to earlier ones. -/
theorem run_add (p : Processor α) (m : ExternalMemory) (earlier counts : BatchCounts)
    (rows : List Row) :
    p.run m (earlier.add counts) rows =
      ((p.run m counts rows).1.map earlier.add, (p.run m counts rows).2) := by
  induction rows generalizing p counts with
  | nil => rfl
  | cons row rest ih =>
    rw [run, run]
    rcases p.execute m (.decode row) with ⟨e | outcome, q⟩
    · rfl
    · dsimp only
      rw [BatchCounts.record_add]
      exact ih q (counts.record outcome)

/-- A batch is executed as the rows that it has, whatever they were made of. -/
theorem processBatch_ofRows (p : Processor α) (m : ExternalMemory) (rows : List Row) :
    p.processBatch m (.ofRows rows) = p.run m .zero (Batch.ofRows rows).rows := by
  rw [processBatch, Batch.validate_ofRows]

/-- Rows that fail do so at one of them: those before it succeed, it is the last one that is
executed, and the rows after it do not matter. -/
theorem run_eq_error {p : Processor α} {m : ExternalMemory} {counts : BatchCounts}
    {rows : List Row} {e : Error} (h : (p.run m counts rows).1 = .error e) :
    ∃ before row after total, rows = before ++ row :: after ∧
      p.run m counts before = (.ok total, p.afterRows m before) ∧
      ((p.afterRows m before).execute m (.decode row)).1 = .error e ∧
      ∀ later, p.run m counts (before ++ row :: later) =
        (.error e, p.afterRows m (before ++ [row])) := by
  induction rows generalizing p counts with
  | nil => cases h
  | cons row rest ih =>
    -- Either this row is the one that fails, with nothing before it, or the run goes on behind it.
    rcases hrow : p.execute m (.decode row) with ⟨e' | outcome, q⟩
    · have hrun (later : List Row) : p.run m counts (row :: later) = (.error e', q) := by
        rw [run, hrow]
      rw [hrun rest] at h
      cases h
      refine ⟨[], row, rest, counts, rfl, rfl, congrArg Prod.fst hrow, fun later => ?_⟩
      show p.run m counts (row :: later) = (_, (p.execute m (.decode row)).2)
      rw [hrun later, hrow]
    · have hrun (later : List Row) :
          p.run m counts (row :: later) = q.run m (counts.record outcome) later := by
        rw [run, hrow]
      have hafter (later : List Row) : p.afterRows m (row :: later) = q.afterRows m later := by
        rw [afterRows_cons, hrow]
      rw [hrun rest] at h
      obtain ⟨before, failing, after, total, rfl, hbefore, hfailing, hfails⟩ := ih h
      refine ⟨row :: before, failing, after, total, rfl, ?_, ?_, fun later => ?_⟩
      · rw [hrun, hafter, hbefore]
      · rw [hafter, hfailing]
      · rw [List.cons_append, List.cons_append, hrun, hafter, hfails]

/-- **Batch boundaries do not matter.** A batch of some rows and others after them fails with the
first rows, in the state in which these fail; or it goes on with the others in the state that the
first ones leave, fails if they fail there, and counts both. A batch that fails has executed its
rows up to the one that fails, whatever rows come after it. A length is a number of 32 bits, so a
batch can only be made of the first rows if none of them is longer. -/
theorem processBatch_ofRows_append (p : Processor α) (m : ExternalMemory) (first second : List Row)
    (hfirst : ∀ row ∈ first, row.length < 2 ^ 32) :
    p.processBatch m (.ofRows (first ++ second)) =
      (match p.processBatch m (.ofRows first) with
      | (.error e, q) => (.error e, q)
      | (.ok counts, q) =>
        match q.processBatch m (.ofRows second) with
        | (.error e, r) => (.error e, r)
        | (.ok more, r) => (.ok (counts.add more), r)) ∧
    ∀ e, (p.processBatch m (.ofRows first)).1 = .error e →
      ∃ before row after counts, first = before ++ row :: after ∧
        p.processBatch m (.ofRows before) = (.ok counts, p.afterRows m before) ∧
        ((p.afterRows m before).execute m (.decode row)).1 = .error e ∧
        ∀ later, p.processBatch m (.ofRows (before ++ row :: later)) =
          (.error e, p.afterRows m (before ++ [row])) := by
  simp only [processBatch_ofRows]
  constructor
  · -- The second run starts with the counts of the first, which add to its own.
    rw [Batch.rows_ofRows_append hfirst, Batch.rows_ofRows hfirst, run_append]
    rcases p.run m .zero first with ⟨e | counts, q⟩
    · rfl
    · have hsecond := q.run_add m counts .zero (Batch.ofRows second).rows
      rw [BatchCounts.add_zero] at hsecond
      dsimp only
      rw [hsecond]
      rcases q.run m .zero (Batch.ofRows second).rows with ⟨e | more, r⟩
      · rfl
      · rfl
  · -- The rows up to the failing one are cut off; what stands behind them is never reached.
    intro e he
    rw [Batch.rows_ofRows hfirst] at he
    obtain ⟨before, row, after, counts, rfl, hbefore, hrow, hfails⟩ := run_eq_error he
    have hfits : ∀ found ∈ before, found.length < 2 ^ 32 :=
      fun found hmem => hfirst found (List.mem_append_left _ hmem)
    refine ⟨before, row, after, counts, rfl, ?_, hrow, fun later => ?_⟩
    · rw [Batch.rows_ofRows hfits]
      exact hbefore
    · have hdone : ∀ found ∈ before ++ [row], found.length < 2 ^ 32 := by
        intro found hmem
        rcases List.mem_append.mp hmem with hold | hlast
        · exact hfits found hold
        · rw [List.mem_singleton.mp hlast]
          exact hfirst row (List.mem_append_right _ List.mem_cons_self)
      rw [List.append_cons, Batch.rows_ofRows_append hdone, ← List.append_cons]
      exact hfails _

/-- A tile load that uses up a budget of sixteen bytes. -/
def loadOnce : List Row :=
  [.setTextureImage 0 2 4 0, .loadTile 1 ⟨0, 3, 0, 0⟩]

/-- The same load is refused the second time, whatever comes after it; a row without effect is
not. -/
theorem processBatch_ofRows_append_loadTwice :
    let memory : ExternalMemory := .ofBytes fun address => .ofNat address.toNat
    let p : Processor BudgetedPool := .powerOn .standard (.empty (some 16))
    (p.processBatch memory (.ofRows (loadOnce ++ [[0]]))).1.toOption = some ⟨3, 1, 0, 0⟩ ∧
    ∃ e, (p.processBatch memory (.ofRows (loadOnce ++ loadOnce))).1 = .error e ∧
      ∀ later, p.processBatch memory (.ofRows ((loadOnce ++ loadOnce) ++ later)) =
        p.processBatch memory (.ofRows (loadOnce ++ loadOnce)) := by
  intro memory p
  constructor
  · obtain ⟨happend, -⟩ := processBatch_ofRows_append p memory loadOnce [[0]]
      (by decide +kernel)
    rw [happend]
    decide +kernel
  · -- The batch of both loads fails, so rows after it change nothing, whatever they are.
    have hfails : (p.processBatch memory (.ofRows (loadOnce ++ loadOnce))).1.toOption = none := by
      decide +kernel
    rcases hresult : p.processBatch memory (.ofRows (loadOnce ++ loadOnce)) with ⟨e | counts, q⟩
    · refine ⟨e, rfl, fun later => ?_⟩
      obtain ⟨happend, -⟩ := processBatch_ofRows_append p memory (loadOnce ++ loadOnce) later
        (by decide +kernel)
      rw [happend, hresult]
    · rw [hresult] at hfails
      cases hfails

end Processor

end DisplayProcessor
