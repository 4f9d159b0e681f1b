import DisplayProcessor.Proofs.CommandCases
import DisplayProcessor.Proofs.Session

/-!
# Batches row by row

A batch executes its rows in order up to the first one that fails. What it answers, and the state
that it leaves, can be read off the outcomes of these rows. So a run in which batches occur is also
a run of single rows, and what is said about any two moments of a run may lie within one batch.

- `Processor.rowOutcomes`, `Processor.batchOutcomes`: the outcomes of rows and of a batch.
- `BatchCounts.tally`: the counts that outcomes add up to.
- `Processor.run_eq`, `Processor.processBatch_eq`: answer and state from the outcomes.
- `Processor.processBatch_induction`: what every command keeps, every batch keeps.
- `Processor.steps`: a run with every batch replaced by its rows; `Processor.after_steps`.
- `Processor.someStep`: some step of a run has a property of its moment;
  `Processor.after_induction_of_someStep`: what holds if none has.
-/

namespace DisplayProcessor

/-! ## Counts -/

/-- Whether a row was applied. -/
def Outcome.isApplied : Except Error Outcome → Bool
  | .ok .applied => true
  | _ => false

namespace BatchCounts

/-- The counts after some more rows, unless one of them fails. -/
def tally (counts : BatchCounts) : List (Except Error Outcome) → Except Error BatchCounts
  | [] => .ok counts
  | .error e :: _ => .error e
  | .ok outcome :: rest => (counts.record outcome).tally rest

/-- Rows without a failure are all counted, each for its outcome. -/
theorem tally_of_forall_ok {outcomes : List (Except Error Outcome)}
    (h : ∀ e, .error e ∉ outcomes) (counts : BatchCounts) :
    ∃ total, counts.tally outcomes = .ok total ∧
      total.rows = counts.rows + outcomes.length ∧
      total.nops + total.skipped + total.dropped + outcomes.countP Outcome.isApplied =
        counts.nops + counts.skipped + counts.dropped + outcomes.length := by
  induction outcomes generalizing counts with
  | nil => exact ⟨counts, rfl, rfl, rfl⟩
  | cons result rest ih =>
    -- The counts of the rest start from those of the first row.
    cases result with
    | error e => exact absurd List.mem_cons_self (h e)
    | ok outcome =>
      obtain ⟨total, htotal, hrows, hsum⟩ :=
        ih (fun e hmem => h e (List.mem_cons_of_mem _ hmem)) (counts.record outcome)
      refine ⟨total, htotal, ?_, ?_⟩
      · rw [hrows, List.length_cons]
        show counts.rows + 1 + rest.length = _
        omega
      · rw [List.countP_cons, List.length_cons]
        -- An outcome has a count of its own, or it is an applied row.
        cases outcome <;> simp [record, Outcome.isApplied] at hsum ⊢ <;> omega

/-- If counting ends with an error, one of the rows failed with it. -/
theorem tally_eq_error {outcomes : List (Except Error Outcome)} {counts : BatchCounts} {e : Error}
    (h : counts.tally outcomes = .error e) : .error e ∈ outcomes := by
  induction outcomes generalizing counts with
  | nil => cases h
  | cons result rest ih =>
    cases result with
    | error e' =>
      cases h
      exact List.mem_cons_self
    | ok outcome => exact List.mem_cons_of_mem _ (ih h)

end BatchCounts

/-! ## Outcomes -/

namespace Processor

variable {α : Type} [TextureAllocator α]

/-- The outcomes of rows in order, up to the first one that fails. -/
def rowOutcomes (p : Processor α) (m : ExternalMemory) : List Row → List (Except Error Outcome)
  | [] => []
  | row :: rest =>
    match p.execute m (.decode row) with
    | (.error e, _) => [.error e]
    | (.ok outcome, q) => .ok outcome :: q.rowOutcomes m rest

/-- The outcomes of a batch. A malformed one executes no row. -/
def batchOutcomes (p : Processor α) (m : ExternalMemory) (batch : Batch) :
    List (Except Error Outcome) :=
  match batch.validate with
  | .error _ => []
  | .ok () => p.rowOutcomes m batch.rows

/-- The processor after rows, none of which is taken to fail. -/
def afterRows (p : Processor α) (m : ExternalMemory) (rows : List Row) : Processor α :=
  p.after (rows.map (.execute m))

/-- The first row is executed first, whatever comes of it. -/
theorem afterRows_cons (p : Processor α) (m : ExternalMemory) (row : Row) (rest : List Row) :
    p.afterRows m (row :: rest) = (p.execute m (.decode row)).2.afterRows m rest := rfl

theorem settings_afterRows (p : Processor α) (m : ExternalMemory) (rows : List Row) :
    (p.afterRows m rows).settings = p.settings := by
  induction rows generalizing p with
  | nil => rfl
  | cons row rest ih => exact (ih _).trans (p.settings_execute m (.decode row))

/-- A row that fails is the last one. -/
theorem rowOutcomes_of_error {p q : Processor α} {m : ExternalMemory} {row : Row} {e : Error}
    (h : p.execute m (.decode row) = (.error e, q)) (rest : List Row) :
    p.rowOutcomes m (row :: rest) = [.error e] := by
  rw [rowOutcomes, h]

/-- After a row that does not fail, the rest is executed in the state it left. -/
theorem rowOutcomes_of_ok {p q : Processor α} {m : ExternalMemory} {row : Row} {outcome : Outcome}
    (h : p.execute m (.decode row) = (.ok outcome, q)) (rest : List Row) :
    p.rowOutcomes m (row :: rest) = .ok outcome :: q.rowOutcomes m rest := by
  rw [rowOutcomes, h]

/-- The answer and the state of a run, from the outcomes of its rows. -/
theorem run_eq (p : Processor α) (m : ExternalMemory) (counts : BatchCounts) (rows : List Row) :
    p.run m counts rows =
      (counts.tally (p.rowOutcomes m rows),
        p.afterRows m (rows.take (p.rowOutcomes m rows).length)) := by
  induction rows generalizing p counts with
  | nil => rfl
  | cons row rest ih =>
    rcases hrow : p.execute m (.decode row) with ⟨e | outcome, q⟩
    · rw [rowOutcomes_of_error hrow, run, hrow]
      show (Except.error e, q) = (Except.error e, (p.execute m (.decode row)).2)
      rw [hrow]
    · rw [rowOutcomes_of_ok hrow, run, hrow, List.length_cons, List.take_succ_cons, afterRows_cons,
        hrow]
      exact ih q (counts.record outcome)

/-- The answer and the state of a batch, from the outcomes of its rows. -/
theorem processBatch_eq (p : Processor α) (m : ExternalMemory) (batch : Batch) :
    p.processBatch m batch =
      (match batch.validate with
        | .error e => .error e
        | .ok () => BatchCounts.zero.tally (p.batchOutcomes m batch),
        p.afterRows m (batch.rows.take (p.batchOutcomes m batch).length)) := by
  unfold processBatch batchOutcomes
  cases batch.validate with
  | error e => rfl
  | ok => exact p.run_eq m .zero batch.rows

/-- What the command of every row keeps, a batch keeps. -/
theorem processBatch_induction_row {P : Processor α → Prop} {m : ExternalMemory}
    (hstep : ∀ p row, P p → P (p.execute m (.decode row)).2) {p : Processor α} (hp : P p)
    (batch : Batch) : P (p.processBatch m batch).2 := by
  rw [processBatch_eq]
  show P (p.afterRows m _)
  generalize batch.rows.take (p.batchOutcomes m batch).length = rows
  induction rows generalizing p with
  | nil => exact hp
  | cons row rest ih => exact ih (hstep p row hp)

/-- What every command keeps, a batch keeps. -/
theorem processBatch_induction {P : Processor α → Prop} {m : ExternalMemory}
    (hstep : ∀ p command, P p → P (p.execute m command).2) {p : Processor α} (hp : P p)
    (batch : Batch) : P (p.processBatch m batch).2 :=
  processBatch_induction_row (fun p row => hstep p (.decode row)) hp batch

/-- An outcome is that of the row in its place, after the rows before it. -/
theorem execute_of_rowOutcomes {p : Processor α} {m : ExternalMemory} {rows : List Row}
    {before rest : List (Except Error Outcome)} {result : Except Error Outcome}
    (h : p.rowOutcomes m rows = before ++ result :: rest) :
    ∃ row, rows[before.length]? = some row ∧
      (p.afterRows m (rows.take before.length)).execute m (.decode row) =
        (result, p.afterRows m (rows.take (before.length + 1))) := by
  induction rows generalizing p before with
  | nil =>
    have hnil : [] = before ++ result :: rest := h
    simp at hnil
  | cons row later ih =>
    rcases hrow : p.execute m (.decode row) with ⟨e | outcome, q⟩
    · rw [rowOutcomes_of_error hrow] at h
      cases before with
      | nil =>
        cases h
        refine ⟨row, rfl, hrow.trans ?_⟩
        show _ = (_, (p.execute m (.decode row)).2)
        rw [hrow]
      | cons first before => simp at h
    · rw [rowOutcomes_of_ok hrow] at h
      cases before with
      | nil =>
        cases h
        refine ⟨row, rfl, hrow.trans ?_⟩
        show _ = (_, (p.execute m (.decode row)).2)
        rw [hrow]
      | cons first before =>
        -- The row is among those after the first, counted from the state it left.
        obtain ⟨found, hfound, hexecute⟩ := ih (List.cons.inj h).2
        refine ⟨found, hfound, ?_⟩
        simp only [List.length_cons, List.take_succ_cons, afterRows_cons, hrow]
        exact hexecute

/-- Nothing comes after a failure. -/
theorem eq_nil_of_rowOutcomes {p : Processor α} {m : ExternalMemory} {rows : List Row}
    {before rest : List (Except Error Outcome)} {e : Error}
    (h : p.rowOutcomes m rows = before ++ .error e :: rest) : rest = [] := by
  induction rows generalizing p before with
  | nil =>
    have hnil : [] = before ++ Except.error e :: rest := h
    simp at hnil
  | cons row later ih =>
    rcases hrow : p.execute m (.decode row) with ⟨e' | outcome, q⟩
    · rw [rowOutcomes_of_error hrow] at h
      cases before with
      | nil => exact (List.cons.inj h).2.symm
      | cons first before => simp at h
    · rw [rowOutcomes_of_ok hrow] at h
      cases before with
      | nil => cases h
      | cons first before => exact ih (List.cons.inj h).2

/-- Without a failure every row has an outcome. -/
theorem length_rowOutcomes {p : Processor α} {m : ExternalMemory} {rows : List Row}
    (h : ∀ e, .error e ∉ p.rowOutcomes m rows) : (p.rowOutcomes m rows).length = rows.length := by
  induction rows generalizing p with
  | nil => rfl
  | cons row rest ih =>
    rcases hrow : p.execute m (.decode row) with ⟨e | outcome, q⟩
    · rw [rowOutcomes_of_error hrow] at h
      exact absurd List.mem_cons_self (h e)
    · rw [rowOutcomes_of_ok hrow] at h ⊢
      rw [List.length_cons, List.length_cons,
        ih fun e hmem => h e (List.mem_cons_of_mem _ hmem)]

/-- Whatever is counted, a failure is the answer. -/
theorem tally_rowOutcomes_of_mem {p : Processor α} {m : ExternalMemory} {rows : List Row}
    {e : Error} (h : .error e ∈ p.rowOutcomes m rows) (counts : BatchCounts) :
    counts.tally (p.rowOutcomes m rows) = .error e := by
  induction rows generalizing p counts with
  | nil => exact absurd h List.not_mem_nil
  | cons row rest ih =>
    rcases hrow : p.execute m (.decode row) with ⟨e' | outcome, q⟩
    · rw [rowOutcomes_of_error hrow] at h ⊢
      cases List.mem_singleton.mp h
      rfl
    · rw [rowOutcomes_of_ok hrow] at h ⊢
      exact ih ((List.mem_cons.mp h).resolve_left nofun) (counts.record outcome)

/-- A batch answers with the failure among its outcomes. -/
theorem processBatch_eq_error {p : Processor α} {m : ExternalMemory} {batch : Batch} {e : Error}
    (h : .error e ∈ p.batchOutcomes m batch) : (p.processBatch m batch).1 = .error e := by
  unfold batchOutcomes at h
  unfold processBatch
  cases hvalid : batch.validate with
  | error e' =>
    rw [hvalid] at h
    exact absurd h List.not_mem_nil
  | ok =>
    rw [hvalid] at h
    simp only [run_eq]
    exact tally_rowOutcomes_of_mem h .zero

/-! ## Steps -/

/-- A batch is replaced by those of its rows that are executed. -/
def singleSteps (p : Processor α) : Operation → List Operation
  | .processBatch m batch =>
    (batch.rows.take (p.batchOutcomes m batch).length).map (.execute m)
  | op => [op]

/-- The steps of a run: its operations, with every batch replaced by its rows. -/
def steps (p : Processor α) : List Operation → List Operation
  | [] => []
  | op :: rest => p.singleSteps op ++ (p.perform op).2.steps rest

theorem after_append (p : Processor α) (ops rest : List Operation) :
    p.after (ops ++ rest) = (p.after ops).after rest :=
  List.foldl_append

/-- A batch taken row by row leaves the state that the whole batch leaves. -/
theorem after_singleSteps (p : Processor α) (op : Operation) :
    p.after (p.singleSteps op) = (p.perform op).2 := by
  cases op with
  | processBatch m batch => exact (congrArg Prod.snd (p.processBatch_eq m batch)).symm
  | _ => rfl

/-- A run ends in the same state as its steps. -/
theorem after_steps (p : Processor α) (ops : List Operation) :
    p.after (p.steps ops) = p.after ops := by
  induction ops generalizing p with
  | nil => rfl
  | cons op rest ih =>
    rw [steps, after_append, after_singleSteps, ih]
    rfl

end Processor

/-- The operation is no batch. -/
def Operation.IsStep : Operation → Prop
  | .processBatch _ _ => False
  | _ => True

namespace Processor

variable {α : Type} [TextureAllocator α]

/-- A batch in a run was replaced by its rows. -/
theorem isStep_of_mem_steps {p : Processor α} {ops : List Operation} {step : Operation}
    (h : step ∈ p.steps ops) : step.IsStep := by
  induction ops generalizing p with
  | nil => exact absurd h List.not_mem_nil
  | cons op rest ih =>
    rcases List.mem_append.mp h with hop | hrest
    · cases op with
      | processBatch m batch =>
        obtain ⟨row, -, rfl⟩ := List.mem_map.mp hop
        trivial
      | _ =>
        rw [List.mem_singleton.mp hop]
        trivial
    · exact ih hrest

/-- Whether some step has a property, which may depend on the state before it. -/
def someStep (property : Processor α → Operation → Bool) (p : Processor α) :
    List Operation → Bool
  | [] => false
  | step :: rest => property p step || (p.perform step).2.someStep property rest

/-- What every step without a property keeps, every run of such steps keeps. -/
theorem after_induction_of_someStep {property : Processor α → Operation → Bool}
    {P : Processor α → Prop}
    (hstep : ∀ p step, step.IsStep → property p step = false → P p → P (p.perform step).2)
    {p : Processor α} {ops : List Operation} (hops : ∀ step ∈ ops, step.IsStep)
    (hnone : p.someStep property ops = false) (hp : P p) : P (p.after ops) := by
  induction ops generalizing p with
  | nil => exact hp
  | cons step rest ih =>
    obtain ⟨hfirst, hrest⟩ := Bool.or_eq_false_iff.mp hnone
    exact ih (fun later hmem => hops later (List.mem_cons_of_mem _ hmem)) hrest
      (hstep p step (hops step List.mem_cons_self) hfirst hp)

end Processor

/-- A batch leads to the same session as its rows one by one, up to the one that fails. -/
theorem Session.perform_processBatch (s : Session) (m : ExternalMemory) (batch : Batch) :
    s.perform (.processBatch m batch) =
      s.after (s.processor.singleSteps (.processBatch m batch)) := by
  have hrows (rows : List Row) (s : Session) :
      s.after (rows.map (.execute m)) = s.withProcessor (s.processor.afterRows m rows) := by
    induction rows generalizing s with
    | nil => rfl
    | cons row rest ih => exact ih (s.perform (.execute m row))
  rw [Processor.singleSteps, hrows]
  exact congrArg s.withProcessor (s.processor.after_singleSteps (.processBatch m batch)).symm

end DisplayProcessor
