import DisplayProcessor.Batch
import Mathlib.Algebra.Ring.Nat

/-!
# The rows of a batch

The rows of a batch lie one behind the other in its buffer, each where the ones before it end. Where
the buffer ends, so do the rows. Rows that were put together to a batch are its rows again, if their
lengths can be written down.

- `Batch.getElem?_rowsFrom`, `Batch.flatten_rowsFrom`: one row of a buffer, and all of them.
- `Batch.rows_append`, `Batch.rows_ofRows`: the rows of a batch that was put together.
- `Batch.CutInto`, `Batch.MadeOf`: a batch with its rows, and a batch that was put together.
- `Batch.rows_partition`: the main result.
-/

namespace DisplayProcessor

namespace Batch

/-! ## Lengths of rows -/

theorem totalLength_eq_sum (lengths : List UInt32) :
    totalLength lengths = (lengths.map UInt32.toNat).sum := by
  induction lengths with
  | nil => rfl
  | cons n rest ih => rw [totalLength, ih, List.map_cons, List.sum_cons]

/-- The words that the rows of a batch ask for are the sum of their lengths. -/
theorem expectedWords_eq_sum (batch : Batch) :
    batch.expectedWords = (batch.rowLengths.map UInt32.toNat).sum :=
  totalLength_eq_sum batch.rowLengths

/-! ## Cutting a buffer -/

/-- A row lies where the rows before it end. -/
theorem getElem?_rowsFrom (words : List Word) (start k : Nat) (lengths : List UInt32) :
    (rowsFrom words start lengths)[k]? = lengths[k]?.map fun n =>
      (words.drop (start + totalLength (lengths.take k))).take n.toNat := by
  induction lengths generalizing start k with
  | nil => rfl
  | cons n rest ih =>
    rw [rowsFrom_cons]
    cases k with
    | zero => simp [totalLength]
    | succ k => simp [totalLength, ih, Nat.add_assoc]

/-- Together the rows are the words that they ask for, as far as there are any. -/
theorem flatten_rowsFrom (words : List Word) (start : Nat) (lengths : List UInt32) :
    (rowsFrom words start lengths).flatten = (words.drop start).take (totalLength lengths) := by
  induction lengths generalizing start with
  | nil => simp [rowsFrom, totalLength]
  | cons n rest ih => simp [rowsFrom_cons, totalLength, ih, List.take_add]

/-- No row is shorter than its length says exactly if the buffer has all words that are asked
for. -/
theorem map_length_rowsFrom_iff (words : List Word) (start : Nat) (lengths : List UInt32) :
    (rowsFrom words start lengths).map List.length = lengths.map UInt32.toNat ↔
      totalLength lengths ≤ words.length - start := by
  induction lengths generalizing start with
  | nil => simp [rowsFrom, totalLength]
  | cons n rest ih =>
    rw [rowsFrom_cons, List.map_cons, List.map_cons, List.cons.injEq, ih, totalLength,
      List.length_take, List.length_drop]
    omega

theorem rowsFrom_append (words : List Word) (start : Nat) (first second : List UInt32) :
    rowsFrom words start (first ++ second) =
      rowsFrom words start first ++ rowsFrom words (start + totalLength first) second := by
  induction first generalizing start with
  | nil => rfl
  | cons n rest ih => simp [rowsFrom_cons, totalLength, ih, Nat.add_assoc]

/-- Rows that find all their words do not see what comes after them. -/
theorem rowsFrom_append_later {words : List Word} {start : Nat} {lengths : List UInt32}
    (h : start + totalLength lengths ≤ words.length) (later : List Word) :
    rowsFrom (words ++ later) start lengths = rowsFrom words start lengths := by
  induction lengths generalizing start with
  | nil => rfl
  | cons n rest ih =>
    rw [totalLength] at h
    have hrow : n.toNat ≤ (words.drop start).length := by
      rw [List.length_drop]
      omega
    rw [rowsFrom_cons, rowsFrom_cons, ih (by omega), List.drop_append_of_le_length (by omega),
      List.take_append_of_le_length hrow]

/-- Rows do not see what comes before them. -/
theorem rowsFrom_append_earlier (earlier words : List Word) (start : Nat)
    (lengths : List UInt32) :
    rowsFrom (earlier ++ words) (earlier.length + start) lengths = rowsFrom words start lengths := by
  induction lengths generalizing start with
  | nil => rfl
  | cons n rest ih =>
    rw [rowsFrom_cons, rowsFrom_cons, Nat.add_assoc, ih, List.drop_length_add_append]

/-- A row of a batch is no longer than its length says, which is a number of 32 bits. -/
theorem length_lt_of_mem_rows {batch : Batch} {row : Row} (h : row ∈ batch.rows) :
    row.length < 2 ^ 32 := by
  obtain ⟨k, hk⟩ := List.getElem?_of_mem h
  rw [rows, getElem?_rowsFrom] at hk
  obtain ⟨n, -, rfl⟩ := Option.map_eq_some_iff.mp hk
  rw [List.length_take]
  exact Nat.lt_of_le_of_lt (Nat.min_le_left _ _) n.toNat_lt

/-! ## Putting rows together -/

/-- The batch with the rows of another one after its own. -/
def append (a b : Batch) : Batch where
  words := a.words ++ b.words
  rowLengths := a.rowLengths ++ b.rowLengths

theorem ofRows_append (first second : List Row) :
    ofRows (first ++ second) = (ofRows first).append (ofRows second) := by
  simp [ofRows_eq, append]

/-- Rows that use up all words before them leave the words after them to later rows. -/
theorem rows_append {a : Batch} (h : a.expectedWords = a.wordCount) (b : Batch) :
    (a.append b).rows = a.rows ++ b.rows := by
  have hfirst : 0 + totalLength a.rowLengths ≤ a.words.length := by
    rw [Nat.zero_add]
    exact Nat.le_of_eq h
  have hsecond : 0 + totalLength a.rowLengths = a.words.length + 0 := by
    rw [Nat.zero_add]
    exact h
  unfold rows append
  rw [rowsFrom_append, rowsFrom_append_later hfirst, hsecond, rowsFrom_append_earlier]

/-- Rows that are not too long for their lengths to be written down fill the batch. -/
theorem expectedWords_ofRows {rows : List Row} (h : ∀ row ∈ rows, row.length < 2 ^ 32) :
    (ofRows rows).expectedWords = (ofRows rows).wordCount := by
  simp only [ofRows_eq, expectedWords, wordCount]
  induction rows with
  | nil => rfl
  | cons row rest ih =>
    obtain ⟨hrow, hrest⟩ := List.forall_mem_cons.mp h
    simp only [List.map_cons, totalLength, List.flatten_cons, List.length_append, ih hrest,
      UInt32.toNat_ofNat_of_lt' hrow]

/-- Rows never ask for more words than they bring, even if a length does not fit. -/
theorem expectedWords_ofRows_le (rows : List Row) :
    (ofRows rows).expectedWords ≤ (ofRows rows).wordCount := by
  simp only [ofRows_eq, expectedWords, wordCount]
  induction rows with
  | nil => exact Nat.le_refl 0
  | cons row rest ih =>
    have hrow : (UInt32.ofNat row.length).toNat ≤ row.length := by
      rw [UInt32.toNat_ofNat']
      exact Nat.mod_le _ _
    simp only [List.map_cons, totalLength, List.flatten_cons, List.length_append]
    exact Nat.add_le_add hrow ih

/-- A batch that was made of rows is well-formed. -/
theorem validate_ofRows (rows : List Row) : (ofRows rows).validate = .ok () :=
  validate_of_le (expectedWords_ofRows_le rows)

theorem rows_ofRows_singleton {row : Row} (h : row.length < 2 ^ 32) :
    (ofRows [row]).rows = [row] := by
  simp only [ofRows_eq, List.flatten_singleton, List.map_singleton, rows, rowsFrom_cons,
    List.drop_zero, UInt32.toNat_ofNat_of_lt' h, List.take_length, rowsFrom]

/-- The rows that a batch was made of are its rows. -/
theorem rows_ofRows {rows : List Row} (h : ∀ row ∈ rows, row.length < 2 ^ 32) :
    (ofRows rows).rows = rows := by
  induction rows with
  | nil => rfl
  | cons row rest ih =>
    obtain ⟨hrow, hrest⟩ := List.forall_mem_cons.mp h
    have hfull := expectedWords_ofRows (List.forall_mem_singleton.mpr hrow)
    rw [← List.singleton_append, ofRows_append, rows_append hfull, rows_ofRows_singleton hrow,
      ih hrest]

theorem rows_ofRows_append {first : List Row} (h : ∀ row ∈ first, row.length < 2 ^ 32)
    (second : List Row) : (ofRows (first ++ second)).rows = first ++ (ofRows second).rows := by
  rw [ofRows_append, rows_append (expectedWords_ofRows h), rows_ofRows h]

/-! ## A batch and its rows -/

/-- The rows of a batch: one for each length, together the words that the lengths ask for, and each
where the ones before it end. A row for which there are too few words is what is left of the buffer.
All rows are as long as their lengths say exactly if the batch is well-formed, and exactly if its
buffer has as many words as they ask for. -/
structure CutInto (batch : Batch) (rows : List Row) : Prop where
  length_eq : rows.length = batch.rowLengths.length
  flatten_eq : rows.flatten = batch.words.take (min batch.expectedWords batch.words.length)
  row {k : Nat} {n : UInt32} (h : batch.rowLengths[k]? = some n) :
    let start := totalLength (batch.rowLengths.take k)
    rows[k]? = some (if start + n.toNat ≤ batch.words.length then
      batch.words.extract start (start + n.toNat) else batch.words.drop start)
  valid_iff : batch.validate = .ok () ↔ rows.map List.length = batch.rowLengths.map UInt32.toNat
  full_iff : rows.map List.length = batch.rowLengths.map UInt32.toNat ↔
    batch.expectedWords ≤ batch.words.length

/-- A well-formed batch with given rows and nothing else. -/
structure MadeOf (batch : Batch) (rows : List Row) : Prop where
  valid : batch.validate = .ok ()
  rows_eq : batch.rows = rows
  wordCount_eq : batch.wordCount = (rows.map List.length).sum
  rowCount_eq : batch.rowCount = rows.length

/-- The rows of any batch are the pieces into which its lengths cut the words. -/
theorem cutInto_rows (batch : Batch) : batch.CutInto batch.rows where
  length_eq := batch.length_rows
  flatten_eq := by
    rw [rows, flatten_rowsFrom, List.drop_zero, expectedWords, List.take_eq_take_iff]
    omega
  row {k n} h := by
    intro start
    rw [rows, getElem?_rowsFrom, h, Nat.zero_add, Option.map_some]
    -- The words may end within this row, which then has what is left of them.
    split
    · rw [List.extract_eq_take_drop, Nat.add_sub_cancel_left]
    · rw [List.take_of_length_le (by rw [List.length_drop]; omega)]
  valid_iff := by
    rw [validate_eq_ok_iff, rows, map_length_rowsFrom_iff]
    rfl
  full_iff := by
    rw [rows, map_length_rowsFrom_iff]
    rfl

theorem madeOf_ofRows {rows : List Row} (h : ∀ row ∈ rows, row.length < 2 ^ 32) :
    (ofRows rows).MadeOf rows where
  valid := validate_ofRows rows
  rows_eq := rows_ofRows h
  wordCount_eq := by rw [ofRows_eq, wordCount, List.length_flatten]
  rowCount_eq := by rw [ofRows_eq, rowCount, List.length_map]

/-- **The rows of a batch.** The rows of any batch are cut from its buffer one behind the other, as
far as it goes. Rows of which none is too long for its length to be written down, appended one
after the other to nothing, make a well-formed batch that has exactly these rows. -/
theorem rows_partition (batch : Batch) :
    batch.CutInto batch.rows ∧
    ∀ rows : List Row, (∀ row ∈ rows, row.length < 2 ^ 32) →
      ofRows rows = rows.foldl pushRow empty ∧ (ofRows rows).MadeOf rows := by
  constructor
  · exact batch.cutInto_rows
  · intro rows h
    exact ⟨rfl, madeOf_ofRows h⟩

/-- Four rows of a buffer of three words, of which the third is cut off and the last finds nothing;
and three rows of different lengths. -/
theorem rows_partition_overrun :
    let batch : Batch := ⟨[10, 11, 12], [2, 0, 5, 1]⟩
    let rows : List Row := [[1], [], [2, 3]]
    (∀ row ∈ rows, row.length < 2 ^ 32) ∧
    batch.CutInto [[10, 11], [], [12], []] ∧ (ofRows rows).MadeOf rows := by
  intro batch rows
  have hlengths : ∀ row ∈ rows, row.length < 2 ^ 32 := by decide
  obtain ⟨hcut, hmade⟩ := rows_partition batch
  exact ⟨hlengths, hcut, (hmade rows hlengths).2⟩

end Batch

end DisplayProcessor
