import DisplayProcessor.Error
import DisplayProcessor.Word

/-!
# Batches

A batch is one buffer of words and the number of words in each row. Rows that run past the end of
the buffer are cut off there; a batch with such a row is malformed.

- `Batch`: words and row lengths.
- `Batch.ofRows`, `Batch.pushRow`: a batch from its rows.
- `Batch.rows`: the rows of a batch.
- `Batch.validate`: whether the rows fit in the buffer.
-/

namespace DisplayProcessor

/-- A buffer of command words, and the number of words in each row. -/
structure Batch where
  words : List Word
  rowLengths : List UInt32
deriving DecidableEq, Inhabited

namespace Batch

/-- The batch without rows. -/
def empty : Batch := ⟨[], []⟩

/-- The batch with one more row at the end. -/
def pushRow (batch : Batch) (row : Row) : Batch where
  words := batch.words ++ row
  rowLengths := batch.rowLengths ++ [.ofNat row.length]

/-- The batch of which the given rows are appended one after the other. -/
def ofRows (rows : List Row) : Batch :=
  rows.foldl pushRow empty

/-- The number of words in the buffer. -/
def wordCount (batch : Batch) : Nat :=
  batch.words.length

/-- The number of rows. -/
def rowCount (batch : Batch) : Nat :=
  batch.rowLengths.length

/-- The number of words that rows of the given lengths ask for. -/
def totalLength : List UInt32 → Nat
  | [] => 0
  | n :: rest => n.toNat + totalLength rest

/-- The number of words that the rows ask for. -/
def expectedWords (batch : Batch) : Nat :=
  totalLength batch.rowLengths

/-- Cut rows of the given lengths from a buffer, from a place in it on. Both ends of a row are moved
back to the end of the buffer if they lie behind it. -/
def rowsFrom (words : List Word) (start : Nat) : List UInt32 → List Row
  | [] => []
  | n :: rest =>
    let first := min start words.length
    let last := min (start + n.toNat) words.length
    words.extract first last :: rowsFrom words (start + n.toNat) rest

/-- The rows in order, each cut off at the end of the buffer. -/
def rows (batch : Batch) : List Row :=
  rowsFrom batch.words 0 batch.rowLengths

/-- A batch is malformed if its rows ask for more words than it has. -/
def validate (batch : Batch) : Except Error Unit :=
  if batch.wordCount < batch.expectedWords then
    .error (.malformedBatch batch.wordCount batch.expectedWords)
  else .ok ()

/-- Rows are appended behind those that are there. -/
theorem foldl_pushRow (batch : Batch) (rows : List Row) :
    rows.foldl pushRow batch =
      ⟨batch.words ++ rows.flatten, batch.rowLengths ++ rows.map fun row => .ofNat row.length⟩ := by
  induction rows generalizing batch with
  | nil => simp
  | cons row rest ih => simp [ih, pushRow]

/-- Appending rows to nothing puts their words and their lengths in order. -/
theorem ofRows_eq (rows : List Row) :
    ofRows rows = ⟨rows.flatten, rows.map fun row => .ofNat row.length⟩ := by
  simp [ofRows, foldl_pushRow, empty]

/-- A row has the words from its place on, as many as it asks for and as there are. -/
theorem rowsFrom_cons (words : List Word) (start : Nat) (n : UInt32) (rest : List UInt32) :
    rowsFrom words start (n :: rest) =
      (words.drop start).take n.toNat :: rowsFrom words (start + n.toNat) rest := by
  have hrow : words.extract (min start words.length) (min (start + n.toNat) words.length) =
      (words.drop start).take n.toNat := by
    rw [List.extract_eq_take_drop]
    rcases Nat.le_total start words.length with hin | hpast
    · rw [Nat.min_eq_left hin, List.take_eq_take_iff, List.length_drop]
      omega
    · rw [Nat.min_eq_right hpast, List.drop_eq_nil_of_le hpast, List.drop_length]
      simp
  rw [rowsFrom, hrow]

@[simp] theorem length_rows (batch : Batch) : batch.rows.length = batch.rowCount := by
  have hlength (start : Nat) (lengths : List UInt32) :
      (rowsFrom batch.words start lengths).length = lengths.length := by
    induction lengths generalizing start with
    | nil => rfl
    | cons n rest ih => simp [rowsFrom, ih]
  exact hlength 0 batch.rowLengths

theorem validate_of_le {batch : Batch} (h : batch.expectedWords ≤ batch.wordCount) :
    batch.validate = .ok () :=
  if_neg (Nat.not_lt.mpr h)

theorem validate_of_lt {batch : Batch} (h : batch.wordCount < batch.expectedWords) :
    batch.validate = .error (.malformedBatch batch.wordCount batch.expectedWords) :=
  if_pos h

theorem validate_eq_ok_iff {batch : Batch} :
    batch.validate = .ok () ↔ batch.expectedWords ≤ batch.wordCount := by
  constructor
  · intro h
    refine Nat.le_of_not_lt fun hlt => ?_
    rw [validate_of_lt hlt] at h
    cases h
  · exact validate_of_le

end Batch

end DisplayProcessor
