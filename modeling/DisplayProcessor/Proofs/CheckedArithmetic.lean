import DisplayProcessor.Proofs.OperandRanges

/-!
# Checked arithmetic

The processor computes with numbers of 32 bits. The operations here have no result where a number
does not fit, where a shift loses bits, where a divisor is zero or where an index lies outside its
array or a slice beyond its row. What a command says, and what a tile describes, is defined with them
once more, and the operands are small enough for every check.

- `Checked.add`, `Checked.mul`, `Checked.shiftLeft`, `Checked.index`, …: the operations.
- `Row.checkedSlice`: some words of a row, by bounds that are cut off to it.
- `Checked.ofFnM_eq_some`, `Checked.foldlM_eq_some`: many of them.
- `Command.checkedDecode`: the command in a row.
- `Tile.checkedCountRows`, `TileTable.checkedSetRect`, `TileTable.checkedDropAll`: loaded rows.
-/

namespace DisplayProcessor

/-! ## Checked operations -/

namespace Checked

/-- A number, if 32 bits hold it. -/
def fit (n : Nat) : Option Nat :=
  if n < 2 ^ 32 then some n else none

/-- The sum, if it does not overflow. -/
def add (a b : Nat) : Option Nat :=
  fit (a + b)

/-- The product, if it does not overflow. -/
def mul (a b : Nat) : Option Nat :=
  fit (a * b)

/-- The number shifted to the left, if no bit is lost. -/
def shiftLeft (a n : Nat) : Option Nat :=
  fit (a * 2 ^ n)

/-- The difference, if it is not negative. -/
def sub (a b : Nat) : Option Nat :=
  if b ≤ a then some (a - b) else none

/-- The quotient, if the divisor is not zero. -/
def div (a b : Nat) : Option Nat :=
  if b = 0 then none else some (a / b)

/-- The place with a number in an array, if the array has it. -/
def index (size n : Nat) : Option (Fin size) :=
  if h : n < size then some ⟨n, h⟩ else none

/-- The words from one index up to another, if these are places of the row in order. -/
def range (row : Row) (first stop : Nat) : Option Row :=
  if first ≤ stop ∧ stop ≤ row.length then some ((row.take stop).drop first) else none

/-- The sum modulo `2 ^ 32`, which is always there. -/
def wrappingAdd (a b : Nat) : Nat :=
  (a + b) % 2 ^ 32

/-- The product modulo `2 ^ 32`, which is always there. -/
def wrappingMul (a b : Nat) : Nat :=
  a * b % 2 ^ 32

/-- The number of a texel of an image in rows of a width, modulo `2 ^ 32`. -/
def texelIndex (width row column : Nat) : Nat :=
  wrappingAdd (wrappingMul width row) column

/-- How many there are from the first to the last, zero if the last lies before the first. -/
def span (first last : Nat) : Option Nat :=
  if last < first then some 0 else do add (← sub last first) 1

/-- A result below the word size is there, and it is the exact one. -/
theorem fit_of_lt {n : Nat} (h : n < 2 ^ 32) : fit n = some n :=
  if_pos h

theorem add_of_lt {a b : Nat} (h : a + b < 2 ^ 32) : add a b = some (a + b) :=
  fit_of_lt h

theorem mul_of_lt {a b : Nat} (h : a * b < 2 ^ 32) : mul a b = some (a * b) :=
  fit_of_lt h

theorem shiftLeft_of_lt {a n : Nat} (h : a * 2 ^ n < 2 ^ 32) : shiftLeft a n = some (a * 2 ^ n) :=
  fit_of_lt h

theorem div_of_pos {a b : Nat} (h : 0 < b) : div a b = some (a / b) :=
  if_neg (Nat.ne_of_gt h)

theorem index_of_lt {size n : Nat} (h : n < size) : index size n = some ⟨n, h⟩ :=
  dif_pos h

/-- The index of a texel does not wrap around below the word size. -/
theorem texelIndex_of_lt {width row column : Nat} (h : width * row + column < 2 ^ 32) :
    texelIndex width row column = width * row + column := by
  rw [texelIndex, wrappingMul, Nat.mod_eq_of_lt (by omega)]
  exact Nat.mod_eq_of_lt h

/-- The length of a range that does not end at the last word. -/
theorem span_of_lt {first last : Nat} (h : last + 1 < 2 ^ 32) :
    span first last = some (last + 1 - first) := by
  unfold span
  by_cases hlt : last < first
  · rw [if_pos hlt]
    exact congrArg some (by omega)
  · have hle : first ≤ last := Nat.le_of_not_lt hlt
    have hsub : sub last first = some (last - first) := if_pos hle
    rw [if_neg hlt, hsub, Option.bind_eq_bind, Option.bind_some, add_of_lt (by omega)]
    exact congrArg some (by omega)

/-- Entries that all have a result. -/
theorem ofFnM_eq_some {β : Type} {n : Nat} {entry : Fin n → Option β} {value : Fin n → β}
    (h : ∀ i, entry i = some (value i)) : Vector.ofFnM entry = some (Vector.ofFn value) := by
  have hentry : entry = fun i => pure (value i) := funext h
  rw [hentry]
  exact Vector.ofFnM_pure

/-- Steps that all have a result. -/
theorem foldlM_eq_some {β ι : Type} {step : β → ι → Option β} {next : β → ι → β}
    {places : List ι} (h : ∀ b, ∀ i ∈ places, step b i = some (next b i)) (b : β) :
    places.foldlM step b = some (places.foldl next b) := by
  induction places generalizing b with
  | nil => rfl
  | cons i rest ih =>
    rw [List.foldlM_cons, h b i List.mem_cons_self, Option.bind_eq_bind, Option.bind_some]
    exact ih (fun b j hj => h b j (List.mem_cons_of_mem _ hj)) (next b i)

end Checked

/-! ## Commands -/

namespace Row

/-- The `n` words from index `start` on, with checks: both bounds are cut off to the row before they
are used. -/
def checkedSlice (row : Row) (start n : Nat) : Option Row :=
  let stop := min (start + n) row.length
  Checked.range row (min start stop) stop

/-- The bounds are in order and in the row, wherever the slice starts and however long it is. -/
theorem checkedSlice_eq (row : Row) (start n : Nat) :
    row.checkedSlice start n = some (row.slice start n) := by
  have hstop : min (start + n) row.length ≤ row.length := Nat.min_le_right _ _
  unfold checkedSlice Checked.range slice
  dsimp only
  rw [if_pos ⟨Nat.min_le_right _ _, hstop⟩]
  -- The bounds that are cut at the end of the row leave the words that the slice has.
  refine congrArg some (List.ext_getElem? fun i => ?_)
  simp only [List.getElem?_drop, List.getElem?_take]
  by_cases hstart : start ≤ row.length
  · rw [Nat.min_eq_left (by omega)]
    by_cases hi : start + i < row.length
    · by_cases hn : i < n
      · rw [if_pos (by omega), if_pos hn]
      · rw [if_neg (by omega), if_neg hn]
    · rw [List.getElem?_eq_none (by omega), ite_self, ite_self]
  · -- The slice starts beyond the row, so nothing is left of it.
    rw [if_neg (by omega), List.getElem?_eq_none (by omega), ite_self]

/-- A slice that is taken if it is asked for, with checks. -/
def checkedBlock (row : Row) (present : Bool) (start n : Nat) : Option (Option Row) :=
  if present then (row.checkedSlice start n).map some else some none

/-- A block that is present can be cut from every row. -/
theorem checkedBlock_eq (row : Row) (present : Bool) (start n : Nat) :
    row.checkedBlock present start n =
      some (if present then some (row.slice start n) else none) := by
  cases present
  · rfl
  · exact congrArg (Option.map some) (row.checkedSlice_eq start n)

end Row

namespace TriangleCommand

/-- The triangle of a kind in a row, with checks of the slices that hold its blocks. The slice of a
block that the kind lacks is not taken. -/
def checkedDecode (kind : TriangleKind) (row : Row) : Option TriangleCommand := do
  let edges ← row.checkedSlice 0 TriangleKind.edgeWords
  let shade ← row.checkedBlock kind.shade kind.shadeStart TriangleKind.blockWords
  let texture ← row.checkedBlock kind.texture kind.textureStart TriangleKind.blockWords
  let depth ← row.checkedBlock kind.depth kind.depthStart TriangleKind.depthWords
  return {
    kind := kind
    edges := .ofBlock edges
    shade := shade.map .ofBlock
    texture := texture.map .ofBlock
    depth := depth.map .ofDepthBlock }

/-- Triangles are decoded from every row. -/
theorem checkedDecode_eq (kind : TriangleKind) (row : Row) :
    checkedDecode kind row = some (decode kind row) := by
  simp only [checkedDecode, decode, Row.checkedSlice_eq, Row.checkedBlock_eq, Option.bind_eq_bind,
    Option.bind_some, Option.pure_def, apply_ite (Option.map _), Option.map_some, Option.map_none]

end TriangleCommand

namespace Command

/-- The command in a row, with checks. All operands are bit fields, of which some are shifted or
incremented, and the blocks of a triangle are slices of the row. -/
def checkedDecode (row : Row) : Option Command :=
  let w0 := row.word 0
  let w1 := row.word 1
  match Opcode.ofWord w0 with
  | .triangle kind => do return .triangle (← TriangleCommand.checkedDecode kind row)
  | .setTile => do
    let offset ← Checked.shiftLeft (w0.field 0 9) 3
    let stride ← Checked.shiftLeft (w0.field 9 9) 3
    return .setTile (tileField w1) { TileProperties.ofWords w0 w1 with offset, stride }
  | .setTextureImage => do
    let width ← Checked.add (w0.field 0 10) 1
    return .setTextureImage { ImageDescriptor.ofWords w0 w1 with width }
  | .setColorImage => do
    let width ← Checked.add (w0.field 0 10) 1
    return .setColorImage { ImageDescriptor.ofWords w0 w1 with width }
  | _ => some (decode row)

/-- Every row is decoded: operands of ten bits stay far below the word size. -/
theorem checkedDecode_eq (row : Row) : checkedDecode row = some (decode row) := by
  have hfield (lo : Nat) : (row.word 0).field lo 9 * 2 ^ 3 < 2 ^ 32 :=
    Nat.lt_trans (Nat.mul_lt_mul_of_pos_right ((row.word 0).field_lt lo 9) (by decide))
      (by decide)
  have hwidth : (row.word 0).field 0 10 + 1 < 2 ^ 32 :=
    Nat.lt_of_le_of_lt ((row.word 0).field_lt 0 10) (by decide)
  unfold checkedDecode decode
  dsimp only
  generalize Opcode.ofWord (row.word 0) = opcode
  -- Only three kinds of commands calculate with their operands.
  cases opcode with
  | triangle kind =>
    simp only [TriangleCommand.checkedDecode_eq, Option.bind_eq_bind, Option.bind_some]
    rfl
  | setTile =>
    simp only [Checked.shiftLeft_of_lt (hfield _), Option.bind_eq_bind, Option.bind_some]
    rfl
  | setTextureImage =>
    simp only [Checked.add_of_lt hwidth, Option.bind_eq_bind, Option.bind_some]
    rfl
  | setColorImage =>
    simp only [Checked.add_of_lt hwidth, Option.bind_eq_bind, Option.bind_some]
    rfl
  | _ => rfl

end Command

/-! ## Tiles -/

namespace TileRect.InRange

variable {rect : TileRect}

theorem span_width (h : rect.InRange) : Checked.span rect.slo rect.shi = some rect.width :=
  Checked.span_of_lt (Nat.lt_of_le_of_lt (Nat.succ_le_succ h.shi_le) (by decide))

theorem span_height (h : rect.InRange) : Checked.span rect.tlo rect.thi = some rect.height :=
  Checked.span_of_lt (Nat.lt_of_le_of_lt (Nat.succ_le_succ h.thi_le) (by decide))

/-- A rectangle with axes of ten bits is at most 1024 texels wide. -/
theorem width_le (h : rect.InRange) : rect.width ≤ 1024 :=
  Nat.le_trans (Nat.sub_le _ _) (Nat.succ_le_succ h.shi_le)

theorem height_le (h : rect.InRange) : rect.height ≤ 1024 :=
  Nat.le_trans (Nat.sub_le _ _) (Nat.succ_le_succ h.thi_le)

end TileRect.InRange

/-- The slot with its loaded rows counted anew, with checks. -/
def Tile.checkedCountRows (tile : Tile) (texelsLoaded : Nat) : Option Tile := do
  let width ← Checked.span tile.rect.slo tile.rect.shi
  let rows ← if width = 0 then some 0 else Checked.div texelsLoaded width
  return { tile with validHeight := rows }

theorem Tile.InRange.checkedCountRows_eq {tile : Tile} (h : tile.InRange) (texelsLoaded : Nat) :
    tile.checkedCountRows texelsLoaded = some (tile.countRows texelsLoaded) := by
  unfold Tile.checkedCountRows
  rw [h.rect.span_width, Option.bind_eq_bind, Option.bind_some]
  by_cases hzero : tile.rect.width = 0
  · rw [if_pos hzero, Tile.countRows, hzero, Nat.div_zero]
    rfl
  · rw [if_neg hzero, Checked.div_of_pos (Nat.pos_of_ne_zero hzero)]
    rfl

namespace TileTable

/-- The table with a new rectangle in a slot, with checks. -/
def checkedSetRect (table : TileTable) (i : TileIndex) (rect : TileRect) (texelsLoaded : Nat) :
    Option TileTable := do
  let table := table.drop i
  let tile := { table.get i with rect := rect }
  let counted ← if texelsLoaded = 0 then some tile else tile.checkedCountRows texelsLoaded
  return table.set i counted

/-- A rectangle is set without a failure, whether or not its rows are counted. -/
theorem checkedSetRect_eq {table : TileTable} (h : table.InRange) (i : TileIndex) {rect : TileRect}
    (hrect : rect.InRange) (texelsLoaded : Nat) :
    table.checkedSetRect i rect texelsLoaded = some (table.setRect i rect texelsLoaded) := by
  unfold checkedSetRect setRect
  dsimp only
  by_cases hzero : texelsLoaded = 0
  · rw [if_pos hzero, if_pos hzero]
    rfl
  · have htile : Tile.InRange { (table.drop i).get i with rect := rect } :=
      ⟨(h.drop i i).properties, hrect⟩
    rw [if_neg hzero, if_neg hzero, htile.checkedCountRows_eq]
    rfl

/-- The table after every cached texture was dropped and the loaded rows were counted anew, with
checks. -/
def checkedDropAll (table : TileTable) (texelsLoaded : Nat) : Option TileTable := do
  let tiles ← Vector.ofFnM fun i : TileIndex =>
    { table.get i with texture := none }.checkedCountRows texelsLoaded
  return ⟨tiles, table.retired ++ table.toList.flatMap cachedHandles⟩

/-- All slots are dropped and counted anew without a failure. -/
theorem checkedDropAll_eq {table : TileTable} (h : table.InRange) (texelsLoaded : Nat) :
    table.checkedDropAll texelsLoaded = some (table.dropAll texelsLoaded) := by
  have hcount (i : TileIndex) : { table.get i with texture := none }.checkedCountRows texelsLoaded =
      some ((table.dropAll texelsLoaded).get i) := by
    have htile : Tile.InRange { table.get i with texture := none } :=
      ⟨(h i).properties, (h i).rect⟩
    rw [get_dropAll, htile.checkedCountRows_eq]
  rw [checkedDropAll, Checked.ofFnM_eq_some hcount, ofFn_get]
  rfl

end TileTable

end DisplayProcessor
