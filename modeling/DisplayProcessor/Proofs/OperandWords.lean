import DisplayProcessor.Proofs.CheckedArithmetic

/-!
# The words of a command

An opcode says how many words its row has. Decoding looks at these words only, and at the low thirty
bits of the first. What a row has beyond them reaches no operand, and what it lacks is zero.

- `Row.SameOperands`: rows that agree in the words of a command.
- `Edges.ofBlock_congr`, `Gradient.ofBlock_congr`, `TriangleCommand.decode_congr`: the blocks of a
  triangle are taken from these words.
- `Command.decode_congr`: rows that agree in them are the same command.
- `Command.decode_own_words`: the main result.
-/

namespace DisplayProcessor

namespace Word

/-- What is above the low thirty bits of a word does not show in them. -/
theorem field_ofNat_add (w : Word) (top : Nat) :
    field (.ofNat (w.field 0 30 + top * 2 ^ 30)) 0 30 = w.field 0 30 := by
  have hlt := w.field_lt 0 30
  rw [field, UInt32.toNat_ofNat']
  omega

end Word

namespace Row

/-- Zeros that are appended to a row change none of its words. -/
theorem word_append_zeros (row : Row) (n i : Nat) :
    (row ++ List.replicate n 0).word i = row.word i := by
  simp only [word, List.getD_eq_getElem?_getD]
  by_cases hi : i < row.length
  · rw [List.getElem?_append_left hi]
  · have hle : row.length ≤ i := Nat.le_of_not_lt hi
    rw [List.getElem?_append_right hle, List.getElem?_eq_none hle, List.getElem?_replicate]
    split <;> rfl

/-- Behind the first word, a row has the words of its tail. -/
theorem word_cons_tail (w : Word) (row : Row) (i : Nat) :
    word (w :: row.tail) (i + 1) = row.word (i + 1) := by
  cases row <;> simp [word]

end Row

/-- Every row has a word for its opcode. -/
theorem Opcode.wordCount_pos (opcode : Opcode) : 0 < opcode.wordCount := by
  cases opcode with
  | triangle kind => exact Nat.lt_of_lt_of_le (by decide) kind.edgeWords_le
  | _ => decide

/-- Two rows agree in the words of a command that has `n` of them. Of the first word the low thirty
bits count. -/
structure Row.SameOperands (n : Nat) (row row' : Row) : Prop where
  first : (row.word 0).field 0 30 = (row'.word 0).field 0 30
  rest {i : Nat} (hpos : 0 < i) (hlt : i < n) : row.word i = row'.word i

namespace Row.SameOperands

variable {n : Nat} {row row' : Row}

/-- Rows with the same words agree in them. -/
theorem of_word_eq (hpos : 0 < n) (h : ∀ i < n, row.word i = row'.word i) :
    SameOperands n row row' where
  first := by rw [h 0 hpos]
  rest _ hlt := h _ hlt

/-- The rows agree in the slice that the edges are in. -/
theorem slice_zero (h : SameOperands n row row') {k : Nat} (hpos : 0 < k) (hle : k ≤ n) :
    SameOperands k (row.slice 0 k) (row'.slice 0 k) where
  first := by
    rw [word_slice, word_slice, if_pos hpos, if_pos hpos]
    exact h.first
  rest {i} hi hlt := by
    rw [word_slice, word_slice, if_pos hlt, if_pos hlt]
    exact h.rest (by omega) (by omega)

/-- A slice behind the first word is the same in both rows, as far as they agree. -/
theorem word_slice_eq (h : SameOperands n row row') {start k i : Nat} (hpos : 0 < start)
    (hle : start + k ≤ n) : (row.slice start k).word i = (row'.slice start k).word i := by
  rw [word_slice, word_slice]
  by_cases hi : i < k
  · rw [if_pos hi, if_pos hi]
    exact h.rest (by omega) (by omega)
  · rw [if_neg hi, if_neg hi]

end Row.SameOperands

/-! ## Triangles -/

/-- The edges come from the words that are the same. -/
theorem Edges.ofBlock_congr {block block' : Row}
    (h : Row.SameOperands TriangleKind.edgeWords block block') : ofBlock block = ofBlock block' := by
  simp (disch := decide) only [ofBlock, yField, h.rest, Word.field_congr h.first,
    Word.flag_congr h.first]

section Blocks

variable {block block' : Row} (h : ∀ i, block.word i = block'.word i)
include h

/-- A channel comes from the words of its block. -/
theorem Gradient.ofBlock_congr (channel : Nat) : ofBlock block channel = ofBlock block' channel := by
  simp only [ofBlock, CoefficientField.decode, CoefficientField.raw, h]

/-- Depth comes from the four words of its block. -/
theorem Gradient.ofDepthBlock_congr : ofDepthBlock block = ofDepthBlock block' := by
  simp only [ofDepthBlock, h]

theorem ShadeGradient.ofBlock_congr : ofBlock block = ofBlock block' := by
  simp only [ofBlock, Gradient.ofBlock_congr h]

theorem TextureGradient.ofBlock_congr : ofBlock block = ofBlock block' := by
  simp only [ofBlock, Gradient.ofBlock_congr h]

end Blocks

namespace TriangleCommand

/-- The blocks that a kind has lie within the words of its row. -/
theorem decode_congr {kind : TriangleKind} {row row' : Row}
    (h : Row.SameOperands kind.wordCount row row') : decode kind row = decode kind row' := by
  have hedges := Edges.ofBlock_congr (h.slice_zero (by decide) kind.edgeWords_le)
  have hshade (hkind : kind.shade) := congrArg some <| ShadeGradient.ofBlock_congr fun i =>
    h.word_slice_eq (i := i) kind.shadeStart_pos (TriangleKind.shade_le hkind)
  have htexture (hkind : kind.texture) := congrArg some <| TextureGradient.ofBlock_congr fun i =>
    h.word_slice_eq (i := i) kind.textureStart_pos (TriangleKind.texture_le hkind)
  have hdepth (hkind : kind.depth) := congrArg some <| Gradient.ofDepthBlock_congr fun i =>
    h.word_slice_eq (i := i) kind.depthStart_pos (TriangleKind.depth_le hkind)
  rw [decode, decode, hedges, ite_congr rfl hshade fun _ => rfl,
    ite_congr rfl htexture fun _ => rfl, ite_congr rfl hdepth fun _ => rfl]

end TriangleCommand

/-! ## Commands -/

section Words

variable {w0 w0' : Word} (h : w0.field 0 30 = w0'.field 0 30) (w1 : Word)
include h

theorem TileRect.ofWords_congr : ofWords w0 w1 = ofWords w0' w1 := by
  simp (disch := decide) only [ofWords, Word.field_congr h]

theorem TileProperties.ofWords_congr : ofWords w0 w1 = ofWords w0' w1 := by
  simp (disch := decide) only [ofWords, Word.field_congr h]

theorem Corners.ofWords_congr : ofWords w0 w1 = ofWords w0' w1 := by
  simp (disch := decide) only [ofWords, QuarterPixel.ofField, Word.field_congr h]

theorem ImageDescriptor.ofWords_congr : ofWords w0 w1 = ofWords w0' w1 := by
  simp (disch := decide) only [ofWords, Word.field_congr h]

theorem Scissor.ofWords_congr : ofWords w0 w1 = ofWords w0' w1 := by
  simp (disch := decide) only [ofWords, QuarterPixel.ofField, Word.field_congr h]

theorem PrimitiveColor.ofWords_congr : ofWords w0 w1 = ofWords w0' w1 := by
  simp (disch := decide) only [ofWords, Word.field_congr h]

end Words

namespace Command

/-- Rows that agree in the words of an opcode are the same command of it. -/
theorem decodeAs_congr {opcode : Opcode} {row row' : Row}
    (h : Row.SameOperands opcode.wordCount row row') :
    decodeAs opcode row = decodeAs opcode row' := by
  -- The commands that read a second word have two words.
  have hsecond (htwo : opcode.wordCount = 2) : row.word 1 = row'.word 1 :=
    h.rest (by decide) (by omega)
  cases opcode with
  | triangle kind => exact congrArg Command.triangle (TriangleCommand.decode_congr h)
  | setTileSize | loadTile => simp only [decodeAs, hsecond rfl, TileRect.ofWords_congr h.first]
  | loadBlock => simp (disch := decide) only [decodeAs, hsecond rfl, Word.field_congr h.first]
  | setTile => simp only [decodeAs, hsecond rfl, TileProperties.ofWords_congr h.first]
  | fillRectangle => simp only [decodeAs, hsecond rfl, Corners.ofWords_congr h.first]
  | setTextureImage | setColorImage =>
    simp only [decodeAs, hsecond rfl, ImageDescriptor.ofWords_congr h.first]
  | setScissor => simp only [decodeAs, hsecond rfl, Scissor.ofWords_congr h.first]
  | setPrimColor => simp only [decodeAs, hsecond rfl, PrimitiveColor.ofWords_congr h.first]
  | setFillColor | setEnvColor | setBlendColor | setFogColor | setZImage =>
    simp only [decodeAs, hsecond rfl]
  | _ => rfl

/-- Rows that agree in the words of their opcode are the same command. -/
theorem decode_congr {row row' : Row}
    (h : Row.SameOperands (Opcode.ofWord (row.word 0)).wordCount row row') :
    decode row = decode row' := by
  have hopcode : Opcode.ofWord (row'.word 0) = Opcode.ofWord (row.word 0) :=
    congrArg Opcode.ofCode (Word.field_congr h.first (by decide : 24 + 6 ≤ 30)).symm
  rw [decode, decode, hopcode]
  exact decodeAs_congr h

/-- **A row is decoded from its own words.** The opcode says how many words the row has. The command
is the same if the row is cut to them or filled up with zeros, whatever follows them then, and
whatever the top two bits of the first word are. Every slice of the row that decoding takes, to find
the blocks of a triangle, lies in the row. -/
theorem decode_own_words (row : Row) :
    let own := row.resize (Opcode.ofWord (row.word 0)).wordCount
    decode own = decode row ∧
    (∀ surplus, decode (own ++ surplus) = decode row) ∧
    (∀ n, decode (row ++ List.replicate n 0) = decode row) ∧
    (∀ top, decode (.ofNat ((row.word 0).field 0 30 + top * 2 ^ 30) :: row.tail) = decode row) ∧
    checkedDecode row = some (decode row) := by
  intro own
  have hpos := (Opcode.ofWord (row.word 0)).wordCount_pos
  have hown : ∀ i < (Opcode.ofWord (row.word 0)).wordCount, row.word i = own.word i := by
    intro i hi
    rw [Row.word_resize, if_pos hi]
  refine ⟨?_, ?_, ?_, ?_, checkedDecode_eq row⟩
  · exact (decode_congr (.of_word_eq hpos hown)).symm
  · intro surplus
    refine (decode_congr (.of_word_eq hpos fun i hi => ?_)).symm
    rw [Row.word_append_left (by rwa [Row.length_resize]), hown i hi]
  · intro n
    exact (decode_congr (.of_word_eq hpos fun i _ => (row.word_append_zeros n i).symm)).symm
  · intro top
    -- The tail of the row stays, and with it every word but the first.
    refine (decode_congr ⟨?_, fun {i} hi _ => ?_⟩).symm
    · exact (Word.field_ofNat_add _ top).symm
    · obtain ⟨j, rfl⟩ : ∃ j, i = j + 1 := ⟨i - 1, by omega⟩
      exact (Row.word_cons_tail _ row j).symm

end Command

end DisplayProcessor
