import Mathlib.Logic.ExistsUnique
import DisplayProcessor.Assembly

/-!
# The rows of triangles

A row that is put together from the operands of a triangle is decoded to the values of these
operands, whatever they are: no operand reaches the field of another.

- `BlockOperand.ofBlock`: the sixteen values in a block. Every block is that of its own values
  (`BlockOperand.block_ofBlock`), and of no others (`BlockOperand.ofBlock_block`).
- `Edges.ofBlock_edges`: the operands that share the first two words of the edges.
- `Row.slice_append`: a part of a row is found behind the parts before it.
- `TriangleCommand.decode_row`: all parts of a triangle.
- `Command.decode_triangle_row`: the main result.
-/

namespace DisplayProcessor

/-! ## Coefficient blocks -/

namespace GradientOperand

/-- One channel of a block, as it is packed. -/
def ofBlock (block : Row) (channel : Nat) : GradientOperand where
  base := (CoefficientField.ofChannel .base channel).raw block
  dx := (CoefficientField.ofChannel .dx channel).raw block
  de := (CoefficientField.ofChannel .de channel).raw block
  dy := (CoefficientField.ofChannel .dy channel).raw block

end GradientOperand

namespace BlockOperand

/-- The channels of a block, as they are packed. -/
def ofBlock (block : Row) : BlockOperand where
  c0 := .ofBlock block 0
  c1 := .ofBlock block 1
  c2 := .ofBlock block 2
  c3 := .ofBlock block 3

theorem shade_ofBlock (block : Row) : (ofBlock block).shade = ShadeGradient.ofBlock block := rfl

theorem texture_ofBlock (block : Row) : (ofBlock block).texture = TextureGradient.ofBlock block :=
  rfl

/-- The channels of a block by the words that they are in: each value has its integer half in one
word and its fraction half four words later, and two channels share them. -/
theorem ofBlock_words (w0 w1 w2 w3 w4 w5 w6 w7 w8 w9 w10 w11 w12 w13 w14 w15 : Word) :
    ofBlock [w0, w1, w2, w3, w4, w5, w6, w7, w8, w9, w10, w11, w12, w13, w14, w15] =
      ⟨⟨Half.upper.join w0 w4, Half.upper.join w2 w6, Half.upper.join w8 w12,
          Half.upper.join w10 w14⟩,
        ⟨Half.lower.join w0 w4, Half.lower.join w2 w6, Half.lower.join w8 w12,
          Half.lower.join w10 w14⟩,
        ⟨Half.upper.join w1 w5, Half.upper.join w3 w7, Half.upper.join w9 w13,
          Half.upper.join w11 w15⟩,
        ⟨Half.lower.join w1 w5, Half.lower.join w3 w7, Half.lower.join w9 w13,
          Half.lower.join w11 w15⟩⟩ := rfl

/-- The values that a block is made of are those in it. -/
theorem ofBlock_block (b : BlockOperand) : ofBlock (Row.block b) = b := by
  obtain ⟨⟨b0, x0, e0, y0⟩, ⟨b1, x1, e1, y1⟩, ⟨b2, x2, e2, y2⟩, ⟨b3, x3, e3, y3⟩⟩ := b
  -- A value is joined from its half of a word of upper and its half of a word of lower halves.
  simp only [Row.block, Row.halves, List.cons_append, List.nil_append, ofBlock_words,
    Half.upper_join_join, Half.lower_join_join]

/-- A block is made of the values in it. -/
theorem block_ofBlock {block : Row} (h : block.length = TriangleKind.blockWords) :
    Row.block (ofBlock block) = block := by
  match block, h with
  | [w0, w1, w2, w3, w4, w5, w6, w7, w8, w9, w10, w11, w12, w13, w14, w15], _ =>
    simp only [Row.block, Row.halves, List.cons_append, List.nil_append, ofBlock_words,
      Half.upper_join_join, Half.lower_join_join]

/-- Every block is made of exactly one choice of values. -/
theorem existsUnique_block {block : Row} (h : block.length = TriangleKind.blockWords) :
    ∃! b : BlockOperand, Row.block b = block := by
  refine ⟨ofBlock block, block_ofBlock h, ?_⟩
  rintro b rfl
  exact (ofBlock_block b).symm

end BlockOperand

theorem ShadeGradient.ofBlock_block (b : BlockOperand) : ofBlock (Row.block b) = b.shade := by
  rw [← BlockOperand.shade_ofBlock, BlockOperand.ofBlock_block]

theorem TextureGradient.ofBlock_block (b : BlockOperand) : ofBlock (Row.block b) = b.texture := by
  rw [← BlockOperand.texture_ofBlock, BlockOperand.ofBlock_block]

theorem Gradient.ofDepthBlock_depthBlock (z : GradientOperand) :
    ofDepthBlock (Row.depthBlock z) = z.value := rfl

/-! ## Edges -/

namespace EdgesOperand

variable {code : Nat} {e : EdgesOperand}

/-- The operands in the first word of the edges. -/
structure FirstWord (code : Nat) (e : EdgesOperand) (w : Word) : Prop where
  opcode_eq : w.field 24 6 = code
  flip_eq : w.flag 23 = e.flip
  tile_eq : w.field 16 3 = e.tile
  low_y_eq : w.field 0 14 = e.low.y.toNat

/-- The operands in the first word do not overlap. -/
theorem InRange.firstWord (h : e.InRange) (hcode : code < 64) :
    FirstWord code e ((Row.edges code e).word 0) := by
  have htile := h.tile_lt
  have hlow := h.low_y_lt
  have hflip : e.flip.toNat < 2 := e.flip.toNat_lt
  -- The four parts do not overlap, so the word is their sum and each part is read by division.
  have hfield := Word.field_ofNat
    (by omega : code * 2 ^ 24 + e.flip.toNat * 2 ^ 23 + e.tile * 2 ^ 16 + e.low.y.toNat < 2 ^ 32)
  have hword : (Row.edges code e).word 0 =
    .ofNat (code * 2 ^ 24 + e.flip.toNat * 2 ^ 23 + e.tile * 2 ^ 16 + e.low.y.toNat) := rfl
  constructor
  · rw [hword, hfield]
    omega
  · apply Word.flag_of_field
    rw [hword, hfield]
    omega
  · rw [hword, hfield]
    omega
  · rw [hword, hfield]
    omega

end EdgesOperand

namespace Edges

theorem yField_eq {w y : Word} {lo : Nat} (h : w.field lo 14 = y.toNat) :
    yField w lo = (y.signExtend 14).fixed 2 := by
  rw [yField, h, UInt32.ofNat_toNat, Word.signedFixed_eq]

theorem xField_eq (w : Word) : xField w = (w.signExtend 28).fixed 16 :=
  w.signedFixed_eq 28 16

/-- The edges that eight words are made of are those in them. -/
theorem ofBlock_edges {code : Nat} {e : EdgesOperand} (h : e.InRange) (hcode : code < 64) :
    ofBlock (Row.edges code e) = e.value := by
  have hfirst := h.firstWord hcode
  have hmiddle_y := h.middle_y_lt
  have hhigh_y := h.high_y_lt
  have hsecond := Word.field_ofNat
    (by omega : e.middle.y.toNat * 2 ^ 16 + e.high.y.toNat < 2 ^ 32)
  have hmiddle : ((Row.edges code e).word 1).field 16 14 = e.middle.y.toNat :=
    (hsecond 16 14).trans (by omega)
  have hhigh : ((Row.edges code e).word 1).field 0 14 = e.high.y.toNat :=
    (hsecond 0 14).trans (by omega)
  have hfalls : ((Row.edges code e).word 5).flag 27 = decide (e.high.slope.signed 28 < 0) := by
    rw [Bool.eq_iff_iff, decide_eq_true_iff, Word.signed_neg_iff _ (by decide) (by decide)]
    rfl
  simp only [ofBlock, yField_eq hfirst.low_y_eq, yField_eq hmiddle, yField_eq hhigh, xField_eq,
    hfirst.flip_eq, hfirst.tile_eq, hfalls]
  rfl

end Edges

/-! ## Parts of a row -/

namespace Row

/-- A part of a row is found behind the parts before it. -/
theorem slice_append {before part : Row} {start n : Nat} (hstart : before.length = start)
    (hn : part.length = n) (after : Row) : (before ++ part ++ after).slice start n = part := by
  subst hstart hn
  rw [slice, List.append_assoc, List.drop_left, List.take_left]

theorem length_edges (code : Nat) (e : EdgesOperand) :
    (edges code e).length = TriangleKind.edgeWords := rfl

theorem length_block (b : BlockOperand) : (block b).length = TriangleKind.blockWords := rfl

theorem length_depthBlock (z : GradientOperand) :
    (depthBlock z).length = TriangleKind.depthWords := rfl

/-- The number of words of a part that is there under a condition. -/
theorem length_ite_nil (there : Bool) (part : Row) :
    (if there then part else []).length = if there then part.length else 0 := by
  cases there <;> rfl

section Lengths

variable (t : TriangleOperand)

theorem length_before_texture : (edges t.kind.opcodeCode t.edges
    ++ (if t.kind.shade then block t.shade else [])).length = t.kind.textureStart := by
  rw [List.length_append, length_edges, length_ite_nil, length_block]
  rfl

theorem length_before_depth : (edges t.kind.opcodeCode t.edges
    ++ (if t.kind.shade then block t.shade else [])
    ++ (if t.kind.texture then block t.texture else [])).length = t.kind.depthStart := by
  rw [List.length_append, length_before_texture, length_ite_nil, length_block]
  rfl

theorem length_triangle : (triangle t).length = t.kind.wordCount := by
  rw [triangle, List.length_append, length_before_depth, length_ite_nil, length_depthBlock]
  rfl

end Lengths

section Slices

variable (t : TriangleOperand)

theorem slice_edges :
    (triangle t).slice 0 TriangleKind.edgeWords = edges t.kind.opcodeCode t.edges := by
  rw [triangle, List.append_assoc, List.append_assoc]
  exact slice_append List.length_nil rfl _

theorem slice_shade (h : t.kind.shade) :
    (triangle t).slice t.kind.shadeStart TriangleKind.blockWords = block t.shade := by
  rw [triangle, if_pos h, List.append_assoc]
  exact slice_append rfl rfl _

theorem slice_texture (h : t.kind.texture) :
    (triangle t).slice t.kind.textureStart TriangleKind.blockWords = block t.texture := by
  rw [triangle, if_pos h]
  exact slice_append (length_before_texture t) rfl _

theorem slice_depth (h : t.kind.depth) :
    (triangle t).slice t.kind.depthStart TriangleKind.depthWords = depthBlock t.depth := by
  rw [triangle, if_pos h, ← List.append_nil (_ ++ depthBlock t.depth)]
  exact slice_append (length_before_depth t) rfl []

end Slices

end Row

namespace TriangleKind

/-- The code of a kind is that of its opcode. -/
theorem ofCode_opcodeCode (kind : TriangleKind) :
    Opcode.ofCode kind.opcodeCode = .triangle kind := by
  rcases kind with ⟨_ | _, _ | _, _ | _⟩ <;> rfl

/-- Each of the eight codes is the code of a kind. -/
theorem opcodeCode_ofCode : ∀ code < 16, 8 ≤ code → (ofCode code).opcodeCode = code := by
  decide

theorem opcodeCode_lt (kind : TriangleKind) : kind.opcodeCode < 64 := by
  rcases kind with ⟨_ | _, _ | _, _ | _⟩ <;> decide

end TriangleKind

namespace TriangleCommand

/-- Each part of a triangle is taken from the slice that it was put into. -/
theorem decode_row {t : TriangleOperand} (h : t.edges.InRange) :
    decode t.kind (Row.triangle t) = t.value := by
  have hedges : Edges.ofBlock ((Row.triangle t).slice 0 TriangleKind.edgeWords) = t.edges.value := by
    rw [Row.slice_edges, Edges.ofBlock_edges h t.kind.opcodeCode_lt]
  -- A block that the kind does not have is not read, so its operand does not matter.
  have hshade (hkind : t.kind.shade) : ShadeGradient.ofBlock
      ((Row.triangle t).slice t.kind.shadeStart TriangleKind.blockWords) = t.shade.shade := by
    rw [Row.slice_shade t hkind, ShadeGradient.ofBlock_block]
  have htexture (hkind : t.kind.texture) : TextureGradient.ofBlock
      ((Row.triangle t).slice t.kind.textureStart TriangleKind.blockWords) = t.texture.texture := by
    rw [Row.slice_texture t hkind, TextureGradient.ofBlock_block]
  have hdepth (hkind : t.kind.depth) : Gradient.ofDepthBlock
      ((Row.triangle t).slice t.kind.depthStart TriangleKind.depthWords) = t.depth.value := by
    rw [Row.slice_depth t hkind, Gradient.ofDepthBlock_depthBlock]
  rw [decode, TriangleOperand.value, hedges,
    ite_congr rfl (fun hkind => congrArg some (hshade hkind)) fun _ => rfl,
    ite_congr rfl (fun hkind => congrArg some (htexture hkind)) fun _ => rfl,
    ite_congr rfl (fun hkind => congrArg some (hdepth hkind)) fun _ => rfl]

end TriangleCommand

namespace Command

/-- **A triangle row is decoded to the operands that it packs.** The row has the code of its kind and
as many words as its opcode says, and decoding it gives the value of each operand; a block that the
kind lacks is absent. Every code from 8 to 15 is that of a kind, and every block of sixteen words
packs exactly one choice of four channels. -/
theorem decode_triangle_row {t : TriangleOperand} (h : t.edges.InRange) :
    ((Row.triangle t).word 0).field 24 6 = t.kind.opcodeCode ∧
    (Row.triangle t).length = (Opcode.ofWord ((Row.triangle t).word 0)).wordCount ∧
    decode (Row.triangle t) = .triangle t.value ∧
    (∀ code < 16, 8 ≤ code → ∃ kind : TriangleKind, kind.opcodeCode = code) ∧
    (∀ block : Row, block.length = 16 → ∃! b : BlockOperand, Row.block b = block) := by
  have hcode : ((Row.triangle t).word 0).field 24 6 = t.kind.opcodeCode :=
    (h.firstWord t.kind.opcodeCode_lt).opcode_eq
  have hopcode : Opcode.ofWord ((Row.triangle t).word 0) = .triangle t.kind := by
    rw [Opcode.ofWord, hcode, t.kind.ofCode_opcodeCode]
  refine ⟨hcode, ?_, ?_, ?_, fun block hblock => BlockOperand.existsUnique_block hblock⟩
  · rw [hopcode, Row.length_triangle]
    rfl
  · rw [decode, hopcode]
    exact congrArg Command.triangle (TriangleCommand.decode_row h)
  · intro code hlt hle
    exact ⟨.ofCode code, TriangleKind.opcodeCode_ofCode code hlt hle⟩

/-- A triangle with every block, flipped and with a major edge that falls: the two corrections cancel
out. -/
theorem decode_triangle_row_falling :
    let edge : EdgeOperand := ⟨0x2001, 0x8000000, 0xFFFFFFF⟩
    let channel (n : Word) : GradientOperand := ⟨n, n + 0x8000, 0x80000000, 0xFFFF0000 - n⟩
    let block : BlockOperand := ⟨channel 1, channel 2, channel 3, channel 4⟩
    let t : TriangleOperand :=
      ⟨⟨true, true, true⟩, ⟨edge, edge, edge, true, 7⟩, block, block, channel 5⟩
    t.edges.InRange ∧ (Row.triangle t).length = 44 ∧
    decode (Row.triangle t) = .triangle t.value ∧ t.value.edges.doOffset = false ∧
    ∃! b : BlockOperand, Row.block b = List.replicate 16 0xFFFF8000 := by
  intro edge channel block t
  have hrange : t.edges.InRange := by constructor <;> decide
  obtain ⟨-, -, hdecode, -, hblock⟩ := decode_triangle_row hrange
  exact ⟨hrange, rfl, hdecode, by decide +kernel, hblock _ rfl⟩

end Command

end DisplayProcessor
