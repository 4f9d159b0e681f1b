import DisplayProcessor.Instances

/-!
# Command words and rows

A command is a row of 32-bit words. Operands are bit fields of these words, and a row that is too
short reads as if zeros followed it.

- `Word.field`: the unsigned number in a range of bits.
- `Word.flag`: one bit.
- `Word.signed`: the low bits of a word as a two's complement number; `Word.signExtend` as a word.
- `Row.word`: the word at an index of a row, zero past the end.
- `Row.slice`: some words of a row, as far as it has them.
- `Row.resize`: a row cut or filled up to a number of words.
-/

namespace DisplayProcessor

/-- A 32-bit command word. -/
abbrev Word := UInt32

namespace Word

/-- The unsigned number in the `len` bits of `w` that start at bit `lo`. -/
def field (w : Word) (lo len : Nat) : Nat :=
  w.toNat / 2 ^ lo % 2 ^ len

/-- Whether bit `i` of `w` is set. -/
def flag (w : Word) (i : Nat) : Bool :=
  w.toNat.testBit i

/-- The low `bits` bits of `w` as a two's complement number; `bits` is clamped to 1 up to 32. -/
def signed (w : Word) (bits : Nat) : Int :=
  Int.bmod w.toNat (2 ^ max 1 (min bits 32))

/-- The low `bits` bits of `w` as a two's complement number, in a whole word. -/
def signExtend (w : Word) (bits : Nat) : Word :=
  .ofInt (w.signed bits)

theorem field_lt (w : Word) (lo len : Nat) : w.field lo len < 2 ^ len :=
  Nat.mod_lt _ (Nat.two_pow_pos len)

/-- A field of a word that is given as a number of at most 32 bits. -/
theorem field_ofNat {n : Nat} (h : n < 2 ^ 32) (lo len : Nat) :
    field (.ofNat n) lo len = n / 2 ^ lo % 2 ^ len := by
  rw [field, UInt32.toNat_ofNat', Nat.mod_eq_of_lt h]

/-- A field within a field. -/
theorem field_of_field (w : Word) (lo : Nat) {a b n : Nat} (hle : a + b ≤ n) :
    w.field (lo + a) b = w.field lo n / 2 ^ a % 2 ^ b := by
  obtain ⟨k, rfl⟩ : ∃ k, n = a + k := ⟨n - a, by omega⟩
  rw [field, field, Nat.pow_add 2 a k, Nat.mod_mul_right_div_self,
    Nat.mod_mod_of_dvd _ (Nat.pow_dvd_pow 2 (by omega)), Nat.pow_add, Nat.div_div_eq_div_mul]

/-- A field is determined by any field from bit zero on that it lies in. -/
theorem field_congr {v w : Word} {n lo len : Nat} (h : v.field 0 n = w.field 0 n)
    (hle : lo + len ≤ n) : v.field lo len = w.field lo len := by
  rw [← Nat.zero_add lo, field_of_field v 0 hle, field_of_field w 0 hle, h]

/-- A flag is a field of one bit. -/
theorem flag_eq (w : Word) (i : Nat) : w.flag i = decide (w.field i 1 = 1) := by
  rw [flag, Nat.testBit_eq_decide_div_mod_eq, field, Nat.pow_one]

/-- A flag that was packed as a number. -/
theorem flag_of_field {w : Word} {i : Nat} {b : Bool} (h : w.field i 1 = b.toNat) :
    w.flag i = b := by
  rw [flag_eq, h]
  cases b <;> rfl

theorem flag_congr {v w : Word} {n i : Nat} (h : v.field 0 n = w.field 0 n) (hlt : i < n) :
    v.flag i = w.flag i := by
  rw [flag_eq, flag_eq, field_congr h hlt]

/-- A number stays the same when it is extended to a whole word. -/
theorem signed_signExtend (w : Word) (bits : Nat) :
    (w.signExtend bits).signed 32 = w.signed bits := by
  have hpos : 0 < 2 ^ max 1 (min bits 32) := Nat.two_pow_pos _
  have hle : 2 ^ max 1 (min bits 32) ≤ 2 ^ 32 := Nat.pow_le_pow_right (by decide) (by omega)
  have hlower : -(((2 ^ max 1 (min bits 32) : Nat) : Int) / 2) ≤ w.signed bits :=
    Int.le_bmod hpos
  have hupper : w.signed bits < (((2 ^ max 1 (min bits 32) : Nat) : Int) + 1) / 2 :=
    Int.bmod_lt hpos
  have hword : ((w.signExtend bits).toNat : Int) = w.signed bits % ((2 ^ 32 : Nat) : Int) := by
    rw [signExtend, UInt32.ofInt, UInt32.toNat_ofNat']
    omega
  have hsigned : (w.signExtend bits).signed 32 = Int.bmod (w.signExtend bits).toNat (2 ^ 32) := rfl
  rw [hsigned, hword, Int.emod_bmod]
  exact Int.bmod_eq_of_le (by omega) (by omega)

/-- A number is negative exactly if its top bit is set. -/
theorem signed_neg_iff (w : Word) {bits : Nat} (hpos : 0 < bits) (hle : bits ≤ 32) :
    w.signed bits < 0 ↔ w.flag (bits - 1) = true := by
  obtain ⟨n, rfl⟩ : ∃ n, bits = n + 1 := ⟨bits - 1, by omega⟩
  have hbits : max 1 (min (n + 1) 32) = n + 1 := by omega
  have hhalf : 0 < 2 ^ n := Nat.two_pow_pos n
  rw [signed, hbits, Int.bmod_def, ← Int.natCast_emod, flag, Nat.testBit_eq_decide_div_mod_eq,
    decide_eq_true_iff, Nat.add_sub_cancel, ← Nat.mod_mul_right_div_self, Nat.pow_succ]
  have hlt : w.toNat % (2 ^ n * 2) < 2 ^ n * 2 := Nat.mod_lt _ (by omega)
  -- What is left is about the remainder and half of the modulus.
  generalize w.toNat % (2 ^ n * 2) = r at hlt ⊢
  generalize 2 ^ n = half at hhalf hlt ⊢
  have htop : r / half = 1 ↔ half ≤ r := by
    constructor
    · intro h
      have hmul := Nat.div_mul_le_self r half
      rwa [h, Nat.one_mul] at hmul
    · intro h
      exact Nat.div_eq_of_lt_le (by omega) (by omega)
  rw [htop]
  split <;> omega

end Word

/-- One command row: its words in order. -/
abbrev Row := List Word

namespace Row

/-- The word at index `i`, zero past the end of the row. -/
def word (row : Row) (i : Nat) : Word :=
  row.getD i 0

@[simp] theorem word_nil (i : Nat) : word [] i = 0 := rfl

theorem word_append_left {row : Row} {i : Nat} (h : i < row.length) (rest : Row) :
    word (row ++ rest) i = row.word i := by
  rw [word, word, List.getD_eq_getElem?_getD, List.getElem?_append_left h,
    List.getD_eq_getElem?_getD]

/-- The `n` words from index `start` on, as far as the row has them. -/
def slice (row : Row) (start n : Nat) : Row :=
  (row.drop start).take n

theorem word_slice (row : Row) (start n i : Nat) :
    (row.slice start n).word i = if i < n then row.word (start + i) else 0 := by
  simp only [slice, word, List.getD_eq_getElem?_getD, List.getElem?_take, List.getElem?_drop]
  split <;> rfl

/-- The row cut to `n` words, or filled up to them with zeros. -/
def resize (row : Row) (n : Nat) : Row :=
  (List.range n).map row.word

@[simp] theorem length_resize (row : Row) (n : Nat) : (row.resize n).length = n := by
  simp [resize]

theorem word_resize (row : Row) (n i : Nat) :
    (row.resize n).word i = if i < n then row.word i else 0 := by
  by_cases h : i < n <;> simp [resize, word, List.getD_eq_getElem?_getD, h]

end Row

end DisplayProcessor
