import DisplayProcessor.Rdram

/-!
# Runs of bytes against single bytes

A run of bytes of a memory image takes one of three ways: it is all zeros if it starts past the end
of the image, it is copied as a block if it lies in the image, and otherwise it is read byte by byte.
The first way does not look further. A run that starts past the end of the image and goes around the
end of the address space comes back into the image, and reads as zero there too.

- `Rdram.index_add`: addresses go around the address space.
- `Rdram.getElem_readRun`: a byte of a run, whichever way the run takes.
- `Rdram.readRun_bytewise_iff`: which runs are those that single bytes give.
-/

namespace DisplayProcessor

namespace Rdram

/-- Counting on from an address goes around the address space. -/
theorem index_add (address : UInt32) (i : Nat) :
    index (address + .ofNat i) = (index address + i) % addressSpace := by
  unfold index addressSpace
  rw [UInt32.toNat_add, UInt32.toNat_ofNat']
  omega

theorem index_lt (address : UInt32) : index address < addressSpace :=
  Nat.mod_lt _ (by decide)

/-- Past the end of the image a byte is zero. -/
theorem read_eq_zero {m : Rdram} {address : UInt32} (h : m.size ≤ index address) :
    m.read address = 0 :=
  dif_neg (Nat.not_lt.mpr h)

/-- Within the image a byte is the one at its index. -/
theorem read_eq_getElem {m : Rdram} {address : UInt32} {k : Nat} (hk : k < m.size)
    (h : index address = k) : m.read address = m.bytes[k] := by
  subst h
  exact dif_pos hk

/-- A run that starts in the image holds the bytes that are read one by one; any other holds
zeros. -/
theorem getElem_readRun (m : Rdram) (address : UInt32) {n i : Nat} (hi : i < n) :
    (m.readRun address n)[i] =
      if index address < m.size then m.read (address + .ofNat i) else 0 := by
  unfold readRun
  by_cases hstart : index address < m.size
  · rw [if_pos hstart, if_pos hstart]
    by_cases hblock : index address + n ≤ m.size ∧ index address + n ≤ addressSpace
    · -- The block neither leaves the image nor goes around the address space.
      have hindex : index (address + .ofNat i) = index address + i := by
        rw [index_add, Nat.mod_eq_of_lt (by omega)]
      have hlt : index address + i < m.size := by omega
      rw [dif_pos hblock, read_eq_getElem hlt hindex]
      exact ByteArray.getElem_extract _
    · rw [dif_neg hblock, Vector.getElem_ofFn]
  · rw [if_neg hstart, if_neg hstart, Vector.getElem_replicate]

/-- **When a run agrees with single bytes.** Every byte of a run is the byte that is read at its
address, exactly if the run starts in the image, or all bytes of the image are zero that it comes
back to after the end of the address space. -/
theorem readRun_bytewise_iff (m : Rdram) (address : UInt32) (n : Nat) :
    (∀ i (hi : i < n), (m.readRun address n)[i] = m.read (address + .ofNat i)) ↔
      index address < m.size ∨
        ∀ k (hk : k < m.size), addressSpace + k < index address + n → m.bytes[k] = 0 := by
  have hlt := index_lt address
  by_cases hstart : index address < m.size
  · -- A run from within the image agrees, be it a block or read byte by byte.
    refine iff_of_true (fun i hi => ?_) (.inl hstart)
    rw [getElem_readRun m address hi, if_pos hstart]
  · rw [or_iff_right hstart]
    constructor
    · intro h k hk hreach
      -- The run comes to byte `k` when it has gone around the end of the address space once.
      have hi : addressSpace + k - index address < n := by omega
      have hindex : index (address + .ofNat (addressSpace + k - index address)) = k := by
        rw [index_add, show index address + (addressSpace + k - index address) =
          k + addressSpace by omega, Nat.add_mod_right, Nat.mod_eq_of_lt (by omega)]
      have hbyte := h _ hi
      rw [getElem_readRun m address hi, if_neg hstart, read_eq_getElem hk hindex] at hbyte
      exact hbyte.symm
    · intro h i hi
      rw [getElem_readRun m address hi, if_neg hstart]
      by_cases hin : index (address + .ofNat i) < m.size
      · rw [read_eq_getElem hin rfl]
        refine (h _ hin ?_).symm
        -- An address in the image lies behind the end of the address space, seen from the start.
        have hwrap : ¬ index address + i < addressSpace := by
          intro hbelow
          rw [index_add, Nat.mod_eq_of_lt hbelow] at hin
          omega
        have hle := Nat.mod_le (index address + i - addressSpace) addressSpace
        rw [index_add, Nat.mod_eq_sub_mod (Nat.not_lt.mp hwrap)]
        omega
      · rw [read_eq_zero (Nat.not_lt.mp hin)]

/-- A run of three bytes from the last address on, over an image of four bytes: the second and the
third are the first two bytes of the image, but the run is all zeros. -/
theorem readRun_lastAddress :
    let m : Rdram := ⟨⟨#[1, 2, 3, 4]⟩⟩
    let address : UInt32 := 0x00FFFFFF
    m.readRun address 3 = #v[0, 0, 0] ∧
    m.bytewiseMemory.bytesAt address 3 = #v[0, 1, 2] ∧
    ¬ ∀ i (hi : i < 3), (m.readRun address 3)[i] = m.read (address + .ofNat i) := by
  decide

end Rdram

end DisplayProcessor
