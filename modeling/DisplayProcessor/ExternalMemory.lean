import DisplayProcessor.Instances

/-!
# External memory

The processor reads texture images from memory that it does not own, through two operations: one
byte, or a run of bytes. Addresses have 32 bits and wrap around.

- `ExternalMemory`: any memory with these operations.
- `ExternalMemory.ofBytes`: the memory whose runs are read byte by byte.
- `ExternalMemory.Bytewise`: every run of bytes is what reading byte by byte delivers.
-/

namespace DisplayProcessor

/-- A readable memory with 32-bit byte addresses. -/
structure ExternalMemory where
  /-- The byte at an address. -/
  byteAt : UInt32 → UInt8
  /-- The given number of bytes from an address on. -/
  bytesAt : UInt32 → (n : Nat) → Vector UInt8 n

namespace ExternalMemory

/-- The memory with the given bytes, in which a run is read byte by byte. -/
def ofBytes (byteAt : UInt32 → UInt8) : ExternalMemory where
  byteAt := byteAt
  bytesAt address _ := Vector.ofFn fun i => byteAt (address + .ofNat i)

/-- Every run of bytes is the one that reading byte by byte delivers. -/
def Bytewise (m : ExternalMemory) : Prop :=
  ∀ address n, m.bytesAt address n = Vector.ofFn fun i => m.byteAt (address + .ofNat i)

/-- The big-endian number in the two bytes at an address. -/
def read16 (m : ExternalMemory) (address : UInt32) : UInt16 :=
  (m.byteAt address).toUInt16 <<< 8 ||| (m.byteAt (address + 1)).toUInt16

/-- Two bytes are read as a big-endian number. -/
theorem read16_eq (m : ExternalMemory) (address : UInt32) :
    m.read16 address =
      .ofNat (256 * (m.byteAt address).toNat + (m.byteAt (address + 1)).toNat) := by
  have hhigh := (m.byteAt address).toNat_lt
  have hlow := (m.byteAt (address + 1)).toNat_lt
  rw [read16]
  generalize m.byteAt address = high at hhigh ⊢
  generalize m.byteAt (address + 1) = low at hlow ⊢
  have hshift : (high.toUInt16 <<< 8).toNat = high.toNat <<< 8 := by
    have hamount : (8 : UInt16).toNat % 16 = 8 := rfl
    rw [UInt16.toNat_shiftLeft, UInt8.toNat_toUInt16, hamount, Nat.shiftLeft_eq]
    exact Nat.mod_eq_of_lt (by omega)
  apply UInt16.toNat_inj.mp
  rw [UInt16.toNat_or, hshift, UInt8.toNat_toUInt16, UInt16.toNat_ofNat',
    ← Nat.shiftLeft_add_eq_or_of_lt hlow, Nat.shiftLeft_eq, Nat.mul_comm]
  exact (Nat.mod_eq_of_lt (by omega)).symm

theorem ofBytes_bytewise (byteAt : UInt32 → UInt8) : (ofBytes byteAt).Bytewise :=
  fun _ _ => rfl

end ExternalMemory

end DisplayProcessor
