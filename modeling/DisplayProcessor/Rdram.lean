import DisplayProcessor.ExternalMemory

/-!
# The memory image

`Rdram` is a flat image of main memory. Only the low 24 bits of an address count; an address past
the end of the image reads as zero, and a write there is lost. Numbers are big-endian.

- `Rdram.read`, `Rdram.read16`: one byte or a sixteen-bit number.
- `Rdram.readRun`: a run of bytes; a run that starts past the end of the image is all zeros.
- `Rdram.write`, `Rdram.writeRun`, `Rdram.write16`, `Rdram.write32`.
- `Rdram.memory`, `Rdram.bytewiseMemory`: the image as external memory, with and without its own
  way to read a run.
-/

namespace DisplayProcessor

/-- A memory image. -/
structure Rdram where
  bytes : ByteArray
deriving DecidableEq, Inhabited

namespace Rdram

/-- The number of addresses: 24 bits count. -/
def addressSpace : Nat := 2 ^ 24

/-- The size in bytes of the memory of a standard console: 4 MiB. -/
def standardSize : Nat := 4 * 1024 * 1024

/-- The image of `size` zero bytes. -/
def zeros (size : Nat) : Rdram :=
  ⟨⟨Array.replicate size 0⟩⟩

/-- The number of bytes in the image. -/
def size (m : Rdram) : Nat :=
  m.bytes.size

/-- Whether the image has no bytes. -/
def isEmpty (m : Rdram) : Bool :=
  m.size = 0

/-- The index that an address means. -/
def index (address : UInt32) : Nat :=
  address.toNat % addressSpace

/-- The byte at an address, zero past the end of the image. -/
def read (m : Rdram) (address : UInt32) : UInt8 :=
  if h : index address < m.bytes.size then m.bytes.get (index address) h else 0

/-- The image with one byte replaced; nothing changes past the end of the image. -/
def write (m : Rdram) (address : UInt32) (value : UInt8) : Rdram :=
  if h : index address < m.bytes.size then ⟨m.bytes.set (index address) value h⟩ else m

/-- The image with bytes written one after the other from an address on. -/
def writeRun (m : Rdram) (address : UInt32) : List UInt8 → Rdram
  | [] => m
  | value :: rest => (m.write address value).writeRun (address + 1) rest

/-- The image with a big-endian number of sixteen bits written at an address. -/
def write16 (m : Rdram) (address : UInt32) (value : UInt16) : Rdram :=
  m.writeRun address [(value >>> 8).toUInt8, value.toUInt8]

/-- The image with a big-endian number of 32 bits written at an address. -/
def write32 (m : Rdram) (address : UInt32) (value : UInt32) : Rdram :=
  m.writeRun address
    [(value >>> 24).toUInt8, (value >>> 16).toUInt8, (value >>> 8).toUInt8, value.toUInt8]

/-- The `n` bytes from an address on. A run that starts past the end of the image is all zeros. A
run that lies in the image and in the address space is copied as a block; any other is read byte by
byte. -/
def readRun (m : Rdram) (address : UInt32) (n : Nat) : Vector UInt8 n :=
  if index address < m.size then
    if h : index address + n ≤ m.size ∧ index address + n ≤ addressSpace then
      ⟨(m.bytes.extract (index address) (index address + n)).data, by
        have hsize : m.size = m.bytes.size := rfl
        rw [ByteArray.size_data, ByteArray.size_extract]
        omega⟩
    else Vector.ofFn fun i => m.read (address + .ofNat i)
  else Vector.replicate n 0

/-- The image as external memory. -/
def memory (m : Rdram) : ExternalMemory where
  byteAt := m.read
  bytesAt := m.readRun

/-- The image as external memory of which every run is read byte by byte. -/
def bytewiseMemory (m : Rdram) : ExternalMemory :=
  .ofBytes m.read

/-- The big-endian number in the two bytes at an address. -/
def read16 (m : Rdram) (address : UInt32) : UInt16 :=
  m.memory.read16 address

/-- A read gives the byte of the image at the index of the address. -/
theorem read_eq_getD (m : Rdram) (address : UInt32) :
    m.read address = m.bytes.data.getD (index address) 0 := rfl

/-- The byte at the address counts 256 times the byte at the next. -/
theorem toNat_read16 (m : Rdram) (address : UInt32) :
    (m.read16 address).toNat = (m.read address).toNat * 256 + (m.read (address + 1)).toNat := by
  have hhigh := (m.read address).toNat_lt
  have hlow := (m.read (address + 1)).toNat_lt
  have hsum : (m.read address).toNat * 256 + (m.read (address + 1)).toNat < 2 ^ 16 := by omega
  rw [read16, ExternalMemory.read16_eq, UInt16.toNat_ofNat', Nat.mul_comm]
  exact Nat.mod_eq_of_lt hsum

/-- A write keeps the size of the image. -/
@[simp] theorem size_write (m : Rdram) (address : UInt32) (value : UInt8) :
    (m.write address value).size = m.size := by
  unfold write
  split
  · simp only [size, ← ByteArray.size_data, ByteArray.set, Array.size_set]
  · rfl

/-- After a write, its index holds the byte written, if the image has that index; all else is as
before. -/
theorem read_write (m : Rdram) (a b : UInt32) (value : UInt8) :
    (m.write a value).read b =
      if index b = index a ∧ index a < m.size then value else m.read b := by
  unfold write size
  split
  case isTrue h =>
    have hs : index a < m.bytes.data.size := h
    simp only [read_eq_getD, ByteArray.set, Array.getD_eq_getD_getElem?, Array.getElem?_set]
    by_cases hb : index a = index b
    · rw [if_pos hb, if_pos ⟨hb.symm, h⟩, Option.getD_some]
    · rw [if_neg hb, if_neg fun hc => hb hc.1.symm]
  case isFalse h => rw [if_neg fun hc => h hc.2]

/-- Writing a run keeps the size of the image. -/
@[simp] theorem size_writeRun (m : Rdram) (address : UInt32) (values : List UInt8) :
    (m.writeRun address values).size = m.size := by
  induction values generalizing m address with
  | nil => rfl
  | cons value rest ih => rw [writeRun, ih, size_write]

/-- The image whose runs are read byte by byte keeps to that rule. -/
theorem bytewiseMemory_bytewise (m : Rdram) : m.bytewiseMemory.Bytewise :=
  ExternalMemory.ofBytes_bytewise m.read

end Rdram

end DisplayProcessor
