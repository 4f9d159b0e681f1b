import DisplayProcessor.Rdram
import Mathlib.Data.List.Basic

/-!
# What writes leave in a memory image

Every write stores single bytes, one after the other, each at an index of its own; the bytes that
come to no index of the image are lost. Afterwards an index holds the byte that was stored there
last, whichever writes there were.

- `Rdram.Write`, `Rdram.performAll`: the operations that write, and a sequence of them.
- `Rdram.Write.stores`: the bytes of a write with their indexes, in the order of their storing.
- `Rdram.Leaves`: the image that stored bytes leave; kept by sequences (`Rdram.Leaves.trans`).
- `Rdram.leaves_perform`, `Rdram.leaves_performAll`: the bytes that writes store.
- `Rdram.performAll_last_write`: the main result.
-/

namespace DisplayProcessor

namespace Rdram

/-! ## Writes -/

/-- An operation that writes to a memory image. -/
inductive Write where
  | byte (address : UInt32) (value : UInt8)
  | number16 (address : UInt32) (value : UInt16)
  | number32 (address : UInt32) (value : UInt32)
  | run (address : UInt32) (values : List UInt8)

/-- The image after a write. -/
def perform (m : Rdram) : Write → Rdram
  | .byte address value => m.write address value
  | .number16 address value => m.write16 address value
  | .number32 address value => m.write32 address value
  | .run address values => m.writeRun address values

/-- The image after writes, one after the other. -/
def performAll (m : Rdram) (writes : List Write) : Rdram :=
  writes.foldl perform m

/-- The lower `n` bytes of a number, the most significant one first. -/
def bigEndian : Nat → Nat → List UInt8
  | 0, _ => []
  | n + 1, value => .ofNat (value / 256 ^ n) :: bigEndian n value

namespace Write

/-- The address of the first byte of a write. -/
def address : Write → UInt32
  | .byte address _ => address
  | .number16 address _ => address
  | .number32 address _ => address
  | .run address _ => address

/-- The bytes of a write in order. -/
def values : Write → List UInt8
  | .byte _ value => [value]
  | .number16 _ value => bigEndian 2 value.toNat
  | .number32 _ value => bigEndian 4 value.toNat
  | .run _ values => values

end Write

/-- The byte that is stored at an index. -/
structure Store where
  index : Nat
  value : UInt8
deriving DecidableEq

/-- Bytes that are stored one after the other from an address on. -/
def storesFrom (address : UInt32) (values : List UInt8) : List Store :=
  values.mapIdx fun k value => ⟨(address.toNat + k) % addressSpace, value⟩

/-- The bytes that a write stores. -/
def Write.stores (w : Write) : List Store :=
  storesFrom w.address w.values

/-- The byte that is stored last at an index. -/
def lastAt (stores : List Store) (i : Nat) : Option UInt8 :=
  ((stores.filter fun s => s.index = i).map Store.value).getLast?

/-! ## Stored bytes -/

/-- The later stores decide, where there are any. -/
theorem lastAt_append (first second : List Store) (i : Nat) :
    lastAt (first ++ second) i = (lastAt second i).or (lastAt first i) := by
  simp [lastAt, List.getLast?_append]

/-- A byte that is stored elsewhere does not matter. -/
theorem lastAt_filter {p : Store → Bool} {stores : List Store} {i : Nat}
    (h : ∀ s ∈ stores, s.index = i → p s = true) :
    lastAt (stores.filter p) i = lastAt stores i := by
  have hfilter : (stores.filter p).filter (fun s => s.index = i) =
      stores.filter fun s => s.index = i := by
    rw [List.filter_filter]
    refine List.filter_congr fun s hs => ?_
    by_cases hi : s.index = i
    · simp [hi, h s hs hi]
    · simp [hi]
  rw [lastAt, hfilter, lastAt]

/-- The image that is left of another one when bytes are stored. -/
structure Leaves (m : Rdram) (stores : List Store) (after : Rdram) : Prop where
  size_eq : after.size = m.size
  byte (i : Nat) : after.bytes.data[i]? =
    m.bytes.data[i]?.map fun initial => (lastAt stores i).getD initial

namespace Leaves

variable {m after later : Rdram} {first second stores : List Store}

theorem refl (m : Rdram) : m.Leaves [] m where
  size_eq := rfl
  byte i := by simp [lastAt]

theorem trans (h : m.Leaves first after) (h' : after.Leaves second later) :
    m.Leaves (first ++ second) later where
  size_eq := h'.size_eq.trans h.size_eq
  byte i := by
    rw [h'.byte, h.byte, Option.map_map]
    congr 1
    funext initial
    rw [lastAt_append, Option.getD_or]
    rfl

/-- Only one image is left. -/
theorem unique (h : m.Leaves stores after) (h' : m.Leaves stores later) : after = later := by
  have hdata : after.bytes.data = later.bytes.data := by
    apply Array.ext_getElem?
    intro i
    rw [h.byte, h'.byte]
  obtain ⟨⟨a⟩⟩ := after
  obtain ⟨⟨b⟩⟩ := later
  exact congrArg (fun data => Rdram.mk ⟨data⟩) hdata

/-- Bytes outside of the image are lost. -/
theorem filter_inRange (h : m.Leaves stores after) :
    m.Leaves (stores.filter fun s => s.index < m.size) after where
  size_eq := h.size_eq
  byte i := by
    rw [h.byte]
    by_cases hi : i < m.size
    · -- A store outside the memory is at another index, so it is not the last one here.
      have hlast : lastAt (stores.filter fun s => s.index < m.size) i = lastAt stores i := by
        refine lastAt_filter fun s _ hs => ?_
        simpa [hs] using hi
      rw [hlast]
    · have hnone : m.bytes.data[i]? = none := Array.getElem?_eq_none (Nat.le_of_not_lt hi)
      rw [hnone, Option.map_none, Option.map_none]

/-- A byte is read as it was stored last. -/
theorem read_eq (h : m.Leaves stores after) (address : UInt32) :
    after.read address =
      if index address < m.size then (lastAt stores (index address)).getD (m.read address)
      else 0 := by
  rw [read_eq_getD, read_eq_getD, Array.getD_eq_getD_getElem?, Array.getD_eq_getD_getElem?, h.byte]
  by_cases hi : index address < m.size
  · have hsome : m.bytes.data[index address]? = some m.bytes.data[index address] :=
      Array.getElem?_eq_getElem hi
    rw [if_pos hi, hsome]
    rfl
  · have hnone : m.bytes.data[index address]? = none :=
      Array.getElem?_eq_none (Nat.le_of_not_lt hi)
    rw [if_neg hi, hnone]
    rfl

end Leaves

/-- A byte write is one store. -/
theorem leaves_write (m : Rdram) (address : UInt32) (value : UInt8) :
    m.Leaves [⟨index address, value⟩] (m.write address value) where
  size_eq := m.size_write address value
  byte i := by
    unfold write
    split
    case isTrue h =>
      have hsome : m.bytes.data[index address]? = some m.bytes.data[index address] :=
        Array.getElem?_eq_getElem h
      simp only [ByteArray.set, Array.getElem?_set]
      by_cases hi : index address = i
      · simp [lastAt, ← hi, hsome]
      · simp [lastAt, hi]
    case isFalse h =>
      -- Nothing is written, and there is no byte at the index of the store.
      have hnone : m.bytes.data[index address]? = none :=
        Array.getElem?_eq_none (Nat.le_of_not_lt h)
      by_cases hi : index address = i
      · simp [← hi, hnone]
      · simp [lastAt, hi]

theorem storesFrom_cons (address : UInt32) (value : UInt8) (rest : List UInt8) :
    storesFrom address (value :: rest) =
      ⟨index address, value⟩ :: storesFrom (address + 1) rest := by
  have hnext (k : Nat) :
      (address.toNat + (k + 1)) % addressSpace = ((address + 1).toNat + k) % addressSpace := by
    rw [UInt32.toNat_add, UInt32.toNat_one, addressSpace]
    omega
  rw [storesFrom, List.mapIdx_cons]
  simp only [hnext]
  rfl

/-- A run of bytes is stored byte after byte, and the address wraps between them. -/
theorem leaves_writeRun (m : Rdram) (address : UInt32) (values : List UInt8) :
    m.Leaves (storesFrom address values) (m.writeRun address values) := by
  induction values generalizing m address with
  | nil => exact .refl m
  | cons value rest ih =>
    rw [storesFrom_cons]
    exact (m.leaves_write address value).trans (ih _ _)

theorem bytes_eq_bigEndian16 (value : UInt16) :
    [(value >>> 8).toUInt8, value.toUInt8] = bigEndian 2 value.toNat := by
  simp [bigEndian, ← UInt8.toNat_inj, Nat.shiftRight_eq_div_pow]

theorem bytes_eq_bigEndian32 (value : UInt32) :
    [(value >>> 24).toUInt8, (value >>> 16).toUInt8, (value >>> 8).toUInt8, value.toUInt8] =
      bigEndian 4 value.toNat := by
  simp [bigEndian, ← UInt8.toNat_inj, Nat.shiftRight_eq_div_pow]

/-- A write stores its bytes. -/
theorem leaves_perform (m : Rdram) (w : Write) : m.Leaves w.stores (m.perform w) := by
  cases w with
  | byte address value => exact leaves_writeRun m address [value]
  | number16 address value =>
    rw [Write.stores, Write.values, ← bytes_eq_bigEndian16]
    exact m.leaves_writeRun address _
  | number32 address value =>
    rw [Write.stores, Write.values, ← bytes_eq_bigEndian32]
    exact m.leaves_writeRun address _
  | run address values => exact m.leaves_writeRun address values

/-- Writes store the bytes of one after those of the other. -/
theorem leaves_performAll (m : Rdram) (writes : List Write) :
    m.Leaves (writes.flatMap Write.stores) (m.performAll writes) := by
  induction writes generalizing m with
  | nil => exact .refl m
  | cons w rest ih => exact (m.leaves_perform w).trans (ih (m.perform w))

/-! ## Sequences of writes -/

/-- The write of a single byte at an index. -/
def Store.toWrite (s : Store) : Write :=
  .byte (.ofNat s.index) s.value

theorem stores_toWrite {s : Store} (h : s.index < addressSpace) : s.toWrite.stores = [s] := by
  have hindex : index (.ofNat s.index) = s.index := by
    unfold index
    unfold addressSpace at *
    rw [UInt32.toNat_ofNat']
    omega
  show storesFrom (.ofNat s.index) [s.value] = _
  rw [storesFrom_cons, hindex]
  rfl

theorem index_lt_of_mem_stores {writes : List Write} {s : Store}
    (h : s ∈ writes.flatMap Write.stores) : s.index < addressSpace := by
  obtain ⟨w, -, hw⟩ := List.mem_flatMap.mp h
  obtain ⟨k, hk, rfl⟩ := List.mem_mapIdx.mp hw
  exact Nat.mod_lt _ (by decide)

/-- Single bytes can be written one by one. -/
theorem stores_map_toWrite {stores : List Store} (h : ∀ s ∈ stores, s.index < addressSpace) :
    (stores.map Store.toWrite).flatMap Write.stores = stores := by
  have hsingle : ∀ s ∈ stores, s.toWrite.stores = [s] := by
    intro s hs
    exact stores_toWrite (h s hs)
  rw [List.flatMap_map, List.flatMap_congr hsingle, List.flatMap_singleton']

/-- **The last byte that was written is read.** Whatever is written, and in whatever order, an image
keeps its size. A byte at an index of the image is the one that was written there last, or as it was
if none was, and a byte anywhere else is zero; a number of 16 bits is that of two bytes. Bytes that
are written elsewhere are lost, and nothing else is: the image is the same if all others are written
one by one. -/
theorem performAll_last_write (m : Rdram) (writes : List Write) :
    let after := m.performAll writes
    let stores := writes.flatMap Write.stores
    after.size = m.size ∧
    (∀ address, after.read address =
      if index address < m.size then (lastAt stores (index address)).getD (m.read address)
      else 0) ∧
    after = m.performAll ((stores.filter fun s => s.index < m.size).map Store.toWrite) ∧
    ∀ address, (after.read16 address).toNat =
      (after.read address).toNat * 256 + (after.read (address + 1)).toNat := by
  intro after stores
  have hleaves : m.Leaves stores after := m.leaves_performAll writes
  refine ⟨hleaves.size_eq, hleaves.read_eq, ?_, ?_⟩
  · have hindex : ∀ s ∈ stores.filter fun s => s.index < m.size, s.index < addressSpace := by
      intro s hs
      exact index_lt_of_mem_stores (List.mem_of_mem_filter hs)
    -- Each store that is left is a byte write at its own index, so writing them one by one is the
    -- same run of stores.
    have halone := m.leaves_performAll ((stores.filter fun s => s.index < m.size).map Store.toWrite)
    rw [stores_map_toWrite hindex] at halone
    exact hleaves.filter_inRange.unique halone
  · exact after.toNat_read16

/-- A number that starts at the end of the address space is continued at its start. -/
example : ((zeros 4).performAll [.number32 0x00FFFFFE 0x11223344]).bytes.data =
    #[0x33, 0x44, 0, 0] := by
  decide

end Rdram

end DisplayProcessor
