import DisplayProcessor.ExternalMemory
import DisplayProcessor.Texel

/-!
# Texture memory

Texture memory holds 4096 bytes in 512 quad-words of eight bytes. A block load copies texels from
external memory, one quad-word after the other, and permutes the bytes of each: byte `j` goes to
lane `j xor 1` in a linear load, and in a tiled load to lane `j xor 3` on even lines and `j xor 7`
on odd ones. Each quad-word records how it was written, so reads of texels give back the bytes in
the order of their source. Addresses wrap around.

- `Swizzle`: the permutations of the bytes of a quad-word; each is its own inverse.
- `QuadWord.store`, `QuadWord.read`: write eight bytes through a permutation, and read them back.
- `TextureMemory.byteAt`, `TextureMemory.sourceByteAt`: the byte that lies at an address, and the
  byte that was loaded to it.
- `BlockLoad`: the operands of a block load, and what follows from them.
- `TextureMemory.load?`, `TextureMemory.loadBlock`: carry out a block load, or drop it.
-/

namespace DisplayProcessor

/-- How the bytes of a quad-word were permuted when it was written. -/
inductive Swizzle where
  /-- Nothing was written since power-on. -/
  | identity
  | linear
  | evenLine
  | oddLine
deriving DecidableEq, Inhabited

namespace Swizzle

/-- The number that a byte index is combined with by exclusive or. -/
def mask : Swizzle → Fin 8
  | .identity => 0
  | .linear => 1
  | .evenLine => 3
  | .oddLine => 7

/-- The lane of byte `j`. -/
def lane (s : Swizzle) (j : Fin 8) : Fin 8 :=
  j ^^^ s.mask

/-- The lane of a byte by number. -/
theorem val_lane (s : Swizzle) (j : Fin 8) : (s.lane j : Nat) = j ^^^ (s.mask : Nat) :=
  Nat.mod_eq_of_lt (Nat.xor_lt_two_pow (n := 3) j.isLt s.mask.isLt)

/-- A permutation is its own inverse. -/
@[simp] theorem lane_lane (s : Swizzle) (j : Fin 8) : s.lane (s.lane j) = j := by
  revert j; cases s <;> decide

end Swizzle

/-- Eight bytes by lane, and the permutation that brought them there. -/
structure QuadWord where
  lanes : Vector UInt8 8
  swizzle : Swizzle
deriving DecidableEq

namespace QuadWord

/-- The quad-word at power-on. -/
def zero : QuadWord := ⟨Vector.replicate 8 0, .identity⟩

instance : Inhabited QuadWord := ⟨zero⟩

/-- The quad-word to which eight bytes were written through a permutation. -/
def store (s : Swizzle) (source : Fin 8 → UInt8) : QuadWord where
  lanes := Vector.ofFn fun lane => source (s.lane lane)
  swizzle := s

/-- Byte `j` in the order of the source. -/
def read (q : QuadWord) (j : Fin 8) : UInt8 :=
  q.lanes[q.swizzle.lane j]

/-- What was written is read back. -/
@[simp] theorem read_store (s : Swizzle) (source : Fin 8 → UInt8) (j : Fin 8) :
    (store s source).read j = source j := by
  simp [read, store]

/-- Each byte lies in its lane. -/
theorem get_lanes_store (s : Swizzle) (source : Fin 8 → UInt8) (j : Fin 8) :
    (store s source).lanes.get (s.lane j) = source j :=
  read_store s source j

end QuadWord

/-- The operands of a block load. -/
structure BlockLoad where
  /-- Where the texture image starts in external memory. -/
  address : UInt32
  /-- The width of the texture image in texels. -/
  imageWidth : Nat
  size : TexelSize
  /-- The first texel. -/
  slo : Nat
  /-- The last texel. -/
  shi : Nat
  /-- The first row in the texture image. -/
  tlo : Nat
  /-- The fraction of a line, in 1/2048, that one quad-word covers; zero for a linear load. -/
  dt : Nat
  /-- The address in texture memory. -/
  offset : Nat
deriving DecidableEq, Inhabited

namespace BlockLoad

/-- The number of texels, zero if the last lies before the first. -/
def texelCount (load : BlockLoad) : Nat :=
  load.shi + 1 - load.slo

/-- The number of bytes that the texels take. -/
def byteCount (load : BlockLoad) : Nat :=
  load.texelCount * load.size.bytesPerTexel

/-- The number of quad-words that the texels touch. -/
def quadCount (load : BlockLoad) : Nat :=
  (load.byteCount + 7) / 8

/-- The address of the first texel in external memory. -/
def source (load : BlockLoad) : UInt32 :=
  load.address + .ofNat ((load.imageWidth * load.tlo + load.slo) * 2 ^ load.size.addressShift)

/-- The number of quad-words in a line of a tiled load. -/
def lineLength (load : BlockLoad) : Nat :=
  max 1 (2048 / load.dt)

/-- The permutation of quad-word `i`. -/
def swizzle (load : BlockLoad) (i : Nat) : Swizzle :=
  if load.dt = 0 then .linear
  else if i / load.lineLength % 2 = 0 then .evenLine
  else .oddLine

end BlockLoad

/-- The state of texture memory. -/
structure TextureMemory where
  quads : Vector QuadWord 512
  /-- The number of texels loaded since the count was last cleared, at most `2 ^ 32 - 1`. -/
  texelsLoaded : Nat
deriving DecidableEq

namespace TextureMemory

/-- Texture memory at power-on. -/
def powerOn : TextureMemory := ⟨Vector.replicate 512 .zero, 0⟩

instance : Inhabited TextureMemory := ⟨powerOn⟩

/-- Every byte is zero and nothing counts as loaded, whatever was there. -/
def reset (_ : TextureMemory) : TextureMemory := powerOn

/-- The quad-word that holds an address. -/
def quadIndex (address : Nat) : Fin 512 :=
  .ofNat 512 (address / 8)

/-- The byte that lies at an address. -/
def byteAt (memory : TextureMemory) (address : Nat) : UInt8 :=
  memory.quads[quadIndex address].lanes[Fin.ofNat 8 address]

/-- The byte that was loaded to an address, wherever in its quad-word it lies. -/
def sourceByteAt (memory : TextureMemory) (address : Nat) : UInt8 :=
  memory.quads[quadIndex address].read (.ofNat 8 address)

/-- A place in texture memory is a lane of a quad-word. -/
theorem quadIndex_add (quad : Fin 512) (lane : Fin 8) : quadIndex (quad * 8 + lane) = quad :=
  Fin.ext (show ((quad : Nat) * 8 + lane) / 8 % 512 = quad by omega)

theorem ofNat_add (quad : Fin 512) (lane : Fin 8) : Fin.ofNat 8 (quad * 8 + lane) = lane :=
  Fin.ext (show ((quad : Nat) * 8 + lane) % 8 = lane by omega)

/-- The byte at a place is the one in the lane of the quad-word. -/
theorem byteAt_add (memory : TextureMemory) (quad : Fin 512) (lane : Fin 8) :
    memory.byteAt (quad * 8 + lane) = (memory.quads.get quad).lanes.get lane := by
  simp only [byteAt, quadIndex_add, ofNat_add]
  rfl

/-- The byte that was loaded to a place is the one that its quad-word gives back. -/
theorem sourceByteAt_add (memory : TextureMemory) (quad : Fin 512) (j : Fin 8) :
    memory.sourceByteAt (quad * 8 + j) = (memory.quads.get quad).read j := by
  simp only [sourceByteAt, quadIndex_add, ofNat_add]
  rfl

/-- The big-endian sixteen-bit texel that was loaded to an address. -/
def texel16At (memory : TextureMemory) (address : Nat) : UInt16 :=
  (memory.sourceByteAt address).toUInt16 <<< 8 ||| (memory.sourceByteAt (address + 1)).toUInt16

/-- All bytes as they lie in memory. -/
def bytes (memory : TextureMemory) : List UInt8 :=
  memory.quads.toList.flatMap fun q => q.lanes.toList

/-- The largest count of loaded texels; the count stays there. -/
def maxTexelsLoaded : Nat := 2 ^ 32 - 1

/-- The same contents with nothing counted as loaded. -/
def clearLoadCount (memory : TextureMemory) : TextureMemory :=
  { memory with texelsLoaded := 0 }

/-- The quad-words after a block load of the given source bytes. -/
def storeQuads (quads : Vector QuadWord 512) (load : BlockLoad) (source : Nat → UInt8) :
    Vector QuadWord 512 :=
  (List.range load.quadCount).foldl (fun quads i =>
      quads.set (quadIndex (load.offset + 8 * i))
        (.store (load.swizzle i) fun j => source (8 * i + j)))
    quads

/-- Carry out a block load. The load is dropped, with no answer, if it has no texels or more than
`limit`. -/
def load? (memory : TextureMemory) (external : ExternalMemory) (load : BlockLoad) (limit : Nat) :
    Option TextureMemory :=
  if load.texelCount = 0 ∨ limit < load.texelCount then none
  else
    let source := external.bytesAt load.source (load.byteCount + 7)
    some {
      quads := storeQuads memory.quads load fun k => source[k]?.getD 0
      texelsLoaded := min maxTexelsLoaded (memory.texelsLoaded + load.texelCount) }

/-- Carry out a block load and answer how many texels it copied. A load that is dropped has no
answer and changes nothing. -/
def loadBlock (memory : TextureMemory) (external : ExternalMemory) (load : BlockLoad)
    (limit : Nat) : Option Nat × TextureMemory :=
  match memory.load? external load limit with
  | some after => (some load.texelCount, after)
  | none => (none, memory)

theorem loadBlock_of_some {memory after : TextureMemory} {external : ExternalMemory}
    {load : BlockLoad} {limit : Nat} (h : memory.load? external load limit = some after) :
    memory.loadBlock external load limit = (some load.texelCount, after) := by
  rw [loadBlock, h]

theorem loadBlock_of_none {memory : TextureMemory} {external : ExternalMemory} {load : BlockLoad}
    {limit : Nat} (h : memory.load? external load limit = none) :
    memory.loadBlock external load limit = (none, memory) := by
  rw [loadBlock, h]

end TextureMemory

end DisplayProcessor
