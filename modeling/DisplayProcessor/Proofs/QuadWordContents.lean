import DisplayProcessor.Proofs.BlockContents
import Mathlib.Order.Bounds.Defs

/-!
# Every byte after a block load

A block load that is carried out determines all of texture memory. It goes through the quad-words
one after the other, from the first again after the last, so a large load comes to a quad-word more
than once. The last visit decides: it leaves eight bytes of external memory, in the lanes that its
line has them in, and reads give them back in their order. A quad-word without a visit is as it was.

- `BlockLoad.laneMask`: where the bytes of a quad-word go.
- `BlockLoad.WritesTo`: which quad-word of texture memory a quad-word of the load goes to.
- `BlockLoad.Leaves`: what a load that is carried out leaves behind.
- `TextureMemory.leaves_storeQuads`: what the copy loop leaves behind.
- `TextureMemory.loadBlock_contents`: what a block load does, or that it is dropped.
-/

namespace DisplayProcessor

namespace BlockLoad

/-- The number that the byte indices of quad-word `i` are combined with by exclusive or: 1 in a
linear load, and in a tiled one 3 and 7 on alternate lines. -/
def laneMask (load : BlockLoad) (i : Nat) : Nat :=
  if load.dt = 0 then 1 else if i / max 1 (2048 / load.dt) % 2 = 0 then 3 else 7

theorem mask_swizzle (load : BlockLoad) (i : Nat) :
    ((load.swizzle i).mask : Nat) = load.laneMask i := by
  unfold swizzle laneMask lineLength
  split
  · rfl
  · split <;> rfl

/-- Quad-word `i` of a load of `n` quad-words goes to quad-word `q` of texture memory. -/
def WritesTo (load : BlockLoad) (n : Nat) (q : Fin 512) (i : Nat) : Prop :=
  i < n ∧ (load.offset / 8 + i) % 512 = q

/-- The same by the address to which the copy loop goes. -/
theorem writesTo_iff {load : BlockLoad} {n : Nat} {q : Fin 512} {i : Nat} :
    load.WritesTo n q i ↔ i < n ∧ TextureMemory.quadIndex (load.offset + 8 * i) = q := by
  have hval : (TextureMemory.quadIndex (load.offset + 8 * i) : Nat) = (load.offset / 8 + i) % 512 :=
    show (load.offset + 8 * i) / 8 % 512 = _ by rw [Nat.add_mul_div_left _ _ (by decide)]
  unfold WritesTo
  rw [Fin.ext_iff, hval]

/-- What a block load of some texels, in `n` quad-words, leaves behind when external memory delivers
the given bytes. -/
structure Leaves (load : BlockLoad) (texels n : Nat) {length : Nat}
    (delivered : Vector UInt8 length) (before after : TextureMemory) : Prop where
  /-- The last quad-word that goes to a place is there, each byte in its lane, and is read back in
  the order of its bytes. -/
  written : ∀ q i, IsGreatest {i | load.WritesTo n q i} i → ∀ j : Fin 8,
    ∃ h : 8 * i + j < length,
      after.byteAt (q * 8 + (j ^^^ load.laneMask i)) = delivered[8 * i + j] ∧
      after.sourceByteAt (q * 8 + j) = delivered[8 * i + j]
  /-- A quad-word that nothing goes to is as before, and so is what is read back from it. -/
  kept : ∀ q, (∀ i, ¬ load.WritesTo n q i) → ∀ j : Fin 8,
    after.byteAt (q * 8 + j) = before.byteAt (q * 8 + j) ∧
    after.sourceByteAt (q * 8 + j) = before.sourceByteAt (q * 8 + j)
  /-- A texel is made of the bytes that are read back at its address and at the next. -/
  texel : ∀ address, after.texel16At address =
    (after.sourceByteAt address).toUInt16 <<< 8 ||| (after.sourceByteAt (address + 1)).toUInt16
  /-- The texels count as loaded, as far as the count goes. -/
  texelsLoaded : after.texelsLoaded = min (2 ^ 32 - 1) (before.texelsLoaded + texels)

/-- The source address is a sum: the image address, and the offset of the first texel. -/
theorem source_eq (load : BlockLoad) :
    load.source = .ofNat (load.address.toNat +
      (load.imageWidth * load.tlo + load.slo) <<< load.size.addressShift) := by
  rw [source, UInt32.ofNat_add, UInt32.ofNat_toNat, Nat.shiftLeft_eq]

end BlockLoad

namespace TextureMemory

variable {load : BlockLoad}

/-- The copy loop leaves the last quad-word that goes to a place. -/
theorem get_storeQuads_of_isGreatest (quads : Vector QuadWord 512) (source : Nat → UInt8)
    {q : Fin 512} {i : Nat} (hi : IsGreatest {i | load.WritesTo load.quadCount q i} i) :
    (storeQuads quads load source).get q =
      .store (load.swizzle i) fun j => source (8 * i + j) := by
  obtain ⟨hlt, hq⟩ := BlockLoad.writesTo_iff.mp hi.1
  refine get_storeQuads_of_last quads source hlt hq ?_
  intro k hik hk hkq
  have hle : k ≤ i := hi.2 (BlockLoad.writesTo_iff.mpr ⟨hk, hkq⟩)
  omega

/-- The copy loop determines every byte of texture memory. -/
theorem leaves_storeQuads (memory : TextureMemory)
    (delivered : Vector UInt8 (load.byteCount + 7)) :
    load.Leaves load.texelCount load.quadCount delivered memory {
      quads := storeQuads memory.quads load fun k => delivered[k]?.getD 0
      texelsLoaded := min maxTexelsLoaded (memory.texelsLoaded + load.texelCount) } where
  written q i hi j := by
    have hquad := get_storeQuads_of_isGreatest memory.quads
      (fun k => delivered[k]?.getD 0) hi
    -- The last quad-word may be filled up with bytes behind the last texel, also delivered.
    have hlt : 8 * i + (j : Nat) < load.byteCount + 7 := by
      have hcount : i < (load.byteCount + 7) / 8 := hi.1.1
      omega
    have hbyte : delivered[8 * i + (j : Nat)]?.getD 0 = delivered[8 * i + (j : Nat)] := by
      rw [Vector.getElem?_eq_getElem hlt, Option.getD_some]
    have hlane : ((load.swizzle i).lane j : Nat) = j ^^^ load.laneMask i := by
      rw [Swizzle.val_lane, BlockLoad.mask_swizzle]
    refine ⟨hlt, ?_, ?_⟩
    · rw [← hlane, byteAt_add, hquad, QuadWord.get_lanes_store, hbyte]
    · rw [sourceByteAt_add, hquad, QuadWord.read_store, hbyte]
  kept q hq j := by
    have hquad := get_storeQuads_of_forall_ne memory.quads
      (fun k => delivered[k]?.getD 0) fun k hk hkq => hq k (BlockLoad.writesTo_iff.mpr ⟨hk, hkq⟩)
    rw [byteAt_add, byteAt_add, sourceByteAt_add, sourceByteAt_add, hquad]
    exact ⟨rfl, rfl⟩
  texel _ := rfl
  texelsLoaded := rfl

/-- A load is dropped for the number of its texels only, and determines texture memory otherwise. -/
theorem loadBlock_dropped_or_leaves (memory : TextureMemory) (external : ExternalMemory)
    (load : BlockLoad) (limit : Nat) :
    let result := memory.loadBlock external load limit
    let dropped := load.texelCount = 0 ∨ limit < load.texelCount
    (result = (none, memory) ↔ dropped) ∧
    (¬ dropped → result.1 = some load.texelCount ∧
      load.Leaves load.texelCount load.quadCount
        (external.bytesAt load.source (load.byteCount + 7)) memory result.2) := by
  intro result dropped
  by_cases hdrop : dropped
  · have hresult : result = (none, memory) := loadBlock_of_none (if_pos hdrop)
    exact ⟨iff_of_true hresult hdrop, fun h => absurd hdrop h⟩
  · have haccepted : 0 < load.texelCount ∧ load.texelCount ≤ limit :=
      ⟨Nat.pos_of_ne_zero fun h => hdrop (.inl h), Nat.le_of_not_lt fun h => hdrop (.inr h)⟩
    obtain ⟨after, hload⟩ : ∃ after, memory.load? external load limit = some after :=
      ⟨_, load?_eq_some_iff.mpr ⟨haccepted, rfl⟩⟩
    have hresult : result = (some load.texelCount, after) := loadBlock_of_some hload
    obtain ⟨-, rfl⟩ := load?_eq_some_iff.mp hload
    rw [hresult]
    constructor
    · -- A load that is carried out has an answer.
      refine iff_of_false ?_ hdrop
      intro h
      cases congrArg Prod.fst h
    · intro _
      exact ⟨rfl, memory.leaves_storeQuads _⟩

/-- **What a block load does.** It has no answer and changes nothing, exactly if it has no texels or
more than the limit. Otherwise it answers the number of its texels, and every byte of texture memory
is determined by the bytes that external memory delivers from the source address on: the bytes of
the texels, and as many more as fill up the last quad-word. Texels of four bits count as two bytes
each, and their index is not shifted. -/
theorem loadBlock_contents (memory : TextureMemory) (external : ExternalMemory) (load : BlockLoad)
    (limit : Nat) :
    let texels := load.shi + 1 - load.slo
    let bytesPerTexel := match load.size with
      | .bits4 => 2
      | .bits8 => 1
      | .bits16 => 2
      | .bits32 => 4
    let addressShift := match load.size with
      | .bits4 => 0
      | .bits8 => 0
      | .bits16 => 1
      | .bits32 => 2
    let source : UInt32 := .ofNat (load.address.toNat +
      (load.imageWidth * load.tlo + load.slo) <<< addressShift)
    let result := memory.loadBlock external load limit
    let dropped := texels = 0 ∨ limit < texels
    (result = (none, memory) ↔ dropped) ∧
    (¬ dropped → result.1 = some texels ∧
      load.Leaves texels ((texels * bytesPerTexel + 7) / 8)
        (external.bytesAt source (texels * bytesPerTexel + 7)) memory result.2) := by
  have hcontents := memory.loadBlock_dropped_or_leaves external load limit
  rw [load.source_eq] at hcontents
  obtain ⟨address, imageWidth, size, slo, shi, tlo, dt, offset⟩ := load
  -- The two tables are read for one size at a time, where they agree with those of the load.
  cases size with
  | bits4 | bits8 | bits16 | bits32 => exact hcontents

end TextureMemory

end DisplayProcessor
