import DisplayProcessor.TextureMemory
import Mathlib.Data.List.Basic

/-!
# What a block load leaves in texture memory

A block load writes quad-words one after the other, around the end of texture memory if need be, and
permutes the bytes of each. Reads undo the permutation. So a load that is no larger than texture
memory can be read back: the byte at a distance from its first address is the byte at the same
distance in external memory, whatever the line step and wherever the load begins.

- `TextureMemory.load?_eq_some_iff`: which loads are carried out, and what comes of them;
  `TextureMemory.load?_eq_some_iff_of_bytewise` if runs are read byte by byte.
- `TextureMemory.quadIndex_inj`: the quad-words of one load are different ones.
- `TextureMemory.get_storeQuads_of_last`: what the copy loop leaves in a quad-word, however often
  it comes there.
- `TextureMemory.read_storeQuads_of_lt`: what a load that is no larger than texture memory leaves.
- `TextureMemory.texel16At_load?`: the texels of a load are those of external memory.
-/

namespace DisplayProcessor

/-- The bytes of external memory from the source address of a block load on. -/
def BlockLoad.bytesFrom (load : BlockLoad) (m : ExternalMemory) (k : Nat) : UInt8 :=
  m.byteAt (load.source + .ofNat k)

namespace TextureMemory

/-- A block load is carried out if it has texels, and no more than the limit. -/
theorem load?_eq_some_iff {memory after : TextureMemory} {m : ExternalMemory} {load : BlockLoad}
    {limit : Nat} :
    memory.load? m load limit = some after ↔
      (0 < load.texelCount ∧ load.texelCount ≤ limit) ∧
        after = {
          quads := storeQuads memory.quads load fun k =>
            (m.bytesAt load.source (load.byteCount + 7))[k]?.getD 0
          texelsLoaded := min maxTexelsLoaded (memory.texelsLoaded + load.texelCount) } := by
  unfold load?
  by_cases hdrop : load.texelCount = 0 ∨ limit < load.texelCount
  · rw [if_pos hdrop]
    constructor
    · intro h
      cases h
    · rintro ⟨⟨hpos, hlimit⟩, -⟩
      omega
  · rw [if_neg hdrop]
    -- A load that is not dropped has one result only.
    have haccepted : 0 < load.texelCount ∧ load.texelCount ≤ limit := by omega
    constructor
    · intro h
      cases h
      exact ⟨haccepted, rfl⟩
    · rintro ⟨-, rfl⟩
      rfl

/-- The copy loop depends only on the bytes of its quad-words. -/
theorem storeQuads_congr (quads : Vector QuadWord 512) {load : BlockLoad}
    {source source' : Nat → UInt8} (h : ∀ k < 8 * load.quadCount, source k = source' k) :
    storeQuads quads load source = storeQuads quads load source' := by
  unfold storeQuads
  refine List.foldl_ext _ _ _ fun quads i hi => ?_
  have hlt := List.mem_range.mp hi
  congr 2
  funext j
  exact h _ (by omega)

/-- If runs are read byte by byte, a block load copies the bytes from its source address on. -/
theorem load?_eq_some_iff_of_bytewise {m : ExternalMemory} (hm : m.Bytewise)
    {memory after : TextureMemory} {load : BlockLoad} {limit : Nat} :
    memory.load? m load limit = some after ↔
      (0 < load.texelCount ∧ load.texelCount ≤ limit) ∧
        after = {
          quads := storeQuads memory.quads load (load.bytesFrom m)
          texelsLoaded := min maxTexelsLoaded (memory.texelsLoaded + load.texelCount) } := by
  have hbytes : storeQuads memory.quads load (fun k =>
      (m.bytesAt load.source (load.byteCount + 7))[k]?.getD 0) =
        storeQuads memory.quads load (load.bytesFrom m) := by
    refine storeQuads_congr _ fun k hk => ?_
    have hlt : k < load.byteCount + 7 := by
      unfold BlockLoad.quadCount at hk
      omega
    simp [hm load.source, hlt, BlockLoad.bytesFrom]
  rw [load?_eq_some_iff, hbytes]

/-- From an address on that is a multiple of eight, 512 quad-words in a row are different ones. -/
theorem quadIndex_inj {offset i k : Nat} (haligned : offset % 8 = 0) (hi : i < 512) (hk : k < 512)
    (h : quadIndex (offset + 8 * i) = quadIndex (offset + 8 * k)) : i = k := by
  have hval : (offset + 8 * i) / 8 % 512 = (offset + 8 * k) / 8 % 512 := congrArg Fin.val h
  omega

/-- Writes to other places leave an entry alone. -/
theorem get_foldl_set_stable {f : Nat → Fin 512} (g : Nat → QuadWord)
    (quads : Vector QuadWord 512) {q : Fin 512} {m n : Nat} (hmn : m ≤ n)
    (hne : ∀ k, m ≤ k → k < n → f k ≠ q) :
    ((List.range n).foldl (fun quads k => quads.set (f k) (g k)) quads).get q =
      ((List.range m).foldl (fun quads k => quads.set (f k) (g k)) quads).get q := by
  induction hmn with
  | refl => rfl
  | @step n hmn ih =>
    have hval : (f n).val ≠ q.val := fun h => hne n hmn (Nat.lt_succ_self n) (Fin.ext h)
    rw [List.range_succ, List.foldl_append]
    refine (Vector.getElem_set_ne (f n).isLt q.isLt hval).trans ?_
    exact ih fun k hk hkn => hne k hk (Nat.lt_succ_of_lt hkn)

/-- A block load leaves alone the quad-words that it does not come to. -/
theorem get_storeQuads_of_forall_ne (quads : Vector QuadWord 512) {load : BlockLoad}
    (source : Nat → UInt8) {q : Fin 512}
    (hne : ∀ k < load.quadCount, quadIndex (load.offset + 8 * k) ≠ q) :
    (storeQuads quads load source).get q = quads.get q :=
  get_foldl_set_stable _ quads (Nat.zero_le _) fun k _ hk => hne k hk

/-- A quad-word that a block load comes to, once or more often, is what it stored there last. -/
theorem get_storeQuads_of_last (quads : Vector QuadWord 512) {load : BlockLoad}
    (source : Nat → UInt8) {i : Nat} (hi : i < load.quadCount) {q : Fin 512}
    (hq : quadIndex (load.offset + 8 * i) = q)
    (hlast : ∀ k, i < k → k < load.quadCount → quadIndex (load.offset + 8 * k) ≠ q) :
    (storeQuads quads load source).get q =
      .store (load.swizzle i) fun j => source (8 * i + j) := by
  refine (get_foldl_set_stable _ quads hi fun k hk => hlast k hk).trans ?_
  subst hq
  rw [List.range_succ, List.foldl_append]
  exact Vector.getElem_set_self (quadIndex (load.offset + 8 * i)).isLt

/-- After a block load of at most 512 quad-words, each of them reads as its eight source bytes. -/
theorem read_storeQuads_of_lt (quads : Vector QuadWord 512) {load : BlockLoad}
    (source : Nat → UInt8) (haligned : load.offset % 8 = 0) (hfits : load.quadCount ≤ 512)
    {i : Nat} (hi : i < load.quadCount) {q : Fin 512} (hq : q = quadIndex (load.offset + 8 * i))
    (j : Fin 8) : ((storeQuads quads load source).get q).read j = source (8 * i + j.val) := by
  have hlast : ∀ k, i < k → k < load.quadCount → quadIndex (load.offset + 8 * k) ≠ q := by
    rintro k hik hk rfl
    have heq := quadIndex_inj haligned (by omega) (by omega) hq
    omega
  rw [get_storeQuads_of_last quads source hi hq.symm hlast, QuadWord.read_store]

variable {memory after : TextureMemory} {m : ExternalMemory} {load : BlockLoad} {limit : Nat}

/-- After a load its texels count as loaded, besides those that did before. -/
theorem texelCount_le_texelsLoaded (hload : memory.load? m load limit = some after)
    (hmax : load.texelCount ≤ maxTexelsLoaded) : load.texelCount ≤ after.texelsLoaded := by
  obtain ⟨-, rfl⟩ := load?_eq_some_iff.mp hload
  exact Nat.le_min.mpr ⟨hmax, Nat.le_add_left _ _⟩

/-- A load that is carried out has texels, so some are loaded after it. -/
theorem texelsLoaded_pos (hload : memory.load? m load limit = some after) :
    0 < after.texelsLoaded := by
  obtain ⟨⟨hpos, -⟩, rfl⟩ := load?_eq_some_iff.mp hload
  have hmax : 0 < maxTexelsLoaded := by decide
  exact Nat.lt_min.mpr ⟨hmax, Nat.lt_of_lt_of_le hpos (Nat.le_add_left _ _)⟩

/-- A byte of a load is read back where it was written. -/
theorem sourceByteAt_load? (hm : m.Bytewise) (hload : memory.load? m load limit = some after)
    (haligned : load.offset % 8 = 0) (hfits : load.byteCount ≤ 4096) {k : Nat}
    (hk : k < load.byteCount) :
    after.sourceByteAt (load.offset + k) = m.byteAt (load.source + .ofNat k) := by
  obtain ⟨-, rfl⟩ := (load?_eq_some_iff_of_bytewise hm).mp hload
  have hquads : load.quadCount ≤ 512 := by
    unfold BlockLoad.quadCount
    omega
  have hquad : k / 8 < load.quadCount := by
    unfold BlockLoad.quadCount
    omega
  -- Byte `k` of the load is byte `k % 8` of its quad-word `k / 8`.
  have hindex : quadIndex (load.offset + k) = quadIndex (load.offset + 8 * (k / 8)) := by
    unfold quadIndex
    congr 1
    omega
  have hlane : (Fin.ofNat 8 (load.offset + k)).val = k % 8 := by
    show (load.offset + k) % 8 = k % 8
    omega
  have hread := read_storeQuads_of_lt memory.quads (load.bytesFrom m) haligned hquads hquad hindex
    (.ofNat 8 (load.offset + k))
  refine hread.trans ?_
  rw [hlane, Nat.div_add_mod, BlockLoad.bytesFrom]

/-- **A block load can be read back.** A texel that lies in the bytes of a load is the one at the
same distance in external memory. -/
theorem texel16At_load? (hm : m.Bytewise) (hload : memory.load? m load limit = some after)
    (haligned : load.offset % 8 = 0) (hfits : load.byteCount ≤ 4096) {k : Nat}
    (hk : k + 2 ≤ load.byteCount) :
    after.texel16At (load.offset + k) = m.read16 (load.source + .ofNat k) := by
  have hfirst := sourceByteAt_load? hm hload haligned hfits (show k < load.byteCount by omega)
  have hsecond := sourceByteAt_load? hm hload haligned hfits (show k + 1 < load.byteCount by omega)
  have hnext : load.source + .ofNat (k + 1) = load.source + .ofNat k + 1 := by
    rw [UInt32.ofNat_add, ← UInt32.add_assoc]
    rfl
  unfold texel16At ExternalMemory.read16
  rw [Nat.add_assoc, hfirst, hsecond, hnext]

end TextureMemory

end DisplayProcessor
