import DisplayProcessor.Proofs.SwizzleIndependence
import DisplayProcessor.Proofs.BlockContents
import Mathlib.Data.List.Basic

/-!
# Block loads in two parts

A block load may be cut in two wherever its first part fills whole quad-words. The second part
starts in external memory and in texture memory where the first one ends, so the same bytes come to
the same places, also around the end of texture memory. Each part counts its lines from its own
start, so the raw bytes of tiled loads differ; texels do not.

- `BlockLoad.SplitsAt`: a texel at which a load can be cut.
- `BlockLoad.firstPart`, `BlockLoad.secondPart`: the two parts.
- `TextureMemory.storeQuads_parts`: the copy loop of a linear load is those of its parts.
- `TextureMemory.load_in_parts`: the main result.
-/

namespace DisplayProcessor

namespace BlockLoad

/-- The load can be cut before texel `t`: both parts have texels, and the first fills whole
quad-words. Texels of four bits are left out: they are counted as two bytes and addressed as one. -/
structure SplitsAt (load : BlockLoad) (t : Nat) : Prop where
  size : load.size ≠ .bits4
  slo_lt : load.slo < t
  le_shi : t ≤ load.shi
  aligned : (t - load.slo) * load.size.bytesPerTexel % 8 = 0

/-- The texels before `t`, with a line step of their own. -/
def firstPart (load : BlockLoad) (t dt : Nat) : BlockLoad :=
  { load with shi := t - 1, dt := dt }

/-- The texels from `t` on, with a line step of their own, behind the first part. -/
def secondPart (load : BlockLoad) (t dt : Nat) : BlockLoad :=
  { load with
    slo := t
    dt := dt
    offset := load.offset + (t - load.slo) * load.size.bytesPerTexel }

namespace SplitsAt

variable {load : BlockLoad} {t : Nat}

/-- The first part ends before the split point. -/
theorem texelCount_firstPart (h : load.SplitsAt t) (dt : Nat) :
    (load.firstPart t dt).texelCount = t - load.slo := by
  have hlt := h.slo_lt
  show t - 1 + 1 - load.slo = t - load.slo
  omega

/-- No texel is in both parts or in none. -/
theorem texelCount_parts (h : load.SplitsAt t) (dt dt' : Nat) :
    load.texelCount = (load.firstPart t dt).texelCount + (load.secondPart t dt').texelCount := by
  have hlt := h.slo_lt
  have hle := h.le_shi
  rw [h.texelCount_firstPart]
  show load.shi + 1 - load.slo = t - load.slo + (load.shi + 1 - t)
  omega

/-- The first part fills its quad-words. -/
theorem byteCount_firstPart (h : load.SplitsAt t) (dt : Nat) :
    (load.firstPart t dt).byteCount = 8 * (load.firstPart t dt).quadCount := by
  have haligned : (load.firstPart t dt).byteCount % 8 = 0 := by
    unfold byteCount
    rw [h.texelCount_firstPart]
    exact h.aligned
  unfold quadCount
  omega

/-- No quad-word is cut, so the parts have as many as the whole. -/
theorem quadCount_parts (h : load.SplitsAt t) (dt dt' : Nat) :
    load.quadCount = (load.firstPart t dt).quadCount + (load.secondPart t dt').quadCount := by
  have hbytes : load.byteCount =
      (load.firstPart t dt).byteCount + (load.secondPart t dt').byteCount := by
    unfold byteCount
    rw [h.texelCount_parts dt dt']
    exact Nat.add_mul ..
  have hfirst := h.byteCount_firstPart dt
  unfold quadCount at hfirst ⊢
  omega

/-- The second part starts in texture memory where the first one ends. -/
theorem offset_secondPart (h : load.SplitsAt t) (dt dt' : Nat) :
    (load.secondPart t dt').offset = load.offset + 8 * (load.firstPart t dt).quadCount := by
  rw [← h.byteCount_firstPart dt, byteCount, h.texelCount_firstPart]
  rfl

/-- The second part starts in external memory where the first one ends. -/
theorem source_secondPart (h : load.SplitsAt t) (dt dt' : Nat) :
    (load.secondPart t dt').source =
      load.source + .ofNat (8 * (load.firstPart t dt).quadCount) := by
  have hbytes : 8 * (load.firstPart t dt).quadCount =
      (t - load.slo) * 2 ^ load.size.addressShift := by
    rw [← h.byteCount_firstPart dt, byteCount, h.texelCount_firstPart,
      ← TexelSize.bytesPerTexel_eq h.size]
    rfl
  have hlt := h.slo_lt
  -- The second part starts as many texels later as the first has.
  have hindex : load.imageWidth * load.tlo + t =
      load.imageWidth * load.tlo + load.slo + (t - load.slo) := by omega
  unfold source
  rw [hbytes, UInt32.add_assoc, ← UInt32.ofNat_add, ← Nat.add_mul, ← hindex]
  rfl

end SplitsAt

/-- In a linear load every quad-word is permuted alike. -/
theorem swizzle_of_linear {load : BlockLoad} (h : load.dt = 0) (i : Nat) :
    load.swizzle i = .linear :=
  if_pos h

end BlockLoad

namespace TextureMemory

variable {memory : TextureMemory} {m : ExternalMemory} {load : BlockLoad} {t limit : Nat}

/-- The copy loop of a linear load is those of its parts, one after the other. -/
theorem storeQuads_parts (h : load.SplitsAt t) (hdt : load.dt = 0) (quads : Vector QuadWord 512)
    (source : Nat → UInt8) :
    storeQuads (storeQuads quads (load.firstPart t 0) source) (load.secondPart t 0)
        (fun k => source (8 * (load.firstPart t 0).quadCount + k)) =
      storeQuads quads load source := by
  unfold storeQuads
  -- The whole stores a run of quad-words, and the parts store its two halves.
  rw [h.quadCount_parts 0 0, List.range_add, List.foldl_append, List.foldl_map]
  have hoffset : (load.firstPart t 0).offset = load.offset := rfl
  have hfirst : (load.firstPart t 0).dt = 0 := rfl
  have hsecond : (load.secondPart t 0).dt = 0 := rfl
  simp only [h.offset_secondPart 0 0, hoffset, BlockLoad.swizzle_of_linear hdt,
    BlockLoad.swizzle_of_linear hfirst, BlockLoad.swizzle_of_linear hsecond, Nat.mul_add,
    Nat.add_assoc]

/-- The second part reads on where the first one stops. -/
theorem bytesFrom_secondPart (h : load.SplitsAt t) (dt dt' : Nat) :
    (load.secondPart t dt').bytesFrom m =
      fun k => load.bytesFrom m (8 * (load.firstPart t dt).quadCount + k) := by
  funext k
  unfold BlockLoad.bytesFrom
  rw [h.source_secondPart dt dt', UInt32.add_assoc, ← UInt32.ofNat_add]

/-- The copy loops of the parts, whatever their line steps, leave the texels of the whole load. -/
theorem storeQuads_parts_texels (h : load.SplitsAt t) (memory : TextureMemory) (dt dt' : Nat)
    (source : Nat → UInt8) (address : Nat) :
    let parts := storeQuads (storeQuads memory.quads (load.firstPart t dt) source)
      (load.secondPart t dt') (fun k => source (8 * (load.firstPart t 0).quadCount + k))
    ({ memory with quads := parts }).texel16At address =
      ({ memory with quads := storeQuads memory.quads load source }).texel16At address := by
  intro parts
  -- Both are compared with the linear load, which is the same in parts and as a whole.
  have hsplit : { load with dt := 0 }.SplitsAt t := ⟨h.size, h.slo_lt, h.le_shi, h.aligned⟩
  have hlinear := storeQuads_parts hsplit rfl memory.quads source
  have hwhole := (SameTexels.refl memory).storeQuads { load with dt := 0 } load.dt source
  have hparts := ((SameTexels.refl memory).storeQuads (load.firstPart t 0) dt source).storeQuads
    (load.secondPart t 0) dt' fun k => source (8 * (load.firstPart t 0).quadCount + k)
  rw [← hlinear] at hwhole
  exact (hparts.texel16At address).trans (hwhole.texel16At address).symm

/-- **A block load may be cut in two.** If a load is carried out, so are its parts, one after the
other. They leave the same texels and the same count as the load at once, whatever their line steps
and however often they go around the end of texture memory. Linear parts of a linear load leave the
same raw bytes too. -/
theorem load_in_parts (memory : TextureMemory) (hm : m.Bytewise) (h : load.SplitsAt t)
    (haccepted : load.texelCount ≤ limit) (dt dt' : Nat) :
    ∃ whole first parts,
      memory.load? m load limit = some whole ∧
      memory.load? m (load.firstPart t dt) limit = some first ∧
      first.load? m (load.secondPart t dt') limit = some parts ∧
      (∀ address, parts.texel16At address = whole.texel16At address) ∧
      parts.texelsLoaded = whole.texelsLoaded ∧
      (load.dt = 0 → dt = 0 → dt' = 0 → parts.bytes = whole.bytes) := by
  have hcount := h.texelCount_parts dt dt'
  have hfirst := h.texelCount_firstPart dt
  have hsecond : 0 < (load.secondPart t dt').texelCount := by
    have hle := h.le_shi
    show 0 < load.shi + 1 - t
    omega
  have hlt := h.slo_lt
  refine ⟨_, _, _,
    (load?_eq_some_iff_of_bytewise hm).mpr ⟨⟨by omega, haccepted⟩, rfl⟩,
    (load?_eq_some_iff_of_bytewise hm).mpr ⟨⟨by omega, by omega⟩, rfl⟩,
    (load?_eq_some_iff_of_bytewise hm).mpr ⟨⟨by omega, by omega⟩, rfl⟩, ?_, ?_, ?_⟩
  · intro address
    rw [bytesFrom_secondPart h 0 dt']
    exact storeQuads_parts_texels h memory dt dt' (load.bytesFrom m) address
  · -- The count stops at its limit, after either part or after the whole.
    show min maxTexelsLoaded (min maxTexelsLoaded _ + _) = min maxTexelsLoaded _
    omega
  · -- With no swizzle anywhere the same lanes are written, so the raw bytes agree too.
    rintro hdt rfl rfl
    have hquads := storeQuads_parts h hdt memory.quads (load.bytesFrom m)
    rw [bytesFrom_secondPart h 0 0]
    exact congrArg (fun quads => quads.toList.flatMap fun q => q.lanes.toList) hquads

/-- 1100 texels of 32 bits take more bytes than texture memory has, and start near its end. They are
cut after 300, into a linear and a tiled part. -/
theorem load_in_parts_wrapped :
    let m : ExternalMemory := .ofBytes fun address => .ofNat (address.toNat * 7)
    let load : BlockLoad := ⟨0x100, 64, .bits32, 3, 1102, 2, 0, 4088⟩
    m.Bytewise ∧ load.SplitsAt 303 ∧ load.texelCount ≤ 2048 ∧ 4096 < load.byteCount ∧
    ∃ whole first parts,
      powerOn.load? m load 2048 = some whole ∧
      powerOn.load? m (load.firstPart 303 0) 2048 = some first ∧
      first.load? m (load.secondPart 303 512) 2048 = some parts ∧
      (∀ address, parts.texel16At address = whole.texel16At address) ∧
      parts.texelsLoaded = whole.texelsLoaded := by
  intro m load
  have hm : m.Bytewise := ExternalMemory.ofBytes_bytewise _
  have hsplit : load.SplitsAt 303 := ⟨by decide, by decide, by decide, by decide⟩
  have haccepted : load.texelCount ≤ 2048 := by decide
  obtain ⟨whole, first, parts, hwhole, hfirst, hparts, htexels, hcount, -⟩ :=
    load_in_parts powerOn hm hsplit haccepted 0 512
  exact ⟨hm, hsplit, haccepted, by decide, whole, first, parts, hwhole, hfirst, hparts, htexels,
    hcount⟩

end TextureMemory

end DisplayProcessor
