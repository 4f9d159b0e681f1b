import DisplayProcessor.Assembly
import DisplayProcessor.Proofs.HandleOwnership
import DisplayProcessor.Proofs.LatchedState

/-!
# A reset is a power-on

A reset leaves nothing behind but the settings and the allocator, so that a processor goes on from
there like a new one. On the way it gives the allocator back every handle that the tile table owns,
cached or retired, and none else. No handle is given back twice, if the allocator never gave one
out twice.

- `TextureAllocator.NeverReuses`: an allocator that never gives a handle out twice.
- `Recorder`: an allocator that writes down what it is given back.
- `Processor.OwnsOnce`: no handle of the tile table is there twice; `Processor.OwnsOnce.after`.
- `Processor.frame_retired_after`: no handle is retired to the frame under construction.
- `Processor.reset_eq_powerOn`: the main result.
-/

namespace DisplayProcessor

open scoped List
open List (Perm)

/-! ## Allocators -/

namespace TextureAllocator

variable {α : Type} [TextureAllocator α]

/-- The handles that an allocator has given out. It never gives out one of them again, whatever else
it is asked, and whether or not it was given the handle back. -/
structure NeverReuses (issued : α → TextureHandle → Prop) : Prop where
  fresh {store after : α} {image : Image} {handle : TextureHandle} :
    allocate store image = (.ok handle, after) → ¬ issued store handle ∧ issued after handle
  allocate {store : α} {handle : TextureHandle} (image : Image) :
    issued store handle → issued (allocate store image).2 handle
  release {store : α} {handle : TextureHandle} (given : TextureHandle) :
    issued store handle → issued (release store given) handle

/-- Releasing any handles takes back no handle that was issued. -/
theorem NeverReuses.releaseAll {issued : α → TextureHandle → Prop} (h : NeverReuses issued)
    {store : α} {handle : TextureHandle} (hissued : issued store handle)
    (handles : List TextureHandle) : issued (releaseAll store handles) handle := by
  induction handles generalizing store with
  | nil => exact hissued
  | cons first rest ih => exact ih (h.release first hissued)

end TextureAllocator

/-- A pool hands out every number once: a released entry is emptied and its number is not given to a
later texture. -/
theorem TexturePool.neverReuses : TextureAllocator.NeverReuses TexturePool.Issued where
  fresh {store after image handle} h := by
    have h : store.allocate image = (.ok handle, after) := h
    unfold allocate at h
    split at h
    · cases h
      exact ⟨store.not_issued_fresh, store.issued_fresh_keep image⟩
    · cases h
  allocate {store handle} image h := by
    show (store.allocate image).2.Issued handle
    unfold TexturePool.allocate
    split
    · exact h.keep image
    · exact h
  release {store handle} given h := by
    refine ⟨h.1, ?_⟩
    show handle.id ≤ (store.release given).entries.size
    -- The entry stays in its place, so the numbers below the size stay issued.
    rw [size_entries_release]
    exact h.2

/-- An allocator that writes down the handles that it is given back, in order. -/
structure Recorder (α : Type) where
  store : α
  released : List TextureHandle

namespace Recorder

variable {α : Type} [TextureAllocator α]

instance : TextureAllocator (Recorder α) where
  allocate r image :=
    let (result, store) := TextureAllocator.allocate r.store image
    (result, { r with store := store })
  release r handle :=
    ⟨TextureAllocator.release r.store handle, r.released ++ [handle]⟩

/-- Handles that are given back are written down one by one. -/
theorem released_releaseAll (r : Recorder α) (handles : List TextureHandle) :
    (TextureAllocator.releaseAll r handles).released = r.released ++ handles := by
  induction handles generalizing r with
  | nil => exact (List.append_nil _).symm
  | cons first rest ih =>
    refine (ih (TextureAllocator.release r first)).trans ?_
    exact List.append_assoc r.released [first] rest

/-- Writing down what is given back changes nothing about what is given out. -/
theorem neverReuses {issued : α → TextureHandle → Prop} (h : TextureAllocator.NeverReuses issued) :
    TextureAllocator.NeverReuses fun r : Recorder α => issued r.store where
  fresh {r after image handle} hresult := by
    -- The log has no part in an allocation, so the answer is that of the store.
    rcases hstore : TextureAllocator.allocate r.store image with ⟨result, store⟩
    have hpair : TextureAllocator.allocate r image = (result, { r with store := store }) := by
      show (let (result, store) := TextureAllocator.allocate r.store image
        (result, { r with store := store })) = _
      rw [hstore]
    rw [hpair] at hresult
    cases hresult
    exact h.fresh hstore
  allocate image hissued := h.allocate image hissued
  release given hissued := h.release given hissued

end Recorder

namespace Processor

variable {α : Type} [TextureAllocator α]

/-! ## Handles of the tile table -/

/-- The tile table owns no handle twice, and only handles that the allocator gave out. -/
structure OwnsOnce (issued : α → TextureHandle → Prop) (p : Processor α) : Prop where
  distinct : p.tiles.handles.Nodup
  issued : ∀ handle ∈ p.tiles.handles, issued p.allocator handle

namespace OwnsOnce

variable {issued : α → TextureHandle → Prop} {p q : Processor α}

omit [TextureAllocator α] in
theorem powerOn (settings : Settings) (allocator : α) :
    (Processor.powerOn settings allocator).OwnsOnce issued :=
  ⟨List.nodup_nil, fun _ h => absurd h List.not_mem_nil⟩

/-- Whatever the processor does with its handles, it owns each of them once. A handle that it gets
from the allocator is one that was not issued, and so none of those it owns. -/
theorem of_movesHandles (h : p.OwnsOnce issued) (hreuse : TextureAllocator.NeverReuses issued)
    (hq : p.MovesHandles q) : q.OwnsOnce issued := by
  cases hq with
  | moved hallocator hhandles =>
    refine ⟨hhandles.nodup_iff.mpr h.distinct, fun handle hmem => ?_⟩
    rw [hallocator]
    exact h.issued handle (hhandles.mem_iff.mp hmem)
  | @refused image e _ hrefused hhandles =>
    refine ⟨hhandles.nodup_iff.mpr h.distinct, fun handle hmem => ?_⟩
    have hissued := hreuse.allocate image (h.issued handle (hhandles.mem_iff.mp hmem))
    rwa [hrefused] at hissued
  | @built image handle _ hbuilt hhandles =>
    obtain ⟨hfresh, hnow⟩ := hreuse.fresh hbuilt
    constructor
    · exact hhandles.nodup_iff.mpr
        (List.nodup_cons.mpr ⟨fun hmem => hfresh (h.issued handle hmem), h.distinct⟩)
    · intro found hmem
      rcases List.mem_cons.mp (hhandles.mem_iff.mp hmem) with rfl | hold
      · exact hnow
      · have hissued := hreuse.allocate image (h.issued found hold)
        rwa [hbuilt] at hissued

theorem perform (h : p.OwnsOnce issued) (hreuse : TextureAllocator.NeverReuses issued)
    (op : Operation) : (p.perform op).2.OwnsOnce issued := by
  cases op with
  | processBatch m batch =>
    exact processBatch_induction (P := OwnsOnce issued)
      (fun q command hq => hq.of_movesHandles hreuse (q.execute_movesHandles m command)) h batch
  | execute m row => exact h.of_movesHandles hreuse (p.execute_movesHandles m (.decode row))
  | decodeTile n => exact h.of_movesHandles hreuse (p.decodeTile_movesHandles n)
  | takeFrame =>
    -- What was retired goes out with the frame, what is cached stays.
    have hcached : (p.perform .takeFrame).2.tiles.handles = p.tiles.cached := List.append_nil _
    constructor
    · rw [hcached]
      exact (List.nodup_append.mp h.distinct).1
    · intro handle hmem
      rw [hcached] at hmem
      exact h.issued handle (List.mem_append_left _ hmem)
  | reset => exact ⟨List.nodup_nil, fun _ hmem => absurd hmem List.not_mem_nil⟩
  | release handles =>
    exact ⟨h.distinct, fun handle hmem => hreuse.releaseAll (h.issued handle hmem) handles⟩

/-- Any run of operations keeps what is owned distinct and issued. -/
theorem after (h : p.OwnsOnce issued) (hreuse : TextureAllocator.NeverReuses issued)
    (ops : List Operation) : (p.after ops).OwnsOnce issued := by
  induction ops generalizing p with
  | nil => exact h
  | cons op rest ih => exact ih (h.perform hreuse op)

end OwnsOnce

/-! ## The frame under construction -/

/-- A command retires no handle to the frame; handles are retired in the tile table. -/
theorem frame_retired_execute (p : Processor α) (m : ExternalMemory) (command : Command) :
    (p.execute m command).2.frame.retired = p.frame.retired := by
  have hspec := p.execute_recordSpec m command
  generalize (p.execute m command).2.frame = frame at hspec
  cases hspec with
  | triangle => rfl
  | fillRect => rfl
  | nothing => rfl

/-- No operation leaves handles in the frame: they are put there only when it is taken. -/
theorem frame_retired_perform {p : Processor α} (hp : p.frame.retired = []) (op : Operation) :
    (p.perform op).2.frame.retired = [] := by
  cases op with
  | processBatch m batch =>
    exact processBatch_induction (P := fun q => q.frame.retired = [])
      (fun q command hq => (q.frame_retired_execute m command).trans hq) hp batch
  | execute m row => exact (p.frame_retired_execute m (.decode row)).trans hp
  | decodeTile n =>
    show (p.decodeTile n).2.frame.retired = []
    rw [decodeTile_frame]
    exact hp
  | takeFrame => rfl
  | reset => rfl
  | release handles => exact hp

/-- The frame that is being built holds no retired handles, whatever was done. -/
theorem frame_retired_after {p : Processor α} (hp : p.frame.retired = []) (ops : List Operation) :
    (p.after ops).frame.retired = [] := by
  induction ops generalizing p with
  | nil => exact hp
  | cons op rest ih => exact ih (frame_retired_perform hp op)

/-! ## Resets -/

/-- A reset releases the retired handles and then the cached ones, and leaves a processor as at
power-on. -/
theorem reset_eq {p : Processor α} (hp : p.frame.retired = []) :
    p.reset = powerOn p.settings
      (TextureAllocator.releaseAll p.allocator (p.tiles.retired ++ p.tiles.cached)) := by
  have hall : p.tiles.reset.takeRetired.1 ++ p.frame.retired =
      p.tiles.retired ++ p.tiles.cached := by
    rw [hp, List.append_nil]
    rfl
  rw [← hall]
  rfl

/-- **A reset is a power-on.** In every state after power-on, a reset leads to the processor that is
built anew with the same settings, over an allocator that was given back the handles of the tile
table: each retired one, then each cached one. All that is done afterwards has the same answers and
leads to the same state. Over an allocator that never gives a handle out twice, each of these handles
is given back once. -/
theorem reset_eq_powerOn (settings : Settings) (allocator : α) (ops : List Operation) :
    let p := (powerOn settings allocator).after ops
    let released := p.tiles.retired ++ p.tiles.cached
    let fresh := powerOn settings (TextureAllocator.releaseAll p.allocator released)
    p.reset = fresh ∧
    (∀ later, p.reset.answers later = fresh.answers later ∧
      p.reset.after later = fresh.after later) ∧
    ∀ issued : α → TextureHandle → Prop, TextureAllocator.NeverReuses issued → ∀ handle,
      released.count handle =
        if handle ∈ p.tiles.cached ∨ handle ∈ p.tiles.retired then 1 else 0 := by
  intro p released fresh
  -- A reset keeps the settings, which no operation changes, and the retired list of the frame,
  -- which is empty until the frame is taken.
  have hsettings : p.settings = settings := (follows_after settings allocator ops).settings_eq
  have hframe : p.frame.retired = [] :=
    frame_retired_after (p := Processor.powerOn settings allocator) rfl ops
  have hreset : p.reset = fresh := by
    rw [reset_eq hframe, hsettings]
  refine ⟨hreset, fun later => by rw [hreset]; exact ⟨rfl, rfl⟩, fun issued hreuse handle => ?_⟩
  -- The caches and the retired list have no handle in common, and none twice.
  have howns : p.OwnsOnce issued := (OwnsOnce.powerOn settings allocator).after hreuse ops
  have hperm : released ~ p.tiles.handles := List.perm_append_comm
  rw [hperm.count_eq, howns.distinct.count]
  exact if_congr List.mem_append rfl rfl

/-- Three textures are built, and the first one is dropped. -/
def buildThree : List Row :=
  let axis : TileAxis := default
  [.setTextureImage 0 2 4 0, .loadTile 0 ⟨0, 1, 0, 0⟩, .loadTile 1 ⟨0, 1, 0, 0⟩,
    .loadTile 2 ⟨0, 1, 0, 0⟩, .setTile 0 0 2 0 8 0 axis axis]

/-- A reset gives back the dropped texture, then the two cached ones. -/
theorem reset_eq_powerOn_buildThree :
    let memory : ExternalMemory := .ofBytes fun address => .ofNat address.toNat
    let allocator : Recorder TexturePool := ⟨.empty, []⟩
    let ops : List Operation := buildThree.map (.execute memory)
    let p := (powerOn .standard allocator).after ops
    let released := p.tiles.retired ++ p.tiles.cached
    let fresh := powerOn .standard (TextureAllocator.releaseAll p.allocator released)
    released = [⟨1⟩, ⟨2⟩, ⟨3⟩] ∧
    p.reset.allocator.released = [⟨1⟩, ⟨2⟩, ⟨3⟩] ∧
    p.reset = fresh ∧
    (∀ later, p.reset.answers later = fresh.answers later ∧
      p.reset.after later = fresh.after later) ∧
    ∀ handle, released.count handle =
      if handle ∈ p.tiles.cached ∨ handle ∈ p.tiles.retired then 1 else 0 := by
  intro memory allocator ops p released fresh
  obtain ⟨hreset, hlater, hcount⟩ := reset_eq_powerOn .standard allocator ops
  -- Three textures were built, of which the first two were dropped again.
  have hreleased : released = [⟨1⟩, ⟨2⟩, ⟨3⟩] := by decide +kernel
  have hlog : p.allocator.released = [] := by decide +kernel
  refine ⟨hreleased, ?_, hreset, hlater,
    hcount _ (Recorder.neverReuses TexturePool.neverReuses)⟩
  calc p.reset.allocator.released
      = (TextureAllocator.releaseAll p.allocator released).released := by rw [hreset]; rfl
    _ = p.allocator.released ++ released := p.allocator.released_releaseAll released
    _ = [⟨1⟩, ⟨2⟩, ⟨3⟩] := by rw [hlog, hreleased]; rfl

end Processor

end DisplayProcessor
