import DisplayProcessor.Proofs.HandleOwnership

/-!
# Textures of queued triangles

A triangle keeps the texture that its tile had when it was queued. The tile may drop that texture at
any time, but then its handle waits among the retired ones and goes out with this frame or a later
one, so the texture stays in the pool, with the same image, until the consumer releases it.

- `Session.frame?`: the frames by number, the last one being under construction.
- `Session.Anchored`: what is queued has an owner in the tile table.
- `Session.Keeps`: a queued texture, some operations later.
- `Session.queued_texture_kept`: what follows for every session.
-/

namespace DisplayProcessor

namespace Processor

/-- What moves handles loses none. -/
theorem Accrues.mem_handles {p q : Processor TexturePool} (h : p.Accrues q)
    {handle : TextureHandle} (hmem : handle ∈ p.tiles.handles) : handle ∈ q.tiles.handles := by
  obtain ⟨-, hperm⟩ | ⟨_, -, hperm⟩ := h
  · exact hperm.mem_iff.mpr hmem
  · exact hperm.mem_iff.mpr (List.mem_cons_of_mem _ hmem)

/-- What builds textures leaves the images of the others alone. -/
theorem Accrues.retains {p q : Processor TexturePool} (h : p.Accrues q) (handle : TextureHandle) :
    p.allocator.Retains q.allocator handle := by
  obtain ⟨hpool, -⟩ | ⟨image, hpool, -⟩ := h
  · rw [hpool]
    exact fun _ hget => hget
  · rw [hpool]
    exact p.allocator.retains_keep image handle

/-- A command removes no triangle from the frame. -/
theorem mem_triangles_execute {p : Processor TexturePool} {triangle : Triangle}
    (h : triangle ∈ p.frame.triangles) (m : ExternalMemory) (command : Command) :
    triangle ∈ (p.execute m command).2.frame.triangles := by
  rcases p.execute_frame m command with heq | ⟨rect, heq⟩ | ⟨new, heq, -⟩
  · rwa [heq]
  · rw [heq]
    exact h
  · rw [heq]
    exact Array.mem_push_of_mem new h

end Processor

namespace Session

/-- A frame by its number. The one under construction comes after those that were handed off. -/
def frame? (s : Session) (k : Nat) : Option Frame :=
  (s.frames ++ [s.processor.frame])[k]?

theorem frame?_of_lt {s : Session} {k : Nat} (h : k < s.frames.length) :
    s.frame? k = s.frames[k]? :=
  List.getElem?_append_left h

/-- The last of the frames is the one under construction. -/
@[simp] theorem frame?_length (s : Session) :
    s.frame? s.frames.length = some s.processor.frame :=
  List.getElem?_concat_length

/-- There is no frame behind the one under construction. -/
theorem le_length_of_frame? {s : Session} {k : Nat} {frame : Frame}
    (h : s.frame? k = some frame) : k ≤ s.frames.length := by
  obtain ⟨hlt, -⟩ := List.getElem?_eq_some_iff.mp h
  rw [List.length_append] at hlt
  exact Nat.le_of_lt_succ hlt

/-! ## The frame under construction -/

/-- The handles of queued triangles are cached or retired. -/
def Anchored (s : Session) : Prop :=
  ∀ triangle ∈ s.processor.frame.triangles, ∀ texture, triangle.texture = some texture →
    texture.handle ∈ s.processor.tiles.handles

namespace Anchored

variable {s : Session}

theorem start (settings : Settings) (pool : TexturePool) : (Session.start settings pool).Anchored :=
  fun _ h => absurd h (Array.not_mem_empty _)

/-- A command leaves triangles anchored: handles stay in the tile table, and a new triangle has its
texture from a slot. -/
theorem execute (h : s.Anchored) (m : ExternalMemory) (command : Command) :
    (s.withProcessor (s.processor.execute m command).2).Anchored := by
  intro triangle hmem texture htexture
  have haccrues := s.processor.execute_accrues m command
  show texture.handle ∈ (s.processor.execute m command).2.tiles.handles
  have hmem : triangle ∈ (s.processor.execute m command).2.frame.triangles := hmem
  -- Two of three kinds of commands add no triangle; the third adds one whose texture is cached.
  rcases s.processor.execute_frame m command with heq | ⟨rect, heq⟩ | ⟨new, heq, hnew⟩
  · rw [heq] at hmem
    exact haccrues.mem_handles (h triangle hmem texture htexture)
  · rw [heq] at hmem
    exact haccrues.mem_handles (h triangle hmem texture htexture)
  · rw [heq] at hmem
    rcases Array.mem_push.mp hmem with hold | rfl
    · exact haccrues.mem_handles (h triangle hold texture htexture)
    · exact List.mem_append_left _ (hnew texture htexture)

/-- Every operation keeps queued handles in the table, or leaves no triangle queued. -/
theorem perform (h : s.Anchored) (op : Operation) : (s.perform op).Anchored := by
  cases op with
  | processBatch m batch =>
    exact Processor.processBatch_induction (P := fun p => (s.withProcessor p).Anchored)
      (fun p command hp => hp.execute m command) h batch
  | execute m row => exact h.execute m (.decode row)
  | decodeTile n =>
    intro triangle hmem texture htexture
    have hmem : triangle ∈ (s.processor.decodeTile n).2.frame.triangles := hmem
    rw [s.processor.decodeTile_frame n] at hmem
    exact (s.processor.decodeTile_accrues n).mem_handles (h triangle hmem texture htexture)
  | takeFrame => exact fun _ hmem => absurd hmem (Array.not_mem_empty _)
  | reset => exact fun _ hmem => absurd hmem (Array.not_mem_empty _)
  | release handles => exact h

/-- In every session that is permitted the triangles of the frame are anchored. -/
theorem after (h : s.Anchored) {ops : List Operation} (hops : s.PermitsAll ops) :
    (s.after ops).Anchored :=
  after_induction (fun _ op _ hs => hs.perform op) hops h

end Anchored

/-! ## One texture over time -/

/-- A triangle of frame `k` and its texture: the handle has an owner in the table, or went out with
this frame or a later one, and the image is there unless the handle was released. -/
structure Keeps (k : Nat) (triangle : Triangle) (handle : TextureHandle) (image : Image)
    (s : Session) : Prop where
  drawn : ∃ frame, s.frame? k = some frame ∧ triangle ∈ frame.triangles
  owned : handle ∈ s.processor.tiles.handles ∨
    ∃ frame ∈ s.frames.drop k, handle ∈ frame.retired
  unreleased : handle ∉ s.released → s.pool.get? handle = some image

namespace Keeps

variable {k : Nat} {triangle : Triangle} {handle : TextureHandle} {image : Image} {s : Session}

/-- A processor that only gains handles, and only adds triangles, keeps the texture. -/
theorem of_accrues (h : Keeps k triangle handle image s) {q : Processor TexturePool}
    (hq : s.processor.Accrues q)
    (hframe : ∀ t ∈ s.processor.frame.triangles, t ∈ q.frame.triangles) :
    Keeps k triangle handle image (s.withProcessor q) where
  drawn := by
    obtain ⟨frame, hk, hmem⟩ := h.drawn
    -- Frames that were handed off stay as they are, and the last one only grows.
    rcases Nat.lt_or_eq_of_le (le_length_of_frame? hk) with hlt | rfl
    · rw [frame?_of_lt hlt] at hk
      exact ⟨frame, (frame?_of_lt (s := s.withProcessor q) hlt).trans hk, hmem⟩
    · rw [frame?_length, Option.some.injEq] at hk
      subst hk
      exact ⟨q.frame, (s.withProcessor q).frame?_length, hframe triangle hmem⟩
  owned := h.owned.imp_left hq.mem_handles
  unreleased hkept := hq.retains handle image (h.unreleased hkept)

/-- A command keeps the texture. -/
theorem execute (h : Keeps k triangle handle image s) (m : ExternalMemory) (command : Command) :
    Keeps k triangle handle image (s.withProcessor (s.processor.execute m command).2) :=
  h.of_accrues (s.processor.execute_accrues m command)
    fun _ hmem => Processor.mem_triangles_execute hmem m command

/-- The frame under construction becomes the last one that was handed off, with the retired
handles. -/
theorem takeFrame (h : Keeps k triangle handle image s) :
    Keeps k triangle handle image (s.perform .takeFrame) := by
  obtain ⟨frame, hk, hmem⟩ := h.drawn
  have hle := le_length_of_frame? hk
  have hframes : (s.perform .takeFrame).frames = s.frames ++ [s.processor.takeFrame.1] := rfl
  have hlt : k < (s.perform .takeFrame).frames.length := by
    rw [hframes, List.length_append]
    exact Nat.lt_succ_of_le hle
  constructor
  · rw [frame?_of_lt hlt, hframes]
    -- The frame of the triangle was handed off before, or it is the one that goes out now.
    rcases Nat.lt_or_eq_of_le hle with hold | rfl
    · rw [frame?_of_lt hold] at hk
      exact ⟨frame, (List.getElem?_append_left hold).trans hk, hmem⟩
    · rw [frame?_length, Option.some.injEq] at hk
      subst hk
      exact ⟨_, List.getElem?_concat_length, hmem⟩
  · -- A cached handle stays in its slot; a pending one goes out now, with frame `k` or a later one.
    rw [hframes, List.drop_append_of_le_length hle]
    rcases h.owned with htable | ⟨later, hlater, hretired⟩
    · rcases List.mem_append.mp htable with hcached | hpending
      · exact .inl (List.mem_append_left _ hcached)
      · exact .inr ⟨_, List.mem_append_right _ (List.mem_singleton_self _), hpending⟩
    · exact .inr ⟨later, List.mem_append_left _ hlater, hretired⟩
  · exact h.unreleased

/-- Handles that the consumer releases are out of the pool, so no others are touched. -/
theorem release (h : Keeps k triangle handle image s) (handles : List TextureHandle) :
    Keeps k triangle handle image (s.perform (.release handles)) where
  drawn := h.drawn
  owned := h.owned
  unreleased hkept := by
    have hkept : handle ∉ s.released ++ handles := hkept
    rw [List.mem_append, not_or] at hkept
    exact s.pool.retains_releaseAll hkept.2 image (h.unreleased hkept.1)

theorem perform (h : Keeps k triangle handle image s) {op : Operation} (hreset : op ≠ .reset) :
    Keeps k triangle handle image (s.perform op) := by
  cases op with
  | processBatch m batch =>
    exact Processor.processBatch_induction
      (P := fun p => Keeps k triangle handle image (s.withProcessor p))
      (fun p command hp => hp.execute m command) h batch
  | execute m row => exact h.execute m (.decode row)
  | decodeTile n =>
    refine h.of_accrues (s.processor.decodeTile_accrues n) fun t ht => ?_
    show t ∈ (s.processor.decodeTile n).2.frame.triangles
    rwa [s.processor.decodeTile_frame n]
  | takeFrame => exact h.takeFrame
  | reset => exact absurd rfl hreset
  | release handles => exact h.release handles

/-- Operations without a reset keep the texture. -/
theorem after (h : Keeps k triangle handle image s) {ops : List Operation}
    (hreset : .reset ∉ ops) : Keeps k triangle handle image (s.after ops) := by
  induction ops generalizing s with
  | nil => exact h
  | cons op rest ih =>
    rw [List.mem_cons, not_or] at hreset
    exact ih (h.perform (Ne.symm hreset.1)) hreset.2

/-- While nothing was handed off, the triangle is queued and the table owns the handle. -/
theorem of_drop_eq_nil (h : Keeps k triangle handle image s) (hnone : s.frames.drop k = []) :
    triangle ∈ s.processor.frame.triangles ∧ handle ∈ s.processor.tiles.handles := by
  obtain ⟨frame, hframe, hdrawn⟩ := h.drawn
  have hlength : k = s.frames.length :=
    Nat.le_antisymm (le_length_of_frame? hframe) (List.drop_eq_nil_iff.mp hnone)
  refine ⟨?_, h.owned.resolve_right ?_⟩
  · rw [hlength, frame?_length, Option.some.injEq] at hframe
    rwa [hframe]
  · rintro ⟨later, hlater, -⟩
    rw [hnone] at hlater
    exact absurd hlater List.not_mem_nil

/-- After the hand-off, the triangle is in the frame that was under construction. -/
theorem of_drop_eq_cons (h : Keeps k triangle handle image s) {frame : Frame} {rest : List Frame}
    (hcons : s.frames.drop k = frame :: rest) : triangle ∈ frame.triangles := by
  obtain ⟨found, hfound, hdrawn⟩ := h.drawn
  have hframe : s.frames[k]? = some frame := by
    rw [← List.head?_drop, hcons, List.head?_cons]
  rw [frame?_of_lt (List.getElem?_eq_some_iff.mp hframe).1, hframe, Option.some.injEq] at hfound
  rwa [hfound]

/-- Only what went out with this frame or a later one can have been released. -/
theorem not_mem_released {base : TexturePool} (h : Keeps k triangle handle image s)
    (hs : s.Accounted base)
    (hlater : ∀ frame ∈ s.frames.drop k, ∀ handle ∈ frame.retired, handle ∉ s.released) :
    handle ∉ s.released := by
  rcases h.owned with htable | ⟨frame, hframe, hretired⟩
  · exact hs.not_mem_released htable
  · exact hlater frame hframe handle hretired

end Keeps

/-- A queued triangle has its texture in the pool, and keeps it from there on. -/
theorem exists_keeps {base : TexturePool} {s : Session} (hs : s.Accounted base) (ha : s.Anchored)
    {triangle : Triangle} (hmem : triangle ∈ s.processor.frame.triangles) {texture : TextureRef}
    (htexture : triangle.texture = some texture) :
    ∃ image, s.pool.get? texture.handle = some image ∧
      Keeps s.frames.length triangle texture.handle image s := by
  have htable := ha triangle hmem texture htexture
  obtain ⟨image, hget⟩ := Option.isSome_iff_exists.mp (hs.live_of_mem htable)
  exact ⟨image, hget, ⟨_, s.frame?_length, hmem⟩, .inl htable, fun _ => hget⟩

/-- **No queued triangle loses its texture.** Take any moment of a session at which a triangle with
a texture is in the frame under construction. As long as this frame is not handed off, the handle is
cached or waits among the retired ones, and the image behind it is the same. After the hand-off the
triangle is in the frame that was handed off, and the texture stays as it is until a handle is
released that went out with this frame or a later one, or the processor is reset. -/
theorem queued_texture_kept (settings : Settings) (pool : TexturePool)
    {before since : List Operation}
    (hops : (start settings pool).PermitsAll (before ++ since)) (hreset : .reset ∉ since) :
    let s := (start settings pool).after before
    let s' := s.after since
    let later := s'.frames.drop s.frames.length
    ∀ triangle ∈ s.processor.frame.triangles, ∀ texture, triangle.texture = some texture →
      ∃ image, s.pool.get? texture.handle = some image ∧
        (later = [] →
          triangle ∈ s'.processor.frame.triangles ∧
          (texture.handle ∈ s'.cached ∨ texture.handle ∈ s'.pending) ∧
          s'.pool.get? texture.handle = some image) ∧
        (∀ frame rest, later = frame :: rest →
          triangle ∈ frame.triangles ∧
          (texture.handle ∈ s'.cached ∨ texture.handle ∈ s'.pending ∨
            ∃ frame ∈ later, texture.handle ∈ frame.retired) ∧
          ((∀ frame ∈ later, ∀ handle ∈ frame.retired, handle ∉ s'.released) →
            s'.pool.get? texture.handle = some image)) := by
  intro s s' later triangle hmem texture htexture
  obtain ⟨hbefore, hsince⟩ := permitsAll_append.mp hops
  have hs : Accounted pool s := (Accounted.start settings pool).after hbefore
  have hs' : Accounted pool s' := hs.after hsince
  obtain ⟨image, hget, hkeeps⟩ :=
    exists_keeps hs ((Anchored.start settings pool).after hbefore) hmem htexture
  have hkeeps' : Keeps s.frames.length triangle texture.handle image s' := hkeeps.after hreset
  refine ⟨image, hget, fun hnone => ?_, fun frame rest hcons => ?_⟩
  · -- Nothing was handed off since, so the handle is still in the tile table.
    obtain ⟨hdrawn, htable⟩ := hkeeps'.of_drop_eq_nil hnone
    exact ⟨hdrawn, List.mem_append.mp htable,
      hkeeps'.unreleased (hs'.not_mem_released htable)⟩
  · refine ⟨hkeeps'.of_drop_eq_cons hcons, ?_, fun hlater => ?_⟩
    · -- A frame was handed off since, which may have taken the handle along.
      rw [← or_assoc, ← show _ ↔ _ ∨ _ from List.mem_append]
      exact hkeeps'.owned
    · exact hkeeps'.unreleased (hkeeps'.not_mem_released hs' hlater)

/-- A frame is handed off after its tile has changed. The next one has a triangle with a texture
from texture memory. -/
def drawTwice : List Operation :=
  let memory := .ofBytes fun address => .ofNat address.toNat
  let axis : TileAxis := default
  [.processBatch memory (.ofRows [
      .setTextureImage 0 2 4 0, .loadTile 1 ⟨0, 1, 0, 0⟩, [0x0A010000]]),
    .execute memory (.setTile 1 0 2 0 8 0 axis axis), .takeFrame,
    .processBatch memory (.ofRows [
      .setTile 0 0 2 0 8 0 axis axis, .setTileSize 0 ⟨0, 3, 0, 0⟩, .loadBlock 0 0 0 3 0,
      [0x0A000000]])]

/-- Other texels are loaded, the texture of the first frame is released, and two frames are handed
off. -/
def overwriteAndHandOff : List Operation :=
  let memory := .ofBytes fun _ => 0
  [.execute memory (.loadBlock 0 0 0 3 0), .release [⟨1⟩], .takeFrame, .decodeTile 0, .takeFrame]

/-- The texture of a triangle outlives its slot and its frame, while another one is released. -/
theorem queued_texture_kept_overwriteAndHandOff :
    let s := (start .standard .empty).after drawTwice
    let s' := s.after overwriteAndHandOff
    s'.handedOff = [⟨1⟩, ⟨2⟩] ∧ s'.released = [⟨1⟩] ∧
    ∃ image, s.pool.get? ⟨2⟩ = some image ∧ s'.pool.get? ⟨2⟩ = some image := by
  intro s s'
  refine ⟨by decide +kernel, by decide +kernel, ?_⟩
  obtain ⟨triangle, hmem, htexture⟩ :
      ∃ triangle ∈ ((start .standard .empty).after drawTwice).processor.frame.triangles,
        triangle.texture = some ⟨⟨2⟩, 4, 1⟩ := by decide +kernel
  obtain ⟨image, hget, -, hout⟩ :=
    @queued_texture_kept .standard .empty drawTwice overwriteAndHandOff (by decide +kernel)
      (by simp [overwriteAndHandOff]) triangle hmem _ htexture
  obtain ⟨-, -, hkept⟩ := hout _ _ rfl
  exact ⟨image, hget, hkept (by decide +kernel)⟩

end Session

end DisplayProcessor
