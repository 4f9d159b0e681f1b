import DisplayProcessor.Proofs.PoolAllocation

/-!
# A pool and its history

What a pool answers follows from what happened to it. It keeps an image exactly if its bytes fit its
dimensions, and gives out a handle above all that it gave out before. Behind a handle is the image
for which it was given out, until it is released; other releases change nothing.

- `TexturePool.handles`: the handles of the live textures.
- `TexturePool.History`: a pool with all that happened to it; calls go to its end.
- `TexturePool.StandsFor`: the image of a handle, by the history alone.
- `TexturePool.History.Faithful`: what is behind the handles of a pool agrees with its history;
  kept by every call (`Faithful.perform`).
- `TexturePool.answers_of_history`: the main result.
-/

namespace DisplayProcessor

namespace TexturePool

/-! ## Live handles -/

/-- The handles of the live textures. -/
def handles (pool : TexturePool) : List TextureHandle :=
  ((List.range pool.entries.size).map fun i => ⟨i + 1⟩).filter fun handle =>
    (pool.get? handle).isSome

/-- The handles of the live textures are the live handles. -/
theorem mem_handles_iff {pool : TexturePool} {handle : TextureHandle} :
    handle ∈ pool.handles ↔ pool.Live handle := by
  unfold handles
  rw [List.mem_filter, List.mem_map]
  constructor
  · rintro ⟨-, hlive⟩
    exact hlive
  · intro hlive
    obtain ⟨hpos, hle⟩ := hlive.issued
    refine ⟨⟨handle.id - 1, List.mem_range.mpr (by omega), ?_⟩, hlive⟩
    rw [Nat.sub_add_cancel hpos]

/-- No handle is listed twice. -/
theorem nodup_handles (pool : TexturePool) : pool.handles.Nodup := by
  refine List.Pairwise.filter _ (List.pairwise_map.mpr (List.nodup_range.imp ?_))
  intro i j hne heq
  injection heq with hid
  exact hne (Nat.succ_inj.mp hid)

/-- There are as many live handles as entries with an image. -/
theorem length_handles (pool : TexturePool) : pool.handles.length = pool.size := by
  have hentries : pool.entries.toList =
      (List.range pool.entries.size).map fun i => pool.get? ⟨i + 1⟩ := by
    apply List.ext_getElem?
    intro i
    by_cases hi : i < pool.entries.size
    · simp [get?, hi]
    · simp [hi]
  unfold handles size
  rw [← Array.countP_toList, hentries, List.countP_map, ← List.countP_eq_length_filter,
    List.countP_map]
  rfl

/-! ## Histories -/

/-- An image that fits its dimensions is kept, and any other is refused and changes nothing. -/
theorem allocate_cases (pool : TexturePool) (image : Image) :
    (image.bytes.size = image.width * image.height * 4 ∧
      pool.allocate image = (.ok pool.fresh, pool.keep image)) ∨
    (image.bytes.size ≠ image.width * image.height * 4 ∧
      ∃ e, pool.allocate image = (.error e, pool)) := by
  by_cases hsize : image.bytes.size = image.expectedBytes
  · exact .inl ⟨hsize, pool.allocate_eq_keep hsize⟩
  · exact .inr ⟨hsize, _, if_neg hsize⟩

/-- A call to a pool. -/
inductive Call where
  | allocate (image : Image)
  | release (handle : TextureHandle)

/-- What happened at a call. -/
inductive Event where
  | kept (image : Image) (handle : TextureHandle)
  | refused (image : Image)
  | released (handle : TextureHandle)
deriving DecidableEq

/-- A pool and what happened to it, in order. -/
structure History where
  pool : TexturePool
  events : List Event

namespace History

/-- The pool to which nothing happened. -/
def start : History := ⟨.empty, []⟩

/-- The history after one more call. -/
def perform (h : History) : Call → History
  | .allocate image =>
    match h.pool.allocate image with
    | (.ok handle, pool) => ⟨pool, h.events ++ [.kept image handle]⟩
    | (.error _, pool) => ⟨pool, h.events ++ [.refused image]⟩
  | .release handle => ⟨h.pool.release handle, h.events ++ [.released handle]⟩

/-- The history after calls, one after the other. -/
def after (h : History) (calls : List Call) : History :=
  calls.foldl perform h

end History

/-- The handles that were given out, in order. -/
def givenOut (events : List Event) : List TextureHandle :=
  events.filterMap fun
    | .kept _ handle => some handle
    | .refused _ | .released _ => none

/-- The handle was given out for the image and has not been released since. -/
def StandsFor (events : List Event) (handle : TextureHandle) (image : Image) : Prop :=
  ∃ before later, events = before ++ .kept image handle :: later ∧ .released handle ∉ later

/-- Nothing was given out before anything happened. -/
theorem not_standsFor_nil (handle : TextureHandle) (image : Image) :
    ¬ StandsFor [] handle image := by
  rintro ⟨before, later, h, -⟩
  simp at h

/-- One more event gives the handle an image, or leaves it the one that it has. -/
theorem standsFor_append_singleton {events : List Event} {event : Event} {handle : TextureHandle}
    {image : Image} :
    StandsFor (events ++ [event]) handle image ↔
      event = .kept image handle ∨ StandsFor events handle image ∧ event ≠ .released handle := by
  constructor
  · rintro ⟨before, later, heq, hlater⟩
    -- The handle was given out in the last event, or before it.
    rcases List.eq_nil_or_concat later with rfl | ⟨later, last, rfl⟩
    · obtain ⟨-, hevent⟩ := List.append_inj' heq rfl
      exact .inl (List.singleton_inj.mp hevent)
    · rw [List.concat_eq_append] at heq hlater
      rw [← List.cons_append, ← List.append_assoc] at heq
      obtain ⟨rfl, hevent⟩ := List.append_inj' heq rfl
      obtain rfl := List.singleton_inj.mp hevent
      simp only [List.mem_append, List.mem_singleton, not_or] at hlater
      exact .inr ⟨⟨before, later, rfl, hlater.1⟩, Ne.symm hlater.2⟩
  · rintro (rfl | ⟨⟨before, later, rfl, hlater⟩, hne⟩)
    · exact ⟨events, [], rfl, List.not_mem_nil⟩
    · exact ⟨before, later ++ [event], by simp, by simp [hlater, Ne.symm hne]⟩

namespace History

/-- The handles that were given out are those of the pool, and behind each one is the image for
which it stands. -/
structure Faithful (h : History) : Prop where
  issued {handle : TextureHandle} : handle ∈ givenOut h.events → h.pool.Issued handle
  get?_eq_some_iff (handle : TextureHandle) (image : Image) :
    h.pool.get? handle = some image ↔ StandsFor h.events handle image

namespace Faithful

variable {h : History}

theorem start : start.Faithful where
  issued hmem := by cases hmem
  get?_eq_some_iff handle image := by
    refine iff_of_false ?_ (not_standsFor_nil handle image)
    obtain ⟨_ | i⟩ := handle <;> simp [History.start, get?, empty]

/-- The new handle was never given out before, so that nothing stands behind it yet. -/
theorem keep (hh : h.Faithful) (image : Image) :
    Faithful ⟨h.pool.keep image, h.events ++ [.kept image h.pool.fresh]⟩ where
  issued {handle} hmem := by
    simp only [givenOut, List.filterMap_append, List.mem_append] at hmem
    rcases hmem with hmem | hmem
    · exact (hh.issued hmem).keep image
    · obtain rfl : handle = h.pool.fresh := by simpa using hmem
      exact h.pool.issued_fresh_keep image
  get?_eq_some_iff handle other := by
    rw [get?_keep, standsFor_append_singleton, ← hh.get?_eq_some_iff]
    by_cases hfresh : handle = h.pool.fresh
    · subst hfresh
      have hnone : h.pool.get? h.pool.fresh ≠ some other := by
        intro hsome
        exact (live_of_get? hsome).ne_fresh rfl
      simp [hnone]
    · simp [hfresh, Ne.symm hfresh]

/-- A refusal leaves what is behind the handles. -/
theorem refuse (hh : h.Faithful) (image : Image) :
    Faithful ⟨h.pool, h.events ++ [.refused image]⟩ where
  issued {handle} hmem := by
    refine hh.issued ?_
    simpa [givenOut] using hmem
  get?_eq_some_iff handle other := by
    rw [standsFor_append_singleton, ← hh.get?_eq_some_iff]
    simp

/-- A released handle stands for nothing any longer, and the others for what they did. -/
theorem release (hh : h.Faithful) (given : TextureHandle) :
    Faithful ⟨h.pool.release given, h.events ++ [.released given]⟩ where
  issued {handle} hmem := by
    have hissued : h.pool.Issued handle := by
      refine hh.issued ?_
      simpa [givenOut] using hmem
    refine ⟨hissued.1, ?_⟩
    rw [size_entries_release]
    exact hissued.2
  get?_eq_some_iff handle image := by
    rw [get?_release, standsFor_append_singleton, ← hh.get?_eq_some_iff]
    by_cases hgiven : handle = given
    · simp [hgiven]
    · simp [hgiven, Ne.symm hgiven]

theorem perform (hh : h.Faithful) (call : Call) : (h.perform call).Faithful := by
  cases call with
  | allocate image =>
    rcases h.pool.allocate_cases image with ⟨-, hkept⟩ | ⟨-, e, hrefused⟩
    · rw [History.perform, hkept]
      exact hh.keep image
    · rw [History.perform, hrefused]
      exact hh.refuse image
  | release given => exact hh.release given

theorem after (hh : h.Faithful) (calls : List Call) : (h.after calls).Faithful := by
  induction calls generalizing h with
  | nil => exact hh
  | cons call rest ih => exact ih (hh.perform call)

end Faithful

end History

/-- What a pool answers after some events. -/
structure AnswersTo (pool : TexturePool) (events : List Event) : Prop where
  /-- An image is refused exactly if its bytes do not fit its dimensions. -/
  refused_iff (image : Image) :
    (∃ e, (pool.allocate image).1 = .error e) ↔
      image.bytes.size ≠ image.width * image.height * 4
  /-- A refusal changes nothing. -/
  unchanged {image : Image} {e : TextureError} :
    (pool.allocate image).1 = .error e → (pool.allocate image).2 = pool
  /-- A new handle is above all earlier ones, released or not. -/
  above {image : Image} {handle : TextureHandle} :
    (pool.allocate image).1 = .ok handle → ∀ earlier ∈ givenOut events, earlier.id < handle.id
  /-- Behind a handle is the image for which it stands. -/
  get?_eq_some_iff (handle : TextureHandle) (image : Image) :
    pool.get? handle = some image ↔ StandsFor events handle image
  /-- The size counts the handles that stand for an image. -/
  size : ∃ live : List TextureHandle, live.Nodup ∧ live.length = pool.size ∧
    ∀ handle, handle ∈ live ↔ ∃ image, StandsFor events handle image

/-- **A pool answers by its history.** After any allocations and releases, of whatever images and
handles, an image is refused exactly if its bytes do not fit its dimensions, and then nothing
changes; a new handle is above all that were given out before; and a handle has the image for which
it was given out, until it is released. -/
theorem answers_of_history (calls : List Call) :
    let h := History.start.after calls
    h.pool.AnswersTo h.events := by
  intro h
  have hh : h.Faithful := History.Faithful.start.after calls
  constructor
  case refused_iff =>
    intro image
    rcases h.pool.allocate_cases image with ⟨hsize, hkept⟩ | ⟨hsize, e, hrefused⟩
    · simp [hkept, hsize]
    · simp [hrefused, hsize]
  case unchanged =>
    intro image e herror
    rcases h.pool.allocate_cases image with ⟨-, hkept⟩ | ⟨-, e, hrefused⟩
    · rw [hkept] at herror
      cases herror
    · rw [hrefused]
  case above =>
    intro image handle hok earlier hearlier
    rcases h.pool.allocate_cases image with ⟨-, hkept⟩ | ⟨-, e, hrefused⟩
    · rw [hkept] at hok
      cases hok
      -- All earlier handles are among those of the pool, and the new one comes after these.
      exact Nat.lt_succ_of_le (hh.issued hearlier).2
    · rw [hrefused] at hok
      cases hok
  case get?_eq_some_iff => exact hh.get?_eq_some_iff
  case size =>
    refine ⟨h.pool.handles, h.pool.nodup_handles, h.pool.length_handles, fun handle => ?_⟩
    rw [mem_handles_iff, Live, Option.isSome_iff_exists]
    exact exists_congr fun image => hh.get?_eq_some_iff handle image

end TexturePool

end DisplayProcessor
