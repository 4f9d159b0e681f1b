import DisplayProcessor.Processor

/-!
# Sessions

Whoever owns a processor runs commands on it, takes its frames and releases textures. A session is
a processor over a texture pool together with what happened at its border: the frames that were
handed off, and the handles that were given back.

- `Operation`, `Answer`: what can be asked of a processor, and what it says.
- `Processor.perform`, `Processor.after`, `Processor.answers`: one operation, and a list of them.
- `Session.Permits`: the one duty of the owner, to release only handles that a frame handed off as
  retired.
- `Session.after_induction`: what every operation keeps, every session keeps.
-/

namespace DisplayProcessor

/-- What can be asked of a processor. External memory may differ from one call to the next. -/
inductive Operation where
  | processBatch (memory : ExternalMemory) (batch : Batch)
  /-- Execute the command in one row. -/
  | execute (memory : ExternalMemory) (row : Row)
  | decodeTile (n : Nat)
  | takeFrame
  | reset
  /-- Release textures that were drawn. -/
  | release (handles : List TextureHandle)

/-- What a processor answers to an operation. -/
inductive Answer where
  | counts (result : Except Error BatchCounts)
  | outcome (result : Except Error Outcome)
  | texture (result : Except Error (Option TextureRef))
  | frame (frame : Frame)
  | done

namespace Processor

variable {α : Type} [TextureAllocator α]

/-- Carry out one operation. -/
def perform (p : Processor α) : Operation → Answer × Processor α
  | .processBatch memory batch =>
    (.counts (p.processBatch memory batch).1, (p.processBatch memory batch).2)
  | .execute memory row =>
    (.outcome (p.execute memory (.decode row)).1, (p.execute memory (.decode row)).2)
  | .decodeTile n => (.texture (p.decodeTile n).1, (p.decodeTile n).2)
  | .takeFrame => (.frame p.takeFrame.1, p.takeFrame.2)
  | .reset => (.done, p.reset)
  | .release handles => (.done, p.releaseTextures handles)

/-- The processor after some operations. -/
def after (p : Processor α) (ops : List Operation) : Processor α :=
  ops.foldl (fun p op => (p.perform op).2) p

/-- The answers to some operations, in order. -/
def answers (p : Processor α) : List Operation → List Answer
  | [] => []
  | op :: rest => (p.perform op).1 :: (p.perform op).2.answers rest

end Processor

/-! ## Sessions -/

/-- A processor over a texture pool, with what crossed its border. -/
structure Session where
  processor : Processor TexturePool
  /-- The frames that were handed off, the first one first. -/
  frames : List Frame
  /-- The handles that the owner released. -/
  released : List TextureHandle

namespace Session

/-- The session at power-on. The pool may have been in use before. -/
def start (settings : Settings) (pool : TexturePool) : Session :=
  ⟨.powerOn settings pool, [], []⟩

/-- The pool of textures. -/
def pool (s : Session) : TexturePool :=
  s.processor.allocator

/-- The same session with another processor. -/
def withProcessor (s : Session) (p : Processor TexturePool) : Session :=
  { s with processor := p }

/-- The handles that frames handed off as retired. -/
def handedOff (s : Session) : List TextureHandle :=
  s.frames.flatMap Frame.retired

/-- Carry out one operation. -/
def perform (s : Session) (op : Operation) : Session where
  processor := (s.processor.perform op).2
  frames :=
    match op with
    | .takeFrame => s.frames ++ [s.processor.takeFrame.1]
    | _ => s.frames
  released :=
    match op with
    | .release handles => s.released ++ handles
    | _ => s.released

/-- The owner releases only handles that a frame handed off as retired. -/
def Permits (s : Session) : Operation → Prop
  | .release handles => ∀ handle ∈ handles, handle ∈ s.handedOff
  | _ => True

instance decidablePermits (s : Session) : (op : Operation) → Decidable (s.Permits op)
  | .release handles => inferInstanceAs (Decidable (∀ handle ∈ handles, handle ∈ s.handedOff))
  | .processBatch _ _ | .execute _ _ | .decodeTile _ | .takeFrame | .reset => .isTrue trivial

/-- The session after some operations. -/
def after (s : Session) (ops : List Operation) : Session :=
  ops.foldl perform s

/-- Each of some operations is permitted when its turn comes. -/
def PermitsAll (s : Session) : List Operation → Prop
  | [] => True
  | op :: rest => s.Permits op ∧ (s.perform op).PermitsAll rest

instance decidablePermitsAll : (s : Session) → (ops : List Operation) →
    Decidable (s.PermitsAll ops)
  | _, [] => .isTrue trivial
  | s, op :: rest =>
    have := decidablePermitsAll (s.perform op) rest
    inferInstanceAs (Decidable (s.Permits op ∧ (s.perform op).PermitsAll rest))

/-- A run is permitted if its first part is, and then the rest from where that leaves the session.
-/
theorem permitsAll_append {s : Session} {ops rest : List Operation} :
    s.PermitsAll (ops ++ rest) ↔ s.PermitsAll ops ∧ (s.after ops).PermitsAll rest := by
  induction ops generalizing s with
  | nil => simp [PermitsAll, after]
  | cons op ops ih =>
    show s.Permits op ∧ (s.perform op).PermitsAll (ops ++ rest) ↔ _
    rw [ih, ← and_assoc]
    rfl

/-- What every permitted operation keeps, every session keeps. -/
theorem after_induction {Inv : Session → Prop}
    (hstep : ∀ s op, s.Permits op → Inv s → Inv (s.perform op)) {s : Session}
    {ops : List Operation} (hops : s.PermitsAll ops) (hs : Inv s) : Inv (s.after ops) := by
  induction ops generalizing s with
  | nil => exact hs
  | cons op rest ih => exact ih hops.2 (hstep s op hops.1 hs)

end Session

end DisplayProcessor
