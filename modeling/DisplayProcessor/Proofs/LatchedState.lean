import DisplayProcessor.Proofs.FrameContents

/-!
# Latched state

Colours and registers stay as the last command set them. The fill colour and the primitive colour
are looked up when a rectangle or a triangle is recorded, the registers when the frame is handed
off. So what a frame has of them can be read off the commands that were executed before: neither
batches nor hand-offs in between matter, nor what comes later.

- `StreamEvent`, `Processor.stream`: what was executed, with hand-offs and resets.
- `StreamEvent.latest`: the operand of the last command of some kind.
- `StreamEvent.fillColor`, `StreamEvent.registers`: what is latched, by the stream.
- `ShadeGradient.IsFlat`: a colour that is everywhere the same.
- `StreamEvent.Fills`: a frame holds the rectangles and triangles that it should after a stream.
- `Processor.Follows`: a processor is as the stream says; `Processor.Follows.perform`.
- `Processor.latched_in_stream_order`: the main result.
-/

namespace DisplayProcessor

/-! ## What a stream says -/

/-- What happened to a processor. A list of events has the last one first. -/
inductive StreamEvent where
  /-- A command was executed. -/
  | executed (command : Command) (result : Except Error Outcome)
  | takeFrame
  | reset

namespace StreamEvent

/-- What a command says, if the event is one. -/
def operand? {β : Type} (operand : Command → Option β) : StreamEvent → Option β
  | .executed command _ => operand command
  | .takeFrame | .reset => none

def isReset : StreamEvent → Bool
  | .reset => true
  | _ => false

/-- The operand of the last command that has one, since power-on or the last reset. -/
def latest {β : Type} (operand : Command → Option β) (stream : List StreamEvent) : Option β :=
  (stream.takeWhile fun event => !event.isReset).findSome? (operand? operand)

/-- The fill colour after a stream. -/
def fillColor (stream : List StreamEvent) : Word :=
  (latest (fun | .setFillColor color => some color | _ => none) stream).getD 0

/-- The primitive colour after a stream, with its levels of detail. -/
def primitive (stream : List StreamEvent) : PrimitiveColor :=
  (latest (fun | .setPrimColor color => some color | _ => none) stream).getD ⟨0, 0, 0⟩

/-- The registers after a stream: each as the last command set it, or else as at power-on. Only the
bits of an address that the mask keeps are there. -/
def registers (mask : UInt32) (stream : List StreamEvent) : Registers where
  primitive := primitive stream
  environment := (latest (fun | .setEnvColor color => some color | _ => none) stream).getD 0
  blend := (latest (fun | .setBlendColor color => some color | _ => none) stream).getD 0
  fog := (latest (fun | .setFogColor color => some color | _ => none) stream).getD 0
  scissor :=
    (latest (fun | .setScissor scissor => some scissor | _ => none)
      stream).getD ⟨⟨0⟩, ⟨0⟩, ⟨0⟩, ⟨0⟩, false, false⟩
  colorImage :=
    (latest
      (fun
        | .setColorImage image => some { image with address := image.address &&& mask }
        | _ => none)
      stream).getD ⟨.rgba, .bits4, 0, 0⟩
  depthImage :=
    (latest (fun | .setZImage address => some (address &&& mask) | _ => none) stream).getD 0

/-- The rectangles of the frame under construction: one for each command since the last hand-off or
reset that fills one, with the fill colour at that command. -/
def fillRects : List StreamEvent → List FillRect
  | [] => []
  | .executed command _ :: earlier =>
    fillRects earlier ++ command.filled?.toList.map fun corners => ⟨corners, fillColor earlier⟩
  | .takeFrame :: _ | .reset :: _ => []

/-- The triangles of the frame under construction: one for each command since the last hand-off or
reset that was applied, with the primitive colour at that command. -/
def triangles : List StreamEvent → List (Word × TriangleCommand)
  | [] => []
  | .executed command result :: earlier =>
    triangles earlier ++ (command.drawn? result).toList.map fun t => ((primitive earlier).color, t)
  | .takeFrame :: _ | .reset :: _ => []

end StreamEvent

/-- The colour that is everywhere the same: the bytes of a word from the top are its red, green,
blue and alpha. -/
structure ShadeGradient.IsFlat (color : ShadeGradient) (rgba : Word) : Prop where
  r : color.r = ⟨.ofNat (rgba.toNat / 2 ^ 24), .zero, .zero, .zero⟩
  g : color.g = ⟨.ofNat (rgba.toNat / 2 ^ 16 % 256), .zero, .zero, .zero⟩
  b : color.b = ⟨.ofNat (rgba.toNat / 2 ^ 8 % 256), .zero, .zero, .zero⟩
  a : color.a = ⟨.ofNat (rgba.toNat % 256), .zero, .zero, .zero⟩

/-- The flat colour of a triangle is that of the word, byte by byte. -/
theorem ShadeGradient.isFlat_flat (rgba : Word) : (flat rgba).IsFlat rgba where
  r := by
    -- The top byte needs no cut.
    have htop : rgba.field 24 8 = rgba.toNat / 2 ^ 24 := by
      have hlt := rgba.toNat_lt
      unfold Word.field
      omega
    rw [← htop]
    rfl
  g := rfl
  b := rfl
  a := by
    have hlow : rgba.field 0 8 = rgba.toNat % 256 := by
      unfold Word.field
      omega
    rw [← hlow]
    rfl

namespace StreamEvent

/-- A triangle is what its command says. Without shade it has the primitive colour at its command
everywhere. -/
def Draws (command : Word × TriangleCommand) (triangle : Triangle) : Prop :=
  Triangle.Draws command.1 command.2 triangle ∧
    (command.2.shade = none → triangle.color.IsFlat command.1)

/-- A frame holds what it should after a stream. -/
structure Fills (stream : List StreamEvent) (frame : Frame) : Prop where
  fillRects : frame.fillRects.toList = StreamEvent.fillRects stream
  triangles : List.Forall₂ Draws (StreamEvent.triangles stream) frame.triangles.toList

/-- A triangle that is recorded with the primitive colour has it everywhere, if it has no shade. -/
theorem Draws.of_triangle {primitive : Word} {t : TriangleCommand} {triangle : Triangle}
    (h : Triangle.Draws primitive t triangle) : Draws (primitive, t) triangle := by
  refine ⟨h, ?_⟩
  intro hplain
  rw [h.color, hplain]
  exact ShadeGradient.isFlat_flat primitive

end StreamEvent

namespace Processor

variable {α : Type} [TextureAllocator α]

/-- The event of one step. -/
def stepEvents (p : Processor α) : Operation → List StreamEvent
  | .execute m row => [.executed (.decode row) (p.execute m (.decode row)).1]
  | .takeFrame => [.takeFrame]
  | .reset => [.reset]
  | .processBatch _ _ | .decodeTile _ | .release _ => []

/-- The events of some steps, the last one first. -/
def stepStream (p : Processor α) : List Operation → List StreamEvent
  | [] => []
  | step :: rest => (p.perform step).2.stepStream rest ++ p.stepEvents step

/-- The events of a run, the last one first; those of a batch are its executed rows. -/
def stream (p : Processor α) (ops : List Operation) : List StreamEvent :=
  p.stepStream (p.steps ops)

/-! ## What one step does -/

/-- A processor is as a stream says. -/
structure Follows (p : Processor α) (settings : Settings) (stream : List StreamEvent) : Prop where
  settings_eq : p.settings = settings
  fillColor : p.fillColor = StreamEvent.fillColor stream
  registers : p.registers = StreamEvent.registers settings.addressMask stream
  frame : StreamEvent.Fills stream p.frame

omit [TextureAllocator α] in
/-- At power-on nothing was latched and nothing is in the frame. -/
theorem follows_powerOn (settings : Settings) (allocator : α) :
    (powerOn settings allocator).Follows settings [] :=
  ⟨rfl, rfl, rfl, rfl, .nil⟩

/-- The search for a texture changes nothing that a stream tells of. -/
theorem Follows.resolveTexture {p : Processor α} {settings : Settings} {stream : List StreamEvent}
    (h : p.Follows settings stream) (i : TileIndex) :
    (p.resolveTexture i).2.Follows settings stream := by
  obtain ⟨tiles, allocator, heq⟩ := p.resolveTexture_changes i
  rw [heq]
  exact ⟨h.settings_eq, h.fillColor, h.registers, h.frame⟩

/-- A command latches its operand, and leaves alone what others have latched. -/
theorem execute_latches (p : Processor α) (m : ExternalMemory) (command : Command)
    {stream : List StreamEvent} (hcolor : p.fillColor = StreamEvent.fillColor stream)
    (hregisters : p.registers = StreamEvent.registers p.settings.addressMask stream)
    (result : Except Error Outcome) :
    (p.execute m command).2.fillColor = StreamEvent.fillColor (.executed command result :: stream) ∧
      (p.execute m command).2.registers =
        StreamEvent.registers p.settings.addressMask (.executed command result :: stream) := by
  cases command with
  | triangle t =>
    have hresolve (i : TileIndex) : (p.resolveTexture i).2.fillColor = p.fillColor ∧
        (p.resolveTexture i).2.registers = p.registers := by
      obtain ⟨tiles, allocator, heq⟩ := p.resolveTexture_changes i
      rw [heq]
      exact ⟨rfl, rfl⟩
    have hsame := drawTriangle_induction
      (P := fun q => q.fillColor = p.fillColor ∧ q.registers = p.registers) ⟨rfl, rfl⟩
      hresolve (fun _ _ h => h) t
    exact ⟨hsame.1.trans hcolor, hsame.2.trans hregisters⟩
  | loadBlock tile slo tlo shi dt =>
    obtain ⟨memory, tiles, heq⟩ := p.loadBlock_changes m tile slo tlo shi dt
    have hsame : (p.execute m (.loadBlock tile slo tlo shi dt)).2 = _ := heq
    rw [hsame]
    exact ⟨hcolor, hregisters⟩
  | loadTile tile rect =>
    obtain ⟨tiles, allocator, heq⟩ := p.loadTile_changes m tile rect
    have hsame : (p.execute m (.loadTile tile rect)).2 = _ := heq
    rw [hsame]
    exact ⟨hcolor, hregisters⟩
  | setFillColor color => exact ⟨rfl, hregisters⟩
  -- Each of these sets one register, and the stream's last command for it is this one.
  | setPrimColor color =>
    have hset := congrArg (fun r : Registers => { r with primitive := color }) hregisters
    exact ⟨hcolor, hset⟩
  | setEnvColor color =>
    have hset := congrArg (fun r : Registers => { r with environment := color }) hregisters
    exact ⟨hcolor, hset⟩
  | setBlendColor color =>
    have hset := congrArg (fun r : Registers => { r with blend := color }) hregisters
    exact ⟨hcolor, hset⟩
  | setFogColor color =>
    have hset := congrArg (fun r : Registers => { r with fog := color }) hregisters
    exact ⟨hcolor, hset⟩
  | setScissor scissor =>
    have hset := congrArg (fun r : Registers => { r with scissor := scissor }) hregisters
    exact ⟨hcolor, hset⟩
  | setColorImage image =>
    have hset := congrArg (fun r : Registers =>
      { r with colorImage :=
        { image with address := image.address &&& p.settings.addressMask } }) hregisters
    exact ⟨hcolor, hset⟩
  | setZImage address =>
    have hset := congrArg (fun r : Registers =>
      { r with depthImage := address &&& p.settings.addressMask }) hregisters
    exact ⟨hcolor, hset⟩
  | _ => exact ⟨hcolor, hregisters⟩

end Processor

/-- A frame that grows by what a command adds, with the colours of the moment, holds what it
should. -/
theorem StreamEvent.Fills.executed {stream : List StreamEvent} {before after : Frame}
    (h : Fills stream before) {command : Command} {result : Except Error Outcome}
    {triangles : List Triangle}
    (hextends : before.Extends after triangles
      (command.filled?.toList.map fun corners => ⟨corners, fillColor stream⟩))
    (hdraws : List.Forall₂ (Triangle.Draws (primitive stream).color)
      (command.drawn? result).toList triangles) :
    Fills (.executed command result :: stream) after where
  fillRects := by rw [hextends.fillRects_eq, h.fillRects, StreamEvent.fillRects]
  triangles := by
    rw [hextends.triangles_eq, StreamEvent.triangles]
    refine List.rel_append h.triangles (List.forall₂_map_left_iff.mpr ?_)
    exact hdraws.imp fun _ _ => Draws.of_triangle

namespace Processor

variable {α : Type} [TextureAllocator α]

namespace Follows

variable {p : Processor α} {settings : Settings} {stream : List StreamEvent}

/-- A command leads to the stream with the command. -/
theorem execute (h : p.Follows settings stream) (m : ExternalMemory) (command : Command) :
    (p.execute m command).2.Follows settings
      (.executed command (p.execute m command).1 :: stream) := by
  obtain ⟨rfl, hcolor, hregisters, hframe⟩ := h
  have hlatches := p.execute_latches m command hcolor hregisters (p.execute m command).1
  obtain ⟨triangles, hextends, hdraws⟩ := (p.execute_recordSpec m command).extends
  -- What is recorded has the colours from before the command.
  rw [hcolor] at hextends
  rw [hregisters] at hdraws
  exact ⟨p.settings_execute m command, hlatches.1, hlatches.2, hframe.executed hextends hdraws⟩

/-- A step leads to the stream with its event. -/
theorem perform (h : p.Follows settings stream) {step : Operation} (hstep : step.IsStep) :
    (p.perform step).2.Follows settings (p.stepEvents step ++ stream) := by
  cases step with
  | processBatch m batch => exact hstep.elim
  | execute m row => exact h.execute m (.decode row)
  | decodeTile n =>
    exact decodeTile_induction (P := fun q => q.Follows settings stream) h h.resolveTexture n
  | takeFrame => exact ⟨h.settings_eq, h.fillColor, h.registers, rfl, .nil⟩
  | reset => exact ⟨h.settings_eq, rfl, rfl, rfl, .nil⟩
  | release handles => exact ⟨h.settings_eq, h.fillColor, h.registers, h.frame⟩

/-- Steps lead to the stream with their events. -/
theorem afterSteps (h : p.Follows settings stream) {steps : List Operation}
    (hsteps : ∀ step ∈ steps, step.IsStep) :
    (p.after steps).Follows settings (p.stepStream steps ++ stream) := by
  induction steps generalizing p stream with
  | nil => exact h
  | cons step rest ih =>
    rw [stepStream, List.append_assoc]
    exact ih (h.perform (hsteps step List.mem_cons_self))
      fun later hmem => hsteps later (List.mem_cons_of_mem _ hmem)

end Follows

/-! ## Runs -/

/-- After power-on a processor is as the stream of its run says. -/
theorem follows_after (settings : Settings) (allocator : α) (ops : List Operation) :
    ((powerOn settings allocator).after ops).Follows settings
      ((powerOn settings allocator).stream ops) := by
  have hsteps (step : Operation) (hmem : step ∈ (powerOn settings allocator).steps ops) :
      step.IsStep := isStep_of_mem_steps hmem
  have h := (follows_powerOn settings allocator).afterSteps hsteps
  rwa [after_steps, List.append_nil] at h

/-- The answer to an operation in the middle of a run. -/
theorem getElem?_answers_append_cons (p : Processor α) (before : List Operation) (op : Operation)
    (rest : List Operation) :
    (p.answers (before ++ op :: rest))[before.length]? = some ((p.after before).perform op).1 := by
  induction before generalizing p with
  | nil => rfl
  | cons first later ih => exact ih (p.perform first).2

/-- **What is latched follows the order of the stream.** In every run from power-on, with any
batches, hand-offs and resets, each rectangle of the frame has the operand of the last command
before it that sets the fill colour, and each triangle without shade the operand of the last one
that sets the primitive colour; a frame that is handed off has them as well, and in its registers
the operands of the last commands that set these. -/
theorem latched_in_stream_order (settings : Settings) (allocator : α) (ops : List Operation) :
    let start : Processor α := powerOn settings allocator
    StreamEvent.Fills (start.stream ops) (start.after ops).frame ∧
    ∀ rest, ∃ frame,
      (start.answers (ops ++ .takeFrame :: rest))[ops.length]? = some (.frame frame) ∧
      StreamEvent.Fills (start.stream ops) frame ∧
      frame.registers = StreamEvent.registers settings.addressMask (start.stream ops) := by
  intro start
  obtain ⟨-, -, hregisters, hframe⟩ := follows_after settings allocator ops
  refine ⟨hframe, fun rest => ⟨(start.after ops).takeFrame.1, ?_, ?_, hregisters⟩⟩
  · exact start.getElem?_answers_append_cons ops .takeFrame rest
  · exact ⟨hframe.fillRects, hframe.triangles⟩

/-- A colour outlives a hand-off, and a rectangle keeps the colour of its moment. -/
example :
    let start : Processor TexturePool := powerOn .standard .empty
    let corners : Corners := ⟨⟨0⟩, ⟨0⟩, ⟨8⟩, ⟨8⟩⟩
    let rows : List Row :=
      [.fillRectangle corners, .setFillColor 9, .fillRectangle corners, .setFillColor 5]
    let memory : ExternalMemory := .ofBytes fun _ => 0
    (start.after [.execute memory (.setFillColor 7), .takeFrame,
      .processBatch memory (.ofRows rows)]).frame.fillRects.toList =
        [⟨corners, 7⟩, ⟨corners, 9⟩] := by
  decide +kernel

end Processor

end DisplayProcessor
