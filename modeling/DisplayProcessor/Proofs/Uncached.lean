import DisplayProcessor.Proofs.Session
import Mathlib.Logic.Function.Basic

/-!
# A processor without textures

The same commands with images in place of textures: a triangle carries its image, which is decoded
from texture memory when the triangle is drawn. There is no allocator and there are no handles. A
tile slot keeps nothing that was decoded from texture memory; only the image of a tile load stays
with its slot, until the slot or texture memory changes.

- `Uncached.Slot.sample`: the image that a slot has now.
- `Uncached`: the state. `Uncached.execute`: one command; `Uncached.perform`: one operation.
-/

namespace DisplayProcessor

namespace Uncached

/-- One tile slot. -/
structure Slot where
  properties : TileProperties
  rect : TileRect
  /-- The number of rows of texels that are known to be loaded. -/
  validHeight : Nat
  /-- The image of a tile load to this slot, if nothing has changed since. -/
  loaded : Option Image

/-- A triangle to draw, with its image. -/
structure Triangle where
  edges : Edges
  image : Option Image
  validHeight : Nat
  color : ShadeGradient
  coordinates : Option TextureGradient
  depth : Option Gradient

/-- One frame. -/
structure Frame where
  triangles : List Triangle
  fillRects : Array FillRect
  canRender : Bool
  registers : Registers

/-- What is answered to an operation. -/
inductive Answer where
  | counts (result : Except Error BatchCounts)
  | outcome (result : Except Error Outcome)
  | image (result : Except Error (Option Image))
  | frame (frame : Frame)
  | done

namespace Slot

/-- The slot at power-on. -/
def powerOn : Slot := ⟨default, default, 0, none⟩

/-- The slot as a tile without a texture. -/
def tile (slot : Slot) : Tile :=
  ⟨slot.properties, slot.rect, none, slot.validHeight⟩

/-- The image of a tile load, or else what texture memory has now. -/
def sample (slot : Slot) (memory : TextureMemory) : Except TextureError (Option Image) :=
  match slot.loaded with
  | some image => .ok (some image)
  | none => memory.decode slot.tile

/-- The slot with its loaded rows counted anew. -/
def countRows (slot : Slot) (texelsLoaded : Nat) : Slot :=
  { slot with validHeight := texelsLoaded / slot.rect.width, loaded := none }

/-- The slot with new properties. -/
def setProperties (slot : Slot) (properties : TileProperties) : Slot :=
  { slot with properties := properties, loaded := none }

/-- The slot with a new rectangle. The loaded rows are counted anew only if texels have been loaded.
-/
def setRect (slot : Slot) (rect : TileRect) (texelsLoaded : Nat) : Slot :=
  let slot := { slot with rect := rect, loaded := none }
  if texelsLoaded = 0 then slot else slot.countRows texelsLoaded

/-- The slot after a tile load. All rows of an image count as loaded. -/
def load (slot : Slot) (rect : TileRect) : Option Image → Slot
  | none => { slot with rect := rect, validHeight := 0, loaded := none }
  | some image => { slot with rect := rect, validHeight := rect.height, loaded := some image }

end Slot

/-- The frame with nothing in it. -/
def Frame.empty : Frame := ⟨[], #[], false, .powerOn⟩

end Uncached

/-- The state of a processor without textures. -/
structure Uncached where
  settings : Settings
  textureMemory : TextureMemory
  slots : TileIndex → Uncached.Slot
  textureImage : ImageDescriptor
  fillColor : Word
  registers : Registers
  currentTile : TileIndex
  frame : Uncached.Frame

namespace Uncached

/-- The state at power-on. -/
def powerOn (settings : Settings) : Uncached where
  settings := settings
  textureMemory := .powerOn
  slots _ := .powerOn
  textureImage := .powerOn
  fillColor := 0
  registers := .powerOn
  currentTile := .wrap 0
  frame := .empty

/-- The state with one slot replaced. -/
def setSlot (u : Uncached) (i : TileIndex) (slot : Slot) : Uncached :=
  { u with slots := Function.update u.slots i slot }

/-! ## Commands -/

/-- Add a triangle to the frame. -/
def pushTriangle (u : Uncached) (t : TriangleCommand) (image : Option Image) (validHeight : Nat) :
    Uncached :=
  { u with
    frame.triangles := u.frame.triangles ++ [{
      edges := t.edges
      image := image
      validHeight := validHeight
      color := t.shade.getD (.flat u.registers.primitive.color)
      coordinates := t.texture
      depth := t.depth }]
    frame.canRender := true }

/-- Draw a triangle. A textured one carries the image that its slot has now. -/
def drawTriangle (u : Uncached) (t : TriangleCommand) : Except Error Outcome × Uncached :=
  if t.kind.texture then
    let slot := u.slots (.wrap t.edges.tile)
    match slot.sample u.textureMemory with
    | .ok image => (.ok .applied, u.pushTriangle t image slot.validHeight)
    | .error e => (Processor.textureFailure u.settings e, u)
  else (.ok .applied, u.pushTriangle t none 0)

/-- Copy texels into texture memory at the offset of a slot. -/
def loadBlock (u : Uncached) (m : ExternalMemory) (tile slo tlo shi dt : Nat) :
    Outcome × Uncached :=
  let load : BlockLoad := {
    address := u.textureImage.address
    imageWidth := u.textureImage.width
    size := u.textureImage.size
    slo, shi, tlo, dt
    offset := (u.slots (.wrap tile)).properties.offset }
  match u.textureMemory.load? m load u.settings.maxBlockTexels.toNat with
  | none => (.dropped, u)
  | some memory =>
    (.applied,
      { u with
        textureMemory := memory
        slots := fun i => (u.slots i).countRows memory.texelsLoaded })

/-- Load the image of a slot straight from external memory. -/
def loadTile (u : Uncached) (m : ExternalMemory) (tile : Nat) (rect : TileRect) :
    Except Error Outcome × Uncached :=
  let i := TileIndex.wrap tile
  let source := u.textureImage
  let address := source.address + .ofNat (2 * (source.width * rect.tlo + rect.slo))
  let load (image : Option Image) : Uncached :=
    { u.setSlot i ((u.slots i).load rect image) with currentTile := i }
  match m.decode address source.width rect.width rect.height source.format source.size with
  | .error e => (Processor.textureFailure u.settings e, load none)
  | .ok image => (.ok .applied, load image)

/-- Execute one command. -/
def execute (u : Uncached) (m : ExternalMemory) : Command → Except Error Outcome × Uncached
  | .nop => (.ok .nop, u)
  | .ignored _ => (.ok .nop, u)
  | .triangle t => u.drawTriangle t
  | .setTileSize tile rect =>
    let i := TileIndex.wrap tile
    (.ok .applied,
      { u.setSlot i ((u.slots i).setRect rect u.textureMemory.texelsLoaded) with currentTile := i })
  | .loadBlock tile slo tlo shi dt =>
    let (outcome, u) := u.loadBlock m tile slo tlo shi dt
    (.ok outcome, u)
  | .loadTile tile rect => u.loadTile m tile rect
  | .setTile tile properties =>
    let i := TileIndex.wrap tile
    (.ok .applied, u.setSlot i ((u.slots i).setProperties properties))
  | .fillRectangle corners =>
    (.ok .applied,
      { u with
        frame.fillRects := u.frame.fillRects.push ⟨corners, u.fillColor⟩
        frame.canRender := true })
  | .setFillColor color => (.ok .applied, { u with fillColor := color })
  | .setTextureImage image =>
    (.ok .applied, { u with textureImage := image.maskAddress u.settings.addressMask })
  | .setScissor scissor => (.ok .applied, { u with registers.scissor := scissor })
  | .setPrimColor color => (.ok .applied, { u with registers.primitive := color })
  | .setEnvColor color => (.ok .applied, { u with registers.environment := color })
  | .setBlendColor color => (.ok .applied, { u with registers.blend := color })
  | .setFogColor color => (.ok .applied, { u with registers.fog := color })
  | .setColorImage image =>
    (.ok .applied, { u with registers.colorImage := image.maskAddress u.settings.addressMask })
  | .setZImage address =>
    (.ok .applied, { u with registers.depthImage := address &&& u.settings.addressMask })

/-- Execute rows in order until one fails, adding to counts. -/
def run (u : Uncached) (m : ExternalMemory) (counts : BatchCounts) :
    List Row → Except Error BatchCounts × Uncached
  | [] => (.ok counts, u)
  | row :: rest =>
    match u.execute m (.decode row) with
    | (.error e, u) => (.error e, u)
    | (.ok outcome, u) => u.run m (counts.record outcome) rest

/-- Execute a batch. A malformed one is not executed at all. -/
def processBatch (u : Uncached) (m : ExternalMemory) (batch : Batch) :
    Except Error BatchCounts × Uncached :=
  match batch.validate with
  | .error e => (.error e, u)
  | .ok () => u.run m .zero batch.rows

/-! ## Operations -/

/-- The image that the slot with a number has now. -/
def decodeTile (u : Uncached) (n : Nat) : Except Error (Option Image) :=
  match TileIndex.ofNat? n with
  | none => .error (.invalidTileIndex n)
  | some i =>
    match (u.slots i).sample u.textureMemory with
    | .ok image => .ok image
    | .error e => .error (.texture e)

/-- The frame with the present registers, and the state with an empty frame. -/
def takeFrame (u : Uncached) : Frame × Uncached :=
  ({ u.frame with registers := u.registers },
    { u with frame := .empty, textureMemory := u.textureMemory.clearLoadCount })

/-- Carry out one operation. There is nothing to release. -/
def perform (u : Uncached) : Operation → Answer × Uncached
  | .processBatch m batch =>
    (.counts (u.processBatch m batch).1, (u.processBatch m batch).2)
  | .execute m row => (.outcome (u.execute m (.decode row)).1, (u.execute m (.decode row)).2)
  | .decodeTile n => (.image (u.decodeTile n), u)
  | .takeFrame => (.frame u.takeFrame.1, u.takeFrame.2)
  | .reset => (.done, .powerOn u.settings)
  | .release _ => (.done, u)

/-- The state after some operations. -/
def after (u : Uncached) (ops : List Operation) : Uncached :=
  ops.foldl (fun u op => (u.perform op).2) u

end Uncached

end DisplayProcessor
