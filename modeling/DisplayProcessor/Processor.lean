import DisplayProcessor.Batch
import DisplayProcessor.Command
import DisplayProcessor.ImageSource
import DisplayProcessor.Settings
import DisplayProcessor.TexturePool
import DisplayProcessor.TileTable

/-!
# The processor

The processor executes commands one after the other. It owns texture memory, the tile table, the
registers and the frame under construction; images go to a texture allocator, and texels come from
external memory.

- `Processor`: the state, over any allocator.
- `Processor.execute`: one command. `Processor.run`: rows in order, up to the first error.
- `Processor.processBatch`: a whole batch.
- `Processor.takeFrame`, `Processor.releaseTextures`: the hand-off of a frame, and what follows it.
- `Processor.decodeTile`, `Processor.tile`: access to one tile slot by number.
- `Processor.reset`: back to power-on.

An operation that can fail gives its state besides its result, since what it did before the
failure stays done.
-/

namespace DisplayProcessor

/-- What the execution of one command did. -/
inductive Outcome where
  /-- The state changed or something is to be drawn. -/
  | applied
  /-- The command has no effect. -/
  | nop
  /-- The texels have a format that is not decoded. -/
  | skipped
  /-- A block load was refused. -/
  | dropped
deriving DecidableEq

/-- What the execution of rows did. -/
structure BatchCounts where
  rows : Nat
  nops : Nat
  skipped : Nat
  dropped : Nat
deriving DecidableEq

namespace BatchCounts

/-- The counts before the first row. -/
def zero : BatchCounts := ⟨0, 0, 0, 0⟩

instance : Inhabited BatchCounts := ⟨zero⟩

/-- The counts after one more row. -/
def record (counts : BatchCounts) (outcome : Outcome) : BatchCounts where
  rows := counts.rows + 1
  nops := counts.nops + if outcome = .nop then 1 else 0
  skipped := counts.skipped + if outcome = .skipped then 1 else 0
  dropped := counts.dropped + if outcome = .dropped then 1 else 0

/-- The counts of one run after another. -/
def add (a b : BatchCounts) : BatchCounts where
  rows := a.rows + b.rows
  nops := a.nops + b.nops
  skipped := a.skipped + b.skipped
  dropped := a.dropped + b.dropped

end BatchCounts

/-- The state of the processor. -/
structure Processor (α : Type) where
  settings : Settings
  textureMemory : TextureMemory
  tiles : TileTable
  /-- The image from which texels are loaded. -/
  textureImage : ImageDescriptor
  fillColor : Word
  registers : Registers
  /-- The tile whose rectangle was set last. -/
  currentTile : TileIndex
  frame : Frame
  allocator : α

namespace Processor

variable {α : Type}

/-- The processor at power-on. -/
def powerOn (settings : Settings) (allocator : α) : Processor α where
  settings := settings
  textureMemory := .powerOn
  tiles := .powerOn
  textureImage := .powerOn
  fillColor := 0
  registers := .powerOn
  currentTile := .wrap 0
  frame := .empty
  allocator := allocator

/-! ## Frames -/

/-- The frame with the present registers and all retired handles, and the processor with an empty
frame. Nothing counts as loaded afterwards; texture memory and tiles stay as they are. -/
def takeFrame (p : Processor α) : Frame × Processor α :=
  let (retired, tiles) := p.tiles.takeRetired
  ({ p.frame with registers := p.registers, retired := retired },
    { p with
      frame := .empty
      tiles := tiles
      textureMemory := p.textureMemory.clearLoadCount })

variable [TextureAllocator α]

/-- Release textures that the consumer has drawn. -/
def releaseTextures (p : Processor α) (handles : List TextureHandle) : Processor α :=
  { p with allocator := TextureAllocator.releaseAll p.allocator handles }

/-- The processor as at power-on, with the same settings. Cached and retired textures are
released. -/
def reset (p : Processor α) : Processor α :=
  let (retired, tiles) := p.tiles.reset.takeRetired
  { p with
    textureMemory := p.textureMemory.reset
    tiles := tiles
    textureImage := .powerOn
    fillColor := 0
    registers := .powerOn
    currentTile := .wrap 0
    frame := .empty
    allocator := TextureAllocator.releaseAll p.allocator (retired ++ p.frame.retired) }

/-! ## Textures -/

/-- The texture of a tile: the cached one, or else one that is decoded from texture memory, handed
to the allocator and cached. -/
def resolveTexture (p : Processor α) (i : TileIndex) :
    Except TextureError (Option TextureRef) × Processor α :=
  match (p.tiles.get i).texture with
  | some texture => (.ok (some texture), p)
  | none =>
    match p.textureMemory.decode (p.tiles.get i) with
    | .error e => (.error e, p)
    | .ok none => (.ok none, p)
    | .ok (some image) =>
      match TextureAllocator.allocate p.allocator image with
      | (.error e, allocator) => (.error e, { p with allocator := allocator })
      | (.ok handle, allocator) =>
        let texture := ⟨handle, image.width, image.height⟩
        (.ok (some texture),
          { p with allocator := allocator, tiles := p.tiles.install i texture })

/-- What a texture error means for a command: a format that is not decoded skips it, unless
formats are strict; all else is an error of the command. -/
def textureFailure (settings : Settings) (e : TextureError) : Except Error Outcome :=
  match e with
  | .unsupportedFormat _ _ => if settings.strictFormats then .error (.texture e) else .ok .skipped
  | .allocationFailed _ => .error (.texture e)

/-- The texture of the tile with a number, decoded if need be. -/
def decodeTile (p : Processor α) (n : Nat) : Except Error (Option TextureRef) × Processor α :=
  match TileIndex.ofNat? n with
  | none => (.error (.invalidTileIndex n), p)
  | some i =>
    match p.resolveTexture i with
    | (.ok texture, p) => (.ok texture, p)
    | (.error e, p) => (.error (.texture e), p)

omit [TextureAllocator α] in
/-- The tile slot with a number. -/
def tile (p : Processor α) (n : Nat) : Except Error Tile :=
  match TileIndex.ofNat? n with
  | none => .error (.invalidTileIndex n)
  | some i => .ok (p.tiles.get i)

/-! ## Commands -/

omit [TextureAllocator α] in
/-- Add a triangle to the frame. A triangle without shade has the primitive colour. -/
def pushTriangle (p : Processor α) (t : TriangleCommand) (texture : Option TextureRef)
    (validHeight : Nat) : Processor α :=
  { p with
    frame := p.frame.pushTriangle {
      edges := t.edges
      texture := texture
      validHeight := validHeight
      color := t.shade.getD (.flat p.registers.primitive.color)
      coordinates := t.texture
      depth := t.depth } }

/-- Draw a triangle. A textured one keeps the texture and the loaded rows that its tile has now;
if the tile has no texture, the triangle is drawn without. -/
def drawTriangle (p : Processor α) (t : TriangleCommand) : Except Error Outcome × Processor α :=
  if t.kind.texture then
    let i := TileIndex.wrap t.edges.tile
    match p.resolveTexture i with
    | (.ok texture, p) => (.ok .applied, p.pushTriangle t texture (p.tiles.get i).validHeight)
    | (.error e, p) => (textureFailure p.settings e, p)
  else (.ok .applied, p.pushTriangle t none 0)

omit [TextureAllocator α] in
/-- Copy texels into texture memory at the offset of a tile. All cached textures are dropped, since
tiles may share the bytes. -/
def loadBlock (p : Processor α) (m : ExternalMemory) (tile slo tlo shi dt : Nat) :
    Outcome × Processor α :=
  let load : BlockLoad := {
    address := p.textureImage.address
    imageWidth := p.textureImage.width
    size := p.textureImage.size
    slo, shi, tlo, dt
    offset := (p.tiles.get (.wrap tile)).properties.offset }
  match p.textureMemory.load? m load p.settings.maxBlockTexels.toNat with
  | none => (.dropped, p)
  | some memory =>
    (.applied,
      { p with textureMemory := memory, tiles := p.tiles.dropAll memory.texelsLoaded })

omit [TextureAllocator α] in
/-- The slot of a tile load before its texture is built: with the new rectangle, no texture and no
loaded rows. -/
def prepareTileLoad (p : Processor α) (i : TileIndex) (rect : TileRect) : Processor α :=
  let tiles := p.tiles.drop i
  { p with
    currentTile := i
    tiles := tiles.set i { tiles.get i with rect := rect, validHeight := 0 } }

omit [TextureAllocator α] in
/-- The image that a tile load reads from external memory. -/
def tileLoadImage (p : Processor α) (m : ExternalMemory) (rect : TileRect) :
    Except TextureError (Option Image) :=
  let source := p.textureImage
  let address := source.address + .ofNat (2 * (source.width * rect.tlo + rect.slo))
  m.decode address source.width rect.width rect.height source.format source.size

/-- Build the texture of a tile straight from external memory. All its rows count as loaded. -/
def loadTile (p : Processor α) (m : ExternalMemory) (tile : Nat) (rect : TileRect) :
    Except Error Outcome × Processor α :=
  let i := TileIndex.wrap tile
  let p := p.prepareTileLoad i rect
  match p.tileLoadImage m rect with
  | .error e => (textureFailure p.settings e, p)
  | .ok none => (.ok .applied, p)
  | .ok (some image) =>
    match TextureAllocator.allocate p.allocator image with
    | (.error e, allocator) => (.error (.texture e), { p with allocator := allocator })
    | (.ok handle, allocator) =>
      let tiles := p.tiles.install i ⟨handle, rect.width, rect.height⟩
      (.ok .applied,
        { p with
          allocator := allocator
          tiles := tiles.set i { tiles.get i with validHeight := rect.height } })

/-- Execute one command. -/
def execute (p : Processor α) (m : ExternalMemory) :
    Command → Except Error Outcome × Processor α
  | .nop => (.ok .nop, p)
  | .ignored _ => (.ok .nop, p)
  | .triangle t => p.drawTriangle t
  | .setTileSize tile rect =>
    let i := TileIndex.wrap tile
    (.ok .applied,
      { p with currentTile := i, tiles := p.tiles.setRect i rect p.textureMemory.texelsLoaded })
  | .loadBlock tile slo tlo shi dt =>
    let (outcome, p) := p.loadBlock m tile slo tlo shi dt
    (.ok outcome, p)
  | .loadTile tile rect => p.loadTile m tile rect
  | .setTile tile properties =>
    (.ok .applied, { p with tiles := p.tiles.setProperties (.wrap tile) properties })
  | .fillRectangle corners =>
    (.ok .applied, { p with frame := p.frame.pushFillRect ⟨corners, p.fillColor⟩ })
  | .setFillColor color => (.ok .applied, { p with fillColor := color })
  | .setTextureImage image =>
    (.ok .applied, { p with textureImage := image.maskAddress p.settings.addressMask })
  | .setScissor scissor => (.ok .applied, { p with registers.scissor := scissor })
  | .setPrimColor color => (.ok .applied, { p with registers.primitive := color })
  | .setEnvColor color => (.ok .applied, { p with registers.environment := color })
  | .setBlendColor color => (.ok .applied, { p with registers.blend := color })
  | .setFogColor color => (.ok .applied, { p with registers.fog := color })
  | .setColorImage image =>
    (.ok .applied, { p with registers.colorImage := image.maskAddress p.settings.addressMask })
  | .setZImage address =>
    (.ok .applied, { p with registers.depthImage := address &&& p.settings.addressMask })

/-! ## Batches -/

/-- Execute rows in order until one fails, adding to counts. -/
def run (p : Processor α) (m : ExternalMemory) (counts : BatchCounts) :
    List Row → Except Error BatchCounts × Processor α
  | [] => (.ok counts, p)
  | row :: rest =>
    match p.execute m (.decode row) with
    | (.error e, p) => (.error e, p)
    | (.ok outcome, p) => p.run m (counts.record outcome) rest

/-- Execute a batch. A malformed one is not executed at all. -/
def processBatch (p : Processor α) (m : ExternalMemory) (batch : Batch) :
    Except Error BatchCounts × Processor α :=
  match batch.validate with
  | .error e => (.error e, p)
  | .ok () => p.run m .zero batch.rows

end Processor

end DisplayProcessor
