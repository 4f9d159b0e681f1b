import DisplayProcessor.Assembly
import DisplayProcessor.Proofs.HandleOwnership
import DisplayProcessor.Proofs.RowByRow

/-!
# When a tile gets another texture

A tile is asked for its texture by a triangle, or to decode it. As long as nothing concerns the
tile, it gives the same answer again, from its cache or because there is still nothing to decode;
the second time nothing is built. Once something did, whatever texture it gives has a handle that
the pool had not given out before.

- `Operation.Resolves`, `Processor.found?`, `Processor.queued?`: who asks, and what is seen of it.
- `Processor.invalidates`: what concerns a tile.
- `Processor.Resolution`: all that an operation does that asks for a texture.
- `Processor.Settled`, `Processor.SameTile`: an answer that stays, and what it depends on.
- `Processor.TextureStep`, `Processor.BuiltAfter`: where the texture of a tile comes from, and when
  it was built.
- `Processor.texture_changes_iff_invalidated`: the main result.
-/

namespace DisplayProcessor

/-- The operation asks for the texture of a tile: it draws a triangle with it, or decodes it. -/
def Operation.Resolves (i : TileIndex) : Operation → Prop
  | .execute _ row =>
    ∃ t, Command.decode row = .triangle t ∧ t.kind.texture = true ∧ TileIndex.wrap t.edges.tile = i
  | .decodeTile n => TileIndex.ofNat? n = some i
  | _ => False

namespace Processor

section

variable {α : Type} [TextureAllocator α]

/-- The triangle that an operation adds to the frame. -/
def queued? (p : Processor α) (op : Operation) : Option Triangle :=
  (p.perform op).2.frame.triangles[p.frame.triangles.size]?

/-- The texture that an operation finds, unless it fails. It may find that there is none. -/
def found? (p : Processor α) : Operation → Option (Option TextureRef)
  | .decodeTile n => (p.decodeTile n).1.toOption
  | op => (p.queued? op).map Triangle.texture

/-- The commands that concern the texture of a tile: new properties, a new rectangle and a tile load
of this tile, and a block load of any. -/
def commandInvalidates (p : Processor α) (m : ExternalMemory) (i : TileIndex) : Command → Bool
  | .setTile tile _ => TileIndex.wrap tile = i
  | .setTileSize tile _ => TileIndex.wrap tile = i
  | .loadTile tile _ => TileIndex.wrap tile = i
  | .loadBlock tile slo tlo shi dt => (p.loadBlock m tile slo tlo shi dt).1 = .applied
  | _ => false

/-- What concerns the texture of a tile: such a command, and a reset. -/
def invalidates (p : Processor α) (i : TileIndex) : Operation → Bool
  | .execute m row => p.commandInvalidates m i (.decode row)
  | .reset => true
  | _ => false

/-! ## Questions and answers -/

theorem queued?_eq_none {p : Processor α} {op : Operation}
    (h : (p.perform op).2.frame = p.frame) : p.queued? op = none := by
  rw [queued?, h]
  exact Array.getElem?_eq_none (Nat.le_refl _)

theorem queued?_eq_some {p : Processor α} {op : Operation} {triangle : Triangle}
    (h : (p.perform op).2.frame = p.frame.pushTriangle triangle) :
    p.queued? op = some triangle := by
  rw [queued?, h]
  exact Array.getElem?_push_size

theorem resolveTexture_of_toOption {p : Processor α} {i : TileIndex} {texture : Option TextureRef}
    (h : (p.resolveTexture i).1.toOption = some texture) :
    p.resolveTexture i = (.ok texture, (p.resolveTexture i).2) := by
  rcases hresolve : p.resolveTexture i with ⟨e | found, q⟩
  · rw [hresolve] at h
    cases h
  · rw [hresolve] at h
    cases h
    rfl

/-- All that an operation does that asks for the texture of a tile: it searches for it, and may add
a triangle to the frame. -/
structure Resolution (p : Processor α) (i : TileIndex) (op : Operation) : Prop where
  found?_eq : p.found? op = (p.resolveTexture i).1.toOption
  validHeight_eq : ∀ triangle, p.queued? op = some triangle →
    triangle.validHeight = ((p.resolveTexture i).2.tiles.get i).validHeight
  state_eq : (p.perform op).2 = { (p.resolveTexture i).2 with
    frame := (p.queued? op).elim p.frame p.frame.pushTriangle }

/-- An operation that only searches for the texture. -/
theorem resolution_of_search {p : Processor α} {i : TileIndex} {op : Operation}
    (hstate : (p.perform op).2 = (p.resolveTexture i).2)
    (hfound : p.queued? op = none → p.found? op = (p.resolveTexture i).1.toOption) :
    p.Resolution i op := by
  have hqueued : p.queued? op = none := queued?_eq_none (hstate ▸ p.resolveTexture_frame i)
  constructor
  · exact hfound hqueued
  · intro triangle htriangle
    rw [hqueued] at htriangle
    cases htriangle
  · rw [hstate, hqueued]
    show _ = { (p.resolveTexture i).2 with frame := p.frame }
    rw [← p.resolveTexture_frame i]

/-- An operation that adds a triangle to the frame. -/
theorem resolution_of_push {p : Processor α} {i : TileIndex} {op : Operation} {triangle : Triangle}
    (hstate : (p.perform op).2 =
      { (p.resolveTexture i).2 with frame := p.frame.pushTriangle triangle })
    (hfound : p.queued? op = some triangle → p.found? op = (p.resolveTexture i).1.toOption)
    (hrows : triangle.validHeight = ((p.resolveTexture i).2.tiles.get i).validHeight) :
    p.Resolution i op := by
  have hqueued : p.queued? op = some triangle := queued?_eq_some (by rw [hstate])
  constructor
  · exact hfound hqueued
  · intro other hother
    rw [hqueued] at hother
    cases hother
    exact hrows
  · rw [hstate, hqueued]
    rfl

/-- Decoding a tile is the search for its texture. -/
theorem resolution_decodeTile {p : Processor α} {n : Nat} {i : TileIndex}
    (h : TileIndex.ofNat? n = some i) : p.Resolution i (.decodeTile n) := by
  have hdecode : p.decodeTile n =
      ((p.resolveTexture i).1.mapError Error.texture, (p.resolveTexture i).2) := by
    unfold decodeTile
    rw [h]
    dsimp only
    rcases p.resolveTexture i with ⟨e | texture, q⟩
    · rfl
    · rfl
  refine resolution_of_search (congrArg Prod.snd hdecode) fun _ => ?_
  show (p.decodeTile n).1.toOption = _
  rw [hdecode]
  cases (p.resolveTexture i).1 <;> rfl

/-- A textured triangle searches for the texture of its tile. It is queued with what was found, or
not at all if the search failed. -/
theorem resolution_triangle {p : Processor α} {m : ExternalMemory} {row : Row}
    {t : TriangleCommand} (hdecode : Command.decode row = .triangle t)
    (htexture : t.kind.texture = true) :
    p.Resolution (.wrap t.edges.tile) (.execute m row) := by
  have hstate : (p.perform (.execute m row)).2 = (p.drawTriangle t).2 := by
    show (p.execute m (.decode row)).2 = _
    rw [hdecode]
    rfl
  have hfound (triangle? : Option Triangle) (h : p.queued? (.execute m row) = triangle?) :
      p.found? (.execute m row) = triangle?.map Triangle.texture :=
    congrArg (Option.map Triangle.texture) h
  rcases p.drawTriangle_cases t with ⟨hnone, -⟩ | ⟨texture, q, -, hresolve, heq⟩ |
    ⟨e, q, -, hresolve, heq⟩
  · rw [htexture] at hnone
    cases hnone
  · -- A texture was found, or there is none to draw: the triangle goes into the frame that the
    -- search left alone.
    obtain ⟨triangle, hpush, htriangle, hrows⟩ : ∃ triangle,
        q.pushTriangle t texture (q.tiles.get (.wrap t.edges.tile)).validHeight =
          { q with frame := q.frame.pushTriangle triangle } ∧ triangle.texture = texture ∧
        triangle.validHeight = (q.tiles.get (.wrap t.edges.tile)).validHeight :=
      ⟨_, rfl, rfl, rfl⟩
    have hframe := p.resolveTexture_frame (.wrap t.edges.tile)
    rw [heq, hpush] at hstate
    rw [hresolve] at hframe
    have hpushed : (p.perform (.execute m row)).2 =
        { (p.resolveTexture (.wrap t.edges.tile)).2 with
          frame := p.frame.pushTriangle triangle } := by
      rw [hstate, hresolve, ← hframe]
    refine resolution_of_push hpushed (fun hqueued => ?_) ?_
    · rw [hfound _ hqueued, hresolve, Option.map_some, htriangle]
      rfl
    · rw [hresolve]
      exact hrows
  · rw [heq] at hstate
    refine resolution_of_search ?_ fun hqueued => ?_
    · rw [hstate, hresolve]
    · rw [hfound _ hqueued, hresolve]
      rfl

/-- Both operations that search for a texture are covered. -/
theorem resolution_of_resolves (p : Processor α) {i : TileIndex} {op : Operation}
    (h : op.Resolves i) : p.Resolution i op := by
  cases op with
  | execute m row =>
    obtain ⟨t, hdecode, htexture, rfl⟩ := h
    exact resolution_triangle hdecode htexture
  | decodeTile n => exact resolution_decodeTile h
  | processBatch m batch => exact h.elim
  | takeFrame => exact h.elim
  | reset => exact h.elim
  | release handles => exact h.elim

end

/-! ## The same texture -/

section

variable {α : Type}

/-- The search for the texture of a tile has this result, and changes nothing. -/
inductive Settled (p : Processor α) (i : TileIndex) :
    Except TextureError (Option TextureRef) → Prop
  | cached {texture : TextureRef} (htexture : (p.tiles.get i).texture = some texture) :
      Settled p i (.ok (some texture))
  | empty (htexture : (p.tiles.get i).texture = none)
      (hdecode : p.textureMemory.decode (p.tiles.get i) = .ok none) : Settled p i (.ok none)
  | undecodable {e : TextureError} (htexture : (p.tiles.get i).texture = none)
      (hdecode : p.textureMemory.decode (p.tiles.get i) = .error e) : Settled p i (.error e)

/-- What matters for the texture of a tile is as before: its slot, and what texture memory holds for
it. -/
structure SameTile (p q : Processor α) (i : TileIndex) : Prop where
  slot_eq : q.tiles.get i = p.tiles.get i
  decode_eq : q.textureMemory.decode (p.tiles.get i) = p.textureMemory.decode (p.tiles.get i)

namespace SameTile

variable {p q r : Processor α} {i : TileIndex}

theorem refl (p : Processor α) (i : TileIndex) : p.SameTile p i := ⟨rfl, rfl⟩

theorem trans (h : p.SameTile q i) (h' : q.SameTile r i) : p.SameTile r i where
  slot_eq := h'.slot_eq.trans h.slot_eq
  decode_eq := by
    rw [← h.slot_eq, h'.decode_eq, h.slot_eq, h.decode_eq]

end SameTile

namespace Settled

variable {p q : Processor α} {i : TileIndex} {result : Except TextureError (Option TextureRef)}

/-- What is settled stays settled as long as the tile and what it decodes to stay. -/
theorem of_sameTile (h : p.Settled i result) (hsame : p.SameTile q i) : q.Settled i result := by
  obtain ⟨hslot, hmemory⟩ := hsame
  cases h with
  | cached htexture => exact .cached (by rw [hslot, htexture])
  | empty htexture hdecode =>
    exact .empty (by rw [hslot, htexture]) (by rw [hslot, hmemory, hdecode])
  | undecodable htexture hdecode =>
    exact .undecodable (by rw [hslot, htexture]) (by rw [hslot, hmemory, hdecode])

variable [TextureAllocator α]

/-- A settled search has the same answer again and changes nothing. -/
theorem resolveTexture_eq (h : p.Settled i result) : p.resolveTexture i = (result, p) := by
  unfold resolveTexture
  cases h with
  | cached htexture => rw [htexture]
  | empty htexture hdecode => rw [htexture, hdecode]
  | undecodable htexture hdecode => rw [htexture, hdecode]

/-- The search for the texture of another tile may build one, but not for this tile. -/
theorem sameTile_resolveTexture (h : p.Settled i result) (j : TileIndex) :
    p.SameTile (p.resolveTexture j).2 i := by
  -- A search at the settled slot itself changes nothing; elsewhere it caches in that other slot.
  by_cases hij : i = j
  · rw [← hij, h.resolveTexture_eq]
    exact .refl p i
  · have hspec := p.resolveTexture_spec j
    generalize p.resolveTexture j = result at hspec
    cases hspec with
    | cached => exact .refl p i
    | empty => exact .refl p i
    | undecodable => exact .refl p i
    | refused => exact ⟨rfl, rfl⟩
    | built => exact ⟨p.get_cacheTexture_of_ne _ hij _, rfl⟩

end Settled

variable [TextureAllocator α]

/-- A tile load for another slot leaves this slot alone. -/
theorem sameTile_loadTile (p : Processor α) (m : ExternalMemory) {tile : Nat} {i : TileIndex}
    (hne : i ≠ .wrap tile) (rect : TileRect) : p.SameTile (p.loadTile m tile rect).2 i := by
  have hprepared := p.get_prepareTileLoad_of_ne hne rect
  have hspec := p.loadTile_spec m tile rect
  generalize p.loadTile m tile rect = result at hspec
  cases hspec with
  | empty => exact ⟨hprepared, rfl⟩
  | undecodable => exact ⟨hprepared, rfl⟩
  | refused => exact ⟨hprepared, rfl⟩
  | built =>
    refine ⟨?_, rfl⟩
    rw [get_setLoadedRows_of_ne _ hne, get_cacheTexture_of_ne _ _ hne, hprepared]

/-- A command that does not concern a tile with a settled answer leaves all alone that matters for
it. -/
theorem Settled.sameTile_execute {p : Processor α} {i : TileIndex}
    {result : Except TextureError (Option TextureRef)} (h : p.Settled i result)
    (m : ExternalMemory) {command : Command} (hnot : p.commandInvalidates m i command = false) :
    p.SameTile (p.execute m command).2 i := by
  -- What leaves the slot settled is a search, a command for another slot, a dropped block, or one
  -- that has nothing to do with tiles.
  cases command with
  | triangle t =>
    exact drawTriangle_induction (P := fun q => p.SameTile q i) (.refl p i)
      h.sameTile_resolveTexture (fun _ _ hq => ⟨hq.slot_eq, hq.decode_eq⟩) t
  | setTileSize tile rect =>
    have hne : TileIndex.wrap tile ≠ i := of_decide_eq_false hnot
    exact ⟨p.tiles.get_set_drop_of_ne hne.symm _, rfl⟩
  | loadBlock tile slo tlo shi dt =>
    have hdropped : (p.loadBlock m tile slo tlo shi dt).1 ≠ .applied := of_decide_eq_false hnot
    show p.SameTile (p.loadBlock m tile slo tlo shi dt).2 i
    rw [loadBlock_eq_self hdropped]
    exact .refl p i
  | loadTile tile rect =>
    have hne : TileIndex.wrap tile ≠ i := of_decide_eq_false hnot
    exact p.sameTile_loadTile m hne.symm rect
  | setTile tile properties =>
    have hne : TileIndex.wrap tile ≠ i := of_decide_eq_false hnot
    exact ⟨p.tiles.get_set_drop_of_ne hne.symm _, rfl⟩
  | _ => exact ⟨rfl, rfl⟩

/-- An operation that does not invalidate the slot leaves it settled. -/
theorem Settled.sameTile_perform {p : Processor α} {i : TileIndex}
    {result : Except TextureError (Option TextureRef)} (h : p.Settled i result) {op : Operation}
    (hstep : op.IsStep) (hnot : p.invalidates i op = false) : p.SameTile (p.perform op).2 i := by
  cases op with
  | processBatch m batch => exact hstep.elim
  | execute m row => exact h.sameTile_execute m hnot
  | decodeTile n =>
    exact decodeTile_induction (P := fun q => p.SameTile q i) (.refl p i)
      h.sameTile_resolveTexture n
  | takeFrame => exact ⟨rfl, rfl⟩
  | reset => cases hnot
  | release handles => exact ⟨rfl, rfl⟩

/-- The same for a run of such operations. -/
theorem Settled.sameTile_after {p : Processor α} {i : TileIndex}
    {result : Except TextureError (Option TextureRef)} (h : p.Settled i result)
    {ops : List Operation} (hops : ∀ op ∈ ops, op.IsStep)
    (hnot : p.someStep (fun q => q.invalidates i) ops = false) : p.SameTile (p.after ops) i :=
  after_induction_of_someStep (P := fun q => p.SameTile q i)
    (fun _ _ hstep hkept hsame =>
      hsame.trans ((h.of_sameTile hsame).sameTile_perform hstep hkept))
    hops hnot (.refl p i)

end

/-- Over a pool, which refuses nothing, a search settles the answer. -/
theorem settled_resolveTexture (p : Processor TexturePool) (i : TileIndex) :
    (p.resolveTexture i).2.Settled i (p.resolveTexture i).1 := by
  rcases p.resolveTexture_cases i with
    ⟨texture, htexture, heq⟩ | ⟨htexture, ⟨e, hdecode, heq⟩ | ⟨hdecode, heq⟩ | ⟨image, -, heq⟩⟩
  · rw [heq]
    exact .cached htexture
  · rw [heq]
    exact .undecodable htexture hdecode
  · rw [heq]
    exact .empty htexture hdecode
  · exact heq ▸ .cached (texture_of_resolveTexture heq)

/-! ## Another texture -/

/-- A pool never shrinks. -/
theorem Accrues.size_le {p q : Processor TexturePool} (h : p.Accrues q) :
    p.allocator.entries.size ≤ q.allocator.entries.size := by
  obtain ⟨hpool, -⟩ | ⟨image, hpool, -⟩ := h
  · exact Nat.le_of_eq (congrArg (fun pool => pool.entries.size) hpool.symm)
  · rw [hpool]
    show _ ≤ (p.allocator.entries.push (some image)).size
    rw [Array.size_push]
    exact Nat.le_succ _

/-- What becomes of the texture of a tile. The one that it has afterwards was built in between, or
it had it before and nothing has taken it away. -/
structure TextureStep (p q : Processor TexturePool) (i : TileIndex) (taken : Bool) : Prop where
  size_le : p.allocator.entries.size ≤ q.allocator.entries.size
  built_or_kept : ∀ texture, (q.tiles.get i).texture = some texture →
    (p.allocator.entries.size < texture.handle.id ∧
      texture.handle.id ≤ q.allocator.entries.size) ∨
    ((p.tiles.get i).texture = some texture ∧ taken = false)

namespace TextureStep

variable {p q : Processor TexturePool} {i : TileIndex}

theorem of_same (hsize : p.allocator.entries.size ≤ q.allocator.entries.size)
    (htexture : (q.tiles.get i).texture = (p.tiles.get i).texture) : p.TextureStep q i false :=
  ⟨hsize, fun _ h => .inr ⟨htexture ▸ h, rfl⟩⟩

theorem of_none (hsize : p.allocator.entries.size ≤ q.allocator.entries.size)
    (htexture : (q.tiles.get i).texture = none) (taken : Bool) : p.TextureStep q i taken :=
  ⟨hsize, fun _ h => absurd (htexture.symm.trans h) nofun⟩

/-- A change to one slot takes away its texture, and leaves other slots alone. -/
theorem of_slot (hsize : p.allocator.entries.size ≤ q.allocator.entries.size) {tile : Nat}
    (hself : (q.tiles.get (.wrap tile)).texture = none)
    (hother : i ≠ .wrap tile → q.tiles.get i = p.tiles.get i) :
    p.TextureStep q i (TileIndex.wrap tile = i) := by
  by_cases hi : TileIndex.wrap tile = i
  · exact .of_none hsize (hi ▸ hself) _
  · rw [decide_eq_false hi]
    exact .of_same hsize (congrArg Tile.texture (hother (Ne.symm hi)))

/-- The one that a tile has now was built last. -/
theorem of_keep {image : Image} (hkeep : q.allocator = p.allocator.keep image)
    {texture : TextureRef} (htexture : (q.tiles.get i).texture = some texture)
    (hfresh : texture.handle = p.allocator.fresh) (taken : Bool) : p.TextureStep q i taken := by
  have hsize : q.allocator.entries.size = p.allocator.entries.size + 1 := by
    rw [hkeep]
    exact Array.size_push _
  refine ⟨by omega, fun other hother => .inl ?_⟩
  cases htexture.symm.trans hother
  rw [hfresh, hsize]
  exact ⟨Nat.lt_succ_self _, Nat.le_refl _⟩

end TextureStep

/-- A search takes no texture away, and one that it puts in a slot is new. -/
theorem textureStep_resolveTexture (p : Processor TexturePool) (i j : TileIndex) :
    p.TextureStep (p.resolveTexture j).2 i false := by
  have hsize := (p.resolveTexture_accrues j).size_le
  rcases p.resolveTexture_cases j with
    ⟨_, -, heq⟩ | ⟨-, ⟨_, -, heq⟩ | ⟨-, heq⟩ | ⟨image, -, heq⟩⟩ <;> rw [heq] at hsize ⊢
  · exact .of_same hsize rfl
  · exact .of_same hsize rfl
  · exact .of_same hsize rfl
  · -- A texture was built: in this slot it is new, and any other slot keeps its own.
    by_cases hij : i = j
    · subst hij
      exact .of_keep rfl (congrArg Tile.texture (p.tiles.get_install_self i _)) rfl false
    · exact .of_same hsize (congrArg Tile.texture (p.tiles.get_set_drop_of_ne hij _))

/-- A tile load takes the texture of its own slot only, and what it puts there is new. -/
theorem textureStep_loadTile (p : Processor TexturePool) (m : ExternalMemory) (tile : Nat)
    (rect : TileRect) (i : TileIndex) :
    p.TextureStep (p.loadTile m tile rect).2 i (TileIndex.wrap tile = i) := by
  have hsize := (p.loadTile_accrues m tile rect).size_le
  by_cases hi : i = .wrap tile
  · subst hi
    have hprepared := congrArg Tile.texture (p.get_prepareTileLoad (.wrap tile) rect)
    rcases p.loadTile_cases m tile rect with ⟨_, -, heq⟩ | ⟨-, heq⟩ | ⟨image, -, heq⟩ <;>
      rw [heq] at hsize ⊢
    · exact .of_none hsize hprepared _
    · exact .of_none hsize hprepared _
    · have hcached := congrArg Tile.texture
        (get_cacheLoadedImage (p.prepareTileLoad (.wrap tile) rect) (.wrap tile) rect image)
      exact TextureStep.of_keep (p := p) rfl hcached rfl _
  · rw [decide_eq_false (Ne.symm hi)]
    exact .of_same hsize (congrArg Tile.texture (p.sameTile_loadTile m hi rect).slot_eq)

/-- What a command makes of the texture of a tile. -/
theorem textureStep_execute (p : Processor TexturePool) (m : ExternalMemory) (command : Command)
    (i : TileIndex) :
    p.TextureStep (p.execute m command).2 i (p.commandInvalidates m i command) := by
  have hsize := (p.execute_accrues m command).size_le
  cases command with
  | triangle t =>
    exact drawTriangle_induction (P := fun q => p.TextureStep q i false)
      (.of_same (Nat.le_refl _) rfl) (p.textureStep_resolveTexture i)
      (fun _ _ hq => ⟨hq.size_le, hq.built_or_kept⟩) t
  | setTileSize tile rect =>
    have hself : ((p.tiles.setRect (.wrap tile) rect p.textureMemory.texelsLoaded).get
        (.wrap tile)).texture = none := by
      rw [TileTable.get_setRect_self]
      split <;> rfl
    exact .of_slot hsize hself fun hne => p.tiles.get_set_drop_of_ne hne _
  | loadBlock tile slo tlo shi dt =>
    have hload : (p.loadBlock m tile slo tlo shi dt).1 = .applied →
        ((p.loadBlock m tile slo tlo shi dt).2.tiles.get i).texture = none := by
      rw [loadBlock_eq]
      split
      · exact nofun
      · exact fun _ => congrArg Tile.texture (p.tiles.get_dropAll _ i)
    by_cases happlied : (p.loadBlock m tile slo tlo shi dt).1 = .applied
    · exact .of_none hsize (hload happlied) _
    · show p.TextureStep (p.loadBlock m tile slo tlo shi dt).2 i (decide _)
      rw [decide_eq_false happlied, loadBlock_eq_self happlied]
      exact .of_same (Nat.le_refl _) rfl
  | loadTile tile rect => exact p.textureStep_loadTile m tile rect i
  | setTile tile properties =>
    have hself := congrArg Tile.texture (p.tiles.get_setProperties_self (.wrap tile) properties)
    exact .of_slot hsize hself fun hne => p.tiles.get_set_drop_of_ne hne _
  | _ => exact .of_same (Nat.le_refl _) rfl

/-- Every operation is a texture step, which keeps the texture only where it does not invalidate the
slot. -/
theorem textureStep_perform (p : Processor TexturePool) {op : Operation} (hstep : op.IsStep)
    (i : TileIndex) : p.TextureStep (p.perform op).2 i (p.invalidates i op) := by
  cases op with
  | processBatch m batch => exact hstep.elim
  | execute m row => exact p.textureStep_execute m (.decode row) i
  | decodeTile n =>
    exact decodeTile_induction (P := fun q => p.TextureStep q i false)
      (.of_same (Nat.le_refl _) rfl) (p.textureStep_resolveTexture i) n
  | takeFrame => exact .of_same (Nat.le_refl _) rfl
  | reset =>
    have hsize : p.allocator.entries.size = p.reset.allocator.entries.size :=
      (p.allocator.size_entries_releaseAll _).symm
    exact .of_none (Nat.le_of_eq hsize) (congrArg Tile.texture (TileTable.get_powerOn i)) true
  | release handles =>
    exact .of_same (Nat.le_of_eq (p.allocator.size_entries_releaseAll handles).symm) rfl

/-- Every cached texture was built by the pool. -/
def CachesBuilt (p : Processor TexturePool) : Prop :=
  ∀ i texture, (p.tiles.get i).texture = some texture →
    texture.handle.id ≤ p.allocator.entries.size

theorem cachesBuilt_powerOn (settings : Settings) (pool : TexturePool) :
    (powerOn settings pool).CachesBuilt := by
  intro i texture htexture
  have hslot : (powerOn settings pool).tiles.get i = .powerOn := TileTable.get_powerOn i
  rw [hslot] at htexture
  cases htexture

/-- Cached handles stay among those the pool has issued. -/
theorem CachesBuilt.perform {p : Processor TexturePool} (h : p.CachesBuilt) {op : Operation}
    (hstep : op.IsStep) : (p.perform op).2.CachesBuilt := by
  intro i texture htexture
  have hspan := p.textureStep_perform hstep i
  rcases hspan.built_or_kept texture htexture with ⟨-, hle⟩ | ⟨hkept, -⟩
  · exact hle
  · exact Nat.le_trans (h i texture hkept) hspan.size_le

theorem CachesBuilt.after {p : Processor TexturePool} (h : p.CachesBuilt) {ops : List Operation}
    (hops : ∀ op ∈ ops, op.IsStep) : (p.after ops).CachesBuilt := by
  induction ops generalizing p with
  | nil => exact h
  | cons op rest ih =>
    exact ih (h.perform (hops op List.mem_cons_self))
      fun later hmem => hops later (List.mem_cons_of_mem _ hmem)

/-- The texture of a tile, if it has one, was built after a number of others. -/
structure BuiltAfter (p : Processor TexturePool) (i : TileIndex) (count : Nat) : Prop where
  count_le : count ≤ p.allocator.entries.size
  count_lt : ∀ texture, (p.tiles.get i).texture = some texture → count < texture.handle.id

namespace BuiltAfter

variable {p q : Processor TexturePool} {i : TileIndex} {count : Nat}

/-- Whatever the tile gets later was built later still. -/
theorem of_textureStep (h : p.BuiltAfter i count) {taken : Bool} (hspan : p.TextureStep q i taken) :
    q.BuiltAfter i count := by
  refine ⟨Nat.le_trans h.count_le hspan.size_le, fun texture htexture => ?_⟩
  rcases hspan.built_or_kept texture htexture with ⟨hlt, -⟩ | ⟨hkept, -⟩
  · exact Nat.lt_of_le_of_lt h.count_le hlt
  · exact h.count_lt texture hkept

/-- Once its texture was taken away, what the tile gets was built after all that there was. -/
theorem of_taken (hcount : count ≤ p.allocator.entries.size) (hspan : p.TextureStep q i true) :
    q.BuiltAfter i count := by
  refine ⟨Nat.le_trans hcount hspan.size_le, fun texture htexture => ?_⟩
  rcases hspan.built_or_kept texture htexture with ⟨hlt, -⟩ | ⟨-, hkept⟩
  · exact Nat.lt_of_le_of_lt hcount hlt
  · cases hkept

theorem after (h : p.BuiltAfter i count) {ops : List Operation} (hops : ∀ op ∈ ops, op.IsStep) :
    (p.after ops).BuiltAfter i count := by
  induction ops generalizing p with
  | nil => exact h
  | cons op rest ih =>
    exact ih (h.of_textureStep (p.textureStep_perform (hops op List.mem_cons_self) i))
      fun later hmem => hops later (List.mem_cons_of_mem _ hmem)

/-- If anything in a run concerns a tile, its texture after the run was built during the run. -/
theorem of_someStep (hcount : count ≤ p.allocator.entries.size) {ops : List Operation}
    (hops : ∀ op ∈ ops, op.IsStep)
    (hsome : p.someStep (fun q => q.invalidates i) ops = true) :
    (p.after ops).BuiltAfter i count := by
  induction ops generalizing p with
  | nil => cases hsome
  | cons op rest ih =>
    have hspan := p.textureStep_perform (hops op List.mem_cons_self) i
    have hrest : ∀ later ∈ rest, later.IsStep :=
      fun later hmem => hops later (List.mem_cons_of_mem _ hmem)
    -- From the first operation that invalidates the slot, a texture in it is younger.
    cases hfirst : p.invalidates i op with
    | true =>
      rw [hfirst] at hspan
      exact (of_taken hcount hspan).after hrest
    | false =>
      rw [someStep, hfirst, Bool.false_or] at hsome
      exact ih (Nat.le_trans hcount hspan.size_le) hrest hsome

end BuiltAfter

/-! ## Two questions -/

section

variable {p : Processor TexturePool} {i : TileIndex} {first second : Operation}
  {between : List Operation}

/-- As long as nothing concerns a tile, it gives the same answer again, and nothing is built. -/
theorem answer_eq_of_not_invalidated (hfirst : first.Resolves i) (hsecond : second.Resolves i)
    (hbetween : ∀ op ∈ between, op.IsStep)
    (hnot : (p.perform first).2.someStep (fun p => p.invalidates i) between = false) :
    let q := (p.perform first).2.after between
    q.found? second = p.found? first ∧
    (∀ triangle triangle', p.queued? first = some triangle → q.queued? second = some triangle' →
      triangle'.validHeight = triangle.validHeight) ∧
    (q.perform second).2 =
      { q with frame := (q.queued? second).elim q.frame q.frame.pushTriangle } := by
  intro q
  have hp := p.resolution_of_resolves hfirst
  have hq := q.resolution_of_resolves hsecond
  -- The first search settles the slot, and nothing in between unsettles it.
  have hsettled : (p.perform first).2.Settled i (p.resolveTexture i).1 := by
    rw [hp.state_eq]
    exact (p.settled_resolveTexture i).of_sameTile ⟨rfl, rfl⟩
  have hsame : (p.perform first).2.SameTile q i := hsettled.sameTile_after hbetween hnot
  have hresolve : q.resolveTexture i = _ := (hsettled.of_sameTile hsame).resolveTexture_eq
  refine ⟨?_, ?_, ?_⟩
  · rw [hq.found?_eq, hp.found?_eq, hresolve]
  · intro triangle triangle' htriangle htriangle'
    rw [hq.validHeight_eq _ htriangle', hp.validHeight_eq _ htriangle, hresolve]
    rw [hsame.slot_eq, hp.state_eq]
  · rw [hq.state_eq, hresolve]

/-- Once something concerned a tile, a texture that it gives was built after the earlier one. -/
theorem handle_ne_of_invalidated (hp : p.CachesBuilt) (hfirst : first.Resolves i)
    (hfirstStep : first.IsStep) (hsecond : second.Resolves i)
    (hbetween : ∀ op ∈ between, op.IsStep)
    (hsome : (p.perform first).2.someStep (fun p => p.invalidates i) between = true)
    {texture texture' : TextureRef} (hfound : p.found? first = some (some texture))
    (hfound' : ((p.perform first).2.after between).found? second = some (some texture')) :
    texture'.handle ≠ texture.handle := by
  -- Handles are numbered as they are issued: the first is among those issued by the first search,
  -- and the second comes after them.
  intro heq
  have hold : texture.handle.id ≤ (p.perform first).2.allocator.entries.size := by
    have hresolution := p.resolution_of_resolves hfirst
    have hcached : ((p.resolveTexture i).2.tiles.get i).texture = some texture :=
      texture_of_resolveTexture
        (resolveTexture_of_toOption (hresolution.found?_eq.symm.trans hfound))
    refine hp.perform hfirstStep i texture ?_
    rw [hresolution.state_eq]
    exact hcached
  have hnew : (p.perform first).2.allocator.entries.size < texture'.handle.id := by
    have hafter := BuiltAfter.of_someStep (Nat.le_refl _) hbetween hsome
    generalize (p.perform first).2.after between = q at hfound' hafter
    have hresolution := q.resolution_of_resolves hsecond
    have hcached : ((q.resolveTexture i).2.tiles.get i).texture = some texture' :=
      texture_of_resolveTexture
        (resolveTexture_of_toOption (hresolution.found?_eq.symm.trans hfound'))
    exact (hafter.of_textureStep (q.textureStep_resolveTexture i i)).count_lt texture' hcached
  rw [heq] at hnew
  exact absurd hold (Nat.not_le.mpr hnew)

end

/-- **The texture of a tile changes exactly when something concerns the tile.** Take two moments of
a run over a pool, batches taken row by row, at which a tile is asked for its texture. If nothing in
between concerns the tile, then the second answer is the first one, triangles take the same number
of loaded rows from it, and the second time nothing changes except for the triangle in the frame. If
something does, and both times there is a texture, then the second one has another handle. -/
theorem texture_changes_iff_invalidated (settings : Settings) (pool : TexturePool)
    (ops : List Operation) {before between rest : List Operation} {first second : Operation}
    {i : TileIndex}
    (hrun : (powerOn settings pool).steps ops = before ++ first :: (between ++ second :: rest))
    (hfirst : first.Resolves i) (hsecond : second.Resolves i) :
    let p := (powerOn settings pool).after before
    let q := (p.perform first).2.after between
    let invalidated := (p.perform first).2.someStep (fun p => p.invalidates i) between
    (invalidated = false →
      q.found? second = p.found? first ∧
      (∀ triangle triangle', p.queued? first = some triangle → q.queued? second = some triangle' →
        triangle'.validHeight = triangle.validHeight) ∧
      (q.perform second).2 =
        { q with frame := (q.queued? second).elim q.frame q.frame.pushTriangle }) ∧
    (invalidated = true →
      ∀ texture texture', p.found? first = some (some texture) →
        q.found? second = some (some texture') → texture'.handle ≠ texture.handle) := by
  intro p q invalidated
  have hsteps : ∀ op ∈ before ++ first :: (between ++ second :: rest), op.IsStep :=
    fun op hmem => isStep_of_mem_steps (hrun ▸ hmem)
  obtain ⟨hbefore, hlater⟩ := List.forall_mem_append.mp hsteps
  obtain ⟨hfirstStep, hlater⟩ := List.forall_mem_cons.mp hlater
  obtain ⟨hbetween, -⟩ := List.forall_mem_append.mp hlater
  constructor
  · exact answer_eq_of_not_invalidated hfirst hsecond hbetween
  · intro hsome texture texture' hfound hfound'
    have hbuilt : p.CachesBuilt := (cachesBuilt_powerOn settings pool).after hbefore
    exact handle_ne_of_invalidated hbuilt hfirst hfirstStep hsecond hbetween hsome hfound hfound'

/-- A tile is filled and drawn; the frame is handed off, and it is decoded. Then it gets its
properties once more and is drawn again. -/
theorem texture_changes_iff_invalidated_drawAgain :
    let memory : ExternalMemory := .ofBytes fun address => .ofNat address.toNat
    let axis : TileAxis := default
    let redefine : Operation := .execute memory (.setTile 0 0 2 0 8 0 axis axis)
    let draw : Operation := .execute memory [0x0A000000]
    let before : List Operation := [.execute memory (.setTextureImage 0 2 4 0), redefine,
      .execute memory (.setTileSize 0 ⟨0, 3, 0, 0⟩), .execute memory (.loadBlock 0 0 0 3 0)]
    let between : List Operation := [.execute memory (.setFillColor 7), .takeFrame]
    let p := (powerOn .standard TexturePool.empty).after before
    let q := (p.perform draw).2.after between
    let r := (p.perform draw).2.after (between ++ [.decodeTile 0, redefine])
    (q.found? (.decodeTile 0) = p.found? draw ∧ q.queued? (.decodeTile 0) = none ∧
      (q.perform (.decodeTile 0)).2 =
        { q with frame := (q.queued? (.decodeTile 0)).elim q.frame q.frame.pushTriangle }) ∧
    p.found? draw = some (some ⟨⟨1⟩, 4, 1⟩) ∧ r.found? draw = some (some ⟨⟨2⟩, 4, 1⟩) ∧
      (⟨2⟩ : TextureHandle) ≠ ⟨1⟩ := by
  intro memory axis redefine draw before between p q r
  let rows : List Row := [.setTextureImage 0 2 4 0, .setTile 0 0 2 0 8 0 axis axis,
    .setTileSize 0 ⟨0, 3, 0, 0⟩, .loadBlock 0 0 0 3 0, [0x0A000000], .setFillColor 7]
  let ops : List Operation :=
    [.processBatch memory (.ofRows rows), .takeFrame, .decodeTile 0, redefine, draw]
  -- All six rows of the batch are executed.
  have hrows : (Batch.ofRows rows).rows.take ((powerOn .standard TexturePool.empty).batchOutcomes
      memory (.ofRows rows)).length = rows := by decide +kernel
  have hsteps : (powerOn .standard TexturePool.empty).steps ops =
      before ++ draw :: (between ++ [.decodeTile 0, redefine, draw]) := by
    show ((Batch.ofRows rows).rows.take _).map _ ++ _ = _
    rw [hrows]
    rfl
  have hdraw : draw.Resolves 0 :=
    ⟨.decode ⟨false, true, false⟩ [0x0A000000], by decide +kernel, rfl, by decide +kernel⟩
  have hdecode : (Operation.decodeTile 0).Resolves 0 := rfl
  have hfound : p.found? draw = some (some ⟨⟨1⟩, 4, 1⟩) := by decide +kernel
  have hfound' : r.found? draw = some (some ⟨⟨2⟩, 4, 1⟩) := by decide +kernel
  refine ⟨?_, hfound, hfound', ?_⟩
  · have hsame := texture_changes_iff_invalidated .standard .empty ops hsteps hdraw hdecode
    obtain ⟨heq, -, hstate⟩ := hsame.1 (by decide +kernel)
    exact ⟨heq, by decide +kernel, hstate⟩
  · have hsteps' : (powerOn .standard TexturePool.empty).steps ops =
        before ++ draw :: ((between ++ [.decodeTile 0, redefine]) ++ [draw]) := by
      rw [hsteps, List.append_assoc]
      rfl
    have hother := texture_changes_iff_invalidated .standard .empty ops hsteps' hdraw hdraw
    exact hother.2 (by decide +kernel) _ _ hfound hfound'

end Processor

end DisplayProcessor
