import DisplayProcessor.Proofs.BlockContents
import DisplayProcessor.Proofs.HandleOwnership

/-!
# The order of tile setup

The properties of tiles, their rectangles and the texels may be set up in any order: a new rectangle
commutes with new properties and with a block load, for the same tile or another one. Either order
drops the same textures, so the handles that wait to be released are the same, but they may have
been retired in another order.

- `TileTable.SameSlots`: tables with equal slots; `TileTable.SameSlots.retired`.
- `TileTable.setProperties_setRect`, `TileTable.dropAll_setRect`: the table, either way.
- `Processor.SameButRetirement`: processors that differ at most in the order of retired handles.
- `Processor.Commutes`: two commands whose order does not matter.
- `Processor.tile_setup_commutes`: the main result.
-/

namespace DisplayProcessor

open scoped List
open List (Perm)

/-! ## Tile tables -/

namespace TileTable

/-- Two tables with the same slots. -/
def SameSlots (a b : TileTable) : Prop :=
  ∀ i, a.get i = b.get i

namespace SameSlots

variable {a b : TileTable}

theorem tiles_eq (h : a.SameSlots b) : a.tiles = b.tiles := by
  refine Vector.ext fun i hi => ?_
  exact h ⟨i, hi⟩

/-- If the slots are the same and no handle was lost or gained, the same handles are retired. -/
theorem retired (h : a.SameSlots b) (hhandles : a.handles ~ b.handles) : a.retired ~ b.retired := by
  have hcached : a.cached = b.cached := by
    unfold cached toList
    rw [h.tiles_eq]
  unfold handles at hhandles
  rw [hcached] at hhandles
  exact (List.perm_append_left_iff _).mp hhandles

end SameSlots

/-- New properties and a new rectangle, for the same slot or for two. -/
theorem setProperties_setRect (table : TileTable) (i j : TileIndex) (properties : TileProperties)
    (rect : TileRect) (texelsLoaded : Nat) :
    ((table.setProperties i properties).setRect j rect texelsLoaded).SameSlots
      ((table.setRect j rect texelsLoaded).setProperties i properties) := by
  intro k
  -- A slot is described, resized, both or neither.
  by_cases hi : k = i
  · subst hi
    rw [get_setProperties_self]
    by_cases hj : k = j
    · subst hj
      rw [get_setRect_self, get_setProperties_self, get_setRect_self]
      -- The rows are counted by the width of the rectangle alone, which the properties do not
      -- enter.
      by_cases hloaded : texelsLoaded = 0
      · simp only [if_pos hloaded]
      · simp only [if_neg hloaded]
        rfl
    · rw [get_setRect_of_ne _ hj, get_setProperties_self, get_setRect_of_ne _ hj]
  · rw [get_setProperties_of_ne _ hi]
    by_cases hj : k = j
    · subst hj
      rw [get_setRect_self, get_setRect_self, get_setProperties_of_ne _ hi]
    · rw [get_setRect_of_ne _ hj, get_setRect_of_ne _ hj, get_setProperties_of_ne _ hi]

/-- A new rectangle and a block load. The load counts the rows of all slots, and after it texels are
loaded, so a rectangle that is set later counts them again. -/
theorem dropAll_setRect (table : TileTable) (j : TileIndex) (rect : TileRect) (before : Nat)
    {after : Nat} (hafter : after ≠ 0) :
    ((table.setRect j rect before).dropAll after).SameSlots
      ((table.dropAll after).setRect j rect after) := by
  intro k
  rw [get_dropAll]
  by_cases hj : k = j
  · subst hj
    rw [get_setRect_self, get_setRect_self, get_dropAll]
    -- Before the block the rectangle may not have been counted, if nothing was loaded. The block
    -- counts every slot anew, so it makes no difference.
    by_cases hbefore : before = 0
    · simp only [if_pos hbefore, if_neg hafter]
      rfl
    · simp only [if_neg hbefore, if_neg hafter]
      rfl
  · rw [get_setRect_of_ne _ hj, get_setRect_of_ne _ hj, get_dropAll]

end TileTable

/-! ## Processors -/

namespace Processor

variable {α : Type}

/-- The same processor, with another list of retired handles in its tile table. -/
def withRetired (p : Processor α) (handles : List TextureHandle) : Processor α :=
  { p with tiles.retired := handles }

/-- Two processors that are equal, except that the retired handles may be in another order. -/
structure SameButRetirement (p q : Processor α) : Prop where
  retired : p.tiles.retired ~ q.tiles.retired
  rest : p.withRetired [] = q.withRetired []

/-- The same slots with the same handles, and the rest equal, is enough. -/
theorem SameButRetirement.of_sameSlots {p q : Processor α} (hslots : p.tiles.SameSlots q.tiles)
    (hhandles : p.tiles.handles ~ q.tiles.handles)
    (hrest : { p with tiles := q.tiles } = q) : p.SameButRetirement q := by
  refine ⟨hslots.retired hhandles, ?_⟩
  rw [← hrest]
  show { p with tiles := ⟨p.tiles.tiles, []⟩ } = { p with tiles := ⟨q.tiles.tiles, []⟩ }
  rw [hslots.tiles_eq]

variable [TextureAllocator α]

/-- The order of two commands does not matter: each has the same outcome, first or second, and both
orders lead to the same processor, except that handles may be retired in another order. -/
structure Commutes (p : Processor α) (m : ExternalMemory) (a b : Command) : Prop where
  outcome_a : (p.execute m a).1 = ((p.execute m b).2.execute m a).1
  outcome_b : (p.execute m b).1 = ((p.execute m a).2.execute m b).1
  state : ((p.execute m a).2.execute m b).2.SameButRetirement ((p.execute m b).2.execute m a).2

/-- A description and a rectangle commute, for one slot or for two. -/
theorem setTile_commutes_setTileSize (p : Processor α) (m : ExternalMemory) (i j : Nat)
    (properties : TileProperties) (rect : TileRect) :
    p.Commutes m (.setTile i properties) (.setTileSize j rect) where
  outcome_a := rfl
  outcome_b := rfl
  state := by
    refine .of_sameSlots (p.tiles.setProperties_setRect _ _ _ _ _) ?_ rfl
    -- Both orders move the same cached handles to the retired list, in different orders.
    calc ((p.tiles.setProperties (.wrap i) properties).setRect (.wrap j) rect _).handles
      _ ~ (p.tiles.setProperties (.wrap i) properties).handles := TileTable.handles_setRect ..
      _ ~ p.tiles.handles := TileTable.handles_setProperties ..
      _ ~ (p.tiles.setRect (.wrap j) rect _).handles := (TileTable.handles_setRect ..).symm
      _ ~ _ := (TileTable.handles_setProperties ..).symm

/-- A block load does not read rectangles, so it is carried out either way or dropped either way. -/
theorem setTileSize_commutes_loadBlock (p : Processor α) (m : ExternalMemory) (i j : Nat)
    (rect : TileRect) (slo tlo shi dt : Nat) :
    p.Commutes m (.setTileSize j rect) (.loadBlock i slo tlo shi dt) := by
  let q := (p.execute m (.setTileSize j rect)).2
  -- The block reads the properties of its slot and not the rectangle.
  have hoperands : q.blockLoad i slo tlo shi dt = p.blockLoad i slo tlo shi dt := by
    have hproperties : (q.tiles.get (.wrap i)).properties = (p.tiles.get (.wrap i)).properties :=
      p.tiles.properties_setRect _ _ _ _
    unfold blockLoad
    rw [hproperties]
    rfl
  cases hload : p.textureMemory.load? m (p.blockLoad i slo tlo shi dt)
    p.settings.maxBlockTexels.toNat with
  | none =>
    have hp := execute_loadBlock_of_none hload
    have hq : q.execute m (.loadBlock i slo tlo shi dt) = (.ok .dropped, q) :=
      execute_loadBlock_of_none (hoperands ▸ hload)
    refine ⟨rfl, by rw [hp, hq], ?_⟩
    rw [hp, hq]
    exact ⟨Perm.refl _, rfl⟩
  | some memory =>
    -- A block that was accepted counts a texel at least, so its rectangle is counted after it.
    have hloaded : memory.texelsLoaded ≠ 0 := Nat.ne_of_gt (TextureMemory.texelsLoaded_pos hload)
    have hp := execute_loadBlock_of_some hload
    have hq : q.execute m (.loadBlock i slo tlo shi dt) = (.ok .applied,
        { q with textureMemory := memory, tiles := q.tiles.dropAll memory.texelsLoaded }) :=
      execute_loadBlock_of_some (hoperands ▸ hload)
    refine ⟨rfl, by rw [hp, hq], ?_⟩
    rw [hp, hq]
    refine .of_sameSlots (p.tiles.dropAll_setRect (.wrap j) rect _ hloaded) ?_ rfl
    calc ((p.tiles.setRect (.wrap j) rect _).dropAll memory.texelsLoaded).handles
      _ ~ (p.tiles.setRect (.wrap j) rect _).handles := TileTable.handles_dropAll ..
      _ ~ p.tiles.handles := TileTable.handles_setRect ..
      _ ~ (p.tiles.dropAll memory.texelsLoaded).handles := (TileTable.handles_dropAll ..).symm
      _ ~ _ := (TileTable.handles_setRect ..).symm

/-- **Tiles may be set up in any order.** -/
theorem tile_setup_commutes (p : Processor α) (m : ExternalMemory) (i j : Nat)
    (properties : TileProperties) (rect : TileRect) (slo tlo shi dt : Nat) :
    p.Commutes m (.setTile i properties) (.setTileSize j rect) ∧
      p.Commutes m (.setTileSize j rect) (.loadBlock i slo tlo shi dt) :=
  ⟨p.setTile_commutes_setTileSize m i j properties rect,
    p.setTileSize_commutes_loadBlock m i j rect slo tlo shi dt⟩

end Processor

end DisplayProcessor
