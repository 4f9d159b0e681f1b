import DisplayProcessor.Tile

/-!
# The tile table

There are eight tile slots. Any change to the description of a slot drops its cached texture. The
handle of a dropped texture is retired: it waits in the table until the consumer has drawn what
may still sample it.

- `TileIndex`: a slot number; `TileIndex.wrap` takes any number modulo 8, `TileIndex.ofNat?` only
  a slot number.
- `TileTable.drop`, `TileTable.dropAll`: drop cached textures.
- `TileTable.setProperties`, `TileTable.setRect`, `TileTable.install`: change a slot.
- `TileTable.takeRetired`, `TileTable.reset`.
-/

namespace DisplayProcessor

/-- The number of a tile slot. -/
abbrev TileIndex := Fin 8

/-- The slot that a number names, modulo 8. -/
def TileIndex.wrap (n : Nat) : TileIndex :=
  ⟨n % 8, Nat.mod_lt n (by decide)⟩

/-- The slot with exactly this number. -/
def TileIndex.ofNat? (n : Nat) : Option TileIndex :=
  if h : n < 8 then some ⟨n, h⟩ else none

/-- The eight slots, and the handles of dropped textures in the order in which they were dropped. -/
structure TileTable where
  tiles : Vector Tile 8
  retired : List TextureHandle
deriving DecidableEq

namespace TileTable

/-- The table at power-on. -/
def powerOn : TileTable := ⟨Vector.replicate 8 .powerOn, []⟩

instance : Inhabited TileTable := ⟨powerOn⟩

/-- One slot. -/
def get (table : TileTable) (i : TileIndex) : Tile :=
  table.tiles[i]

theorem get_powerOn (i : TileIndex) : powerOn.get i = .powerOn := by
  simp [powerOn, get]

/-- The table with one slot replaced. -/
def set (table : TileTable) (i : TileIndex) (tile : Tile) : TileTable :=
  { table with tiles := table.tiles.set i tile }

@[simp] theorem get_set_self (table : TileTable) (i : TileIndex) (tile : Tile) :
    (table.set i tile).get i = tile := by
  simp [get, set]

theorem get_set_of_ne (table : TileTable) {i j : TileIndex} (h : j ≠ i) (tile : Tile) :
    (table.set i tile).get j = table.get j := by
  simp [get, set, Fin.val_inj, Ne.symm h]

@[simp] theorem retired_set (table : TileTable) (i : TileIndex) (tile : Tile) :
    (table.set i tile).retired = table.retired := rfl

/-- The slots in order. -/
def toList (table : TileTable) : List Tile :=
  table.tiles.toList

/-- The slots are those that are got one by one. -/
theorem ofFn_get (table : TileTable) : Vector.ofFn table.get = table.tiles := by
  ext i hi : 1
  simp [get]

theorem toList_eq (table : TileTable) : table.toList = (List.finRange 8).map table.get := by
  rw [toList, ← ofFn_get, Vector.toList_ofFn, List.finRange, List.map_ofFn]
  rfl

/-- The handle that a slot caches, as a list of at most one. -/
def cachedHandles (tile : Tile) : List TextureHandle :=
  (tile.texture.map TextureRef.handle).toList

/-- The table after the cached texture of one slot, if any, was dropped. -/
def drop (table : TileTable) (i : TileIndex) : TileTable where
  tiles := table.tiles.set i { table.get i with texture := none }
  retired := table.retired ++ cachedHandles (table.get i)

theorem get_drop_self (table : TileTable) (i : TileIndex) :
    (table.drop i).get i = { table.get i with texture := none } := by
  simp [drop, get]

/-- A slot that is replaced after its texture was dropped: the handle is retired. -/
theorem set_drop (table : TileTable) (i : TileIndex) (tile : Tile) :
    (table.drop i).set i tile =
      { table.set i tile with retired := table.retired ++ cachedHandles (table.get i) } := by
  simp [drop, set]

/-- A change to a slot, after its texture was dropped, leaves the other slots alone. -/
theorem get_set_drop_of_ne (table : TileTable) {i j : TileIndex} (h : j ≠ i) (tile : Tile) :
    ((table.drop i).set i tile).get j = table.get j := by
  rw [get_set_of_ne _ h]
  exact table.get_set_of_ne h _

/-- The table after every cached texture was dropped and the loaded rows of every slot were
counted anew. Slots may describe the same texels with different widths, so a block load concerns
all of them. -/
def dropAll (table : TileTable) (texelsLoaded : Nat) : TileTable where
  tiles := table.tiles.map fun tile => { tile with texture := none }.countRows texelsLoaded
  retired := table.retired ++ table.toList.flatMap cachedHandles

theorem get_dropAll (table : TileTable) (texelsLoaded : Nat) (i : TileIndex) :
    (table.dropAll texelsLoaded).get i =
      { table.get i with texture := none }.countRows texelsLoaded := by
  simp [dropAll, get]

/-- The table with new properties in a slot. -/
def setProperties (table : TileTable) (i : TileIndex) (properties : TileProperties) : TileTable :=
  let table := table.drop i
  table.set i { table.get i with properties := properties }

theorem get_setProperties_self (table : TileTable) (i : TileIndex) (properties : TileProperties) :
    (table.setProperties i properties).get i =
      { table.get i with properties := properties, texture := none } := by
  rw [setProperties, get_set_self, get_drop_self]

theorem get_setProperties_of_ne (table : TileTable) {i j : TileIndex} (h : j ≠ i)
    (properties : TileProperties) : (table.setProperties i properties).get j = table.get j :=
  table.get_set_drop_of_ne h _

/-- The table with a new rectangle in a slot. The loaded rows are counted anew only if texels have
been loaded. -/
def setRect (table : TileTable) (i : TileIndex) (rect : TileRect) (texelsLoaded : Nat) :
    TileTable :=
  let table := table.drop i
  let tile := { table.get i with rect := rect }
  table.set i (if texelsLoaded = 0 then tile else tile.countRows texelsLoaded)

theorem get_setRect_self (table : TileTable) (i : TileIndex) (rect : TileRect)
    (texelsLoaded : Nat) :
    (table.setRect i rect texelsLoaded).get i =
      let tile := { table.get i with rect := rect, texture := none }
      if texelsLoaded = 0 then tile else tile.countRows texelsLoaded := by
  rw [setRect, get_set_self, get_drop_self]

theorem get_setRect_of_ne (table : TileTable) {i j : TileIndex} (h : j ≠ i) (rect : TileRect)
    (texelsLoaded : Nat) : (table.setRect i rect texelsLoaded).get j = table.get j :=
  table.get_set_drop_of_ne h _

/-- A new rectangle leaves the properties of all slots alone. -/
theorem properties_setRect (table : TileTable) (i j : TileIndex) (rect : TileRect)
    (texelsLoaded : Nat) :
    ((table.setRect i rect texelsLoaded).get j).properties = (table.get j).properties := by
  by_cases h : j = i
  · subst h
    rw [get_setRect_self]
    dsimp only
    split <;> rfl
  · rw [get_setRect_of_ne _ h]

/-- The table with a texture cached in a slot; one that was cached there before is dropped. -/
def install (table : TileTable) (i : TileIndex) (texture : TextureRef) : TileTable :=
  let table := table.drop i
  table.set i { table.get i with texture := some texture }

theorem get_install_self (table : TileTable) (i : TileIndex) (texture : TextureRef) :
    (table.install i texture).get i = { table.get i with texture := some texture } := by
  rw [install, get_set_self, get_drop_self]

/-- The retired handles, and the table without them. -/
def takeRetired (table : TileTable) : List TextureHandle × TileTable :=
  (table.retired, { table with retired := [] })

/-- The table with every slot as at power-on. Cached textures are dropped first. -/
def reset (table : TileTable) : TileTable where
  tiles := powerOn.tiles
  retired := table.retired ++ table.toList.flatMap cachedHandles

end TileTable

end DisplayProcessor
