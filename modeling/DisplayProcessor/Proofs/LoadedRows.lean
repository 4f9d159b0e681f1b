import DisplayProcessor.Assembly
import DisplayProcessor.Proofs.LoadHistory

/-!
# Loaded texels and loaded rows

The count of loaded texels and the loaded rows of the slots, read off the history of a run. The
count goes back to zero with every hand-off, while the rows of the slots stay; and the rows of a
tile load are those of its rectangle, although it brings nothing to texture memory. So the rows of a
slot depend on what concerned it last.

- `LoadEvent.texelsSinceClear`: what the count of loaded texels should be.
- `LoadEvent.latest`: the last event that concerned a slot.
- `LoadEvent.uncounted`: a tile load whose rows were not counted anew since.
- `Processor.loaded_of_history`: the main result on the count and the rows.
- `Processor.decoded_height_le_iff`: when a texture from texture memory has no more rows than were
  loaded.
-/

namespace DisplayProcessor

/-! ## What a history says -/

namespace LoadEvent

/-- The number of texels that an event brings to texture memory. -/
def texels : LoadEvent → Nat
  | .blockLoad n => n
  | _ => 0

/-- Whether nothing counts as loaded after an event. -/
def clears : LoadEvent → Bool
  | .takeFrame | .reset => true
  | _ => false

/-- Whether an event can change the rows of a slot. Block loads concern every slot. -/
def concerns (i : TileIndex) : LoadEvent → Bool
  | .blockLoad _ | .reset => true
  | .tileLoad j _ _ | .setRect j _ => j = i
  | .takeFrame => false

/-- The texels of the block loads since the last hand-off or reset. -/
def texelsSinceClear (history : List LoadEvent) : Nat :=
  (history.takeWhile fun event => !event.clears).foldr (fun event n => event.texels + n) 0

/-- The last event that concerns a slot. -/
def latest (i : TileIndex) (history : List LoadEvent) : Option LoadEvent :=
  history.find? (concerns i)

/-- The rectangle of the last tile load to a slot, if it built a texture and the rows of the slot
were not counted since. A new rectangle counts them only if texels are loaded. -/
def uncounted (i : TileIndex) : List LoadEvent → Option TileRect
  | [] => none
  | .blockLoad _ :: _ | .reset :: _ => none
  | .tileLoad j rect built :: earlier =>
    if j = i then if built then some rect else none else uncounted i earlier
  | .setRect j _ :: earlier =>
    if j = i ∧ 0 < texelsSinceClear earlier then none else uncounted i earlier
  | .takeFrame :: earlier => uncounted i earlier

/-- An event that clears the count ends the sum; any other adds to it. -/
theorem texelsSinceClear_cons (event : LoadEvent) (earlier : List LoadEvent) :
    texelsSinceClear (event :: earlier) =
      if event.clears then 0 else event.texels + texelsSinceClear earlier := by
  unfold texelsSinceClear
  cases hclears : event.clears <;> simp [hclears]

/-- The last event decides, if it concerns the slot. -/
theorem latest_cons (i : TileIndex) (event : LoadEvent) (earlier : List LoadEvent) :
    latest i (event :: earlier) = if event.concerns i then some event else latest i earlier := by
  unfold latest
  rw [List.find?_cons]
  cases event.concerns i <;> rfl

/-- An event that does not concern a slot leaves its rows uncounted as they were. -/
theorem uncounted_cons_of_not_concerns {i : TileIndex} {event : LoadEvent}
    (h : event.concerns i = false) (earlier : List LoadEvent) :
    uncounted i (event :: earlier) = uncounted i earlier := by
  cases event with
  | blockLoad texels => cases h
  | tileLoad j rect built =>
    have hj : j ≠ i := of_decide_eq_false h
    exact if_neg hj
  | setRect j rect =>
    have hj : j ≠ i := of_decide_eq_false h
    exact if_neg fun hcounted => hj hcounted.1
  | takeFrame => rfl
  | reset => cases h

end LoadEvent

/-! ## What the counts are after a history -/

namespace LoadCounts

open LoadEvent

/-- The count of loaded texels is the sum over the block loads since it was last cleared, as far as
it goes. -/
theorem texelsLoaded_replay (history : List LoadEvent) :
    (powerOn.replay history).texelsLoaded =
      min TextureMemory.maxTexelsLoaded (texelsSinceClear history) := by
  induction history with
  | nil => rfl
  | cons event earlier ih =>
    rw [texelsSinceClear_cons]
    cases event with
    | blockLoad texels =>
      -- A sum that was cut off once stays cut off, whatever is added.
      show min _ ((powerOn.replay earlier).texelsLoaded + texels) = min _ (texels + _)
      rw [ih]
      omega
    | tileLoad i rect built =>
      show (powerOn.replay earlier).texelsLoaded = min _ (0 + _)
      rw [ih, Nat.zero_add]
    | setRect i rect =>
      show (powerOn.replay earlier).texelsLoaded = min _ (0 + _)
      rw [ih, Nat.zero_add]
    | takeFrame => rfl
    | reset => rfl

/-- An event that does not concern a slot leaves it alone, and the count too unless it is a
hand-off. -/
theorem record_of_not_concerns (counts : LoadCounts) {i : TileIndex} {event : LoadEvent}
    (h : event.concerns i = false) :
    (counts.record event).slot i = counts.slot i ∧
      (event ≠ .takeFrame → (counts.record event).texelsLoaded = counts.texelsLoaded) := by
  cases event with
  | blockLoad texels => cases h
  | tileLoad j rect built =>
    have hj : j ≠ i := of_decide_eq_false h
    exact ⟨counts.slot_setSlot_of_ne hj.symm _, fun _ => rfl⟩
  | setRect j rect =>
    have hj : j ≠ i := of_decide_eq_false h
    exact ⟨counts.slot_setSlot_of_ne hj.symm _, fun _ => rfl⟩
  | takeFrame => exact ⟨rfl, fun hne => absurd rfl hne⟩
  | reset => cases h

/-! ### Rows by the last event -/

/-- The rows of a slot after the last event that concerned it. If that was no tile load, nothing is
said unless texels are loaded: a hand-off leaves the rows as they are. -/
def RowsAfter (counts : LoadCounts) (i : TileIndex) : Option LoadEvent → Prop
  | some (.tileLoad _ _ built) =>
    (counts.slot i).rows = if built then (counts.slot i).rect.height else 0
  | _ =>
    0 < counts.texelsLoaded →
      (counts.slot i).rows = counts.texelsLoaded / (counts.slot i).rect.width

/-- What an event does to the rows of a slot that it concerns. -/
theorem rowsAfter_record (counts : LoadCounts) {i : TileIndex} {event : LoadEvent}
    (h : event.concerns i = true) : (counts.record event).RowsAfter i (some event) := by
  cases event with
  | blockLoad texels => exact fun _ => rfl
  | tileLoad j rect built =>
    obtain rfl : j = i := of_decide_eq_true h
    unfold RowsAfter record
    simp only [slot_setSlot_self]
  | setRect j rect =>
    obtain rfl : j = i := of_decide_eq_true h
    intro hloaded
    -- Texels are loaded, so the rows are counted.
    have hne : counts.texelsLoaded ≠ 0 := Nat.ne_of_gt hloaded
    unfold record
    simp only [slot_setSlot_self, if_neg hne]
    rfl
  | takeFrame => cases h
  | reset => exact fun hloaded => absurd hloaded (Nat.lt_irrefl 0)

/-- An event that does not concern a slot leaves its rows as its last one did. -/
theorem RowsAfter.of_not_concerns {counts : LoadCounts} {i : TileIndex} {last : Option LoadEvent}
    (hrows : counts.RowsAfter i last) {event : LoadEvent} (h : event.concerns i = false) :
    (counts.record event).RowsAfter i last := by
  obtain ⟨hslot, hloaded⟩ := counts.record_of_not_concerns h
  -- A hand-off leaves no texels, and any other event as many as there were.
  have hsame (hpos : 0 < (counts.record event).texelsLoaded) :
      (counts.record event).texelsLoaded = counts.texelsLoaded := by
    refine hloaded ?_
    rintro rfl
    exact absurd hpos (Nat.lt_irrefl 0)
  have hcounted (hcount : counts.RowsAfter i none) : (counts.record event).RowsAfter i none := by
    intro hpos
    rw [hslot, hsame hpos]
    exact hcount (hsame hpos ▸ hpos)
  cases last with
  | none => exact hcounted hrows
  | some last =>
    cases last with
    | tileLoad j rect built =>
      show ((counts.record event).slot i).rows = _
      rw [hslot]
      exact hrows
    | _ => exact hcounted hrows

/-- After any history a slot has the rows of its last event. -/
theorem rowsAfter_replay (i : TileIndex) (history : List LoadEvent) :
    (powerOn.replay history).RowsAfter i (latest i history) := by
  induction history with
  | nil => exact fun hpos => absurd hpos (Nat.lt_irrefl 0)
  | cons event earlier ih =>
    rw [latest_cons]
    cases h : event.concerns i with
    | true => exact rowsAfter_record _ h
    | false => exact ih.of_not_concerns h

/-! ### Rows that texture memory bears out -/

/-- The rows of a slot are those of a tile load, or no more than the loaded texels fill. -/
def RowsBy (counts : LoadCounts) (i : TileIndex) : Option TileRect → Prop
  | some rect => (counts.slot i).rows = rect.height
  | none => (counts.slot i).rows ≤ counts.texelsLoaded / (counts.slot i).rect.width

/-- Only the slot and the count of texels matter. -/
theorem RowsBy.congr {counts after : LoadCounts} {i : TileIndex} {uncounted : Option TileRect}
    (hrows : counts.RowsBy i uncounted) (hslot : after.slot i = counts.slot i)
    (hloaded : after.texelsLoaded = counts.texelsLoaded) : after.RowsBy i uncounted := by
  unfold RowsBy at hrows ⊢
  rw [hslot, hloaded]
  exact hrows

/-- A new rectangle of a slot: with loaded texels its rows are counted, and else they stay. -/
theorem RowsBy.setRect {counts : LoadCounts} {i : TileIndex} {uncounted : Option TileRect}
    (hrows : counts.RowsBy i uncounted) (rect : TileRect) :
    (counts.record (.setRect i rect)).RowsBy i
      (if 0 < counts.texelsLoaded then none else uncounted) := by
  have hslot : (counts.record (.setRect i rect)).slot i = _ := counts.slot_setSlot_self i _
  by_cases hloaded : 0 < counts.texelsLoaded
  · rw [if_pos hloaded]
    rw [if_neg (Nat.ne_of_gt hloaded)] at hslot
    show ((counts.record (.setRect i rect)).slot i).rows ≤ _
    rw [hslot]
    exact Nat.le_refl _
  · have hzero : counts.texelsLoaded = 0 := Nat.eq_zero_of_not_pos hloaded
    rw [if_neg hloaded]
    rw [if_pos hzero] at hslot
    cases uncounted with
    | some loaded =>
      show ((counts.record (.setRect i rect)).slot i).rows = _
      rw [hslot]
      exact hrows
    | none =>
      -- No texels fill no rows, whatever the width.
      have hnone : (counts.slot i).rows ≤ 0 := by
        have hcounted : (counts.slot i).rows ≤ counts.texelsLoaded / _ := hrows
        rwa [hzero, Nat.zero_div] at hcounted
      show ((counts.record (.setRect i rect)).slot i).rows ≤ _
      rw [hslot]
      exact Nat.le_trans hnone (Nat.zero_le _)

/-- Without hand-offs the rows of a slot are borne out, but for those of a tile load. -/
theorem rowsBy_replay (i : TileIndex) {history : List LoadEvent} (h : .takeFrame ∉ history) :
    (powerOn.replay history).RowsBy i (uncounted i history) := by
  induction history with
  | nil => exact Nat.zero_le _
  | cons event earlier ih =>
    have hne : event ≠ .takeFrame := fun heq => h (heq ▸ List.mem_cons_self)
    have hrows := ih fun hmem => h (List.mem_cons_of_mem _ hmem)
    cases hconcerns : event.concerns i with
    | false =>
      obtain ⟨hslot, hloaded⟩ := (powerOn.replay earlier).record_of_not_concerns hconcerns
      rw [uncounted_cons_of_not_concerns hconcerns]
      exact hrows.congr hslot (hloaded hne)
    | true =>
      cases event with
      | blockLoad texels => exact Nat.le_refl _
      | tileLoad j rect built =>
        obtain rfl : j = i := of_decide_eq_true hconcerns
        have hslot := (powerOn.replay earlier).slot_setSlot_self j
          ⟨rect, if built then rect.height else 0⟩
        rw [uncounted, if_pos rfl]
        cases built with
        | true => exact congrArg SlotRows.rows hslot
        | false =>
          -- A tile load that built nothing leaves no rows.
          have hzero := congrArg SlotRows.rows hslot
          exact Nat.le_trans (Nat.le_of_eq hzero) (Nat.zero_le _)
      | setRect j rect =>
        obtain rfl : j = i := of_decide_eq_true hconcerns
        -- The count is cut off far above zero.
        have hpos : 0 < (powerOn.replay earlier).texelsLoaded ↔ 0 < texelsSinceClear earlier := by
          have hmax : 0 < TextureMemory.maxTexelsLoaded := by decide
          rw [texelsLoaded_replay]
          omega
        have hset := hrows.setRect rect
        rw [LoadCounts.replay_cons, uncounted]
        simpa only [hpos, true_and] using hset
      | takeFrame => cases hconcerns
      | reset => exact Nat.zero_le _

end LoadCounts

/-! ## Every state of a processor -/

namespace Processor

variable {α : Type} [TextureAllocator α]

/-- The counts of a processor that was powered on are those of its history. -/
theorem loadCounts_after_powerOn (settings : Settings) (allocator : α) (ops : List Operation) :
    ((powerOn settings allocator).after ops).loadCounts =
      LoadCounts.powerOn.replay ((powerOn settings allocator).history ops) := by
  rw [loadCounts_after, loadCounts_powerOn]

/-- **The count of loaded texels and the rows of every slot.** In every state after power-on the
count is the number of texels that block loads brought since the last hand-off or reset, as far as
it goes. If the last event that concerned a slot was a tile load, its rows are those of the
rectangle, or none if there was nothing to build; if it was another one, the loaded texels, once
there are any, fill them. -/
theorem loaded_of_history (settings : Settings) (allocator : α) (ops : List Operation) :
    let p := (powerOn settings allocator).after ops
    let history := (powerOn settings allocator).history ops
    p.textureMemory.texelsLoaded = min (2 ^ 32 - 1) (LoadEvent.texelsSinceClear history) ∧
    ∀ i,
      let tile := p.tiles.get i
      match LoadEvent.latest i history with
      | some (.tileLoad _ _ built) =>
        tile.validHeight = if built then tile.rect.thi + 1 - tile.rect.tlo else 0
      | _ =>
        0 < p.textureMemory.texelsLoaded →
          tile.validHeight =
            if tile.rect.shi < tile.rect.slo then 0
            else p.textureMemory.texelsLoaded / (tile.rect.shi + 1 - tile.rect.slo) := by
  intro p history
  have hcounts : p.loadCounts = LoadCounts.powerOn.replay history :=
    loadCounts_after_powerOn settings allocator ops
  constructor
  · have hloaded := LoadCounts.texelsLoaded_replay history
    rw [← hcounts] at hloaded
    exact hloaded
  · intro i tile
    -- The counts of the processor are those of its history, slot by slot.
    have hrows := LoadCounts.rowsAfter_replay i history
    rw [← hcounts] at hrows
    have hcounted (hcount : p.loadCounts.RowsAfter i none)
        (hpos : 0 < p.textureMemory.texelsLoaded) :
        tile.validHeight = if tile.rect.shi < tile.rect.slo then 0
          else p.textureMemory.texelsLoaded / (tile.rect.shi + 1 - tile.rect.slo) := by
      have hvalid : tile.validHeight =
          p.textureMemory.texelsLoaded / (tile.rect.shi + 1 - tile.rect.slo) := hcount hpos
      by_cases hinverted : tile.rect.shi < tile.rect.slo
      · -- Nothing fills a rectangle without width.
        have hwidth : tile.rect.shi + 1 - tile.rect.slo = 0 := by omega
        rw [if_pos hinverted, hvalid, hwidth, Nat.div_zero]
      · rw [if_neg hinverted, hvalid]
    cases hlast : LoadEvent.latest i history with
    | none =>
      rw [hlast] at hrows
      exact hcounted hrows
    | some last =>
      rw [hlast] at hrows
      cases last with
      | tileLoad j rect built => exact hrows
      | _ => exact hcounted hrows

/-- To decode a tile and to draw a triangle is to search for the texture of a slot, if anything, as
far as the tile table goes. -/
theorem perform_search (p : Processor α) {op : Operation}
    (hop : (∃ n, op = .decodeTile n) ∨
      ∃ m row t, op = .execute m row ∧ Command.decode row = .triangle t) :
    ∃ q, (q = p ∨ ∃ j, q = (p.resolveTexture j).2) ∧ (p.perform op).2.tiles = q.tiles := by
  rcases hop with ⟨n, rfl⟩ | ⟨m, row, t, rfl, hrow⟩
  · exact ⟨_, p.decodeTile_state n, rfl⟩
  · obtain ⟨q, hq, heq⟩ := p.drawTriangle_state t
    refine ⟨q, hq, ?_⟩
    show (p.execute m (.decode row)).2.tiles = _
    rw [hrow]
    show (p.drawTriangle t).2.tiles = _
    rw [heq]

/-- A texture that a slot has after the search for one, and had not before, has as many rows as the
slot has loaded. -/
theorem height_of_search {p q : Processor α} {i : TileIndex} {texture : TextureRef}
    (hsearch : q = p ∨ ∃ j, q = (p.resolveTexture j).2)
    (hbefore : (p.tiles.get i).texture = none)
    (hafter : (q.tiles.get i).texture = some texture) :
    texture.height = (p.tiles.get i).loadedHeight := by
  rcases hsearch with rfl | ⟨j, rfl⟩
  · rw [hbefore] at hafter
    cases hafter
  · -- The texture is new, so it was built in this search, and for this slot.
    obtain ⟨-, htiles | ⟨built, htiles, -, hheight⟩⟩ := p.resolveTexture_tiles j
    · rw [htiles, hbefore] at hafter
      cases hafter
    · rw [htiles] at hafter
      by_cases hj : i = j
      · subst hj
        rw [TileTable.get_install_self] at hafter
        cases hafter
        exact hheight
      · have hother : (p.tiles.install j built).get i = p.tiles.get i :=
          TileTable.get_set_drop_of_ne _ hj _
        rw [hother, hbefore] at hafter
        cases hafter

/-- **When a texture has no more rows than were loaded.** Before the first hand-off, a texture that
is decoded from texture memory has at most as many rows as the loaded texels fill, unless the rows
of its slot were last set by a tile load, which brings nothing to texture memory: then it has as
many rows as the rectangle of the tile load, cut off at the present one. -/
theorem decoded_height_le_iff (settings : Settings) (allocator : α) {ops : List Operation}
    (hops : Operation.takeFrame ∉ ops) {op : Operation}
    (hop : (∃ n, op = .decodeTile n) ∨
      ∃ m row t, op = .execute m row ∧ Command.decode row = .triangle t)
    {i : TileIndex} {texture : TextureRef}
    (hbefore : (((powerOn settings allocator).after ops).tiles.get i).texture = none)
    (hafter : ((((powerOn settings allocator).after ops).perform op).2.tiles.get i).texture =
      some texture) :
    let p := (powerOn settings allocator).after ops
    let tile := p.tiles.get i
    let filled := p.textureMemory.texelsLoaded / tile.rect.width
    texture.height ≤ filled ↔
      ∀ rect, LoadEvent.uncounted i ((powerOn settings allocator).history ops) = some rect →
        min tile.rect.height rect.height ≤ filled := by
  intro p tile filled
  obtain ⟨q, hq, htiles⟩ := p.perform_search hop
  have hheight : texture.height = min tile.rect.height tile.validHeight := by
    have hslot : ((p.perform op).2.tiles.get i).texture = some texture := hafter
    rw [htiles] at hslot
    exact height_of_search hq hbefore hslot
  have hrows := LoadCounts.rowsBy_replay i
    ((powerOn settings allocator).takeFrame_not_mem_history hops)
  rw [← loadCounts_after_powerOn] at hrows
  rw [hheight]
  cases huncounted : LoadEvent.uncounted i ((powerOn settings allocator).history ops) with
  | none =>
    rw [huncounted] at hrows
    -- The rows were counted, so there are no more than the texels fill.
    have hcounted : tile.validHeight ≤ filled := hrows
    constructor
    · rintro - rect ⟨⟩
    · intro _
      exact Nat.le_trans (Nat.min_le_right _ _) hcounted
  | some loaded =>
    rw [huncounted] at hrows
    -- The rows are those of a tile load, whatever texture memory has.
    have hloaded : tile.validHeight = loaded.height := hrows
    rw [hloaded]
    constructor
    · rintro hle rect ⟨⟩
      exact hle
    · intro hle
      exact hle loaded rfl

/-- Four texels are loaded, so a tile of four by two texels is decoded to one row. -/
theorem decoded_height_le_iff_firstRow :
    let memory : ExternalMemory := .ofBytes fun address => .ofNat address.toNat
    let start : Processor TexturePool := .powerOn .standard .empty
    let ops : List Operation := [.execute memory (.setTextureImage 0 2 4 0),
      .execute memory (.setTile 0 0 2 0 8 0 default default),
      .execute memory (.setTileSize 0 ⟨0, 3, 0, 1⟩), .execute memory (.loadBlock 0 0 0 3 0)]
    let p := start.after ops
    Operation.takeFrame ∉ ops ∧ (p.tiles.get (.wrap 0)).texture = none ∧
      ((p.perform (.decodeTile 0)).2.tiles.get (.wrap 0)).texture = some ⟨⟨1⟩, 4, 1⟩ ∧
      LoadEvent.uncounted (.wrap 0) (start.history ops) = none ∧
      1 ≤ p.textureMemory.texelsLoaded / (p.tiles.get (.wrap 0)).rect.width := by
  intro memory start ops p
  have hops : Operation.takeFrame ∉ ops := by simp [ops]
  have hbefore : (p.tiles.get (.wrap 0)).texture = none := by decide +kernel
  have hafter : ((p.perform (.decodeTile 0)).2.tiles.get (.wrap 0)).texture =
      some ⟨⟨1⟩, 4, 1⟩ := by decide +kernel
  have huncounted : LoadEvent.uncounted (.wrap 0) (start.history ops) = none := by decide +kernel
  have hiff := decoded_height_le_iff .standard TexturePool.empty hops (.inl ⟨0, rfl⟩) hbefore hafter
  refine ⟨hops, hbefore, hafter, huncounted, hiff.mpr ?_⟩
  intro rect hrect
  cases huncounted.symm.trans hrect

/-- A tile load of two rows, and properties that drop its texture: two rows of texture memory are
decoded, where nothing was loaded. -/
theorem decodeTile_after_tileLoad :
    let memory : ExternalMemory := .ofBytes fun address => .ofNat address.toNat
    let p := (powerOn .standard TexturePool.empty).after
      [.execute memory (.setTextureImage 0 2 4 0), .execute memory (.loadTile 0 ⟨0, 3, 0, 1⟩),
        .execute memory (.setTile 0 0 2 0 8 0 default default)]
    ∃ texture, (p.tiles.get (.wrap 0)).texture = none ∧
      ((p.perform (.decodeTile 0)).2.tiles.get (.wrap 0)).texture = some texture ∧
      p.textureMemory.texelsLoaded = 0 ∧
      ¬ texture.height ≤ p.textureMemory.texelsLoaded / (p.tiles.get (.wrap 0)).rect.width := by
  intro memory p
  refine ⟨⟨⟨2⟩, 4, 2⟩, ?_⟩
  decide +kernel

end Processor

end DisplayProcessor
