import DisplayProcessor.FileContent
import DisplayProcessor.Proofs.TomlLines
import Mathlib.Data.List.Nodup

/-!
# Parts of settings files

A settings file may lack lines, and its lines may stand in any order. Each line that is there gives
its setting the value that was written, and every other setting is standard.

- `Setting`: the settings by name, with their keys.
- `Settings.lineOf`, `Settings.assignment`: the line of a setting, and what it assigns.
- `Settings.only`: the settings of which only some were written.
- `Settings.ofText?_lines`: some lines of a file, read.
- `Settings.ofText?_toText`: the main result.
-/

namespace DisplayProcessor

/-- A setting by name. -/
inductive Setting where
  | maxBlockTexels
  | strictFormats
  | addressMask
deriving DecidableEq

namespace Setting

/-- The key of a setting in a file. -/
def key : Setting → String
  | maxBlockTexels => "max_block_texels"
  | strictFormats => "strict_formats"
  | addressMask => "rdram_address_mask"

theorem isBareKey (s : Setting) : Toml.IsBareKey s.key.toList := by
  cases s <;> decide

theorem key_injective : Function.Injective fun s : Setting => s.key.toList := by
  intro s t h
  cases s <;> cases t <;> first | rfl | (revert h; decide)

end Setting

namespace Settings

/-! ## Lines -/

/-- The value of a setting as it is written. -/
def valueText (settings : Settings) : Setting → String
  | .maxBlockTexels => toString settings.maxBlockTexels.toNat
  | .strictFormats => if settings.strictFormats then "true" else "false"
  | .addressMask => toString settings.addressMask.toNat

/-- The value of a setting as it is read. -/
def value (settings : Settings) : Setting → Toml.Value
  | .maxBlockTexels => .integer settings.maxBlockTexels.toNat
  | .strictFormats => .boolean settings.strictFormats
  | .addressMask => .integer settings.addressMask.toNat

/-- The line of a setting. -/
def lineOf (settings : Settings) (s : Setting) : String :=
  line s.key (settings.valueText s)

/-- A word in decimal is an integer without a sign. -/
theorem isScalar_word (x : UInt32) :
    Toml.IsScalar (toString x.toNat).toList (.integer x.toNat) := by
  have hbound : x.toNat < 2 ^ 128 := Nat.lt_trans x.toNat_lt (by decide)
  rw [Nat.toString_eq_repr, Nat.toList_repr]
  exact Toml.isScalar_integer hbound

/-- A setting is written as the value that is read. -/
theorem isScalar_valueText (settings : Settings) (s : Setting) :
    Toml.IsScalar (settings.valueText s).toList (settings.value s) := by
  cases s with
  | maxBlockTexels => exact isScalar_word settings.maxBlockTexels
  | strictFormats => exact Toml.isScalar_boolean settings.strictFormats
  | addressMask => exact isScalar_word settings.addressMask

/-- What the line of a setting assigns. -/
def assignment (settings : Settings) (s : Setting) : Toml.Assignment where
  key := s.key.toList
  text := (settings.valueText s).toList
  value := settings.value s
  isBareKey := s.isBareKey
  isScalar := settings.isScalar_valueText s

/-- The line of a setting is that of an assignment. -/
theorem toList_lineOf (settings : Settings) (s : Setting) :
    (settings.lineOf s).toList = (settings.assignment s).line := by
  simp [lineOf, line, assignment, Toml.Assignment.line, toString]

/-- Lines of settings are a document of their assignments. -/
theorem toList_join_lineOf (settings : Settings) (kept : List Setting) :
    (String.join (kept.map settings.lineOf)).toList =
      (kept.map settings.assignment).flatMap Toml.Assignment.line := by
  rw [String.toList_join, List.flatMap_map, List.flatMap_map]
  simp only [toList_lineOf]

/-! ## Reading -/

/-- The settings of which only some were written, and the others are standard. -/
def only (settings : Settings) (kept : List Setting) : Settings where
  maxBlockTexels :=
    if .maxBlockTexels ∈ kept then settings.maxBlockTexels else standard.maxBlockTexels
  strictFormats := if .strictFormats ∈ kept then settings.strictFormats else standard.strictFormats
  addressMask := if .addressMask ∈ kept then settings.addressMask else standard.addressMask

variable {settings : Settings} {kept : List Setting}

/-- Keys are given twice exactly if settings are. -/
theorem nodup_keys_iff :
    ((kept.map settings.assignment).map Toml.Assignment.key).Nodup ↔ kept.Nodup := by
  rw [List.map_map]
  exact List.nodup_map_iff Setting.key_injective

/-- A line that was written is found under its key, and nothing is found under another key. -/
theorem get?_assignAll (hkept : kept.Nodup) (s : Setting) :
    (Toml.Members.assignAll [] (kept.map settings.assignment)).get? s.key.toList =
      if s ∈ kept then some (.leaf (settings.value s)) else none := by
  by_cases hs : s ∈ kept
  · rw [if_pos hs]
    exact Toml.Members.get?_assignAll_of_mem (nodup_keys_iff.mpr hkept)
      (List.mem_map_of_mem hs)
  · -- A setting that was left out has no key among the lines, since keys tell settings apart.
    have hkey : s.key.toList ∉ (kept.map settings.assignment).map Toml.Assignment.key := by
      rw [List.map_map]
      intro hmem
      obtain ⟨t, ht, heq⟩ := List.mem_map.mp hmem
      exact hs (Setting.key_injective heq ▸ ht)
    rw [if_neg hs, Toml.Members.get?_assignAll_of_not_mem hkey]
    rfl

/-- A setting that was written has its value, and any other the standard one. -/
theorem read?_assignAll (hkept : kept.Nodup) (s : Setting) {β : Type} (value standard : β)
    {value? : Toml.Node → Option β} (h : value? (.leaf (settings.value s)) = some value) :
    read? (Toml.Members.assignAll [] (kept.map settings.assignment)) s.key standard value? =
      some (if s ∈ kept then value else standard) := by
  rw [read?, get?_assignAll hkept]
  by_cases hs : s ∈ kept
  · simp only [if_pos hs, h]
  · simp only [if_neg hs]

/-- A word comes back from its integer, which is below 2³². -/
theorem word?_integer (x : UInt32) : word? (.leaf (.integer x.toNat)) = some x := by
  have hrange : (0 ≤ (x.toNat : Int) && (x.toNat : Int) < 2 ^ 32) = true := by
    have hlt := x.toNat_lt
    simp only [Bool.and_eq_true, decide_eq_true_eq]
    omega
  rw [word?, if_pos hrange, Int.toNat_natCast, UInt32.ofNat_toNat]

theorem bool?_boolean (b : Bool) : bool? (.leaf (.boolean b)) = some b := rfl

/-- Lines of settings are read as those settings, if none is there twice, and otherwise are no
settings file. -/
theorem ofText?_lines (settings : Settings) (kept : List Setting) :
    ofText? (.join (kept.map settings.lineOf)) =
      if kept.Nodup then some (settings.only kept) else none := by
  rw [ofText?, toList_join_lineOf, Toml.parse?_lines]
  by_cases hkept : kept.Nodup
  · rw [if_pos (nodup_keys_iff.mpr hkept), if_pos hkept]
    -- Each field is read at its own key, or keeps its default.
    have hblock := read?_assignAll hkept .maxBlockTexels settings.maxBlockTexels
      standard.maxBlockTexels (word?_integer settings.maxBlockTexels)
    have hstrict := read?_assignAll hkept .strictFormats settings.strictFormats
      standard.strictFormats (bool?_boolean settings.strictFormats)
    have hmask := read?_assignAll hkept .addressMask settings.addressMask
      standard.addressMask (word?_integer settings.addressMask)
    simp only [Setting.key] at hblock hstrict hmask
    simp only [Option.bind_eq_bind, Option.bind_some, ofMembers?, hblock, hstrict, hmask,
      Option.pure_def, only]
  · rw [if_neg fun h => hkept (nodup_keys_iff.mp h), if_neg hkept]
    rfl

/-- **A settings file may be written in parts.** A file has a line for each setting, with its key
and its value. Any of these lines, in any order, give their settings the values that were written,
and all others are standard; a line that is there twice is refused. In particular the whole file is
read back, and the empty text has the standard settings. -/
theorem ofText?_toText (settings : Settings) :
    settings.toText = "max_block_texels = " ++ toString settings.maxBlockTexels.toNat ++
      "\nstrict_formats = " ++ (if settings.strictFormats then "true" else "false") ++
      "\nrdram_address_mask = " ++ toString settings.addressMask.toNat ++ "\n" ∧
    settings.toLines =
      [settings.lineOf .maxBlockTexels, settings.lineOf .strictFormats,
        settings.lineOf .addressMask] ∧
    (∀ kept : List Setting, ofText? (.join (kept.map settings.lineOf)) =
      if kept.Nodup then some (settings.only kept) else none) ∧
    ofFile (some settings.toText.toUTF8) = .ok settings ∧
    ofText? "" = some standard := by
  -- The whole file is the three lines, and the empty one is none of them.
  have hread : ofText? settings.toText = some settings :=
    settings.ofText?_lines [.maxBlockTexels, .strictFormats, .addressMask]
  refine ⟨?_, rfl, settings.ofText?_lines, ?_, standard.ofText?_lines []⟩
  · have hblock : "max_block_texels = " = "max_block_texels" ++ " = " := rfl
    have hstrict : "\nstrict_formats = " = "\n" ++ "strict_formats" ++ " = " := rfl
    have hmask : "\nrdram_address_mask = " = "\n" ++ "rdram_address_mask" ++ " = " := rfl
    rw [hblock, hstrict, hmask]
    simp only [toText, toLines, line, String.join, toString, String.append_assoc, List.foldl_cons,
      List.foldl_nil, String.empty_append]
  · rw [ofFile, fileText_toUTF8]
    simp only [bind, Except.bind, hread]
    rfl

end Settings

end DisplayProcessor
