import DisplayProcessor.Settings
import DisplayProcessor.Toml.Document

/-!
# Settings files

Settings are kept as a TOML document with one key for each setting. A key that is missing has the
standard value; other keys are ignored.

- `Settings.toText`: a settings file of three lines.
- `Settings.ofText?`: the settings in a document.
-/

namespace DisplayProcessor.Settings

/-! ## Writing -/

/-- A line that assigns a text to a key. -/
def line (key value : String) : String :=
  s!"{key} = {value}\n"

/-- The lines of a settings file. -/
def toLines (settings : Settings) : List String :=
  [line "max_block_texels" (toString settings.maxBlockTexels.toNat),
    line "strict_formats" (if settings.strictFormats then "true" else "false"),
    line "rdram_address_mask" (toString settings.addressMask.toNat)]

/-- A settings file. -/
def toText (settings : Settings) : String :=
  .join settings.toLines

/-! ## Reading -/

/-- The number of 32 bits that a node is. -/
def word? : Toml.Node → Option UInt32
  | .leaf (.integer n) => if 0 ≤ n && n < 2 ^ 32 then some (.ofNat n.toNat) else none
  | _ => none

/-- The truth value that a node is. -/
def bool? : Toml.Node → Option Bool
  | .leaf (.boolean b) => some b
  | _ => none

/-- The value of a key, standard if the key is missing. It is no settings file if the key has
another kind of value. -/
def read? (members : Toml.Members) (key : String) (standard : α)
    (value? : Toml.Node → Option α) : Option α :=
  match members.get? key.toList with
  | none => some standard
  | some node => value? node

/-- The settings in the root table of a document. -/
def ofMembers? (members : Toml.Members) : Option Settings := do
  let maxBlockTexels ← read? members "max_block_texels" standard.maxBlockTexels word?
  let strictFormats ← read? members "strict_formats" standard.strictFormats bool?
  let addressMask ← read? members "rdram_address_mask" standard.addressMask word?
  return ⟨maxBlockTexels, strictFormats, addressMask⟩

/-- The settings in a document. -/
def ofText? (text : String) : Option Settings := do
  let members ← Toml.parse? text.toList
  ofMembers? members

end DisplayProcessor.Settings
