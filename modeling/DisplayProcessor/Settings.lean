/-!
# Settings

- `Settings`: what a user can change about the processor, with the value that holds if nothing is
  said.
-/

namespace DisplayProcessor

/-- What a user can change. -/
structure Settings where
  /-- A block load of more texels than this is dropped. -/
  maxBlockTexels : UInt32
  /-- Whether a texel format that is not decoded ends the batch, instead of skipping what needs
  it. -/
  strictFormats : Bool
  /-- The bits that count of an external address in a command. -/
  addressMask : UInt32
deriving DecidableEq

namespace Settings

/-- The settings that hold if nothing is said. -/
def standard : Settings := ⟨2048, false, 0x00FFFFFF⟩

instance : Inhabited Settings := ⟨standard⟩

end Settings

end DisplayProcessor
