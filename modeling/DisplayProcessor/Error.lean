import DisplayProcessor.Texture

/-!
# Errors

- `Error`: the ways in which an operation of the processor, or the reading of a file, can fail.
- `Error.message`: their wording.
-/

namespace DisplayProcessor

/-- Why an operation failed. -/
inductive Error where
  | texture (cause : TextureError)
  /-- The row lengths of a batch need more words than it has. -/
  | malformedBatch (words expected : Nat)
  /-- There is no tile slot with this number. -/
  | invalidTileIndex (index : Nat)
  /-- The text is no settings file. -/
  | settings
  /-- The file cannot be read or written. -/
  | file
  /-- The text is no command dump. -/
  | dump
deriving DecidableEq

namespace Error

/-- The wording of an error. -/
def message : Error → String
  | .texture cause => s!"Texture error: {cause.message}"
  | .malformedBatch words expected =>
    s!"Command batch is malformed: row lengths need {expected} words, buffer holds {words}"
  | .invalidTileIndex index => s!"Invalid tile index: {index} (valid range: 0-7)"
  | .settings => "Configuration error: the text is not a settings file"
  | .file => "I/O error: the file cannot be read or written"
  | .dump => "Parse error: the text is not a command dump"

end Error

end DisplayProcessor
