import DisplayProcessor.Dump
import DisplayProcessor.Rdram
import DisplayProcessor.SettingsFile

/-!
# The contents of files

A file is given by its bytes, or by nothing if it cannot be read.

- `fileText`: the text of a file.
- `Settings.ofFile`, `Batch.ofFile`, `Rdram.ofFile`: what a file holds.
-/

namespace DisplayProcessor

/-- The text of a file. -/
def fileText (content : Option ByteArray) : Except Error String :=
  match content.bind String.fromUTF8? with
  | some text => .ok text
  | none => .error .file

/-- A text that was written to a file is read back. -/
theorem fileText_toUTF8 (text : String) : fileText (some text.toUTF8) = .ok text := by
  have htext : String.fromUTF8? text.toUTF8 = some text := dif_pos text.isValidUTF8
  unfold fileText
  rw [Option.bind_some, htext]

/-- The settings in a file. -/
def Settings.ofFile (content : Option ByteArray) : Except Error Settings := do
  let text ← fileText content
  match Settings.ofText? text with
  | some settings => return settings
  | none => throw .settings

/-- The command dump in a file. -/
def Batch.ofFile (content : Option ByteArray) : Except Error Batch := do
  let text ← fileText content
  match Batch.ofDump? text with
  | some batch => return batch
  | none => throw .dump

/-- The memory image in a file. -/
def Rdram.ofFile (content : Option ByteArray) : Except Error Rdram :=
  match content with
  | some bytes => .ok ⟨bytes⟩
  | none => .error .file

end DisplayProcessor
