import DisplayProcessor.FileContent
import DisplayProcessor.Replay.Arguments
import DisplayProcessor.Replay.Summary

/-!
# Replays

A replay runs one command dump from power-on and sums up the frame that results.

- `Replay.replay`: the summary for the files that a command line names.
- `Replay.report`: what the program prints, and its exit code.
-/

namespace DisplayProcessor.Replay

/-- Run the dump that the command line names; `content` gives the contents of files. Without a
memory image, memory has the standard size and is zero. -/
def replay (arguments : Arguments) (content : String → Option ByteArray) :
    Except Error Summary := do
  let settings ← match arguments.settings with
    | some path => Settings.ofFile (content path)
    | none => pure Settings.standard
  let rdram ← match arguments.rdram with
    | some path => Rdram.ofFile (content path)
    | none => pure (Rdram.zeros Rdram.standardSize)
  let batch ← Batch.ofFile (content arguments.dump)
  let (result, p) := (Processor.powerOn settings TexturePool.empty).processBatch rdram.memory batch
  let counts ← result
  let (frame, p) := p.takeFrame
  return .ofFrame counts frame p

/-- What a run of the program leaves behind. -/
structure Report where
  exitCode : UInt8
  output : String
  complaint : String
deriving DecidableEq

/-- How the program is called. -/
def usage : String :=
  "Usage: rdp-replay [OPTIONS] <DUMP>\n"

/-- The description of the program. -/
def help : String :=
  .join [
    "Replay a recorded display-list command batch\n\n",
    usage,
    "\nArguments:\n",
    "  <DUMP>  Path to a JSON command dump (\x7b\"words\": [...], \"row_lengths\": [...]\x7d)\n",
    "\nOptions:\n",
    "  -r, --rdram <RDRAM>    Raw big-endian RDRAM image to read textures from\n",
    "  -c, --config <CONFIG>  TOML configuration file\n",
    "      --json             Print the frame summary as JSON\n",
    "  -h, --help             Print help\n"]

/-- The report of a run with the given words on its command line. -/
def report (words : List String) (content : String → Option ByteArray) : Report :=
  match Request.ofWords? words with
  | none => ⟨2, "", usage⟩
  | some .help => ⟨0, help, ""⟩
  | some (.replay arguments) =>
    match replay arguments content with
    | .ok summary => ⟨0, summary.render arguments.json, ""⟩
    | .error e => ⟨1, "", s!"Error: {e.message}\n"⟩

end DisplayProcessor.Replay
