import DisplayProcessor.Replay

/-!
# The replay program

The program reads the files that its command line names, and prints the report of the replay.
-/

open DisplayProcessor

/-- The contents of a file, unless it cannot be read. -/
def readFile? (path : String) : IO (Option ByteArray) :=
  try
    return some (← IO.FS.readBinFile path)
  catch _ =>
    return none

/-- The contents of the files that arguments name. -/
def readFiles (arguments : Replay.Arguments) : IO (List (String × Option ByteArray)) :=
  ([some arguments.dump, arguments.rdram, arguments.settings].filterMap id).mapM fun path => do
    return (path, ← readFile? path)

def main (words : List String) : IO UInt32 := do
  let files ← match Replay.Request.ofWords? words with
    | some (.replay arguments) => readFiles arguments
    | _ => pure []
  let report := Replay.report words fun path => (files.lookup path).join
  (← IO.getStdout).putStr report.output
  (← IO.getStderr).putStr report.complaint
  return report.exitCode.toUInt32
