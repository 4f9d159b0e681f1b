/-!
# The command line of a replay

Options may stand in any order, each at most once, and there is exactly one dump. The value of an
option is the next word, or stands in the same word. All words after `--` are dumps.

- `Arguments`: the files that a command line names, and how to print.
- `Request`: what a command line asks for.
- `Request.ofWords?`: the request in the words of a command line.
-/

namespace DisplayProcessor.Replay

/-- The files that the command line names, and how to print. -/
structure Arguments where
  dump : String
  rdram : Option String
  settings : Option String
  json : Bool
deriving DecidableEq

/-- What has been read of a command line. -/
structure Draft where
  dump : Option String
  rdram : Option String
  settings : Option String
  json : Bool

namespace Draft

/-- The command line without any argument. -/
def empty : Draft := ⟨none, none, none, false⟩

/-- A dump named. There is only one. -/
def addDump? (d : Draft) (path : String) : Option Draft :=
  if d.dump.isSome || path.isEmpty then none else some { d with dump := some path }

/-- A memory image named. There is at most one. -/
def addRdram? (d : Draft) (path : String) : Option Draft :=
  if d.rdram.isSome || path.isEmpty then none else some { d with rdram := some path }

/-- A settings file named. There is at most one. -/
def addSettings? (d : Draft) (path : String) : Option Draft :=
  if d.settings.isSome || path.isEmpty then none else some { d with settings := some path }

/-- The summary asked for as JSON. -/
def addJson? (d : Draft) : Option Draft :=
  if d.json then none else some { d with json := true }

/-- The arguments, if the command line names a dump. -/
def finish? (d : Draft) : Option Arguments :=
  d.dump.map fun dump => ⟨dump, d.rdram, d.settings, d.json⟩

end Draft

/-- What a command line asks for. -/
inductive Request where
  /-- The description of the program. -/
  | help
  /-- The replay of a dump. -/
  | replay (arguments : Arguments)
deriving DecidableEq

/-- Whether a word is an option rather than the name of a file. -/
def isOption (word : String) : Bool :=
  word.startsWith "-" && word != "-"

/-- The value that stands in the same word as an option, if it does. A short option needs no
equals sign before it. -/
def attachedValue? (short long word : String) : Option String :=
  if word.startsWith s!"{long}=" then some (word.drop (long.length + 1)).copy
  else if word.startsWith s!"{short}=" then some (word.drop (short.length + 1)).copy
  else if word.startsWith short then some (word.drop short.length).copy
  else none

/-- What is read next. -/
inductive Expected where
  /-- An option or the dump. -/
  | argument
  /-- The name of the memory image. -/
  | rdram
  /-- The name of the settings file. -/
  | settings

/-- The request of a command line of which the remaining words are given. Help ends the reading. -/
def Request.read? (d : Draft) : Expected → List String → Option Request
  | .argument, [] => d.finish?.map .replay
  | .rdram, [] => none
  | .settings, [] => none
  | .rdram, word :: words =>
    if isOption word then none else (d.addRdram? word).bind (read? · .argument words)
  | .settings, word :: words =>
    if isOption word then none else (d.addSettings? word).bind (read? · .argument words)
  | .argument, "--" :: words => do
    let d ← words.foldlM Draft.addDump? d
    d.finish?.map .replay
  | .argument, "--json" :: words => d.addJson?.bind (read? · .argument words)
  | .argument, word :: words =>
    if word = "--help" || word.startsWith "-h" then some .help
    else if word = "-r" || word = "--rdram" then read? d .rdram words
    else if word = "-c" || word = "--config" then read? d .settings words
    else if let some path := attachedValue? "-r" "--rdram" word then
      (d.addRdram? path).bind (read? · .argument words)
    else if let some path := attachedValue? "-c" "--config" word then
      (d.addSettings? path).bind (read? · .argument words)
    else if isOption word then none
    else (d.addDump? word).bind (read? · .argument words)

/-- The request in the words of a command line. -/
def Request.ofWords? (words : List String) : Option Request :=
  read? .empty .argument words

end DisplayProcessor.Replay
