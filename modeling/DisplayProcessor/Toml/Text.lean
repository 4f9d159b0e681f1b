import DisplayProcessor.Hex

/-!
# The text of a TOML document

- `skipBlanks`, `skipSpace`: pass over blanks in a line, or over blanks, comments and line ends.
- `lineEnd?`: what follows the end of a line.
- `string?`: a string in any of the four styles.
-/

namespace DisplayProcessor.Toml

/-- A space or a tab. -/
def isBlank (c : Char) : Bool :=
  c = ' ' || c = '\t'

/-- A character that may stand as itself in a line: anything but a control character, or a tab. -/
def isPlain (c : Char) : Bool :=
  c = '\t' || (0x20 ≤ c.toNat && c.toNat ≠ 0x7F)

/-- The text after the blanks that it starts with. -/
def skipBlanks (text : List Char) : List Char :=
  text.dropWhile isBlank

/-- The text after the line end that it starts with. -/
def newline? : List Char → Option (List Char)
  | '\n' :: rest => some rest
  | '\r' :: '\n' :: rest => some rest
  | _ => none

/-- The text after the comment, if any, that it starts with. -/
def skipComment : List Char → List Char
  | '#' :: rest => rest.dropWhile isPlain
  | text => text

/-- The text after the end of the line, if there are only blanks and a comment up to it. -/
def lineEnd? (text : List Char) : Option (List Char) :=
  match skipComment (skipBlanks text) with
  | [] => some []
  | rest => newline? rest

/-- The text after the blanks, comments and line ends that it starts with. -/
def skipSpace (inComment : Bool) : List Char → List Char
  | '\n' :: rest => skipSpace false rest
  | '\r' :: '\n' :: rest => skipSpace false rest
  | c :: rest =>
    if inComment && isPlain c then skipSpace true rest
    else if inComment then c :: rest
    else if isBlank c then skipSpace false rest
    else if c = '#' then skipSpace true rest
    else c :: rest
  | [] => []

/-! ## Strings -/

/-- How a string is delimited. -/
structure StringStyle where
  quote : Char
  /-- Three quotes on each side, and line ends in between. -/
  multiline : Bool
  /-- Whether a backslash escapes. -/
  escapes : Bool

/-- Where in a string the reader is. -/
inductive StringMode where
  | plain
  | escape
  /-- A numeric escape with this many digits to come, and the value of those read. -/
  | numericEscape (digits value : Nat)
  /-- After a backslash at the end of a line: blanks and line ends are passed over. The line end
  must come first. -/
  | joinLines (sawLineEnd : Bool)
  /-- After a carriage return, which a line feed must follow. -/
  | lineFeed (next : StringMode)
  /-- After so many quotes in a row. -/
  | quotes (count : Nat)

/-- What a character does to a string; characters read so far are in reverse. -/
inductive StringStep where
  | more (mode : StringMode) (read : List Char)
  | close (read : List Char)
  /-- The string ended before this character. -/
  | closeBefore (read : List Char)
  | invalid

/-- A character outside of escapes. -/
def plainStep (style : StringStyle) (read : List Char) (c : Char) : StringStep :=
  if c = style.quote then
    if style.multiline then .more (.quotes 1) read else .close read
  else if c = '\\' && style.escapes then .more .escape read
  else if c = '\n' && style.multiline then .more .plain (c :: read)
  else if c = '\r' && style.multiline then .more (.lineFeed .plain) read
  else if isPlain c then .more .plain (c :: read)
  else .invalid

/-- A character after a backslash. -/
def escapeStep (style : StringStyle) (read : List Char) (c : Char) : StringStep :=
  match c with
  | '"' => .more .plain ('"' :: read)
  | '\\' => .more .plain ('\\' :: read)
  | 'b' => .more .plain ('\x08' :: read)
  | 't' => .more .plain ('\t' :: read)
  | 'n' => .more .plain ('\n' :: read)
  | 'f' => .more .plain ('\x0c' :: read)
  | 'r' => .more .plain ('\r' :: read)
  | 'e' => .more .plain ('\x1b' :: read)
  | 'x' => .more (.numericEscape 2 0) read
  | 'u' => .more (.numericEscape 4 0) read
  | 'U' => .more (.numericEscape 8 0) read
  | c =>
    if !style.multiline then .invalid
    else if c = '\n' then .more (.joinLines true) read
    else if c = '\r' then .more (.lineFeed (.joinLines true)) read
    else if isBlank c then .more (.joinLines false) read
    else .invalid

/-- One more character of a string. -/
def stringStep (style : StringStyle) (mode : StringMode) (read : List Char) (c : Char) :
    StringStep :=
  match mode with
  | .plain => plainStep style read c
  | .escape => escapeStep style read c
  | .numericEscape digits value =>
    match hexValue? c with
    | none => .invalid
    | some d =>
      if 1 < digits then .more (.numericEscape (digits - 1) (value * 16 + d)) read
      else if Nat.isValidChar (value * 16 + d) then
        .more .plain (Char.ofNat (value * 16 + d) :: read)
      else .invalid
  | .joinLines sawLineEnd =>
    if isBlank c then .more (.joinLines sawLineEnd) read
    else if c = '\n' then .more (.joinLines true) read
    else if c = '\r' then .more (.lineFeed (.joinLines true)) read
    else if sawLineEnd then plainStep style read c
    else .invalid
  | .lineFeed next =>
    if c = '\n' then
      match next with
      | .plain => .more .plain ('\n' :: read)
      | next => .more next read
    else .invalid
  | .quotes count =>
    if c = style.quote then
      if count = 4 then .close (style.quote :: style.quote :: read)
      else .more (.quotes (count + 1)) read
    else if 3 ≤ count then .closeBefore (List.replicate (count - 3) style.quote ++ read)
    else plainStep style (List.replicate count style.quote ++ read) c

/-- The characters of a string whose opening quotes were read, and the text after its end. -/
def stringBody? (style : StringStyle) (mode : StringMode) (read : List Char) :
    List Char → Option (List Char × List Char)
  | [] =>
    match mode with
    | .quotes count =>
      if 3 ≤ count then some ((List.replicate (count - 3) style.quote ++ read).reverse, [])
      else none
    | _ => none
  | c :: rest =>
    match stringStep style mode read c with
    | .more mode read => stringBody? style mode read rest
    | .close read => some (read.reverse, rest)
    | .closeBefore read => some (read.reverse, c :: rest)
    | .invalid => none

/-- The text without the line end that it may start with. -/
def skipNewline (text : List Char) : List Char :=
  (newline? text).getD text

/-- A string of one line, and the text after it. -/
def lineString? : List Char → Option (List Char × List Char)
  | '"' :: rest => stringBody? ⟨'"', false, true⟩ .plain [] rest
  | '\x27' :: rest => stringBody? ⟨'\x27', false, false⟩ .plain [] rest
  | _ => none

/-- A string of one or more lines, and the text after it. -/
def string? : List Char → Option (List Char × List Char)
  | '"' :: '"' :: '"' :: rest => stringBody? ⟨'"', true, true⟩ .plain [] (skipNewline rest)
  | '\x27' :: '\x27' :: '\x27' :: rest =>
    stringBody? ⟨'\x27', true, false⟩ .plain [] (skipNewline rest)
  | text => lineString? text

end DisplayProcessor.Toml
