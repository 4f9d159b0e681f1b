import DisplayProcessor.Hex

/-!
# JSON tokens

A JSON text is a sequence of tokens between blanks. The scanner reads one character at a time;
what it has begun is its mode.

- `Token`: the tokens. A string is kept as its units: a code point for each plain character and a
  sixteen-bit unit for each numeric escape.
- `Text.decode?`: the characters of such a string, if its surrogates pair up.
- `Scanner.step`, `scan?`: the scanner.
-/

namespace DisplayProcessor.Json

/-- A token. The text of a number is kept as it stands. -/
inductive Token where
  | openBracket
  | closeBracket
  | openBrace
  | closeBrace
  | colon
  | comma
  | null
  | bool (value : Bool)
  | number (literal : List Char)
  | string (units : List Nat)
deriving DecidableEq

/-! ## Strings -/

/-- Whether a unit is the first of a surrogate pair. -/
def isHighSurrogate (u : Nat) : Bool := 0xD800 ≤ u && u < 0xDC00

/-- Whether a unit is the second of a surrogate pair. -/
def isLowSurrogate (u : Nat) : Bool := 0xDC00 ≤ u && u < 0xE000

/-- The code point of a surrogate pair. -/
def pairValue (high low : Nat) : Nat :=
  0x10000 + (high - 0xD800) * 0x400 + (low - 0xDC00)

/-- The characters of a string, if its surrogates pair up. -/
def decodeUnits? : List Nat → Option (List Char)
  | [] => some []
  | [u] => if isHighSurrogate u || isLowSurrogate u then none else some [.ofNat u]
  | u :: v :: rest =>
    if isHighSurrogate u && isLowSurrogate v then
      (.ofNat (pairValue u v) :: ·) <$> decodeUnits? rest
    else if isHighSurrogate u || isLowSurrogate u then none
    else (.ofNat u :: ·) <$> decodeUnits? (v :: rest)

/-- The units of characters that need no escape. -/
def unitsOf (text : String) : List Nat :=
  text.toList.map Char.toNat

/-- The code point that a one-letter escape stands for. -/
def simpleEscape? : Char → Option Nat
  | '"' => some 0x22
  | '\\' => some 0x5C
  | '/' => some 0x2F
  | 'b' => some 0x08
  | 'f' => some 0x0C
  | 'n' => some 0x0A
  | 'r' => some 0x0D
  | 't' => some 0x09
  | _ => none

/-! ## Numbers -/

/-- How far a number has been read. -/
inductive NumberPart where
  | sign
  | zero
  | whole
  | point
  | fraction
  | exponent
  | exponentSign
  | exponentDigits
deriving DecidableEq

namespace NumberPart

/-- The part that a number starts with. -/
def start? (c : Char) : Option NumberPart :=
  if c = '-' then some .sign
  else if c = '0' then some .zero
  else if c.isDigit then some .whole
  else none

/-- The part after one more character, if the number goes on with it. -/
def next? (part : NumberPart) (c : Char) : Option NumberPart :=
  match part with
  | .sign => if c = '0' then some .zero else if c.isDigit then some .whole else none
  | .zero => if c = '.' then some .point else if c = 'e' || c = 'E' then some .exponent else none
  | .whole =>
    if c.isDigit then some .whole
    else if c = '.' then some .point
    else if c = 'e' || c = 'E' then some .exponent
    else none
  | .point => if c.isDigit then some .fraction else none
  | .fraction =>
    if c.isDigit then some .fraction else if c = 'e' || c = 'E' then some .exponent else none
  | .exponent =>
    if c = '+' || c = '-' then some .exponentSign
    else if c.isDigit then some .exponentDigits
    else none
  | .exponentSign => if c.isDigit then some .exponentDigits else none
  | .exponentDigits => if c.isDigit then some .exponentDigits else none

/-- Whether a number may end after this part. -/
def isComplete : NumberPart → Bool
  | .zero | .whole | .fraction | .exponentDigits => true
  | _ => false

end NumberPart

/-! ## The scanner -/

/-- What the scanner has begun to read. Lists of read units and digits are in reverse. -/
inductive Mode where
  | between
  /-- A word of which these letters are still to come, and the token that it becomes. -/
  | word (letters : List Char) (token : Token)
  | number (part : NumberPart) (digits : List Char)
  | string (units : List Nat)
  | escape (units : List Nat)
  /-- A numeric escape with this many digits to come, and the value of those read. -/
  | numericEscape (units : List Nat) (digits value : Nat)

/-- The tokens that were read, in reverse, and what has begun. -/
structure Scanner where
  tokens : List Token
  mode : Mode

namespace Scanner

/-- The scanner before the first character. -/
def start : Scanner := ⟨[], .between⟩

/-- The scanner after a whole token. -/
def emit (tokens : List Token) (token : Token) : Scanner :=
  ⟨token :: tokens, .between⟩

/-- One character between tokens. -/
def begin? (tokens : List Token) (c : Char) : Option Scanner :=
  match c with
  | ' ' | '\n' | '\r' | '\t' => some ⟨tokens, .between⟩
  | '[' => some (emit tokens .openBracket)
  | ']' => some (emit tokens .closeBracket)
  | '{' => some (emit tokens .openBrace)
  | '}' => some (emit tokens .closeBrace)
  | ':' => some (emit tokens .colon)
  | ',' => some (emit tokens .comma)
  | '"' => some ⟨tokens, .string []⟩
  | 'n' => some ⟨tokens, .word ['u', 'l', 'l'] .null⟩
  | 't' => some ⟨tokens, .word ['r', 'u', 'e'] (.bool true)⟩
  | 'f' => some ⟨tokens, .word ['a', 'l', 's', 'e'] (.bool false)⟩
  | c => (NumberPart.start? c).map fun part => ⟨tokens, .number part [c]⟩

/-- One more character. -/
def step (s : Scanner) (c : Char) : Option Scanner :=
  match s.mode with
  | .between => begin? s.tokens c
  | .word [] token => begin? (token :: s.tokens) c
  | .word (letter :: rest) token =>
    if c = letter then
      some (if rest.isEmpty then emit s.tokens token else ⟨s.tokens, .word rest token⟩)
    else none
  | .number part digits =>
    match part.next? c with
    | some part => some ⟨s.tokens, .number part (c :: digits)⟩
    | none => if part.isComplete then begin? (.number digits.reverse :: s.tokens) c else none
  | .string units =>
    if c = '"' then some (emit s.tokens (.string units.reverse))
    else if c = '\\' then some ⟨s.tokens, .escape units⟩
    else if c.toNat < 0x20 then none
    else some ⟨s.tokens, .string (c.toNat :: units)⟩
  | .escape units =>
    if c = 'u' then some ⟨s.tokens, .numericEscape units 4 0⟩
    else (simpleEscape? c).map fun u => ⟨s.tokens, .string (u :: units)⟩
  | .numericEscape units digits value =>
    (hexValue? c).map fun d =>
      if digits ≤ 1 then ⟨s.tokens, .string ((value * 16 + d) :: units)⟩
      else ⟨s.tokens, .numericEscape units (digits - 1) (value * 16 + d)⟩

/-- The tokens at the end of the text, if nothing is left unfinished. -/
def finish? (s : Scanner) : Option (List Token) :=
  match s.mode with
  | .between => some s.tokens.reverse
  | .number part digits =>
    if part.isComplete then some (Token.number digits.reverse :: s.tokens).reverse else none
  | _ => none

end Scanner

/-- The tokens of a text. -/
def scan? (text : List Char) : Option (List Token) := do
  let s ← text.foldlM Scanner.step .start
  s.finish?

end DisplayProcessor.Json
