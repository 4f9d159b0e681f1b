import DisplayProcessor.Json.Token

/-!
# JSON values

- `Value`: a JSON value.
- `parse?`: the value of a text. The parser takes one token at a time and keeps what is open on a
  stack, so values nest as deep as the text says.
- `Value.compact`, `Value.pretty`: a value as text, without blanks or with two blanks for each
  level.
-/

namespace DisplayProcessor.Json

/-- A JSON value. Numbers and strings are kept as in their tokens, members in their order. -/
inductive Value where
  | null
  | bool (value : Bool)
  | number (literal : List Char)
  | string (units : List Nat)
  | array (items : List Value)
  | object (members : List (List Nat × Value))

instance : Inhabited Value := ⟨.null⟩

namespace Value

/-- The value of a natural number. -/
def ofNat (n : Nat) : Value :=
  .number (Nat.toDigits 10 n)

/-- The value of a text. -/
def ofText (text : String) : Value :=
  .string (unitsOf text)

/-- The object with the given names and values. -/
def ofMembers (members : List (String × Value)) : Value :=
  .object (members.map fun (name, value) => (unitsOf name, value))

/-- The natural number below a bound that a value is; no sign, point or exponent is allowed. -/
def toNatBelow? (bound : Nat) : Value → Option Nat
  | .number literal =>
    if literal.all Char.isDigit && Nat.ofDigitChars 10 literal 0 < bound then
      some (Nat.ofDigitChars 10 literal 0)
    else none
  | _ => none

end Value

/-! ## Reading -/

/-- An array or object that is not closed yet; what it has so far is in reverse. -/
inductive Open where
  | array (items : List Value)
  | object (members : List (List Nat × Value)) (key : List Nat)

/-- What the parser expects next, and what is open around it. -/
inductive Parser where
  | value (stack : List Open)
  | firstItem (stack : List Open)
  | firstKey (stack : List Open)
  | key (members : List (List Nat × Value)) (stack : List Open)
  | colon (members : List (List Nat × Value)) (key : List Nat) (stack : List Open)
  /-- A value is complete; it belongs to what is open, or is the whole. -/
  | complete (value : Value) (stack : List Open)

namespace Parser

/-- One token where a value is expected. -/
def beginValue? (stack : List Open) : Token → Option Parser
  | .null => some (.complete .null stack)
  | .bool b => some (.complete (.bool b) stack)
  | .number literal => some (.complete (.number literal) stack)
  | .string units => some (.complete (.string units) stack)
  | .openBracket => some (.firstItem stack)
  | .openBrace => some (.firstKey stack)
  | _ => none

/-- One more token. -/
def step : Parser → Token → Option Parser
  | .value stack, token => beginValue? stack token
  | .firstItem stack, .closeBracket => some (.complete (.array []) stack)
  | .firstItem stack, token => beginValue? (.array [] :: stack) token
  | .firstKey stack, .closeBrace => some (.complete (.object []) stack)
  | .firstKey stack, .string name => some (.colon [] name stack)
  | .firstKey _, _ => none
  | .key members stack, .string name => some (.colon members name stack)
  | .key _ _, _ => none
  | .colon members name stack, .colon => some (.value (.object members name :: stack))
  | .colon _ _ _, _ => none
  | .complete v (.array items :: stack), .comma => some (.value (.array (v :: items) :: stack))
  | .complete v (.array items :: stack), .closeBracket =>
    some (.complete (.array (v :: items).reverse) stack)
  | .complete v (.object members name :: stack), .comma => some (.key ((name, v) :: members) stack)
  | .complete v (.object members name :: stack), .closeBrace =>
    some (.complete (.object ((name, v) :: members).reverse) stack)
  | .complete _ _, _ => none

/-- The value at the end of the tokens, if nothing is open. -/
def finish? : Parser → Option Value
  | .complete v [] => some v
  | _ => none

end Parser

/-- The value of a sequence of tokens. -/
def parseTokens? (tokens : List Token) : Option Value := do
  let p ← tokens.foldlM Parser.step (.value [])
  p.finish?

/-- The value of a text. -/
def parse? (text : List Char) : Option Value := do
  let tokens ← scan? text
  parseTokens? tokens

/-! ## Writing -/

/-- The four hexadecimal digits of a sixteen-bit unit. -/
def hexDigits (u : Nat) : List Char :=
  [u / 4096 % 16, u / 256 % 16, u / 16 % 16, u % 16].map Nat.digitChar

/-- A unit of a string as it is written. -/
def writeUnit (u : Nat) : List Char :=
  if u = 0x22 then ['\\', '"']
  else if u = 0x5C then ['\\', '\\']
  else if u < 0x20 || isHighSurrogate u || isLowSurrogate u then '\\' :: 'u' :: hexDigits u
  else [.ofNat u]

/-- A string as it is written. -/
def writeString (units : List Nat) : List Char :=
  '"' :: units.flatMap writeUnit ++ ['"']

namespace Value

mutual

/-- The value as text without blanks. -/
def compact : Value → List Char
  | .null => ['n', 'u', 'l', 'l']
  | .bool true => ['t', 'r', 'u', 'e']
  | .bool false => ['f', 'a', 'l', 's', 'e']
  | .number literal => literal
  | .string units => writeString units
  | .array items => '[' :: compactItems items
  | .object members => '\x7b' :: compactMembers members

/-- The items of an array and its end. -/
def compactItems : List Value → List Char
  | [] => [']']
  | [v] => v.compact ++ [']']
  | v :: rest => v.compact ++ ',' :: compactItems rest

/-- The members of an object and its end. -/
def compactMembers : List (List Nat × Value) → List Char
  | [] => ['\x7d']
  | [(key, v)] => writeString key ++ ':' :: v.compact ++ ['\x7d']
  | (key, v) :: rest => writeString key ++ ':' :: v.compact ++ ',' :: compactMembers rest

end

/-- A new line at a level of indentation. -/
def newLine (level : Nat) : List Char :=
  '\n' :: List.replicate (2 * level) ' '

mutual

/-- The value as text with one line for each item and member. -/
def pretty (level : Nat) : Value → List Char
  | .null => ['n', 'u', 'l', 'l']
  | .bool true => ['t', 'r', 'u', 'e']
  | .bool false => ['f', 'a', 'l', 's', 'e']
  | .number literal => literal
  | .string units => writeString units
  | .array [] => ['[', ']']
  | .array (v :: rest) =>
    '[' :: newLine (level + 1) ++ v.pretty (level + 1) ++ prettyItems level rest
  | .object [] => ['\x7b', '\x7d']
  | .object ((key, v) :: rest) =>
    '\x7b' :: newLine (level + 1) ++ writeString key ++ ':' :: ' ' :: v.pretty (level + 1)
      ++ prettyMembers level rest

/-- The items after the first, and the end of the array. -/
def prettyItems (level : Nat) : List Value → List Char
  | [] => newLine level ++ [']']
  | v :: rest => ',' :: newLine (level + 1) ++ v.pretty (level + 1) ++ prettyItems level rest

/-- The members after the first, and the end of the object. -/
def prettyMembers (level : Nat) : List (List Nat × Value) → List Char
  | [] => newLine level ++ ['\x7d']
  | (key, v) :: rest =>
    ',' :: newLine (level + 1) ++ writeString key ++ ':' :: ' ' :: v.pretty (level + 1)
      ++ prettyMembers level rest

end

end Value

end DisplayProcessor.Json
