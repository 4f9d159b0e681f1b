import DisplayProcessor.Toml.Text

/-!
# Scalars of TOML

Numbers, truth values and points in time are written without quotes.

- `Value`: what is kept of a value. Integers and truth values are kept; all else is only checked.
- `integer?`, `isFloat`, `isMoment`: the forms of an unquoted scalar.
- `scalar?`: an unquoted scalar at the start of a text.
-/

namespace DisplayProcessor.Toml

/-- What is kept of a value. -/
inductive Value where
  | string
  | integer (value : Int)
  | float
  | boolean (value : Bool)
  | moment
  | array
  | table
deriving DecidableEq

/-! ## Numbers -/

/-- The digits of a text of digits, in which single underscores may stand between two digits. -/
def digits? (isDigit : Char → Bool) : List Char → Option (List Char)
  | [] => none
  | [c] => if isDigit c then some [c] else none
  | c :: '_' :: rest => if isDigit c then (c :: ·) <$> digits? isDigit rest else none
  | c :: d :: rest => if isDigit c then (c :: ·) <$> digits? isDigit (d :: rest) else none

/-- The digits of a whole decimal number: none is spare. -/
def wholeDigits? (text : List Char) : Option (List Char) :=
  match digits? Char.isDigit text with
  | some ('0' :: _ :: _) => none
  | other => other

/-- The number with digits in a base. -/
def digitsValue (base : Nat) (digits : List Char) : Nat :=
  digits.foldl (fun n c => n * base + (hexValue? c).getD 0) 0

/-- The number in a base that follows its two-letter mark. -/
def basedNatural? (base : Nat) (text : List Char) : Option Int :=
  (digits? (fun c => (hexValue? c).any (· < base)) text).map fun digits => digitsValue base digits

/-- The decimal number without sign. -/
def natural? (text : List Char) : Option Nat :=
  (wholeDigits? text).map fun digits => Nat.ofDigitChars 10 digits 0

/-- The integer that the whole text is. -/
def unboundedInteger? : List Char → Option Int
  | '0' :: 'x' :: text => basedNatural? 16 text
  | '0' :: 'o' :: text => basedNatural? 8 text
  | '0' :: 'b' :: text => basedNatural? 2 text
  | '+' :: text => (natural? text).map Int.ofNat
  | '-' :: text => (natural? text).map fun n => -Int.ofNat n
  | text => (natural? text).map Int.ofNat

/-- The integer that the whole text is, if it has at most 128 bits. -/
def integer? (text : List Char) : Option Int :=
  (unboundedInteger? text).filter fun n => -2 ^ 127 ≤ n && n < 2 ^ 128

/-- The text without a sign. -/
def skipSign : List Char → List Char
  | '+' :: text => text
  | '-' :: text => text
  | text => text

/-- A digit or an underscore. -/
def isDigitOrUnderscore (c : Char) : Bool :=
  c.isDigit || c = '_'

/-- The exponent that the whole text is, zero if there is none. -/
def exponent? : List Char → Option Int
  | [] => some 0
  | c :: text =>
    if c = 'e' || c = 'E' then
      (digits? Char.isDigit (skipSign text)).map fun digits =>
        let n := Nat.ofDigitChars 10 digits 0
        if text.head? = some '-' then -Int.ofNat n else Int.ofNat n
    else none

/-- A decimal number by its digits without point, and the power of ten that they count. -/
structure Decimal where
  digits : List Char
  exponent : Int

/-- The unsigned number with a point or an exponent that the whole text is. -/
def decimal? (text : List Char) : Option Decimal := do
  let whole ← wholeDigits? (text.takeWhile isDigitOrUnderscore)
  match text.dropWhile isDigitOrUnderscore with
  | '.' :: text =>
    let fraction ← digits? Char.isDigit (text.takeWhile isDigitOrUnderscore)
    let exponent ← exponent? (text.dropWhile isDigitOrUnderscore)
    return ⟨whole ++ fraction, exponent - fraction.length⟩
  | [] => none
  | text =>
    let exponent ← exponent? text
    return ⟨whole, exponent⟩

/-- Whether a number rounds to a finite binary64 number. It does so below the middle between the
largest one and the power of two above it. -/
def Decimal.isFinite (d : Decimal) : Bool :=
  let significant := d.digits.dropWhile (· = '0')
  let n := Nat.ofDigitChars 10 significant 0
  let limit := 2 ^ 1024 - 2 ^ 970
  let magnitude := d.exponent + significant.length
  if n = 0 || magnitude < 309 then true
  else if 309 < magnitude then false
  else if 0 ≤ d.exponent then n * 10 ^ d.exponent.toNat < limit
  else n < limit * 10 ^ (-d.exponent).toNat

/-- Whether the whole text is a number with a point or an exponent, an infinity or no number at
all. -/
def isFloat (text : List Char) : Bool :=
  let unsigned := skipSign text
  unsigned = ['i', 'n', 'f'] || unsigned = ['n', 'a', 'n']
    || (decimal? unsigned).any Decimal.isFinite

/-! ## Points in time -/

/-- The number in two digits, and the text after them. -/
def twoDigits? : List Char → Option (Nat × List Char)
  | a :: b :: rest =>
    if a.isDigit && b.isDigit then some (Nat.ofDigitChars 10 [a, b] 0, rest) else none
  | _ => none

/-- The text after a character. -/
def skipChar? (c : Char) : List Char → Option (List Char)
  | d :: rest => if d = c then some rest else none
  | [] => none

/-- The number of days in a month. -/
def daysInMonth (year month : Nat) : Nat :=
  match month with
  | 2 => if year % 4 = 0 && (year % 100 ≠ 0 || year % 400 = 0) then 29 else 28
  | 4 | 6 | 9 | 11 => 30
  | _ => 31

/-- The text after a date. -/
def skipDate? (text : List Char) : Option (List Char) := do
  let (century, text) ← twoDigits? text
  let (year, text) ← twoDigits? text
  let text ← skipChar? '-' text
  let (month, text) ← twoDigits? text
  let text ← skipChar? '-' text
  let (day, text) ← twoDigits? text
  let days := daysInMonth (century * 100 + year) month
  if 1 ≤ month && month ≤ 12 && 1 ≤ day && day ≤ days then some text else none

/-- The text after an hour and a minute. -/
def skipHourMinute? (text : List Char) : Option (List Char) := do
  let (hour, text) ← twoDigits? text
  let text ← skipChar? ':' text
  let (minute, text) ← twoDigits? text
  if hour < 24 && minute < 60 then some text else none

/-- The text after a time of day; seconds and their fraction may be left out. -/
def skipTime? (text : List Char) : Option (List Char) := do
  let text ← skipHourMinute? text
  match text with
  | ':' :: text =>
    let (second, text) ← twoDigits? text
    if 60 < second then none
    else
      match text with
      | '.' :: text =>
        if text.head?.any Char.isDigit then some (text.dropWhile Char.isDigit) else none
      | text => some text
  | text => some text

/-- Whether the whole text is an offset from universal time, or nothing. -/
def isOffset : List Char → Bool
  | [] => true
  | ['Z'] => true
  | ['z'] => true
  | '+' :: text => skipHourMinute? text = some []
  | '-' :: text => skipHourMinute? text = some []
  | _ => false

/-- Whether the whole text is a date, a time of day, or both. -/
def isMoment (text : List Char) : Bool :=
  match skipDate? text with
  | some [] => true
  | some (c :: time) => (c = 'T' || c = 't' || c = ' ') && (skipTime? time).any isOffset
  | none => skipTime? text = some []

/-! ## Scalars -/

/-- The value that the whole text is. -/
def scalarValue? (text : List Char) : Option Value :=
  if text = ['t', 'r', 'u', 'e'] then some (.boolean true)
  else if text = ['f', 'a', 'l', 's', 'e'] then some (.boolean false)
  else
    match integer? text with
    | some n => some (.integer n)
    | none =>
      if isFloat text then some .float
      else if isMoment text then some .moment
      else none

/-- Whether a character may be part of an unquoted scalar: it ends no value. -/
def isScalarChar (c : Char) : Bool :=
  !(isBlank c || c = '\n' || c = '\r' || c = '#' || c = ',' || c = ']' || c = '\x7d')

/-- The characters of an unquoted scalar, and the text after it. One blank may stand between a
date and a time. -/
def scalarText (text : List Char) : List Char × List Char :=
  let word := text.takeWhile isScalarChar
  let rest := text.dropWhile isScalarChar
  match skipDate? word, rest with
  | some [], ' ' :: c :: more =>
    if c.isDigit then
      (word ++ ' ' :: (c :: more).takeWhile isScalarChar, (c :: more).dropWhile isScalarChar)
    else (word, rest)
  | _, _ => (word, rest)

/-- An unquoted scalar, and the text after it. -/
def scalar? (text : List Char) : Option (Value × List Char) :=
  (scalarValue? (scalarText text).1).map (·, (scalarText text).2)

end DisplayProcessor.Toml
