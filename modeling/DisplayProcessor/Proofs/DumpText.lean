import DisplayProcessor.FileContent
import DisplayProcessor.Proofs.DecimalDigits
import DisplayProcessor.Proofs.JsonText

/-!
# Recorded batches

A batch that is written as a dump is read back, whatever its words and row lengths are; it need not
be well formed.

- `Json.isNumber_toDigits`: a natural number is written as a number of JSON.
- `Batch.proper_toJson`: a dump can be read back as a JSON value.
- `Batch.ofJson?_toJson`: the batch is in that value.
- `Batch.ofDump?_toDump`: the main result, with the text of a dump.
-/

namespace DisplayProcessor

/-! ## Numbers -/

namespace Json

open NumberPart

/-- A number that starts with another digit than zero is a whole one. -/
theorem start?_of_isDigit {c : Char} (hc : c.isDigit = true) (hzero : c ≠ '0') :
    start? c = some .whole := by
  have hsign : c ≠ '-' := by
    rintro rfl
    cases hc
  rw [start?, if_neg hsign, if_neg hzero, if_pos hc]

/-- Digits go on with a whole number. -/
theorem foldlM_next?_digits {digits : List Char} (h : ∀ d ∈ digits, d.isDigit = true) :
    digits.foldlM next? .whole = some .whole := by
  induction digits with
  | nil => rfl
  | cons d rest ih =>
    obtain ⟨hd, hrest⟩ := List.forall_mem_cons.mp h
    rw [List.foldlM_cons, next?, if_pos hd]
    exact ih hrest

/-- A natural number is written as a number: zero by itself, any other one without a zero in front.
-/
theorem isNumber_toDigits (n : Nat) : IsNumber (Nat.toDigits 10 n) := by
  rcases Nat.eq_zero_or_pos n with rfl | hn
  · exact ⟨.zero, .zero, rfl, rfl, rfl⟩
  · obtain ⟨c, rest, hcons, hdigits, hzero⟩ := exists_toDigits_eq_cons n
    obtain ⟨hc, hrest⟩ := List.forall_mem_cons.mp hdigits
    have hstart := start?_of_isDigit hc fun heq => Nat.ne_of_gt hn (hzero heq)
    rw [hcons]
    exact ⟨_, _, hstart, foldlM_next?_digits hrest, rfl⟩

/-- A natural number below a bound is read back. -/
theorem Value.toNatBelow?_ofNat {n bound : Nat} (h : n < bound) :
    (Value.ofNat n).toNatBelow? bound = some n := by
  have hdigits : (Nat.toDigits 10 n).all Char.isDigit = true :=
    List.all_eq_true.mpr fun c hc => Nat.isDigit_of_mem_toDigits (by decide) (by decide) hc
  have hvalue : Nat.ofDigitChars 10 (Nat.toDigits 10 n) 0 = n :=
    Nat.ofDigitChars_toDigits (by decide) (by decide)
  unfold toNatBelow? ofNat
  simp only [hdigits, hvalue, h, decide_true, Bool.and_self, if_true]

/-! ## Texts -/

/-- The units of a text are code points. -/
theorem isText_unitsOf (text : String) : IsText (unitsOf text) := by
  intro u hu
  obtain ⟨c, -, rfl⟩ := List.mem_map.mp hu
  rcases c.valid with h | ⟨-, h⟩
  · exact Nat.lt_trans h (by decide)
  · exact h

/-- No character is a surrogate. -/
theorem not_isSurrogate (c : Char) :
    (isHighSurrogate c.toNat || isLowSurrogate c.toNat) = false := by
  have hvalid := c.valid
  have hval : c.toNat = c.val.toNat := rfl
  simp only [isHighSurrogate, isLowSurrogate, Bool.or_eq_false_iff, Bool.and_eq_false_iff,
    decide_eq_false_iff_not]
  unfold UInt32.isValidChar Nat.isValidChar at hvalid
  omega

/-- A text is read back from its units. -/
theorem decodeUnits?_unitsOf (text : String) : decodeUnits? (unitsOf text) = some text.toList := by
  unfold unitsOf
  induction text.toList with
  | nil => rfl
  | cons c rest ih =>
    have hc := not_isSurrogate c
    cases rest with
    | nil =>
      show (if isHighSurrogate c.toNat || isLowSurrogate c.toNat then none else _) = _
      rw [hc, Char.ofNat_toNat]
      rfl
    | cons d rest =>
      -- The first unit is no high surrogate, so the next one is not taken with it.
      have hhigh : isHighSurrogate c.toNat = false := (Bool.or_eq_false_iff.mp hc).1
      rw [List.map_cons, List.map_cons, decodeUnits?, ← List.map_cons, ih, hc, hhigh,
        Char.ofNat_toNat]
      rfl

end Json

/-! ## Batches -/

namespace Batch

open Json

/-- A list of numbers is a value that is read back. -/
theorem proper_numbersToJson (numbers : List UInt32) : (numbersToJson numbers).Proper := by
  refine .array fun v hv => ?_
  obtain ⟨n, -, rfl⟩ := List.mem_map.mp hv
  exact .number (isNumber_toDigits n.toNat)

/-- A dump is a value that is read back. -/
theorem proper_toJson (batch : Batch) : batch.toJson.Proper := by
  refine .object (List.forall_mem_cons.mpr ⟨?_, List.forall_mem_singleton.mpr ?_⟩)
    (List.forall_mem_cons.mpr ⟨?_, List.forall_mem_singleton.mpr ?_⟩)
  · exact isText_unitsOf "words"
  · exact isText_unitsOf "row_lengths"
  · exact proper_numbersToJson batch.words
  · exact proper_numbersToJson batch.rowLengths

/-- A list of words is read back from the numbers that it is written as. -/
theorem numbersOfJson?_numbersToJson (numbers : List UInt32) :
    numbersOfJson? (numbersToJson numbers) = some numbers := by
  unfold numbersToJson numbersOfJson?
  induction numbers with
  | nil => rfl
  | cons n rest ih =>
    simp only [List.map_cons, List.mapM_cons, ih, Value.toNatBelow?_ofNat n.toNat_lt,
      Option.map_some, UInt32.ofNat_toNat]
    rfl

/-- Each of the two names is found once. -/
theorem uniqueMember?_pair (v w : Value) :
    let members := [("words".toList, v), ("row_lengths".toList, w)]
    uniqueMember? members "words" = some v ∧ uniqueMember? members "row_lengths" = some w := by
  intro members
  simp [members, uniqueMember?]

/-- A batch is read back from the value of its dump. -/
theorem ofJson?_toJson (batch : Batch) : ofJson? batch.toJson = some batch := by
  obtain ⟨hwords, hlengths⟩ :=
    uniqueMember?_pair (numbersToJson batch.words) (numbersToJson batch.rowLengths)
  unfold toJson Value.ofMembers ofJson?
  simp only [List.map_cons, List.map_nil, List.mapM_cons, List.mapM_nil, decodeUnits?_unitsOf,
    Option.map_some, Option.pure_def, Option.bind_eq_bind, Option.bind_some, hwords, hlengths,
    numbersOfJson?_numbersToJson]

/-- The decimal numbers of an array, with commas between them. -/
def numberList (numbers : List UInt32) : String :=
  ",".intercalate (numbers.map fun n => n.toNat.repr)

/-- A number is written with its decimal digits. -/
theorem compact_ofNat (n : Nat) : (Value.ofNat n).compact = n.repr.toList :=
  Nat.toList_repr.symm

/-- A list of numbers is written between brackets, with commas between them. -/
theorem compact_numbersToJson (numbers : List UInt32) :
    (numbersToJson numbers).compact = '[' :: (numberList numbers).toList ++ [']'] := by
  unfold numbersToJson numberList
  rw [Value.compact, List.cons_append]
  congr 1
  induction numbers with
  | nil => rfl
  | cons n rest ih =>
    cases rest with
    | nil =>
      rw [List.map_cons, List.map_nil, Value.compactItems, compact_ofNat, List.map_cons,
        List.map_nil, String.intercalate_singleton]
    | cons m rest =>
      -- With another number behind it there is a comma, here as in the text.
      rw [List.map_cons, List.map_cons, Value.compactItems_cons_cons, compact_ofNat]
      simp only [List.map_cons] at ih ⊢
      rw [ih, String.intercalate_cons_cons]
      simp

/-- The text of a dump. -/
theorem toDump_eq (batch : Batch) :
    batch.toDump = "\x7b\"words\":[" ++ numberList batch.words ++ "],\"row_lengths\":[" ++
      numberList batch.rowLengths ++ "]\x7d" := by
  have hwords : "\x7b\"words\":[".toList =
      '\x7b' :: (writeString (unitsOf "words") ++ [':', '[']) := by decide
  have hlengths : "],\"row_lengths\":[".toList =
      ']' :: ',' :: (writeString (unitsOf "row_lengths") ++ [':', '[']) := by decide
  rw [← String.toList_inj]
  unfold toDump toJson Value.ofMembers
  simp only [String.toList_ofList, String.toList_append, Value.compact, List.map_cons, List.map_nil,
    Value.compactMembers_cons_cons, Value.compactMembers, compact_numbersToJson, hwords, hlengths]
  simp

/-- **A dump is read back.** Whatever its words and row lengths, a batch is written as an object of
two arrays of decimal numbers, and this text holds the same batch again, also as the content of a
file. -/
theorem ofDump?_toDump (batch : Batch) :
    batch.toDump = "\x7b\"words\":[" ++ numberList batch.words ++ "],\"row_lengths\":[" ++
      numberList batch.rowLengths ++ "]\x7d" ∧
    ofDump? batch.toDump = some batch ∧
    ofFile (some batch.toDump.toUTF8) = .ok batch := by
  have hdump : ofDump? batch.toDump = some batch := by
    unfold ofDump? toDump
    rw [String.toList_ofList, batch.proper_toJson.parse?_compact]
    exact batch.ofJson?_toJson
  refine ⟨batch.toDump_eq, hdump, ?_⟩
  unfold ofFile
  rw [fileText_toUTF8]
  simp only [bind, Except.bind, hdump]
  rfl

end Batch

end DisplayProcessor
