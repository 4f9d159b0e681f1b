import DisplayProcessor.Proofs.DecimalDigits
import DisplayProcessor.Toml.Document

/-!
# Documents of plain lines

A document whose lines assign values to keys, none of which needs quotes, has these values under
these keys. No key may be there twice.

- `Toml.IsBareKey`, `Toml.IsScalar`: keys and values that need no quotes.
- `Toml.Assignment`: a key with its value, and the line and the statement that it is.
- `Toml.statements?_lines`: lines are read as statements.
- `Toml.foldlM_add?`: when assignments build a table, and which.
- `Toml.parse?_lines`: the document of some lines.
-/

namespace DisplayProcessor.Toml

/-! ## Keys and values -/

/-- A key that needs no quotes. -/
structure IsBareKey (key : Key) : Prop where
  ne_nil : key ≠ []
  bare : ∀ c ∈ key, isBareKeyChar c = true

instance (key : Key) : Decidable (IsBareKey key) :=
  decidable_of_iff (key ≠ [] ∧ key.all isBareKeyChar = true)
    ⟨fun h => ⟨h.1, List.all_eq_true.mp h.2⟩, fun h => ⟨h.1, List.all_eq_true.mpr h.2⟩⟩

/-- Characters with which a value starts that is no scalar without quotes. -/
def opensValue (c : Char) : Bool :=
  c = '[' || c = '\x7b' || c = '"' || c = '\x27'

/-- A text without quotes that is a value. -/
structure IsScalar (text : List Char) (value : Value) : Prop where
  scalar : ∀ c ∈ text, isScalarChar c = true
  opens : ∀ c ∈ text.head?, opensValue c = false
  value_eq : scalarValue? text = some value

/-- A key and a value that are written without quotes. -/
structure Assignment where
  key : Key
  text : List Char
  value : Value
  isBareKey : IsBareKey key
  isScalar : IsScalar text value

namespace Assignment

/-- The line of a document that is the assignment. -/
def line (a : Assignment) : List Char :=
  a.key ++ ' ' :: '=' :: ' ' :: (a.text ++ ['\n'])

/-- The assignment as a statement. -/
def statement (a : Assignment) : Statement :=
  .assign [] a.key a.value

end Assignment

/-! ## Reading a line -/

theorem takeWhile_append_cons {p : Char → Bool} {word : List Char} {c : Char}
    (hword : ∀ d ∈ word, p d = true) (hc : p c = false) (rest : List Char) :
    (word ++ c :: rest).takeWhile p = word := by
  rw [List.takeWhile_append_of_pos hword]
  simp [hc]

theorem dropWhile_append_cons {p : Char → Bool} {word : List Char} {c : Char}
    (hword : ∀ d ∈ word, p d = true) (hc : p c = false) (rest : List Char) :
    (word ++ c :: rest).dropWhile p = c :: rest := by
  rw [List.dropWhile_append_of_pos hword]
  simp [hc]

/-- Characters that a test tells apart are different. -/
theorem ne_of_test {p : Char → Bool} {c d : Char} (hc : p c = true) (hd : p d = false) : c ≠ d := by
  rintro rfl
  rw [hc] at hd
  cases hd

/-- A key starts with none of the characters that mean something else in front of a line. -/
theorem startsLine_of_bare {c : Char} (hc : isBareKeyChar c = true) :
    c ≠ '[' ∧ c ≠ '\ufeff' ∧ isBlank c = false ∧ (c = '#' || c = '\n' || c = '\r') = false := by
  have hne {d : Char} (hd : isBareKeyChar d = false) : c ≠ d := ne_of_test hc hd
  simp [isBlank, hne, isBareKeyChar]

/-- A line starts with its key. -/
theorem Assignment.line_eq_cons (a : Assignment) :
    ∃ c text, a.line = c :: text ∧ isBareKeyChar c = true := by
  obtain ⟨c, key, hkey⟩ := List.exists_cons_of_ne_nil a.isBareKey.ne_nil
  refine ⟨c, key ++ ' ' :: '=' :: ' ' :: (a.text ++ ['\n']), ?_, ?_⟩
  · rw [Assignment.line, hkey, List.cons_append]
  · exact a.isBareKey.bare c (hkey ▸ List.mem_cons_self)

theorem simpleKey?_bareKey {key : Key} (h : IsBareKey key) (rest : List Char) :
    simpleKey? (key ++ ' ' :: rest) = some (key, ' ' :: rest) := by
  obtain ⟨c, key, rfl⟩ := List.exists_cons_of_ne_nil h.ne_nil
  have hspace : isBareKeyChar ' ' = false := by decide
  rw [simpleKey?, takeWhile_append_cons h.bare hspace, dropWhile_append_cons h.bare hspace]

theorem dottedKey?_bareKey {key : Key} (h : IsBareKey key) (rest : List Char) :
    dottedKey? (key ++ ' ' :: '=' :: rest) = some (([], key), '=' :: rest) := by
  rw [dottedKey?, maxKeyParts, keyParts?, simpleKey?_bareKey h]
  rfl

theorem scalarText_append_newline {text : List Char} (h : ∀ c ∈ text, isScalarChar c = true)
    (rest : List Char) : scalarText (text ++ '\n' :: rest) = (text, '\n' :: rest) := by
  have hnewline : isScalarChar '\n' = false := by decide
  rw [scalarText, takeWhile_append_cons h hnewline, dropWhile_append_cons h hnewline]
  -- Even behind a date, a line end does not go on with a time.
  rcases skipDate? text with _ | ⟨_ | ⟨c, text'⟩⟩ <;> rfl

/-- A scalar is read up to the end of its line. -/
theorem value?_scalar {text : List Char} {value : Value} (h : IsScalar text value)
    (fuel depth : Nat) (rest : List Char) :
    value? (fuel + 1) depth (text ++ '\n' :: rest) = some (value, '\n' :: rest) := by
  have hscalar : scalar? (text ++ '\n' :: rest) = some (value, '\n' :: rest) := by
    rw [scalar?, scalarText_append_newline h.scalar, h.value_eq]
    rfl
  -- A scalar does not begin like a string, an array or a table.
  have hopens {c : Char} {text' : List Char} (heq : text ++ '\n' :: rest = c :: text') :
      opensValue c = false := by
    cases text with
    | nil =>
      cases heq
      decide
    | cons d text =>
      cases heq
      exact h.opens c rfl
  rw [value?.eq_6]
  · exact hscalar
  all_goals
    intro text' heq
    exact absurd (hopens heq) (by decide)

/-- A value starts behind the blank. -/
theorem skipBlanks_scalar {text : List Char} (h : ∀ c ∈ text, isScalarChar c = true)
    (rest : List Char) : skipBlanks (' ' :: (text ++ '\n' :: rest)) = text ++ '\n' :: rest := by
  cases text with
  | nil => rfl
  | cons c text =>
    have hblank : isBlank c = false := by
      have hc := h c List.mem_cons_self
      simp only [isScalarChar, Bool.not_eq_true', Bool.or_eq_false_iff] at hc
      simp [hc]
    have hspace : isBlank ' ' = true := rfl
    simp [skipBlanks, hspace, hblank]

/-- The line of an assignment is a statement. -/
theorem statement?_line (a : Assignment) (rest : List Char) :
    statement? (a.line ++ rest) = some (a.statement, '\n' :: rest) := by
  obtain ⟨c, text, hline, hc⟩ := a.line_eq_cons
  -- A bare key does not open a table header.
  have hbracket {text' : List Char} : a.line ++ rest ≠ '[' :: text' := by
    rw [hline, List.cons_append]
    intro heq
    exact (startsLine_of_bare hc).1 (List.cons.inj heq).1
  have hkey : dottedKey? (a.line ++ rest) =
      some (([], a.key), '=' :: ' ' :: (a.text ++ '\n' :: rest)) := by
    rw [← dottedKey?_bareKey a.isBareKey]
    simp [Assignment.line]
  have hvalue (fuel : Nat) := value?_scalar a.isScalar fuel maxDepth rest
  rw [statement?.eq_3]
  · simp only [hkey, Option.bind_eq_bind, Option.bind_some, skipBlanks_scalar a.isScalar.scalar,
      hvalue]
    rfl
  · exact fun _ heq => hbracket heq
  · exact fun _ heq => hbracket heq

/-- A line is read before the rest, at the cost of one unit of fuel. -/
theorem statements?_line (a : Assignment) (fuel : Nat) (rest : List Char) :
    statements? (fuel + 1) (a.line ++ rest) =
      (statements? fuel rest).map (a.statement :: ·) := by
  obtain ⟨c, text, hline, hc⟩ := a.line_eq_cons
  obtain ⟨-, -, hblank, hstart⟩ := startsLine_of_bare hc
  -- A line starts with its key: there are no blanks and no comment to skip.
  have hskip : skipBlanks (c :: (text ++ rest)) = c :: (text ++ rest) := by
    simp [skipBlanks, hblank]
  have hstatement := statement?_line a rest
  rw [hline, List.cons_append] at hstatement ⊢
  have hend : lineEnd? ('\n' :: rest) = some rest := rfl
  rw [statements?, hskip]
  simp only [hstart, hstatement, hend, Bool.false_eq_true, if_false, Option.bind_eq_bind,
    Option.bind_some, Option.pure_def]
  cases statements? fuel rest <;> rfl

/-- Lines are read as their statements; each line takes one step. -/
theorem statements?_lines {fuel : Nat} {assignments : List Assignment}
    (h : assignments.length < fuel) :
    statements? fuel (assignments.flatMap Assignment.line) =
      some (assignments.map Assignment.statement) := by
  induction assignments generalizing fuel with
  | nil =>
    obtain ⟨fuel, rfl⟩ := Nat.exists_eq_succ_of_ne_zero (Nat.ne_of_gt h)
    rfl
  | cons a rest ih =>
    obtain ⟨fuel, rfl⟩ := Nat.exists_eq_succ_of_ne_zero (Nat.ne_of_gt (Nat.zero_lt_of_lt h))
    rw [List.flatMap_cons, statements?_line, ih (Nat.lt_of_succ_lt_succ h)]
    rfl

/-! ## Building the table -/

namespace Members

/-- The members after assignments, one after the other. -/
def assignAll (members : Members) (assignments : List Assignment) : Members :=
  assignments.foldl (fun members a => members.set a.key (.leaf a.value)) members

theorem get?_assignAll_of_not_mem {members : Members} {assignments : List Assignment} {key : Key}
    (h : key ∉ assignments.map Assignment.key) :
    (members.assignAll assignments).get? key = members.get? key := by
  induction assignments generalizing members with
  | nil => rfl
  | cons a rest ih =>
    rw [List.map_cons, List.mem_cons, not_or] at h
    show ((members.set a.key (.leaf a.value)).assignAll rest).get? key = _
    rw [ih h.2, get?_set_of_ne members h.1]

/-- If no key is there twice, every key has its value. -/
theorem get?_assignAll_of_mem {members : Members} {assignments : List Assignment}
    (hkeys : (assignments.map Assignment.key).Nodup) {a : Assignment} (ha : a ∈ assignments) :
    (members.assignAll assignments).get? a.key = some (.leaf a.value) := by
  induction assignments generalizing members with
  | nil => cases ha
  | cons first rest ih =>
    rw [List.map_cons, List.nodup_cons] at hkeys
    show ((members.set first.key (.leaf first.value)).assignAll rest).get? a.key = _
    rcases List.mem_cons.mp ha with rfl | hrest
    · rw [get?_assignAll_of_not_mem hkeys.1, get?_set_self]
    · exact ih hkeys.2 hrest

end Members

/-- An assignment to a new key sets it. -/
theorem add?_statement (root : Members) (a : Assignment) :
    Builder.add? ⟨root, []⟩ a.statement =
      if (root.get? a.key).isSome then none else some ⟨root.set a.key (.leaf a.value), []⟩ := by
  simp only [Builder.add?, Assignment.statement, Members.walk?, Members.assign?]
  by_cases h : (root.get? a.key).isSome = true
  · simp [h]
  · simp [h]

/-- Assignments build a table exactly if their keys are new and none is there twice. -/
theorem foldlM_add? (root : Members) (assignments : List Assignment) :
    (assignments.map Assignment.statement).foldlM Builder.add? ⟨root, []⟩ =
      if (assignments.map Assignment.key).Nodup ∧
          ∀ key ∈ assignments.map Assignment.key, root.get? key = none then
        some ⟨root.assignAll assignments, []⟩
      else none := by
  induction assignments generalizing root with
  | nil => rfl
  | cons a rest ih =>
    rw [List.map_cons, List.foldlM_cons, add?_statement, List.map_cons]
    by_cases hold : (root.get? a.key).isSome = true
    · rw [if_pos hold, if_neg]
      · rfl
      · rintro ⟨-, hnew⟩
        rw [hnew a.key List.mem_cons_self] at hold
        cases hold
    · have hnone : root.get? a.key = none := Option.not_isSome_iff_eq_none.mp hold
      -- To the later lines the first key is taken as well, which makes the keys distinct one by
      -- one.
      have hnew : (∀ key ∈ rest.map Assignment.key,
          (root.set a.key (.leaf a.value)).get? key = none) ↔
          a.key ∉ rest.map Assignment.key ∧
            ∀ key ∈ rest.map Assignment.key, root.get? key = none := by
        simp only [Members.get?_set_eq_none_iff]
        constructor
        · intro hset
          exact ⟨fun hmem => (hset a.key hmem).1 rfl, fun key hmem => (hset key hmem).2⟩
        · rintro ⟨hkey, hroot⟩ key hmem
          exact ⟨fun heq => hkey (heq ▸ hmem), hroot key hmem⟩
      rw [if_neg hold, Option.bind_eq_bind, Option.bind_some, ih]
      simp only [hnew, List.nodup_cons, List.forall_mem_cons, hnone, true_and, and_left_comm,
        and_assoc]
      rfl

/-- There are no more lines than characters. -/
theorem length_le_lines (assignments : List Assignment) :
    assignments.length ≤ (assignments.flatMap Assignment.line).length := by
  induction assignments with
  | nil => exact Nat.le_refl 0
  | cons a rest ih =>
    obtain ⟨c, text, hline, -⟩ := a.line_eq_cons
    rw [List.flatMap_cons, hline, List.length_append, List.length_cons, List.length_cons]
    omega

/-- Lines do not start with a byte order mark. -/
theorem skipMark_lines (assignments : List Assignment) :
    skipMark (assignments.flatMap Assignment.line) = assignments.flatMap Assignment.line := by
  cases assignments with
  | nil => rfl
  | cons a rest =>
    obtain ⟨c, text, hline, hc⟩ := a.line_eq_cons
    rw [List.flatMap_cons, hline, List.cons_append, skipMark]
    intro text' heq
    exact (startsLine_of_bare hc).2.1 (List.cons.inj heq).1

/-- The lines of assignments are a document exactly if no key is there twice. -/
theorem parse?_lines (assignments : List Assignment) :
    parse? (assignments.flatMap Assignment.line) =
      if (assignments.map Assignment.key).Nodup then some (Members.assignAll [] assignments)
      else none := by
  -- A line has a character at least, so the length of the text is fuel enough.
  have hlength := Nat.lt_succ_of_le (length_le_lines assignments)
  rw [parse?, skipMark_lines, statements?_lines hlength]
  show build? (assignments.map Assignment.statement) = _
  rw [build?, foldlM_add?]
  by_cases hkeys : (assignments.map Assignment.key).Nodup
  · rw [if_pos ⟨hkeys, fun _ _ => rfl⟩, if_pos hkeys]
    rfl
  · rw [if_neg fun h => hkeys h.1, if_neg hkeys]
    rfl

/-! ## Values -/

theorem isScalar_boolean (b : Bool) :
    IsScalar (if b then "true" else "false").toList (.boolean b) where
  scalar := by
    apply List.all_eq_true.mp
    cases b <;> decide
  opens := by
    intro c hc
    cases b
    all_goals
      obtain rfl := Option.some_inj.mp hc
      decide
  value_eq := by cases b <;> rfl

theorem digits?_of_isDigit {text : List Char} (hne : text ≠ [])
    (h : ∀ c ∈ text, c.isDigit = true) : digits? Char.isDigit text = some text := by
  fun_induction digits? Char.isDigit text with
  | case1 => exact absurd rfl hne
  | case2 => rfl
  | case4 c rest => exact absurd (h '_' (by simp)) (by decide)
  | case6 c d rest _ _ ih =>
    rw [ih (List.cons_ne_nil d rest) fun e he => h e (List.mem_cons_of_mem c he)]
    rfl
  | case3 c hc | case5 c _ hc | case7 c _ _ _ hc => exact absurd (h c List.mem_cons_self) hc

/-- No zero comes first unless it is the only digit. -/
theorem wholeDigits?_toDigits (n : Nat) :
    wholeDigits? (Nat.toDigits 10 n) = some (Nat.toDigits 10 n) := by
  obtain ⟨c, rest, hcons, hdigits, hzero⟩ := exists_toDigits_eq_cons n
  rw [hcons, wholeDigits?, digits?_of_isDigit (List.cons_ne_nil c rest) hdigits]
  split
  case h_1 d rest' heq =>
    -- Zero has only one digit.
    obtain ⟨rfl, rfl⟩ := List.cons.inj (Option.some_inj.mp heq)
    rw [hzero rfl, Nat.toDigits_zero] at hcons
    cases hcons
  case h_2 => rfl

/-- Decimal digits are read as the number they were made from, without a sign or a prefix. -/
theorem unboundedInteger?_toDigits (n : Nat) :
    unboundedInteger? (Nat.toDigits 10 n) = some (n : Int) := by
  have hnatural : natural? (Nat.toDigits 10 n) = some n := by
    rw [natural?, wholeDigits?_toDigits, Option.map_some, Nat.ofDigitChars_ten_toDigits]
  -- All characters are digits, so none of the forms with a sign or a prefix applies.
  obtain ⟨c, rest, hcons, hdigits, -⟩ := exists_toDigits_eq_cons n
  rw [hcons] at hnatural ⊢
  rw [unboundedInteger?.eq_6, hnatural]
  · rfl
  all_goals
    intro text heq
    rw [heq] at hdigits
    simp at hdigits

/-- A digit neither ends a value nor opens one that is no number. -/
theorem isScalarChar_of_isDigit {c : Char} (hc : c.isDigit = true) :
    isScalarChar c = true ∧ opensValue c = false := by
  have hne {d : Char} (hd : d.isDigit = false) : c ≠ d := ne_of_test hc hd
  simp [isScalarChar, isBlank, opensValue, hne]

/-- Decimal digits are an integer if it fits 128 bits. -/
theorem isScalar_integer {n : Nat} (h : n < 2 ^ 128) :
    IsScalar (Nat.toDigits 10 n) (.integer n) := by
  have hinteger : integer? (Nat.toDigits 10 n) = some (n : Int) := by
    rw [integer?, unboundedInteger?_toDigits, Option.filter_some, if_pos]
    simp only [Bool.and_eq_true, decide_eq_true_eq]
    omega
  obtain ⟨c, rest, hcons, hdigits, -⟩ := exists_toDigits_eq_cons n
  -- A digit starts none of the words.
  have hne {d : Char} (hd : d.isDigit = false) : c ≠ d :=
    ne_of_test (hdigits c List.mem_cons_self) hd
  rw [hcons] at hinteger ⊢
  constructor
  case scalar => exact fun d hd => (isScalarChar_of_isDigit (hdigits d hd)).1
  case opens =>
    intro d hd
    obtain rfl : c = d := Option.some_inj.mp hd
    exact (isScalarChar_of_isDigit (hdigits c List.mem_cons_self)).2
  case value_eq => simp [scalarValue?, hinteger, hne]

end DisplayProcessor.Toml
