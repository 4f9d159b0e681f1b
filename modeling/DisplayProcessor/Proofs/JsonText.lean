import DisplayProcessor.Json.Value

/-!
# Reading back what was written

A JSON value that is written without blanks is read back as the same value. The way leads through
tokens: the scanner turns the text of a value into its tokens, and the parser turns these into the
value. A number has no end of its own; the scanner sees it end at the delimiter behind it, or at the
end of the text.

- `IsNumber`, `IsText`: the literals and the units that can be written and read back.
- `Value.Proper`: a value that is made of such literals and units.
- `Value.tokens`: the tokens of a value.
- `Scanner.Ends`: the scanner has read some tokens, and the last of them may have ended.
- `Value.Proper.scan?_compact`, `Value.parseTokens?_tokens`: the two halves of the way.
- `Value.Proper.parse?_compact`: the way as a whole.
-/

namespace DisplayProcessor.Json

/-! ## Values that can be written -/

/-- A text that is read as one number, from its first character to its last. -/
def IsNumber : List Char → Prop
  | [] => False
  | c :: rest => ∃ first last, NumberPart.start? c = some first ∧
      rest.foldlM NumberPart.next? first = some last ∧ last.isComplete = true

/-- The units of a string: code points, surrogates among them. -/
def IsText (units : List Nat) : Prop :=
  ∀ u ∈ units, u < 0x110000

/-- A value whose numbers and strings can be written and read back. -/
inductive Value.Proper : Value → Prop where
  | null : Proper .null
  | bool (b : Bool) : Proper (.bool b)
  | number {literal : List Char} (h : IsNumber literal) : Proper (.number literal)
  | string {units : List Nat} (h : IsText units) : Proper (.string units)
  | array {items : List Value} (h : ∀ v ∈ items, Proper v) : Proper (.array items)
  | object {members : List (List Nat × Value)} (hkeys : ∀ entry ∈ members, IsText entry.1)
      (h : ∀ entry ∈ members, Proper entry.2) : Proper (.object members)

/-- Induction over a value, with the hypothesis for every item and every member. -/
@[elab_as_elim]
theorem Value.induction {motive : Value → Prop} (null : motive .null)
    (bool : ∀ b, motive (.bool b)) (number : ∀ literal, motive (.number literal))
    (string : ∀ units, motive (.string units))
    (array : ∀ items, (∀ v ∈ items, motive v) → motive (.array items))
    (object : ∀ members, (∀ entry ∈ members, motive entry.2) → motive (.object members))
    (v : Value) : motive v := by
  -- The lists of items and of members, and a single member, have motives of their own.
  refine @Value.rec motive (fun items => ∀ v ∈ items, motive v)
    (fun members => ∀ entry ∈ members, motive entry.2) (fun entry => motive entry.2)
    null bool number string array object ?_ ?_ ?_ ?_ ?_ v
  · intro v hv
    cases hv
  · intro v items hv hitems
    exact List.forall_mem_cons.mpr ⟨hv, hitems⟩
  · intro entry hentry
    cases hentry
  · intro entry members hentry hmembers
    exact List.forall_mem_cons.mpr ⟨hentry, hmembers⟩
  · intro key v hv
    exact hv

/-! ## The tokens of a value -/

mutual

/-- The tokens of a value. -/
def Value.tokens : Value → List Token
  | .null => [.null]
  | .bool b => [.bool b]
  | .number literal => [.number literal]
  | .string units => [.string units]
  | .array items => .openBracket :: itemTokens items
  | .object members => .openBrace :: memberTokens members

/-- The tokens of the items of an array, and of its end. -/
def Value.itemTokens : List Value → List Token
  | [] => [.closeBracket]
  | [v] => v.tokens ++ [.closeBracket]
  | v :: rest => v.tokens ++ .comma :: itemTokens rest

/-- The tokens of the members of an object, and of its end. -/
def Value.memberTokens : List (List Nat × Value) → List Token
  | [] => [.closeBrace]
  | [(key, v)] => .string key :: .colon :: v.tokens ++ [.closeBrace]
  | (key, v) :: rest => .string key :: .colon :: v.tokens ++ .comma :: memberTokens rest

end

namespace Value

theorem itemTokens_cons_cons (v w : Value) (rest : List Value) :
    itemTokens (v :: w :: rest) = v.tokens ++ .comma :: itemTokens (w :: rest) := rfl

theorem memberTokens_cons_cons (key : List Nat) (v : Value) (next : List Nat × Value)
    (rest : List (List Nat × Value)) :
    memberTokens ((key, v) :: next :: rest) =
      .string key :: .colon :: (v.tokens ++ .comma :: memberTokens (next :: rest)) := rfl

theorem compactItems_cons_cons (v w : Value) (rest : List Value) :
    compactItems (v :: w :: rest) = v.compact ++ ',' :: compactItems (w :: rest) := rfl

theorem compactMembers_cons_cons (key : List Nat) (v : Value) (next : List Nat × Value)
    (rest : List (List Nat × Value)) :
    compactMembers ((key, v) :: next :: rest) =
      writeString key ++ ':' :: (v.compact ++ ',' :: compactMembers (next :: rest)) :=
  List.append_assoc ..

end Value

/-! ## Scanning -/

namespace Scanner

/-- The scanner after some text. -/
def run? (s : Scanner) (text : List Char) : Option Scanner :=
  text.foldlM step s

theorem run?_cons {s t : Scanner} {c : Char} (h : s.step c = some t) (rest : List Char) :
    s.run? (c :: rest) = t.run? rest := by
  unfold run?
  rw [List.foldlM_cons, h]
  rfl

/-- A text that is scanned leaves the rest to the state that it leads to. -/
theorem run?_append {s t : Scanner} {text : List Char} (h : s.run? text = some t)
    (rest : List Char) : s.run? (text ++ rest) = t.run? rest := by
  unfold run? at h ⊢
  rw [List.foldlM_append, h]
  rfl

/-- The token of a character that may stand behind a value. -/
def delimiter? : Char → Option Token
  | ',' => some .comma
  | ']' => some .closeBracket
  | '\x7d' => some .closeBrace
  | _ => none

/-- The scanner has read these tokens, latest first. It is between tokens, or the latest is a number
that whatever comes next will end. -/
structure Ends (s : Scanner) (tokens : List Token) : Prop where
  step : ∀ {c token}, delimiter? c = some token → s.step c = some (emit tokens token)
  finish : s.finish? = some tokens.reverse

/-- A delimiter is a token of its own. -/
theorem begin?_of_delimiter {tokens : List Token} {c : Char} {token : Token}
    (h : delimiter? c = some token) : begin? tokens c = some (emit tokens token) := by
  unfold delimiter? at h
  split at h
  · cases h; rfl
  · cases h; rfl
  · cases h; rfl
  · cases h

theorem ends_between (tokens : List Token) : (Scanner.mk tokens .between).Ends tokens :=
  ⟨begin?_of_delimiter, rfl⟩

/-! ### Numbers -/

/-- No number goes on with a delimiter. -/
theorem next?_of_delimiter (part : NumberPart) {c : Char} {token : Token}
    (h : delimiter? c = some token) : part.next? c = none := by
  unfold delimiter? at h
  split at h
  · cases part <;> rfl
  · cases part <;> rfl
  · cases part <;> rfl
  · cases h

/-- A number ends with whatever comes behind it. -/
theorem ends_number (tokens : List Token) {part : NumberPart} (digits : List Char)
    (hcomplete : part.isComplete = true) :
    (Scanner.mk tokens (.number part digits)).Ends (.number digits.reverse :: tokens) where
  step := by
    intro c token h
    unfold step
    simp only [next?_of_delimiter part h, hcomplete, if_true]
    exact begin?_of_delimiter h
  finish := if_pos hcomplete

theorem begin?_of_start {tokens : List Token} {c : Char} {part : NumberPart}
    (h : NumberPart.start? c = some part) :
    begin? tokens c = some ⟨tokens, .number part [c]⟩ := by
  unfold begin?
  split
  case h_15 => rw [h]; rfl
  all_goals cases (show none = some part from h)

/-- The scanner goes through a number part by part. -/
theorem run?_number (tokens : List Token) (text : List Char) {first last : NumberPart}
    (h : text.foldlM NumberPart.next? first = some last) (digits : List Char) :
    (Scanner.mk tokens (.number first digits)).run? text =
      some ⟨tokens, .number last (text.reverse ++ digits)⟩ := by
  induction text generalizing first digits with
  | nil =>
    cases h
    rfl
  | cons c rest ih =>
    rw [List.foldlM_cons] at h
    -- The first character goes on with the number, and the rest with what it has become.
    obtain ⟨next, hnext, hrest⟩ := Option.bind_eq_some_iff.mp h
    have hstep : (Scanner.mk tokens (.number first digits)).step c =
        some ⟨tokens, .number next (c :: digits)⟩ := by
      unfold step
      simp only [hnext]
    rw [run?_cons hstep, ih hrest, List.reverse_cons, List.append_assoc]
    rfl

/-- A number is read as its literal. -/
theorem exists_run?_number (tokens : List Token) {literal : List Char} (h : IsNumber literal) :
    ∃ s, (Scanner.mk tokens .between).run? literal = some s ∧
      s.Ends (.number literal :: tokens) := by
  cases literal with
  | nil => exact h.elim
  | cons c rest =>
    obtain ⟨first, last, hstart, hrest, hcomplete⟩ := h
    have hbegin : (Scanner.mk tokens .between).step c = some ⟨tokens, .number first [c]⟩ :=
      begin?_of_start hstart
    have hends := ends_number tokens (rest.reverse ++ [c]) hcomplete
    rw [List.reverse_append, List.reverse_reverse] at hends
    exact ⟨_, (run?_cons hbegin rest).trans (run?_number tokens rest hrest [c]), hends⟩

/-! ### Strings -/

/-- A hexadecimal digit is read back. -/
theorem hexValue?_digitChar {d : Nat} (h : d < 16) : hexValue? d.digitChar = some d := by
  have hall : ∀ d : Fin 16, hexValue? (Nat.digitChar d) = some d.val := by decide
  exact hall ⟨d, h⟩

theorem step_numericEscape (tokens : List Token) (units : List Nat) {c : Char} {d : Nat}
    (h : hexValue? c = some d) (digits value : Nat) :
    (Scanner.mk tokens (.numericEscape units digits value)).step c =
      some (if digits ≤ 1 then ⟨tokens, .string ((value * 16 + d) :: units)⟩
        else ⟨tokens, .numericEscape units (digits - 1) (value * 16 + d)⟩) := by
  unfold step
  rw [h]
  rfl

/-- Four hexadecimal digits are read as their value. -/
theorem run?_hexDigits (tokens : List Token) (units : List Nat) {u : Nat} (h : u < 65536) :
    (Scanner.mk tokens (.numericEscape units 4 0)).run? (hexDigits u) =
      some ⟨tokens, .string (u :: units)⟩ := by
  have hdigit (d : Nat) : hexValue? (Nat.digitChar (d % 16)) = some (d % 16) :=
    hexValue?_digitChar (Nat.mod_lt d (by decide))
  have hvalue : (((0 * 16 + u / 4096 % 16) * 16 + u / 256 % 16) * 16 + u / 16 % 16) * 16 + u % 16 =
      u := by omega
  -- The digits are read one by one; the last ends the escape.
  refine (run?_cons (step_numericEscape tokens units (hdigit _) 4 _) _).trans ?_
  refine (run?_cons (step_numericEscape tokens units (hdigit _) 3 _) _).trans ?_
  refine (run?_cons (step_numericEscape tokens units (hdigit _) 2 _) _).trans ?_
  refine (run?_cons (step_numericEscape tokens units (hdigit _) 1 _) _).trans ?_
  show some (Scanner.mk tokens (.string (_ :: units))) = _
  rw [hvalue]

theorem toNat_ofNat {u : Nat} (h : u.isValidChar) : (Char.ofNat u).toNat = u := by
  rw [Char.ofNat, dif_pos h]
  rfl

/-- A unit of a string is read back. -/
theorem run?_writeUnit (tokens : List Token) (units : List Nat) {u : Nat} (h : u < 0x110000) :
    (Scanner.mk tokens (.string units)).run? (writeUnit u) =
      some ⟨tokens, .string (u :: units)⟩ := by
  unfold writeUnit
  by_cases hquote : u = 0x22
  · subst hquote
    rfl
  by_cases hbackslash : u = 0x5C
  · subst hbackslash
    rfl
  rw [if_neg hquote, if_neg hbackslash]
  by_cases hescape : u < 0x20 || isHighSurrogate u || isLowSurrogate u
  · -- Control characters and surrogates are written as four hexadecimal digits.
    have hlt : u < 65536 := by
      simp only [isHighSurrogate, isLowSurrogate, Bool.or_eq_true, Bool.and_eq_true,
        decide_eq_true_eq] at hescape
      omega
    rw [if_pos hescape]
    exact run?_hexDigits tokens units hlt
  · rw [if_neg hescape]
    simp only [isHighSurrogate, isLowSurrogate, Bool.or_eq_true, Bool.and_eq_true,
      decide_eq_true_eq] at hescape
    have hvalid : u.isValidChar := by
      unfold Nat.isValidChar
      omega
    have hchar := toNat_ofNat hvalid
    -- Any other unit stands for itself, and is neither the quote nor the backslash.
    have hne (c : Char) (hc : u ≠ c.toNat) : Char.ofNat u ≠ c := by
      rintro rfl
      exact hc hchar.symm
    have hstep : (Scanner.mk tokens (.string units)).step (.ofNat u) =
        some ⟨tokens, .string (u :: units)⟩ := by
      unfold step
      simp only
      rw [if_neg (hne '"' hquote), if_neg (hne '\\' hbackslash), hchar, if_neg (by omega)]
    rw [run?_cons hstep]
    rfl

/-- The units of a string are read back. -/
theorem run?_units (tokens : List Token) {units : List Nat} (h : IsText units) (read : List Nat) :
    (Scanner.mk tokens (.string read)).run? (units.flatMap writeUnit) =
      some ⟨tokens, .string (units.reverse ++ read)⟩ := by
  induction units generalizing read with
  | nil => rfl
  | cons u rest ih =>
    obtain ⟨hu, hrest⟩ := List.forall_mem_cons.mp h
    rw [List.flatMap_cons, run?_append (run?_writeUnit tokens read hu), ih hrest,
      List.reverse_cons, List.append_assoc]
    rfl

/-- A string is read as its units. -/
theorem run?_writeString (tokens : List Token) {units : List Nat} (h : IsText units) :
    (Scanner.mk tokens .between).run? (writeString units) =
      some ⟨.string units :: tokens, .between⟩ := by
  have hunits := run?_append (run?_units tokens h []) ['"']
  rw [List.append_nil] at hunits
  refine hunits.trans ?_
  show some (emit tokens (.string units.reverse.reverse)) = _
  rw [List.reverse_reverse]
  rfl

end Scanner

namespace Value

/-- The scanner reads the tokens of a value from its text, wherever it stands between tokens. -/
def Scans (v : Value) : Prop :=
  ∀ tokens, ∃ s, (Scanner.mk tokens .between).run? v.compact = some s ∧
    s.Ends (v.tokens.reverse ++ tokens)

/-- A value and a delimiter behind it are read as their tokens. -/
theorem Scans.run?_delimiter {v : Value} (h : v.Scans) {c : Char} {token : Token}
    (hc : Scanner.delimiter? c = some token) (tokens : List Token) (rest : List Char) :
    (Scanner.mk tokens .between).run? (v.compact ++ c :: rest) =
      (Scanner.mk ((v.tokens ++ [token]).reverse ++ tokens) .between).run? rest := by
  obtain ⟨s, hrun, hends⟩ := h tokens
  rw [Scanner.run?_append hrun, Scanner.run?_cons (hends.step hc), List.reverse_append]
  rfl

/-- Items with commas between them are scanned one after the other. -/
theorem run?_compactItems {items : List Value} (h : ∀ v ∈ items, v.Scans) (tokens : List Token) :
    (Scanner.mk tokens .between).run? (compactItems items) =
      some ⟨(itemTokens items).reverse ++ tokens, .between⟩ := by
  induction items generalizing tokens with
  | nil => rfl
  | cons v rest ih =>
    obtain ⟨hv, hrest⟩ := List.forall_mem_cons.mp h
    cases rest with
    | nil =>
      rw [compactItems, hv.run?_delimiter rfl]
      rfl
    | cons w rest =>
      -- The comma ends the first item.
      rw [compactItems_cons_cons, hv.run?_delimiter rfl, ih hrest, itemTokens_cons_cons]
      simp only [List.reverse_append, List.reverse_cons, List.append_assoc]
      rfl

/-- Members with commas between them are scanned one after the other, each behind its key. -/
theorem run?_compactMembers {members : List (List Nat × Value)}
    (hkeys : ∀ entry ∈ members, IsText entry.1) (h : ∀ entry ∈ members, entry.2.Scans)
    (tokens : List Token) :
    (Scanner.mk tokens .between).run? (compactMembers members) =
      some ⟨(memberTokens members).reverse ++ tokens, .between⟩ := by
  induction members generalizing tokens with
  | nil => rfl
  | cons entry rest ih =>
    obtain ⟨key, v⟩ := entry
    obtain ⟨hkey, hkeys⟩ := List.forall_mem_cons.mp hkeys
    obtain ⟨hv, hrest⟩ := List.forall_mem_cons.mp h
    -- A key and its colon are two tokens, whatever comes behind them.
    have hname (text : List Char) :
        (Scanner.mk tokens .between).run? (writeString key ++ ':' :: text) =
          (Scanner.mk (.colon :: .string key :: tokens) .between).run? text :=
      (Scanner.run?_append (Scanner.run?_writeString tokens hkey) _).trans
        (Scanner.run?_cons rfl text)
    cases rest with
    | nil =>
      rw [compactMembers, List.append_assoc, List.cons_append, hname, hv.run?_delimiter rfl]
      simp only [memberTokens, List.cons_append, List.reverse_cons, List.reverse_append,
        List.append_assoc]
      rfl
    | cons next rest =>
      rw [compactMembers_cons_cons, hname, hv.run?_delimiter rfl, ih hkeys hrest,
        memberTokens_cons_cons]
      simp only [List.reverse_append, List.reverse_cons, List.append_assoc]
      rfl

namespace Proper

/-- A proper value is scanned from its text. -/
theorem scans {v : Value} (h : v.Proper) : v.Scans := by
  induction h with
  | null => exact fun tokens => ⟨_, rfl, Scanner.ends_between _⟩
  | bool b =>
    intro tokens
    refine ⟨Scanner.mk (.bool b :: tokens) .between, ?_, Scanner.ends_between _⟩
    cases b with
    | false | true => rfl
  | number h => exact fun tokens => Scanner.exists_run?_number tokens h
  | string h => exact fun tokens => ⟨_, Scanner.run?_writeString tokens h, Scanner.ends_between _⟩
  | @array items _ ih =>
    intro tokens
    refine ⟨Scanner.mk ((itemTokens items).reverse ++ .openBracket :: tokens) .between,
      run?_compactItems ih _, ?_⟩
    -- The closing bracket ends the last item.
    show Scanner.Ends _ ((.openBracket :: itemTokens items).reverse ++ tokens)
    rw [List.reverse_cons, List.append_assoc]
    exact Scanner.ends_between _
  | @object members hkeys _ ih =>
    intro tokens
    refine ⟨Scanner.mk ((memberTokens members).reverse ++ .openBrace :: tokens) .between,
      run?_compactMembers hkeys ih _, ?_⟩
    -- The closing brace ends the last member.
    show Scanner.Ends _ ((.openBrace :: memberTokens members).reverse ++ tokens)
    rw [List.reverse_cons, List.append_assoc]
    exact Scanner.ends_between _

/-- A value without blanks is scanned as its tokens. -/
theorem scan?_compact {v : Value} (h : v.Proper) : scan? v.compact = some v.tokens := by
  obtain ⟨s, hrun, hends⟩ := h.scans []
  have hfinish := hends.finish
  rw [List.append_nil, List.reverse_reverse] at hfinish
  unfold Scanner.run? at hrun
  unfold scan? Scanner.start
  rw [hrun]
  exact hfinish

end Proper

end Value

/-! ## Parsing -/

namespace Parser

/-- The parser after some tokens. -/
def run? (p : Parser) (tokens : List Token) : Option Parser :=
  tokens.foldlM step p

theorem run?_cons (p : Parser) (token : Token) (rest : List Token) :
    p.run? (token :: rest) = (p.step token).bind fun q => q.run? rest :=
  List.foldlM_cons

theorem run?_append {p q : Parser} {tokens : List Token} (h : p.run? tokens = some q)
    (rest : List Token) : p.run? (tokens ++ rest) = q.run? rest := by
  unfold run? at h ⊢
  rw [List.foldlM_append, h]
  rfl

/-- A first item is begun like any other. -/
theorem step_firstItem (stack : List Open) {token : Token} (h : token ≠ .closeBracket) :
    (Parser.firstItem stack).step token = (Parser.value (.array [] :: stack)).step token := by
  cases token with
  | closeBracket => exact absurd rfl h
  | _ => rfl

end Parser

namespace Value

/-- No value begins with the end of an array. -/
theorem exists_tokens_eq_cons (v : Value) :
    ∃ token rest, v.tokens = token :: rest ∧ token ≠ .closeBracket := by
  cases v with
  | null | bool | number | string | array | object => exact ⟨_, _, rfl, nofun⟩

/-- The first item of an array is read like any other. -/
theorem run?_firstItem (v : Value) (rest : List Value) (stack : List Open) :
    (Parser.firstItem stack).run? (itemTokens (v :: rest)) =
      (Parser.value (.array [] :: stack)).run? (itemTokens (v :: rest)) := by
  obtain ⟨token, tokens, htokens, hne⟩ := v.exists_tokens_eq_cons
  obtain ⟨more, hmore⟩ : ∃ more, itemTokens (v :: rest) = token :: more := by
    cases rest with
    | nil =>
      rw [itemTokens, htokens]
      exact ⟨_, rfl⟩
    | cons w rest =>
      rw [itemTokens_cons_cons, htokens]
      exact ⟨_, rfl⟩
  rw [hmore, Parser.run?_cons, Parser.run?_cons, Parser.step_firstItem stack hne]

/-- The parser reads a value from its tokens, wherever it stands. -/
def Parses (v : Value) : Prop :=
  ∀ stack, (Parser.value stack).run? v.tokens = some (.complete v stack)

/-- Items are read into the array that is open, behind those that it has. -/
theorem run?_itemTokens {items : List Value} (h : ∀ v ∈ items, v.Parses) :
    items ≠ [] → ∀ (read : List Value) (stack : List Open),
      (Parser.value (.array read :: stack)).run? (itemTokens items) =
        some (.complete (.array (read.reverse ++ items)) stack) := by
  induction items with
  | nil => exact fun hne => absurd rfl hne
  | cons v rest ih =>
    intro _ read stack
    obtain ⟨hv, hrest⟩ := List.forall_mem_cons.mp h
    cases rest with
    | nil =>
      rw [itemTokens, Parser.run?_append (hv _)]
      show some (Parser.complete (.array (v :: read).reverse) stack) = _
      rw [List.reverse_cons]
    | cons w rest =>
      -- The comma leaves the array open, with one more item.
      rw [itemTokens_cons_cons, Parser.run?_append (hv _), Parser.run?_cons]
      show (Parser.value (.array (v :: read) :: stack)).run? (itemTokens (w :: rest)) = _
      rw [ih hrest nofun, List.reverse_cons, List.append_assoc]
      rfl

/-- Members are read into the object that is open, behind those that it has. -/
theorem run?_memberTokens {members : List (List Nat × Value)}
    (h : ∀ entry ∈ members, entry.2.Parses) :
    members ≠ [] → ∀ (read : List (List Nat × Value)) (stack : List Open),
      (Parser.key read stack).run? (memberTokens members) =
        some (.complete (.object (read.reverse ++ members)) stack) := by
  induction members with
  | nil => exact fun hne => absurd rfl hne
  | cons entry rest ih =>
    intro _ read stack
    obtain ⟨key, v⟩ := entry
    obtain ⟨hv, hrest⟩ := List.forall_mem_cons.mp h
    have hkey (tokens : List Token) :
        (Parser.key read stack).run? (.string key :: .colon :: tokens) =
          (Parser.value (.object read key :: stack)).run? tokens := rfl
    cases rest with
    | nil =>
      rw [memberTokens, List.cons_append, List.cons_append, hkey, Parser.run?_append (hv _)]
      show some (Parser.complete (.object ((key, v) :: read).reverse) stack) = _
      rw [List.reverse_cons]
    | cons next rest =>
      -- The comma leaves the object open, with one more member.
      rw [memberTokens_cons_cons, hkey, Parser.run?_append (hv _), Parser.run?_cons]
      show (Parser.key ((key, v) :: read) stack).run? (memberTokens (next :: rest)) = _
      rw [ih hrest nofun, List.reverse_cons, List.append_assoc]
      rfl

/-- Every value is read from its tokens. -/
theorem parses (v : Value) : v.Parses := by
  induction v using Value.induction with
  | null | bool | number | string => exact fun stack => rfl
  | array items ih =>
    intro stack
    show (Parser.firstItem stack).run? (itemTokens items) = _
    cases items with
    | nil => rfl
    | cons v rest =>
      exact (run?_firstItem v rest stack).trans (run?_itemTokens ih nofun [] stack)
  | object members ih =>
    intro stack
    show (Parser.firstKey stack).run? (memberTokens members) = _
    cases members with
    | nil => rfl
    | cons entry rest =>
      -- With a member to come, the first key is read as a later one is.
      have hfirst : (Parser.firstKey stack).run? (memberTokens (entry :: rest)) =
          (Parser.key [] stack).run? (memberTokens (entry :: rest)) := by
        cases rest with
        | nil | cons => rfl
      exact hfirst.trans (run?_memberTokens ih nofun [] stack)

/-- A value is read back from its tokens. -/
theorem parseTokens?_tokens (v : Value) : parseTokens? v.tokens = some v := by
  have h := v.parses []
  unfold Parser.run? at h
  unfold parseTokens?
  rw [h]
  rfl

end Value

/-- **A proper value that is written without blanks is read back.** -/
theorem Value.Proper.parse?_compact {v : Value} (h : v.Proper) : parse? v.compact = some v := by
  unfold parse?
  rw [h.scan?_compact]
  exact v.parseTokens?_tokens

end DisplayProcessor.Json
