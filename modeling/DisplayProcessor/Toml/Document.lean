import DisplayProcessor.Toml.Scalar

/-!
# TOML documents

A document is a list of statements: assignments of values to keys, and headers that say to which
table the assignments after them belong. No key may be given twice, and no table may be opened
twice.

- `Node`, `Members`: the tables of a document.
- `Members.assign?`, `Members.openTable?`, `Members.openElement?`: what the statements do.
- `value?`, `Statement`, `statements?`: the text of a document.
- `parse?`: the root table of a text.
-/

namespace DisplayProcessor.Toml

/-- The name of a value or table. -/
abbrev Key := List Char

/-! ## Tables -/

/-- How a table came to be. -/
inductive Origin where
  /-- A header names it. -/
  | header
  /-- The header of a table in it names it on the way. -/
  | path
  /-- An assignment to a dotted key names it on the way. -/
  | dotted
deriving DecidableEq

/-- What a key stands for. -/
inductive Node where
  | leaf (value : Value)
  | table (origin : Origin) (members : List (Key × Node))
  /-- An array of tables, by the members of its last one. -/
  | tables (last : List (Key × Node))

/-- The members of a table. -/
abbrev Members := List (Key × Node)

namespace Members

/-- What a key stands for. -/
def get? (members : Members) (key : Key) : Option Node :=
  (members.find? fun member => member.1 == key).map Prod.snd

/-- The members with one key set. -/
def set (members : Members) (key : Key) (node : Node) : Members :=
  (key, node) :: members.filter fun member => member.1 != key

theorem get?_set_self (members : Members) (key : Key) (node : Node) :
    (members.set key node).get? key = some node := by
  simp [set, get?]

theorem get?_set_of_ne (members : Members) {key other : Key} (h : other ≠ key) (node : Node) :
    (members.set key node).get? other = members.get? other := by
  have hkey : (key == other) = false := by simp [Ne.symm h]
  have hother : (fun member : Key × Node =>
      decide ((member.1 != key) = true ∧ (member.1 == other) = true)) =
        fun member => member.1 == other := by
    funext member
    by_cases hm : member.1 = other
    · simp [hm, h]
    · simp [hm]
  simp only [set, get?, List.find?_cons, hkey, List.find?_filter, hother]

theorem get?_set_eq_none_iff {members : Members} {key other : Key} {node : Node} :
    (members.set key node).get? other = none ↔ other ≠ key ∧ members.get? other = none := by
  by_cases h : other = key
  · simp [h, get?_set_self]
  · simp [h, get?_set_of_ne]

/-- Act on the table at the end of a path. Tables that are missing are made on the way. The path
of a dotted key must not go through a table that a header names. -/
def walk? (dotted : Bool) (act : Origin → Members → Option Members) :
    List Key → Origin → Members → Option Members
  | [], origin, members => act origin members
  | key :: path, _, members =>
    match members.get? key with
    | none => do
      let origin := if dotted then .dotted else .path
      let inner ← walk? dotted act path origin []
      return members.set key (.table origin inner)
    | some (.table origin inner) =>
      if dotted && origin = .header then none
      else do
        let inner ← walk? dotted act path origin inner
        return members.set key (.table origin inner)
    | some (.tables last) => do
      let last ← walk? dotted act path .header last
      return members.set key (.tables last)
    | some (.leaf _) => none

/-- The members after an assignment to a dotted key, given as a path and a last key. The key must
be new, and a table that the path names must be one of dotted keys. -/
def assign? (members : Members) (path : List Key) (key : Key) (value : Value) : Option Members :=
  walk? true (fun origin members =>
      if !path.isEmpty && origin ≠ .dotted then none
      else if (members.get? key).isSome then none
      else some (members.set key (.leaf value)))
    path .header members

/-- The members after the header of a table. The table must be new, or have been named only on the
way to another. -/
def openTable? (members : Members) (path : List Key) (key : Key) : Option Members :=
  walk? false (fun _ members =>
      match members.get? key with
      | none => some (members.set key (.table .header []))
      | some (.table .path inner) => some (members.set key (.table .header inner))
      | _ => none)
    path .header members

/-- The members after the header of one more element of an array of tables. -/
def openElement? (members : Members) (path : List Key) (key : Key) : Option Members :=
  walk? false (fun _ members =>
      match members.get? key with
      | none => some (members.set key (.tables []))
      | some (.tables _) => some (members.set key (.tables []))
      | _ => none)
    path .header members

end Members

/-! ## Keys -/

/-- Whether a character may be part of a key without quotes. -/
def isBareKeyChar (c : Char) : Bool :=
  c.isAlphanum || c = '_' || c = '-'

/-- A single key, and the text after it. -/
def simpleKey? (text : List Char) : Option (Key × List Char) :=
  match text.takeWhile isBareKeyChar with
  | [] => lineString? text
  | key => some (key, text.dropWhile isBareKeyChar)

/-- The number of parts that a dotted key may have. -/
def maxKeyParts : Nat := 80

/-- A dotted key of at most so many parts as a path and a last key, and the text after it and the
blanks that follow. -/
def keyParts? (limit : Nat) (text : List Char) : Option ((List Key × Key) × List Char) :=
  match limit with
  | 0 => none
  | limit + 1 => do
    let (key, text) ← simpleKey? text
    match skipBlanks text with
    | '.' :: text =>
      let ((path, last), text) ← keyParts? limit (skipBlanks text)
      return ((key :: path, last), text)
    | text => return (([], key), text)

/-- A dotted key as a path and a last key, and the text after it and the blanks that follow. -/
def dottedKey? (text : List Char) : Option ((List Key × Key) × List Char) :=
  keyParts? maxKeyParts text

/-! ## Values -/

/-- The number of arrays and inline tables that may lie in each other. -/
def maxDepth : Nat := 80

mutual

/-- A value, and the text after it. -/
def value? (fuel depth : Nat) (text : List Char) : Option (Value × List Char) :=
  match fuel with
  | 0 => none
  | fuel + 1 =>
    match text with
    | '[' :: rest =>
      if depth = 0 then none else (items? fuel (depth - 1) rest).map (.array, ·)
    | '\x7b' :: rest =>
      if depth = 0 then none else (members? fuel (depth - 1) [] rest).map (.table, ·)
    | '"' :: _ | '\x27' :: _ => (string? text).map fun (_, rest) => (.string, rest)
    | text => scalar? text

/-- The text after the remaining items of an array. -/
def items? (fuel depth : Nat) (text : List Char) : Option (List Char) :=
  match fuel with
  | 0 => none
  | fuel + 1 =>
    match skipSpace false text with
    | ']' :: rest => some rest
    | text => do
      let (_, text) ← value? fuel depth text
      match skipSpace false text with
      | ',' :: rest => items? fuel depth rest
      | ']' :: rest => some rest
      | _ => none

/-- The text after the remaining members of an inline table. Line ends and comments may stand
between any two parts of a member, but not in its key. -/
def members? (fuel depth : Nat) (members : Members) (text : List Char) : Option (List Char) :=
  match fuel with
  | 0 => none
  | fuel + 1 =>
    match skipSpace false text with
    | '\x7d' :: rest => some rest
    | text => do
      let ((path, key), text) ← dottedKey? text
      let text ← match skipSpace false text with
        | '=' :: text => some (skipSpace false text)
        | _ => none
      let (value, text) ← value? fuel depth text
      let members ← members.assign? path key value
      match skipSpace false text with
      | ',' :: rest => members? fuel depth members rest
      | '\x7d' :: rest => some rest
      | _ => none

end

/-! ## Statements -/

/-- A line or lines of a document; a dotted key is a path and a last key. -/
inductive Statement where
  | assign (path : List Key) (key : Key) (value : Value)
  | header (path : List Key) (key : Key)
  | elementHeader (path : List Key) (key : Key)

/-- The dotted key of a header, and the text after it. -/
def headerKey? (text : List Char) : Option ((List Key × Key) × List Char) :=
  dottedKey? (skipBlanks text)

/-- A statement, and the text after it. -/
def statement? : List Char → Option (Statement × List Char)
  | '[' :: '[' :: text => do
    let ((path, key), text) ← headerKey? text
    match text with
    | ']' :: ']' :: text => return (.elementHeader path key, text)
    | _ => none
  | '[' :: text => do
    let ((path, key), text) ← headerKey? text
    match text with
    | ']' :: text => return (.header path key, text)
    | _ => none
  | text => do
    let ((path, key), text) ← dottedKey? text
    match text with
    | '=' :: text =>
      let (value, text) ← value? (text.length + 1) maxDepth (skipBlanks text)
      return (.assign path key value, text)
    | _ => none

/-- The statements of a text of at most `fuel` lines. -/
def statements? (fuel : Nat) (text : List Char) : Option (List Statement) :=
  match fuel with
  | 0 => none
  | fuel + 1 =>
    match skipBlanks text with
    | [] => some []
    | c :: rest => do
      if c = '#' || c = '\n' || c = '\r' then
        let text ← lineEnd? (c :: rest)
        statements? fuel text
      else
        let (statement, text) ← statement? (c :: rest)
        let text ← lineEnd? text
        let statements ← statements? fuel text
        return statement :: statements

/-! ## Documents -/

/-- The tables that were built, and the path of the one to which assignments belong. -/
structure Builder where
  root : Members
  current : List Key

namespace Builder

/-- One more statement. -/
def add? (b : Builder) : Statement → Option Builder
  | .assign path key value => do
    let assign (_ : Origin) (members : Members) := members.assign? path key value
    let root ← b.root.walk? false assign b.current .header
    return { b with root := root }
  | .header path key => do
    let root ← b.root.openTable? path key
    return ⟨root, path ++ [key]⟩
  | .elementHeader path key => do
    let root ← b.root.openElement? path key
    return ⟨root, path ++ [key]⟩

end Builder

/-- The members of the root table that a list of statements builds. -/
def build? (statements : List Statement) : Option Members := do
  let b ← statements.foldlM Builder.add? ⟨[], []⟩
  return b.root

/-- The text without a byte order mark in front. -/
def skipMark : List Char → List Char
  | '\ufeff' :: text => text
  | text => text

/-- The members of the root table of a document. -/
def parse? (text : List Char) : Option Members := do
  let statements ← statements? (text.length + 1) (skipMark text)
  build? statements

end DisplayProcessor.Toml
