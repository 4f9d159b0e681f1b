import DisplayProcessor.Batch
import DisplayProcessor.Json.Value

/-!
# Command dumps

A recorded batch is a JSON object with the members `words` and `row_lengths`, both arrays of 32-bit
numbers. An array of these two arrays is read as well. Other members are ignored.

- `Batch.toDump`: a batch as a dump without blanks.
- `Batch.ofDump?`: the batch in a dump.
-/

namespace DisplayProcessor

namespace Batch

/-- The array of 32-bit numbers as a JSON value. -/
def numbersToJson (numbers : List UInt32) : Json.Value :=
  .array (numbers.map fun n => .ofNat n.toNat)

/-- The 32-bit numbers in a JSON array of nothing else. -/
def numbersOfJson? : Json.Value → Option (List UInt32)
  | .array items => items.mapM fun item => (item.toNatBelow? (2 ^ 32)).map UInt32.ofNat
  | _ => none

/-- A batch as a JSON value. -/
def toJson (batch : Batch) : Json.Value :=
  .ofMembers [("words", numbersToJson batch.words), ("row_lengths", numbersToJson batch.rowLengths)]

/-- A batch as a dump. -/
def toDump (batch : Batch) : String :=
  .ofList batch.toJson.compact

/-- The only value of a member, if there is exactly one with this name. -/
def uniqueMember? (members : List (List Char × Json.Value)) (name : String) : Option Json.Value :=
  match members.filter fun member => member.1 == name.toList with
  | [(_, value)] => some value
  | _ => none

/-- The batch that a JSON value describes. Every name of a member must be a proper text. -/
def ofJson? : Json.Value → Option Batch
  | .array [words, rowLengths] => do
    return ⟨← numbersOfJson? words, ← numbersOfJson? rowLengths⟩
  | .object members => do
    let members ← members.mapM fun (units, value) => (Json.decodeUnits? units).map (·, value)
    let words ← uniqueMember? members "words"
    let rowLengths ← uniqueMember? members "row_lengths"
    return ⟨← numbersOfJson? words, ← numbersOfJson? rowLengths⟩
  | _ => none

/-- The batch in a dump. -/
def ofDump? (text : String) : Option Batch := do
  let value ← Json.parse? text.toList
  ofJson? value

end Batch

end DisplayProcessor
