/-
  Json/Mismatch.lean --- why a document is not what was expected.

  A mismatch names what was found and what was expected in its place.  The
  wording is in `Mismatch.message` alone.
-/
import LoadWatch.Json.NumberText
import LoadWatch.Text.Quoted

set_option autoImplicit false

namespace LoadWatch.Json

/-- What a reader of documents expects. -/
inductive Expectation where
  /-- An integer of 64 bits. -/
  | counter
  | text
  | flag
  /-- An object with arbitrary keys. -/
  | table
  | list
  /-- A record with declared members. -/
  | record (name : String)

/-- Why a document does not decode. -/
inductive Mismatch where
  /-- A document of another type. -/
  | wrongType (found : Value) (expected : Expectation)
  /-- An integer above the largest counter. -/
  | tooLarge (n : Int)
  /-- An array with more elements than the record has members. -/
  | tooLong (count : Nat)

namespace Expectation

/-- The wording of an expectation. -/
def phrase : Expectation → String
  | .counter => "i64"
  | .text => "a string"
  | .flag => "a boolean"
  | .table => "a map"
  | .list => "a sequence"
  | .record name => "struct " ++ name

end Expectation

/-- The wording of what was found. -/
def Value.phrase : Value → String
  | .null => "null"
  | .bool b => "boolean `" ++ (if b then "true" else "false") ++ "`"
  | .number (.integer n) => "integer `" ++ String.ofList (integerText n) ++ "`"
  | .number (.float x) => "floating point `" ++ String.ofList (floatText x) ++ "`"
  | .string text => "string " ++ Text.quoted text
  | .array _ => "sequence"
  | .object _ => "map"

namespace Mismatch

/-- The wording of a mismatch. -/
def message : Mismatch → String
  | .wrongType found expected =>
    "invalid type: " ++ found.phrase ++ ", expected " ++ expected.phrase
  | .tooLarge n => "invalid value: integer `" ++ String.ofList (integerText n) ++ "`, expected i64"
  | .tooLong count => "invalid length " ++ toString count ++ ", expected fewer elements in array"

end Mismatch

end LoadWatch.Json
