/-
  Json/Record.lean --- decoding documents into records.

  A record is decoded from an object or from an array.  The members of an object
  are visited in the order of their keys, those that the record does not declare
  are passed over, and those that are missing keep their initial value.  The
  elements of an array are the declared members in order of declaration; missing
  ones at the end keep their initial value, and there may be no more of them.
  The first member that does not decode gives the mismatch.

  Main property: members that a record does not declare have no influence
  (`decodeMembers_filter_declared`).
-/
import LoadWatch.Json.Mismatch

set_option autoImplicit false

namespace LoadWatch.Json

/-! ## Scalars and collections -/

/-- A decoder of documents. -/
abbrev Decoder (α : Type) := Value → Except Mismatch α

/-- An integer of 64 bits. No float is one, not even one with an integer value. -/
def decodeCounter : Decoder Int
  | .number (.integer n) => if n ≤ maxInt64 then .ok n else .error (.tooLarge n)
  | value => .error (.wrongType value .counter)

/-- A string. -/
def decodeText : Decoder String
  | .string text => .ok text
  | value => .error (.wrongType value .text)

/-- A boolean. -/
def decodeFlag : Decoder Bool
  | .bool b => .ok b
  | value => .error (.wrongType value .flag)

/-- Anything at all. -/
def decodeAny : Decoder Value := .ok

/-- A value that may be null. -/
def decodeOptional {α : Type} (decode : Decoder α) : Decoder (Option α)
  | .null => .ok none
  | value => (decode value).map some

/-- The elements of an array, up to the first that does not decode. -/
def decodeItems {α : Type} (decode : Decoder α) : List Value → Except Mismatch (List α)
  | [] => .ok []
  | value :: rest =>
    match decode value with
    | .ok item => (decodeItems decode rest).map (item :: ·)
    | .error mismatch => .error mismatch

/-- An array. -/
def decodeList {α : Type} (decode : Decoder α) : Decoder (List α)
  | .array items => decodeItems decode items
  | value => .error (.wrongType value .list)

/-- The members of an object under any keys, up to the first that does not decode. -/
def decodeEntries {α : Type} (decode : Decoder α) :
    List (String × Value) → Except Mismatch (List (String × α))
  | [] => .ok []
  | member :: rest =>
    match decode member.2 with
    | .ok item => (decodeEntries decode rest).map ((member.1, item) :: ·)
    | .error mismatch => .error mismatch

/-- An object with arbitrary keys, as a table. -/
def decodeTable {α : Type} (decode : Decoder α) : Decoder (Table α)
  | .object members => (decodeEntries decode members).map Table.ofPairs
  | value => .error (.wrongType value .table)

/-! ## Records -/

/-- A member that a record declares. -/
structure RecordField (σ : Type) where
  /-- The key of the member. -/
  name : String
  /-- Decodes the member and puts it into the record. -/
  decodeInto : Value → σ → Except Mismatch σ

/-- A member that is decoded and then stored. -/
def RecordField.of {σ α : Type} (name : String) (decode : Decoder α) (store : α → σ → σ) :
    RecordField σ :=
  ⟨name, fun value record => (decode value).map fun item => store item record⟩

/-- A record type: its name in messages, its initial value, and its members in order of
declaration. -/
structure Schema (σ : Type) where
  name : String
  initial : σ
  fields : List (RecordField σ)

namespace Schema

variable {σ : Type}

/-- The declared member with the given key. -/
def field? (schema : Schema σ) (name : String) : Option (RecordField σ) :=
  schema.fields.find? fun field => field.name = name

/-- The members of an object, visited in order. -/
def decodeMembers (schema : Schema σ) : List (String × Value) → σ → Except Mismatch σ
  | [], record => .ok record
  | member :: rest, record =>
    match schema.field? member.1 with
    | some field =>
      match field.decodeInto member.2 record with
      | .ok next => decodeMembers schema rest next
      | .error mismatch => .error mismatch
    | none => decodeMembers schema rest record

/-- The elements of an array as the declared members in order. The count is that of the whole
array. -/
def decodePositions (count : Nat) : List (RecordField σ) → List Value → σ → Except Mismatch σ
  | _, [], record => .ok record
  | [], _ :: _, _ => .error (.tooLong count)
  | field :: fields, value :: rest, record =>
    match field.decodeInto value record with
    | .ok next => decodePositions count fields rest next
    | .error mismatch => .error mismatch

/-- The record that a document stands for. -/
def decode (schema : Schema σ) : Decoder σ
  | .object members => schema.decodeMembers members schema.initial
  | .array items => decodePositions items.length schema.fields items schema.initial
  | value => .error (.wrongType value (.record schema.name))

/-- The schema declares a member with this key. -/
def declares (schema : Schema σ) (name : String) : Bool := (schema.field? name).isSome

/-- Members that are not declared have no influence. -/
theorem decodeMembers_filter_declared (schema : Schema σ) (members : List (String × Value))
    (record : σ) :
    schema.decodeMembers (members.filter fun member => schema.declares member.1) record =
      schema.decodeMembers members record := by
  induction members generalizing record with
  | nil => rfl
  | cons member rest ih =>
    cases hf : schema.field? member.1 with
    | none => simp [declares, hf, decodeMembers, ← ih record]
    | some field =>
      cases hd : field.decodeInto member.2 record with
      | error mismatch => simp [declares, hf, decodeMembers, hd]
      | ok next => simp [declares, hf, decodeMembers, hd, ← ih next]

end Schema

end LoadWatch.Json
