/-
  Json/Value.lean --- JSON documents.

  Numbers are integers or binary floating point numbers, and the two are kept
  apart.  The members of an object are a list of pairs; a canonical document has
  them in strictly ascending order of keys, so that equal documents are equal
  values.

  Main property: reading a member of a document made with `Value.ofMembers`
  finds the last value given for its key (`Keyed.lookup_insert` of the table
  theory).
-/
import LoadWatch.Binary64.Basic
import LoadWatch.Keyed

set_option autoImplicit false

namespace LoadWatch.Json

/-- A JSON number. -/
inductive Number where
  | integer (n : Int)
  | float (x : Binary64)
  deriving DecidableEq

/-- A JSON document. -/
inductive Value where
  | null
  | bool (b : Bool)
  | number (n : Number)
  | string (text : String)
  | array (items : List Value)
  | object (members : List (String × Value))

instance : Inhabited Value := ⟨.null⟩

namespace Number

/-- The number as a binary floating point number. -/
def toBinary64 : Number → Binary64
  | .integer n => .ofInt n
  | .float x => x

/-- A number equal to zero, in whatever spelling. -/
def isZero : Number → Bool
  | .integer n => n = 0
  | .float x => x.position? = some 0

/-- The number as a counter: an integer of 64 bits as it is, any other number by its integer
part forced into that range. -/
def toCounter : Number → Int
  | .integer n => if minInt64 ≤ n ∧ n ≤ maxInt64 then n else (Binary64.ofInt n).toInt64
  | .float x => x.toInt64

end Number

namespace Value

/-- An integer as a document. -/
def ofInt (n : Int) : Value := .number (.integer n)

/-- An object with the given members; of several members with one key the last counts. -/
def ofMembers (members : List (String × Value)) : Value := .object (Keyed.ofPairs members)

/-- The member of an object with the given key. -/
def member? (key : String) : Value → Option Value
  | .object members => Keyed.lookup key members
  | _ => none

/-- The text of a string. -/
def text? : Value → Option String
  | .string text => some text
  | _ => none

/-- The number, if the document is one. -/
def number? : Value → Option Number
  | .number n => some n
  | _ => none

/-- The document is an object. -/
def isObject : Value → Bool
  | .object _ => true
  | _ => false

/-- The document is an object or an array. -/
def isContainer : Value → Bool
  | .object _ => true
  | .array _ => true
  | _ => false

mutual

/-- The keys of every object of the document ascend strictly, and every integer fits 64 bits. -/
def Canonical : Value → Prop
  | .number (.integer n) => minInt64 ≤ n ∧ n < wordCount
  | .array items => CanonicalItems items
  | .object members => Keyed.Ascending members ∧ CanonicalMembers members
  | _ => True

/-- All documents of a list are canonical. -/
def CanonicalItems : List Value → Prop
  | [] => True
  | value :: rest => value.Canonical ∧ CanonicalItems rest

/-- The values of all members are canonical. -/
def CanonicalMembers : List (String × Value) → Prop
  | [] => True
  | member :: rest => member.2.Canonical ∧ CanonicalMembers rest

end

mutual

/-- The number of containers nested in each other. -/
def depth : Value → Nat
  | .array items => depthItems items + 1
  | .object members => depthMembers members + 1
  | _ => 0

/-- The largest depth of the documents of a list. -/
def depthItems : List Value → Nat
  | [] => 0
  | value :: rest => max value.depth (depthItems rest)

/-- The largest depth of the values of the members. -/
def depthMembers : List (String × Value) → Nat
  | [] => 0
  | member :: rest => max member.2.depth (depthMembers rest)

end

end Value

end LoadWatch.Json
