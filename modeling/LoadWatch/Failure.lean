/-
  Failure.lean --- why a sample could not be taken.

  A failure has a cause and the contexts it happened in, the outermost first.
  Its text is the whole chain, from the outermost context down to the cause.
-/
import LoadWatch.Json.Mismatch

set_option autoImplicit false

namespace LoadWatch

/-- Why a reply gives no snapshot. -/
inductive DecodeFault where
  /-- The server cannot report what is asked for. -/
  | unsupported (feature : String)
  /-- A field that must be there is missing. -/
  | missing (field : String)
  /-- The reply has an unexpected structure. -/
  | malformed (mismatch : Json.Mismatch)
  /-- The next document of a cursor could not be read. -/
  | cursor (message : String)

/-- The innermost cause of a failure. -/
inductive Cause where
  | decode (fault : DecodeFault)
  /-- A text that is no JSON document, with what its reader has to say about it. -/
  | notJson (complaint : Option String := none)
  /-- A document that is not what was expected. -/
  | mismatch (mismatch : Json.Mismatch)
  /-- Anything else. -/
  | other (message : String)

/-- A cause with the contexts it happened in, the outermost first. -/
structure Failure where
  context : List String := []
  cause : Cause

namespace DecodeFault

/-- The wording of a fault. -/
def message : DecodeFault → String
  | .unsupported feature => "server does not support reporting " ++ feature
  | .missing field => "reply has no '" ++ field ++ "' field"
  | .malformed found => "malformed reply: " ++ found.message
  | .cursor message => "failure reading from cursor: " ++ message

/-- A malformed reply names its mismatch and has it as a cause of its own. -/
def chain (fault : DecodeFault) : List String :=
  match fault with
  | .malformed found => [fault.message, found.message]
  | _ => [fault.message]

end DecodeFault

namespace Cause

/-- The wordings of a cause and of what caused it. -/
def chain : Cause → List String
  | .decode fault => fault.chain
  | .notJson complaint => complaint.toList
  | .mismatch found => [found.message]
  | .other message => [message]

end Cause

namespace Failure

/-- The wordings from the outermost context to the innermost cause. -/
def chain (failure : Failure) : List String := failure.context ++ failure.cause.chain

/-- The whole chain in one text. -/
def text (failure : Failure) : String := ": ".intercalate failure.chain

/-- The wording of the outermost context. -/
def headline (failure : Failure) : String := failure.chain.headD ""

/-- The failure in a further context. -/
def within (failure : Failure) (context : String) : Failure :=
  { failure with context := context :: failure.context }

/-- The server cannot report what is asked for, so asking again is of no use. -/
def isUnsupported (failure : Failure) : Bool :=
  match failure.cause with
  | .decode (.unsupported _) => true
  | _ => false

/-- A failure with a plain cause. -/
def plain (message : String) : Failure := { cause := .other message }

/-- A failure whose cause is a reply that does not decode. -/
def ofFault (fault : DecodeFault) : Failure := { cause := .decode fault }

end Failure

end LoadWatch
