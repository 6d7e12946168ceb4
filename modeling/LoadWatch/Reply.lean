/-
  Reply.lean --- the replies of a server.

  A reply is a JSON document.  A command reply whose member `ok` is zero is an
  error of the server.  The documents of an aggregation are the elements of an
  array, or those of the first batch of a cursor.

  Main property: an array reply gives its elements, whatever they are
  (`cursorDocuments_array`).
-/
import LoadWatch.Failure
import LoadWatch.Json.Text

set_option autoImplicit false

namespace LoadWatch.Reply

open Json

/-- The reply says that the command failed: its member `ok` is a number equal to zero. -/
def isRefusal (reply : Value) : Bool :=
  match (reply.member? "ok").bind Value.number? with
  | some ok => ok.isZero
  | none => false

/-- The message of a refusal. -/
def refusalMessage (reply : Value) : String :=
  ((reply.member? "errmsg").bind Value.text?).getD "no error message"

/-- A document, if it is not a refusal. -/
def accept (reply : Value) : Except Failure Value :=
  if isRefusal reply then .error (.plain ("server reported: " ++ refusalMessage reply))
  else .ok reply

/-- The reply to a command. What a reader says about a text that is no document is not worked
out. -/
def parse (text : String) : Except Failure Value :=
  match Value.ofText? text with
  | some reply => accept reply
  | none => .error { context := ["Json deserialization error"], cause := .notJson none }

/-- The documents of the reply to an aggregation. -/
def cursorDocuments (reply : Value) : Except Failure (List Value) :=
  match reply with
  | .array documents => .ok documents
  | .object _ =>
    match (reply.member? "cursor").bind (Value.member? "firstBatch") with
    | some (.array documents) => .ok documents
    | _ => .error (.plain "aggregation reply has no cursor.firstBatch array")
  | _ => .error (.plain "aggregation reply is not a document or an array")

/-- The documents of the text that an aggregation was answered with. -/
def parseCursor (text : String) : Except Failure (List Value) :=
  match parse text with
  | .ok reply => cursorDocuments reply
  | .error failure => .error failure

/-- An array gives its elements. -/
theorem cursorDocuments_array (documents : List Value) :
    (accept (.array documents)).bind cursorDocuments = .ok documents := rfl

end LoadWatch.Reply
