/-
  Sampling.lean --- taking a snapshot from what a server answers.

  A server answers a command with a document, with a text that may turn out not
  to be one, or not at all.  Each report asks its own command and decodes the
  answer in its own way; a text that is refused is reported in the context of
  the command.

  The contexts name the command and not the server.  A source that asks over a
  network puts the server in front, as in `(db-1:28017) command top failed`; here
  that is left out.
-/
import LoadWatch.NamespaceTop
import LoadWatch.LockUsage
import LoadWatch.OperationMetrics
import LoadWatch.Reply
import LoadWatch.ServerStatus.Decode

set_option autoImplicit false

namespace LoadWatch

/-- What a server answers. -/
inductive Answer (α : Type) where
  /-- A reply that has been read. -/
  | reply (content : α)
  /-- The body of a reply. -/
  | body (text : String)
  /-- The command failed. -/
  | failed (failure : Failure)
  /-- Nothing, however long one waits. -/
  | silence

/-- The result of waiting for a sample. -/
structure Attempt (Snapshot : Type) where
  outcome : Except Failure Snapshot
  /-- Milliseconds that were spent waiting for an answer that never came. -/
  waitedMillis : Nat := 0

namespace Sampling

/-- The milliseconds that an aggregation may take. -/
def aggregationDeadline : Nat := 30000

/-- An aggregation that did not finish in time. -/
def deadlineFailure : Failure where
  context := ["$operationMetrics did not finish within 30s"]
  cause := .other "deadline has elapsed"

/-- What an answer amounts to: a text is read with `parse`, in a context if that fails, and the
content is decoded. Silence is only waited for up to the deadline of aggregations. -/
def attempt {α Snapshot : Type} (context : String) (parse : String → Except Failure α)
    (decode : α → Except DecodeFault Snapshot) : Answer α → Attempt Snapshot
  | .reply content => { outcome := (decode content).mapError Failure.ofFault }
  | .body text =>
    match parse text with
    | .ok content => { outcome := (decode content).mapError Failure.ofFault }
    | .error failure => { outcome := .error (failure.within context) }
  | .failed failure => { outcome := .error failure }
  | .silence => { outcome := .error deadlineFailure, waitedMillis := aggregationDeadline }

/-- A sample for the report on namespaces. -/
def namespaces (time : Time.Moment) (cores : Int) :
    Answer Json.Value → Attempt NamespaceTop.Snapshot :=
  attempt "command top failed" Reply.parse fun reply =>
    NamespaceTop.Snapshot.ofReply reply time cores

/-- A sample for the report on locks. -/
def locks (time : Time.Moment) : Answer Json.Value → Attempt LockUsage.Snapshot :=
  attempt "command serverStatus failed" Reply.parse fun reply =>
    LockUsage.Snapshot.ofReply reply time

/-- The cursor over documents that have been read. -/
def readCursor (documents : List Json.Value) : List OperationMetrics.CursorItem :=
  documents.map .ok

/-- A sample for the report on operation metrics. -/
def operations (time : Time.Moment) (cores : Int) :
    Answer (List OperationMetrics.CursorItem) → Attempt OperationMetrics.Snapshot :=
  attempt "aggregation $operationMetrics failed"
    (fun text => (Reply.parseCursor text).map readCursor) fun cursor =>
      OperationMetrics.Snapshot.ofCursor cursor time cores

/-- A sample for the stat line. -/
def status (time : Time.Moment) (cores : Int) :
    Answer Json.Value → Attempt ServerStatus.Sample :=
  attempt "command serverStatus failed" Reply.parse fun reply =>
    ServerStatus.Sample.ofReply reply time cores

end Sampling

end LoadWatch
