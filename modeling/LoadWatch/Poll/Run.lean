/-
  Poll/Run.lean --- the polling loop.

  The loop takes a sample, shows the difference from the previous one, and
  sleeps.  The first sample only makes a difference possible, so a row count of
  `n` allows for `n + 1` attempts; a row count of zero sets no limit.

  A server that cannot report what is asked for ends the loop, and so does a
  failure before any sample has succeeded.  Other failures are reported, and
  the loop goes on.  A stream that refuses a write ends the loop at once.

  The loop is run on a script: the attempts that it makes, in order.
-/
import LoadWatch.Poll.Poller
import LoadWatch.Sampling

set_option autoImplicit false

namespace LoadWatch.Poll

variable {Snapshot Diff : Type}

/-! ## Settings and streams -/

/-- How a server is polled. -/
structure Settings where
  /-- The number of differences to show, zero for no limit. -/
  rowCount : Nat := 0
  sleepMillis : Nat := 0
  json : Bool := false
  /-- Where the samples come from. -/
  connection : String := ""
  /-- Errors are marked in colour. -/
  colour : Bool := false
  render : RenderOptions := {}

/-- Where the loop writes to. -/
inductive Stream where
  | out
  | diagnostics
  deriving DecidableEq

/-- A write: the number of the attempt it belongs to, counted from one, its stream and text. -/
structure Event where
  attempt : Nat
  stream : Stream
  text : String
  deriving DecidableEq

/-- When the streams refuse writes, and why. -/
structure Streams where
  refusal : Stream → Nat → Option String := fun _ _ => none

namespace Streams

/-- Streams that never refuse a write. -/
def working : Streams := {}

/-- Streams that refuse all writes from an attempt on, zero for never. -/
def failingFrom (out diagnostics : Nat) (reason : String) : Streams where
  refusal stream attempt :=
    let first := match stream with
      | .out => out
      | .diagnostics => diagnostics
    if 0 < first ∧ first ≤ attempt then some reason else none

end Streams

/-! ## Texts -/

/-- The mark in front of a reported error. -/
def errorMark (colour : Bool) : String :=
  if colour then "\x1b[31mError:\x1b[0m" else "Error:"

/-- The line that reports a failure. -/
def errorLine (colour : Bool) (failure : Failure) : String :=
  errorMark colour ++ " " ++ failure.text ++ "\n"

/-- The line that reports the first success. -/
def connectedLine (connection : String) : String := "connected to: " ++ connection ++ "\n"

/-- The text of a difference, written at once so that the output of other loops cannot come in
between. A grid is labelled with its host, if there is one to name. -/
def output (report : Report Snapshot Diff) (settings : Settings) (diff : Diff) :
    Except ArithmeticFault String :=
  if settings.json then
    (report.json settings.render diff).map fun line => line ++ "\n"
  else
    (report.grid settings.render diff).map fun grid =>
      (match settings.render.host with
        | some host => host ++ "\n"
        | none => "") ++ grid ++ "\n"

/-! ## Endings -/

/-- How a loop ended. -/
inductive Ending where
  /-- The row count was reached. -/
  | finished
  /-- The server cannot report what is asked for. -/
  | unsupported (failure : Failure)
  /-- The very first sample failed. -/
  | fatalStartup (failure : Failure)
  /-- A difference could not be computed. -/
  | fault (fault : ArithmeticFault)
  /-- A stream refused a write. -/
  | refused (reason : String)
  /-- The script has ended before the loop. -/
  | interrupted

/-- What a loop did. -/
structure Run (Snapshot : Type) where
  events : List Event
  ending : Ending
  /-- The number of attempts made. -/
  attempts : Nat
  /-- What was remembered at the end. -/
  poller : Poller Snapshot
  /-- Milliseconds spent on sleeping and on waiting for answers that never came. -/
  elapsedMillis : Nat

/-! ## One attempt -/

/-- What an attempt did: its writes, what is remembered after it, and the ending it brought. -/
structure Turn (Snapshot : Type) where
  events : List Event := []
  poller : Poller Snapshot
  ending : Option Ending := none

/-- A turn that writes, or ends because the stream refuses to. -/
def Turn.write (streams : Streams) (attempt : Nat) (stream : Stream) (text : String)
    (poller : Poller Snapshot) : Turn Snapshot :=
  match streams.refusal stream attempt with
  | some reason => { poller := poller, ending := some (.refused reason) }
  | none => { events := [⟨attempt, stream, text⟩], poller := poller }

/-- The turn of a failed attempt. -/
def failedTurn (settings : Settings) (streams : Streams) (attempt : Nat) (failure : Failure)
    (poller : Poller Snapshot) : Turn Snapshot :=
  if failure.isUnsupported then { poller := poller, ending := some (.unsupported failure) }
  else if !poller.hasData then { poller := poller, ending := some (.fatalStartup failure) }
  else .write streams attempt .diagnostics (errorLine settings.colour failure) poller

/-- Shows the difference of a successful attempt, if there is one. -/
def shownTurn (report : Report Snapshot Diff) (settings : Settings) (streams : Streams)
    (attempt : Nat) (diff : Option Diff) (poller : Poller Snapshot) : Turn Snapshot :=
  match diff with
  | none => { poller := poller }
  | some diff =>
    match output report settings diff with
    | .ok text => .write streams attempt .out text poller
    | .error fault => { poller := poller, ending := some (.fault fault) }

/-- The turn of a successful attempt. The first success is reported, unless the output is
JSON. -/
def successfulTurn (report : Report Snapshot Diff) (settings : Settings) (streams : Streams)
    (attempt : Nat) (diff : Option Diff) (poller : Poller Snapshot) : Turn Snapshot :=
  if !poller.hasData && !settings.json then
    let notice := Turn.write streams attempt .diagnostics
      (connectedLine settings.connection) poller
    match notice.ending with
    | some _ => notice
    | none =>
      let shown := shownTurn report settings streams attempt diff { poller with hasData := true }
      { shown with events := notice.events ++ shown.events }
  else shownTurn report settings streams attempt diff { poller with hasData := true }

/-- The turn of an attempt. -/
def turn (report : Report Snapshot Diff) (settings : Settings) (streams : Streams)
    (attempt : Nat) (outcome : Except Failure Snapshot) (poller : Poller Snapshot) :
    Turn Snapshot :=
  match poller.observe report outcome with
  | (.error failure, next) => failedTurn settings streams attempt failure next
  | (.ok diff, next) => successfulTurn report settings streams attempt diff next

/-! ## The loop -/

/-- The loop on the rest of a script, after the given number of attempts. -/
def runFrom (report : Report Snapshot Diff) (settings : Settings) (streams : Streams) :
    Nat → Poller Snapshot → List (Attempt Snapshot) → Run Snapshot
  | attempts, poller, script =>
    if 0 < settings.rowCount ∧ settings.rowCount < attempts then
      ⟨[], .finished, attempts, poller, 0⟩
    else
      match script with
      | [] => ⟨[], .interrupted, attempts, poller, 0⟩
      | attempt :: rest =>
        let turn := turn report settings streams (attempts + 1) attempt.outcome poller
        match turn.ending with
        | some ending => ⟨turn.events, ending, attempts + 1, turn.poller, attempt.waitedMillis⟩
        | none =>
          let run := runFrom report settings streams (attempts + 1) turn.poller rest
          { run with
            events := turn.events ++ run.events
            elapsedMillis := attempt.waitedMillis + settings.sleepMillis + run.elapsedMillis }

/-- The loop on a script, with a fresh poller. -/
def run (report : Report Snapshot Diff) (settings : Settings) (streams : Streams)
    (script : List (Attempt Snapshot)) : Run Snapshot :=
  runFrom report settings streams 0 .fresh script

namespace Ending

/-- The wording of an ending that is an error. -/
def message? : Ending → Option String
  | .finished => none
  | .interrupted => none
  | .unsupported failure => some failure.text
  | .fatalStartup failure => some failure.text
  | .fault cause => some cause.message
  | .refused reason => some ("unable to write output: " ++ reason)

end Ending

end LoadWatch.Poll
