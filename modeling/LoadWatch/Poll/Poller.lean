/-
  Poll/Poller.lean --- comparing adjacent samples.

  A poller remembers the previous sample.  A new sample gives the difference
  from it; a failure makes the poller forget it, so that no difference spans a
  failed attempt.

  Main properties: what a poller remembers afterwards depends on the outcome
  alone (`previous_observe`), and a difference is that of the new sample from
  the remembered one (`observe_ok`).
-/
import LoadWatch.Failure
import LoadWatch.Report

set_option autoImplicit false

namespace LoadWatch.Poll

variable {Snapshot Diff : Type}

/-- What is remembered between samples. -/
structure Poller (Snapshot : Type) where
  /-- The previous sample, if it succeeded. -/
  previous : Option Snapshot := none
  /-- Some sample has succeeded. -/
  hasData : Bool := false

namespace Poller

/-- A poller that has not sampled yet. -/
def fresh : Poller Snapshot := {}

/-- Takes note of the outcome of a sample: the difference from the previous sample, if there is
one, or the failure. -/
def observe (report : Report Snapshot Diff) (poller : Poller Snapshot) :
    Except Failure Snapshot → Except Failure (Option Diff) × Poller Snapshot
  | .ok current =>
    (.ok (poller.previous.map (report.diff current)), { poller with previous := some current })
  | .error failure => (.error failure, { poller with previous := none })

/-- The outcomes of a sequence of samples. -/
def observeAll (report : Report Snapshot Diff) :
    Poller Snapshot → List (Except Failure Snapshot) →
      List (Except Failure (Option Diff) × Poller Snapshot)
  | _, [] => []
  | poller, outcome :: rest =>
    let result := poller.observe report outcome
    result :: observeAll report result.2 rest

/-- A sample that succeeds is remembered, a failure is not. -/
theorem previous_observe (report : Report Snapshot Diff) (poller : Poller Snapshot)
    (outcome : Except Failure Snapshot) :
    (poller.observe report outcome).2.previous = outcome.toOption := by
  cases outcome <;> rfl

/-- A sample that succeeds gives the difference from the remembered one. -/
theorem observe_ok (report : Report Snapshot Diff) (poller : Poller Snapshot)
    (current : Snapshot) :
    (poller.observe report (.ok current)).1 =
      .ok (poller.previous.map fun previous => report.diff current previous) := rfl

end Poller

end LoadWatch.Poll
