/-
  Poll/Join.lean --- waiting for the polling loops of several hosts.

  The loops run side by side and end on their own.  An ending that is an error
  is reported when it happens, while the other loops go on; the result is the
  last error.

  Main property: the loops that end well make no difference
  (`collect_filter_failures`).
-/
import LoadWatch.Poll.Run

set_option autoImplicit false

namespace LoadWatch.Poll

/-- A loop that has ended: when, and with which failure if any. -/
structure EndedLoop where
  /-- Milliseconds after the start. -/
  endedAt : Nat
  failure : Option Failure := none

/-- What is left when all loops have ended: the reports and the last failure. -/
structure Joined where
  diagnostics : String := ""
  failure : Option Failure := none

namespace Joined

/-- Takes note of the ending of one more loop. -/
def add (colour : Bool) (joined : Joined) : Option Failure → Joined
  | none => joined
  | some failure =>
    ⟨joined.diagnostics ++ errorLine colour failure, some failure⟩

/-- Takes note of endings in the order in which they happen. -/
def collect (colour : Bool) (endings : List (Option Failure)) : Joined :=
  endings.foldl (add colour) {}

/-- The loops that end well make no difference. -/
theorem collect_filter_failures (colour : Bool) (endings : List (Option Failure)) :
    collect colour (endings.filter Option.isSome) = collect colour endings := by
  unfold collect
  generalize ({} : Joined) = start
  induction endings generalizing start with
  | nil => rfl
  | cons ending rest ih =>
    cases ending with
    | none => exact ih start
    | some failure => exact ih (add colour start (some failure))

end Joined

/-- The endings in the order in which they happen. -/
def inOrder (loops : List EndedLoop) : List EndedLoop :=
  loops.mergeSort fun left right => left.endedAt ≤ right.endedAt

/-- Waits for all loops. -/
def join (colour : Bool) (loops : List EndedLoop) : Joined :=
  Joined.collect colour ((inOrder loops).map EndedLoop.failure)

end LoadWatch.Poll
