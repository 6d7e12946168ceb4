/-
  ServerStatus/Rate.lean --- rates, percentages and averages of counters.

  A quotient of 64-bit integers is missing for a divisor of zero, and for the
  smallest integer divided by minus one.  Averages and shares are such quotients
  behind a guard; that of an average lets the second case through.

  Main property: an average is missing exactly in that case
  (`average_eq_error_iff`).
-/
import LoadWatch.Report
import LoadWatch.ServerStatus.Basic

set_option autoImplicit false

namespace LoadWatch.ServerStatus

/-- The seconds between two samples, by whole milliseconds. -/
def sampleSeconds (current previous : Sample) : Binary64 :=
  .ofInt (current.time.since previous.time).millis / .ofNat 1000

/-- The change of a number since the previous sample, which wraps where 64 bits do not hold it. -/
def change (current previous : Int) : Int := wrapInt64 (current - previous)

/-- The change of a counter per second, towards zero; zero if no time has passed. -/
def rate (current previous : Int) (seconds : Binary64) : Int :=
  if seconds.le (.zero false) then 0
  else (Binary64.ofInt (change current previous) / seconds).toInt64

/-- A change that 64 bits hold is exact. -/
theorem change_eq_sub {current previous : Int} (h : FitsInt64 (current - previous)) :
    change current previous = current - previous := wrapInt64_eq_self h

/-- A value as a percentage of another one, zero if either is zero. -/
def percentage (value outOf : Int) : Binary64 :=
  if value = 0 ∨ outOf = 0 then .zero false
  else .ofNat 100 * (.ofInt value / .ofInt outOf)

/-- A percentage with one decimal place. -/
def percentCell (value outOf : Int) : String := (percentage value outOf).fixed 1 ++ "%"

/-- The quotient of two integers of 64 bits, towards zero. There is none for a divisor of zero,
and none if 64 bits do not hold it. -/
def quotient (value divisor : Int) : Except ArithmeticFault Int :=
  if divisor = 0 then .error .divisionByZero
  else if value = minInt64 ∧ divisor = -1 then .error .divisionOverflow
  else .ok (value.tdiv divisor)

/-- A value per unit of another one, towards zero; zero if either is zero. -/
def average (value outOf : Int) : Except ArithmeticFault Int :=
  if value = 0 ∨ outOf = 0 then .ok 0 else quotient value outOf

/-- A part of a counter, towards zero; zero if there is no such quotient. -/
def share (value parts : Int) : Int := (quotient value parts).toOption.getD 0

/-- A quotient is missing for one of two reasons, of which a divisor of zero comes first. -/
theorem quotient_eq_error_iff (value divisor : Int) (fault : ArithmeticFault) :
    quotient value divisor = .error fault ↔
      fault = .divisionByZero ∧ divisor = 0 ∨
        fault = .divisionOverflow ∧ value = minInt64 ∧ divisor = -1 := by
  unfold quotient
  split
  · rename_i hzero
    cases fault <;> simp [hzero]
  · rename_i hzero
    split
    · rename_i hleast
      cases fault <;> simp [hleast]
    · rename_i hleast
      simp [hzero, hleast]

/-- An average is missing exactly if it is minus the smallest counter. -/
theorem average_eq_error_iff (value outOf : Int) (fault : ArithmeticFault) :
    average value outOf = .error fault ↔
      fault = .divisionOverflow ∧ value = minInt64 ∧ outOf = -1 := by
  unfold average
  split
  · rename_i hguard
    refine iff_of_false nofun ?_
    rintro ⟨-, rfl, rfl⟩
    revert hguard
    decide
  · rename_i hguard
    rw [quotient_eq_error_iff, or_iff_right fun hzero => hguard (.inr hzero.2)]

end LoadWatch.ServerStatus
