/-
  Time/Calendar.lean --- the proleptic Gregorian calendar.

  Days are counted from 1970-01-01.  A year is taken to start on the first of
  March, so that the leap day is its last day; 400 such years are one cycle of
  146097 days.
-/

set_option autoImplicit false

namespace LoadWatch.Time

/-- A calendar date. -/
structure Date where
  year : Int
  /-- From 1 to 12. -/
  month : Nat
  /-- From 1 on. -/
  day : Nat
  deriving DecidableEq

/-- The days from the first of March of the year 0 to 1970-01-01. -/
def epochDays : Int := 719468

/-- The days of a cycle of 400 years. -/
def cycleDays : Int := 146097

/-- The year of a cycle, starting in March, that contains a day of the cycle. -/
def cycleYear (day : Nat) : Nat := (day - day / 1460 + day / 36524 - day / 146096) / 365

/-- The first day of a year of the cycle. -/
def cycleYearStart (year : Nat) : Nat := 365 * year + year / 4 - year / 100

/-- The date that lies the given number of days after 1970-01-01. -/
def Date.ofDays (days : Int) : Date :=
  let cycle := (days + epochDays) / cycleDays
  let day := ((days + epochDays) % cycleDays).toNat
  let year := cycleYear day
  let dayOfYear := day - cycleYearStart year
  let monthFromMarch := (5 * dayOfYear + 2) / 153
  let month := if monthFromMarch < 10 then monthFromMarch + 3 else monthFromMarch - 9
  { year := 400 * cycle + (year : Int) + (if month ≤ 2 then 1 else 0)
    month := month
    day := dayOfYear - (153 * monthFromMarch + 2) / 5 + 1 }

/-- The short English name of a month. -/
def monthName (month : Nat) : String :=
  ["Jan", "Feb", "Mar", "Apr", "May", "Jun", "Jul", "Aug", "Sep", "Oct", "Nov", "Dec"].getD
    (month - 1) ""

example : Date.ofDays 0 = ⟨1970, 1, 1⟩ := by decide

example : Date.ofDays 11016 = ⟨2000, 2, 29⟩ := by decide

example : Date.ofDays (-719529) = ⟨-1, 12, 31⟩ := by decide

end LoadWatch.Time
