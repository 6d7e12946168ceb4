/-
  Time/Moment.lean --- points in time and how they are shown.

  A moment is an instant, counted in nanoseconds, together with the offset of
  the local clock from universal time.  The offset changes only how the moment
  is shown.  The text of a moment is that of RFC 3339; the offset is rounded to
  minutes there, and `Z` stands for an offset of zero.

  Main property: the offset has no influence on the time between two moments
  (`since_withOffset`).
-/
import LoadWatch.Int64Range
import LoadWatch.Time.Calendar

set_option autoImplicit false

namespace LoadWatch.Time

/-- An instant and the offset of the clock that shows it. -/
structure Moment where
  /-- Nanoseconds since 1970-01-01T00:00:00Z. -/
  nanos : Int
  /-- Seconds that the clock is ahead of universal time. -/
  offset : Int
  deriving DecidableEq

/-- A length of time. -/
structure Span where
  nanos : Int
  deriving DecidableEq

/-- The nanoseconds of a second. -/
def nanosPerSecond : Nat := 1000000000

namespace Span

/-- Whole milliseconds, towards zero. -/
def millis (span : Span) : Int := span.nanos.tdiv 1000000

/-- Whole microseconds, towards zero; none if 64 bits do not hold them. -/
def micros? (span : Span) : Option Int :=
  let micros := span.nanos.tdiv 1000
  if minInt64 ≤ micros ∧ micros ≤ maxInt64 then some micros else none

end Span

namespace Moment

/-- The moment a number of seconds and nanoseconds after 1970-01-01T00:00:00Z. -/
def ofParts (seconds nanos offset : Int) : Moment := ⟨seconds * nanosPerSecond + nanos, offset⟩

/-- The same instant on a clock with another offset. -/
def withOffset (moment : Moment) (offset : Int) : Moment := { moment with offset }

/-- The time that has passed since an earlier moment, negative if it is a later one. -/
def since (later earlier : Moment) : Span := ⟨later.nanos - earlier.nanos⟩

/-- The offsets of the clocks have no influence on the time between two moments. -/
theorem since_withOffset (later earlier : Moment) (left right : Int) :
    (later.withOffset left).since (earlier.withOffset right) = later.since earlier := rfl

/-! ## The parts that are shown -/

/-- Whole seconds on the local clock since its 1970-01-01T00:00:00. -/
def localSeconds (moment : Moment) : Int := moment.nanos / nanosPerSecond + moment.offset

/-- Nanoseconds since the last whole second. -/
def nanosOfSecond (moment : Moment) : Nat := (moment.nanos % nanosPerSecond).toNat

/-- The local date. -/
def date (moment : Moment) : Date := .ofDays (moment.localSeconds / 86400)

/-- The local seconds since midnight. -/
def secondOfDay (moment : Moment) : Nat := (moment.localSeconds % 86400).toNat

/-- A number with leading zeros up to a width. -/
def zeroPadded (width n : Nat) : String :=
  let digits := toString n
  "".pushn '0' (width - digits.length) ++ digits

/-- A year: four digits, and a sign outside the years 0 to 9999. -/
def yearText (year : Int) : String :=
  if 0 ≤ year ∧ year ≤ 9999 then zeroPadded 4 year.toNat
  else (if year < 0 then "-" else "+") ++ zeroPadded 4 year.natAbs

/-- The local date as year, month and day. -/
def dateText (moment : Moment) : String :=
  let date := moment.date
  yearText date.year ++ "-" ++ zeroPadded 2 date.month ++ "-" ++ zeroPadded 2 date.day

/-- The local time of day in hours, minutes and seconds. -/
def timeText (moment : Moment) : String :=
  let second := moment.secondOfDay
  zeroPadded 2 (second / 3600) ++ ":" ++ zeroPadded 2 (second / 60 % 60) ++ ":" ++
    zeroPadded 2 (second % 60)

/-- The offset in hours and minutes, rounded to the minute. -/
def offsetText (offset : Int) : String :=
  if offset = 0 then "Z"
  else
    let minutes := (offset.natAbs + 30) / 60
    (if offset < 0 then "-" else "+") ++ zeroPadded 2 (minutes / 60) ++ ":" ++
      zeroPadded 2 (minutes % 60)

/-- The fraction of a second with no, three, six or nine digits, as many as it needs. -/
def fractionText (nanos : Nat) : String :=
  if nanos = 0 then ""
  else if nanos % 1000000 = 0 then "." ++ zeroPadded 3 (nanos / 1000000)
  else if nanos % 1000 = 0 then "." ++ zeroPadded 6 (nanos / 1000)
  else "." ++ zeroPadded 9 nanos

/-- The moment to the second. -/
def text (moment : Moment) : String :=
  moment.dateText ++ "T" ++ moment.timeText ++ offsetText moment.offset

/-- The moment with all digits of its fraction that are needed. -/
def exactText (moment : Moment) : String :=
  moment.dateText ++ "T" ++ moment.timeText ++ fractionText moment.nanosOfSecond ++
    offsetText moment.offset

/-- The moment for readers: the name of the month, the day, and the time to the millisecond. -/
def shortText (moment : Moment) : String :=
  let date := moment.date
  let day := toString date.day
  monthName date.month ++ " " ++ "".pushn ' ' (2 - day.length) ++ day ++ " " ++
    moment.timeText ++ "." ++ zeroPadded 3 (moment.nanosOfSecond / 1000000)

end Moment

end LoadWatch.Time
