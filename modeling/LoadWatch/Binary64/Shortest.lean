/-
  Binary64/Shortest.lean --- the fewest decimal digits that read back.

  The reals that round to a finite number form an interval around it, whose ends
  belong to it when the significand is even.  `shortest` takes the first of the
  decimal grids with one, two, up to seventeen digits that has a point in the
  interval, and on that grid the point nearest to the number, of two equally near
  ones the even one.

  All comparisons are exact, in quarters of the unit 2^-1074.
-/
import LoadWatch.Binary64.Basic

set_option autoImplicit false

namespace LoadWatch.Binary64

-- Powers of natural numbers are those of `Nat`, also where other powers are in scope.
attribute [local instance (2000)] instPowNat

/-! ## The interval of reals that round to a magnitude -/

/-- An interval of reals, its ends counted in quarters of a unit. -/
structure RoundingInterval where
  low : Nat
  high : Nat
  /-- The ends belong to the interval. -/
  closed : Bool

/-- The reals that round to a magnitude. Below a power of two the numbers lie closer
together than above it. -/
def roundingInterval (units : Nat) : RoundingInterval :=
  let step := 2 ^ (units.log2 - 52)
  let significand := units / step
  let below := if significand = 2 ^ (52 : Nat) && 1 < step then step else 2 * step
  { low := 4 * units - below
    high := 4 * units + 2 * step
    closed := significand % 2 = 0 }

/-- The real `num / den`, in quarters of a unit, lies in the interval. -/
def RoundingInterval.contains (interval : RoundingInterval) (num den : Nat) : Bool :=
  if interval.closed then interval.low * den ≤ num && num ≤ interval.high * den
  else interval.low * den < num && num < interval.high * den

/-! ## Decimal grids -/

/-- A decimal: digits times a power of ten. -/
structure Decimal where
  digits : Nat
  exponent : Int
  deriving DecidableEq

/-- The exponent of the leading decimal digit of a magnitude other than zero. -/
def leadingExponent (units : Nat) : Int :=
  ((Nat.toDigits 10 (units * 10 ^ (400 : Nat) / unitsPerOne)).length : Int) - 401

/-- The grid of the multiples of `10 ^ exponent`: its step in quarters of a unit, as a
quotient. -/
def gridStep (exponent : Int) : Nat × Nat :=
  if 0 ≤ exponent then (4 * unitsPerOne * 10 ^ exponent.toNat, 1)
  else (4 * unitsPerOne, 10 ^ (-exponent).toNat)

/-- The point of the grid of `10 ^ exponent` that reads back as the magnitude and is nearest to
it, if there is one. -/
def gridPoint? (units : Nat) (exponent : Int) : Option Nat :=
  let (num, den) := gridStep exponent
  let interval := roundingInterval units
  let value := 4 * units * den
  let lower := value / num
  let upper := lower + 1
  match interval.contains (lower * num) den, interval.contains (upper * num) den with
  | true, true =>
    let toLower := value - lower * num
    let toUpper := upper * num - value
    if toLower < toUpper then some lower
    else if toUpper < toLower then some upper
    else some (lower + lower % 2)
  | true, false => some lower
  | false, true => some upper
  | false, false => none

/-- The trailing zeros of the digits moved into the exponent; `fuel` bounds their number. -/
def dropTrailingZeros : Nat → Decimal → Decimal
  | 0, decimal => decimal
  | fuel + 1, decimal =>
    if decimal.digits ≠ 0 && decimal.digits % 10 = 0 then
      dropTrailingZeros fuel ⟨decimal.digits / 10, decimal.exponent + 1⟩
    else decimal

/-- The grids with one to seventeen digits, coarse to fine; each with the exponent of its step. -/
def grids (units : Nat) : List Int :=
  (List.range 17).map fun extra : Nat => leadingExponent units - (extra : Int)

/-- The shortest decimal that reads back as the magnitude. -/
def shortest (units : Nat) : Decimal :=
  match (grids units).findSome? fun exponent =>
      (gridPoint? units exponent).map fun digits => (⟨digits, exponent⟩ : Decimal) with
  | some decimal => dropTrailingZeros 18 decimal
  | none => ⟨0, 0⟩

end LoadWatch.Binary64
