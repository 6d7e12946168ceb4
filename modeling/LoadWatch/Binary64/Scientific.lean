/-
  Binary64/Scientific.lean --- numbers from a decimal significand and exponent.

  `ofScientific` is the binary number nearest to a significand times a power of
  ten.  Exponents far outside the range of the format give zero or an infinity
  at once.
-/
import LoadWatch.Binary64.Basic

set_option autoImplicit false

namespace LoadWatch.Binary64

-- Powers of natural numbers are those of `Nat`, also where other powers are in scope.
attribute [local instance (2000)] instPowNat

/-- The number nearest to `significand * 10 ^ exponent`, with the given sign. -/
def ofScientific (negative : Bool) (significand : Nat) (exponent : Int) : Binary64 :=
  if significand = 0 then zero negative
  else if 400 < exponent then .infinite negative
  else if exponent < -(400 + (significand.log2 : Int)) then zero negative
  else if 0 ≤ exponent then
    ofRatio negative (significand * 10 ^ exponent.toNat * unitsPerOne) 1
  else ofRatio negative (significand * unitsPerOne) (10 ^ (-exponent).toNat)

end LoadWatch.Binary64
