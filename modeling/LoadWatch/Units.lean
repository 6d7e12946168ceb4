/-
  Units.lean --- amounts of bytes and bits for readers.

  An amount is divided by its base, 1000 for bits and 1024 for bytes, until it
  is below the base or the largest unit is reached.  An amount that was not
  divided is shown as it is, any other one with one decimal place.
-/
import LoadWatch.Binary64.Fixed
import LoadWatch.Json.NumberText

set_option autoImplicit false

namespace LoadWatch

/-- The decimal text of an integer. -/
def decimal (n : Int) : String := String.ofList (Json.integerText n)

namespace Units

/-- Divides by the base while the magnitude is not below it, at most `shifts` times; the last
quotient and the number of divisions. -/
def shift (base : Nat) : Nat → Binary64 → Binary64 × Nat
  | 0, amount => (amount, 0)
  | shifts + 1, amount =>
    if (Binary64.ofNat base).le amount.abs then
      let (rest, count) := shift base shifts (amount / Binary64.ofNat base)
      (rest, count + 1)
    else (amount, 0)

/-- An amount with the unit that suits it. -/
def format (base : Nat) (units : List String) (amount : Int) : String :=
  let (scaled, count) := shift base (units.length - 1) (Binary64.ofInt amount)
  (if count = 0 then decimal amount else scaled.fixed 1) ++ units.getD count ""

/-- An amount of bytes as bits, in powers of 1000. -/
def bits (amount : Int) : String :=
  format 1000 ["b", "k", "m", "g", "t"] (clampInt64 (amount * 8))

/-- An amount of bytes, in powers of 1024. -/
def bytes (amount : Int) : String := format 1024 ["B", "K", "M", "G", "T"] amount

/-- An amount of megabytes in bytes. -/
def bytesOfMegabytes (amount : Int) : Int := clampInt64 (amount * 1048576)

/-- An amount of megabytes, in powers of 1024. -/
def megabytes (amount : Int) : String := bytes (bytesOfMegabytes amount)

end Units

/-- The quotient of two numbers as a percentage with the given decimal places. -/
def percentText (numerator denominator : Binary64) (places : Nat) : String :=
  (numerator / denominator * Binary64.ofNat 100).fixed places ++ "%"

end LoadWatch
