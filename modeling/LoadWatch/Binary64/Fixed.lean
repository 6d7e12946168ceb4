/-
  Binary64/Fixed.lean --- numbers with a fixed count of decimal places.

  A magnitude is shown as the nearest decimal with the wanted places, a tie
  going to the even last digit; the sign is that of the number, also where only
  zeros are left.

  The digits shown are those of `scaledMagnitude`, one exact rounding of the
  scaled magnitude, so they are never further off than half a unit of the last
  place.

  Main property: a number with places shows exactly that many
  (`length_lastDigits`).
-/
import LoadWatch.Binary64.Basic

set_option autoImplicit false

namespace LoadWatch.Binary64

-- Powers of natural numbers are those of `Nat`, also where other powers are in scope.
attribute [local instance (2000)] instPowNat

/-- The magnitude in units of the last decimal place shown. -/
def scaledMagnitude (units places : Nat) : Nat :=
  roundHalfEven (units * 10 ^ places) unitsPerOne

/-- Zero has nothing to show at any place. -/
@[simp] theorem scaledMagnitude_zero (places : Nat) : scaledMagnitude 0 places = 0 := by
  simp [scaledMagnitude, roundHalfEven]

/-- The last `places` decimal digits of a number, with leading zeros. -/
def lastDigits : Nat → Nat → List Char
  | 0, _ => []
  | places + 1, n => lastDigits places (n / 10) ++ [Nat.digitChar (n % 10)]

/-- A natural number of units of the last place, as a decimal with that many places. -/
def fixedDigits (scaled places : Nat) : List Char :=
  Nat.toDigits 10 (scaled / 10 ^ places) ++
    (if places = 0 then [] else '.' :: lastDigits places scaled)

/-- The sign of a shown number. -/
def signText (negative : Bool) : List Char := if negative then ['-'] else []

/-- The number with the given count of decimal places; `NaN`, `+Inf` and `-Inf` for the numbers
that are not finite. -/
def fixed (places : Nat) : Binary64 → String
  | .nan => "NaN"
  | .infinite negative => if negative then "-Inf" else "+Inf"
  | .finite negative units _ =>
    String.ofList (signText negative ++ fixedDigits (scaledMagnitude units places) places)

@[simp] theorem length_lastDigits (places n : Nat) : (lastDigits places n).length = places := by
  induction places generalizing n with
  | zero => rfl
  | succ places ih => simp [lastDigits, ih]

theorem isDigit_of_mem_lastDigits {places n : Nat} {c : Char} (h : c ∈ lastDigits places n) :
    c.isDigit = true := by
  induction places generalizing n with
  | zero => cases h
  | succ places ih =>
    rcases List.mem_append.mp h with hfirst | hlast
    · exact ih hfirst
    · rw [List.mem_singleton.mp hlast, Nat.isDigit_digitChar]
      exact decide_eq_true (Nat.mod_lt n (by decide))

end LoadWatch.Binary64
