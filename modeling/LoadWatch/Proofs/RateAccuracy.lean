/-
  Proofs/RateAccuracy.lean --- how far a shown rate is from the change per second.

  WHAT THIS FILE IS FOR.  A rate is the change of a counter divided by the
  seconds between two samples, cut to a whole number.  The seconds are a number
  of milliseconds divided by 1000, which most of the time has to be rounded, and
  so has the quotient.  Where the exact quotient is a whole number, the rounded
  one can be just below it, and then the number before it is shown: a counter
  that goes on by 30 per second is shown with 29 after 1.1 seconds
  (`steadyCounter_shown_low`).  Here it is said how far a rate can be off, and
  where it is not (`rate_tells`).

  One rounding is a relative error of less than one part in 2^53
  (`exists_error`), and of none at all if the quotient is a number of the format.
  With the magnitudes of numbers as rationals (`Measures`) the errors become
  factors: one of converting the milliseconds, one of each division.  Together
  they are an error of at most four parts (`abs_error_le`).

  An error that is smaller than the distance between a quotient and the next
  whole number does not change what is left after the cut (`floor_of_not_dvd`).
  That fails only if the distance is zero (`floor_of_whole`), or if the change is
  so large that its error reaches one.

  Main result: `rate_tells`.
-/
import Mathlib.Algebra.Order.Floor.Semifield
import Mathlib.Data.Rat.Floor
import Mathlib.Tactic.FieldSimp
import Mathlib.Tactic.Linarith
import Mathlib.Tactic.NormNum
import Mathlib.Tactic.Ring
import LoadWatch.Proofs.CellSafety
import LoadWatch.Proofs.ExactNumbers

set_option autoImplicit false

namespace LoadWatch

namespace Binary64

/-! ## The error of one rounding -/

section Powers

attribute [local instance (2000)] instPowNat

/-- The rounded quotient is off by less than one part in 2^53. -/
theorem roundUnits_close {num den : Nat} (hden : 0 < den) (h : den * 2 ^ (52 : Nat) ≤ num) :
    roundUnits num den * den * 2 ^ (53 : Nat) < num * 2 ^ (53 : Nat) + num ∧
      num * 2 ^ (53 : Nat) < roundUnits num den * den * 2 ^ (53 : Nat) + num := by
  have hnum : 0 < num := Nat.lt_of_lt_of_le (Nat.mul_pos hden (Nat.two_pow_pos 52)) h
  have hstep := step_mul_le hden h
  have hpos : 0 < den * 2 ^ lastBit num den := Nat.mul_pos hden (Nat.two_pow_pos _)
  rw [roundUnits_mul_den]
  rcases Nat.lt_or_eq_of_le hstep with hlt | heq
  · have hnear := roundHalfEven_near num hpos
    omega
  · -- A power of two times the step is not rounded at all.
    have hexact : roundHalfEven num (den * 2 ^ lastBit num den) = 2 ^ (52 : Nat) := by
      have hmul := roundHalfEven_mul (2 ^ (52 : Nat)) hpos
      rwa [Nat.mul_comm, heq] at hmul
    rw [hexact, Nat.mul_comm (2 ^ (52 : Nat)), heq]
    omega

end Powers

/-- The relative error of one rounding is less than this. -/
def precision : ℚ := 1 / 9007199254740992

theorem exists_error {num den : Nat} (hden : 0 < den) (h : den * 4503599627370496 ≤ num) :
    ∃ error : ℚ, |error| < precision ∧ (roundUnits num den : ℚ) = num / den * (1 + error) := by
  obtain ⟨hup, hdown⟩ := roundUnits_close hden h
  have hnum : (0 : ℚ) < num := by
    have : 0 < num := by omega
    exact_mod_cast this
  have hden' : (0 : ℚ) < den := by exact_mod_cast hden
  have hup' : (roundUnits num den * den * 9007199254740992 : ℚ) <
      num * 9007199254740992 + num := by exact_mod_cast hup
  have hdown' : (num * 9007199254740992 : ℚ) <
      roundUnits num den * den * 9007199254740992 + num := by exact_mod_cast hdown
  refine ⟨roundUnits num den * den / num - 1, ?_, ?_⟩
  · rw [div_sub_one hnum.ne', abs_div, abs_of_pos hnum, div_lt_iff₀ hnum, precision, abs_lt]
    constructor <;> linarith
  · field_simp
    ring

/-! ## Values -/

/-- The number is finite and has this sign and this magnitude. -/
def Measures (negative : Bool) (value : ℚ) (x : Binary64) : Prop :=
  ∃ units magnitude, x = .finite negative units magnitude ∧ (units : ℚ) = value * unitsPerOne

variable {x y : Binary64} {s t : Bool} {value divisor : ℚ} {n : Int}

theorem unitsPerOne_cast_pos : (0 : ℚ) < unitsPerOne := by exact_mod_cast unitsPerOne_pos

/-- Integers of 53 bits are not rounded. -/
theorem measures_ofInt_of_fitsSignificand (h : FitsSignificand n) :
    (ofInt n).Measures (decide (n < 0)) n.natAbs := by
  obtain ⟨magnitude, heq⟩ := ofInt_eq_finite h
  exact ⟨_, magnitude, heq, by push_cast; rfl⟩

theorem exists_measures_ofInt (h : FitsInt64 n) (hpos : 0 < n) :
    ∃ error, |error| < precision ∧ (ofInt n).Measures false (n * (1 + error)) := by
  obtain ⟨magnitude, heq⟩ := ofRatio_eq_finite (below_ofInt_of_fits h).isFinite
  have hlow : 1 * 4503599627370496 ≤ n.natAbs * unitsPerOne := by
    have hunits : 4503599627370496 ≤ unitsPerOne := two_pow_le_unitsPerOne (k := 52) (by decide)
    have hone : 1 ≤ n.natAbs := by omega
    exact Nat.mul_le_mul hone hunits
  obtain ⟨error, herror, hround⟩ := exists_error Nat.one_pos hlow
  refine ⟨error, herror, _, magnitude, ?_, ?_⟩
  · rw [ofInt, heq, decide_eq_false (by omega : ¬n < 0)]
  · have hcast : ((n.natAbs : ℕ) : ℚ) = n := by
      rw [← Int.cast_natCast, Int.natAbs_of_nonneg hpos.le]
    rw [hround]
    push_cast
    rw [hcast]
    ring

theorem scaled_le (hpos : 0 < divisor) (hsmall : divisor ≤ value * 2 ^ 128) :
    divisor * unitsPerOne * 4503599627370496 ≤ value * unitsPerOne * unitsPerOne := by
  have hlarge : (2 ^ 180 : ℚ) ≤ unitsPerOne := by
    exact_mod_cast two_pow_le_unitsPerOne (k := 180) (by decide)
  have hvalue : 0 < value := by
    by_contra hnot
    exact absurd hsmall (not_le.mpr (by linarith))
  -- The unit is a number too large to be looked into.
  generalize (unitsPerOne : ℚ) = unit at hlarge ⊢
  have hunit : 0 < unit := lt_of_lt_of_le (by positivity) hlarge
  calc divisor * unit * 4503599627370496
      ≤ value * 2 ^ 128 * unit * 4503599627370496 := by gcongr
    _ = value * unit * 2 ^ 180 := by ring
    _ ≤ value * unit * unit := by gcongr

/-- A quotient that is finite, and zero or not too small, is the quotient of the values up to the
error of one rounding. -/
theorem Measures.exists_div (hx : x.Measures s value) (hy : y.Measures t divisor)
    (hpos : 0 < divisor) (hsmall : value ≠ 0 → divisor ≤ value * 2 ^ 128)
    (hfinite : (x / y).IsFinite) :
    ∃ error, |error| < precision ∧ (x / y).Measures (s != t) (value / divisor * (1 + error)) := by
  obtain ⟨u, hu, rfl, hvalue⟩ := hx
  obtain ⟨v, hv, rfl, hdivisor⟩ := hy
  have hvpos : 0 < v := by
    have hcast : (0 : ℚ) < v := hdivisor ▸ mul_pos hpos unitsPerOne_cast_pos
    exact_mod_cast hcast
  rw [finite_div_finite hvpos] at hfinite ⊢
  obtain ⟨magnitude, heq⟩ := ofRatio_eq_finite hfinite
  by_cases hzero : value = 0
  · have hu_zero : u = 0 := by
      rw [hzero, zero_mul] at hvalue
      exact_mod_cast hvalue
    refine ⟨0, by rw [abs_zero, precision]; norm_num, _, magnitude, heq, ?_⟩
    rw [hu_zero, Nat.zero_mul, roundUnits_zero, hzero, Nat.cast_zero, zero_div, zero_mul, zero_mul]
  · have hlow : v * 4503599627370496 ≤ u * unitsPerOne := by
      have hscaled : (v : ℚ) * 4503599627370496 ≤ u * unitsPerOne := by
        rw [hvalue, hdivisor]
        exact scaled_le hpos (hsmall hzero)
      exact_mod_cast hscaled
    obtain ⟨error, herror, hround⟩ := exists_error hvpos hlow
    refine ⟨error, herror, _, magnitude, heq, ?_⟩
    have hunit := unitsPerOne_cast_pos
    rw [hround, hdivisor, Nat.cast_mul, hvalue, mul_div_mul_right _ _ hunit.ne']
    ring

/-- The integer part of a number below 2^63 is that of its magnitude, with its sign. -/
theorem Measures.toInt64_eq (h : x.Measures s value) (hvalue : value < 9223372036854775808) :
    x.toInt64 = if s then -(⌊value⌋₊ : Int) else ⌊value⌋₊ := by
  obtain ⟨units, magnitude, rfl, hunits⟩ := h
  have hfloor : ⌊value⌋₊ = units / unitsPerOne := by
    rw [eq_div_of_mul_eq unitsPerOne_cast_pos.ne' hunits.symm, Nat.floor_div_eq_div]
  have hlt : ⌊value⌋₊ < 9223372036854775808 := (Nat.floor_lt' (by decide)).mpr hvalue
  rw [toInt64, ← hfloor]
  refine clampInt64_eq_self ?_ ?_
  · unfold minInt64
    split <;> omega
  · unfold maxInt64
    split <;> omega

theorem Measures.not_le_zero (h : x.Measures false value) (hpos : 0 < value) :
    x.le (zero false) = false := by
  obtain ⟨units, magnitude, rfl, hunits⟩ := h
  have hunits_pos : 0 < units := by
    have hcast : (0 : ℚ) < units := hunits ▸ mul_pos hpos unitsPerOne_cast_pos
    exact_mod_cast hcast
  exact decide_eq_false (by simp; omega)

theorem natAbs_le_of_fitsSignificand (h : FitsSignificand n) : n.natAbs ≤ 9007199254740992 := by
  unfold FitsSignificand at h
  omega

theorem FitsSignificand.of_mul {m : Int} (h : FitsSignificand (n * m)) (hpos : 0 < m) :
    FitsSignificand n := by
  have hle : n.natAbs ≤ (n * m).natAbs := by
    rw [Int.natAbs_mul]
    exact Nat.le_mul_of_pos_right _ (Int.natAbs_pos.mpr hpos.ne')
  have hbound := natAbs_le_of_fitsSignificand h
  unfold FitsSignificand
  omega

/-- An integer of 53 bits is its own integer part. -/
theorem toInt64_ofInt (h : FitsSignificand n) : (ofInt n).toInt64 = n := by
  have hbound := natAbs_le_of_fitsSignificand h
  have hvalue : (n.natAbs : ℚ) < 9223372036854775808 := by
    have : n.natAbs < 9223372036854775808 := by omega
    exact_mod_cast this
  rw [(measures_ofInt_of_fitsSignificand h).toInt64_eq hvalue, Nat.floor_natCast]
  by_cases hneg : n < 0
  · rw [decide_eq_true hneg, if_pos rfl]
    omega
  · rw [decide_eq_false hneg, if_neg Bool.false_ne_true]
    omega

/-- A whole quotient of integers of 53 bits is not rounded. -/
theorem ofInt_mul_div {m : Int} (hproduct : FitsSignificand (n * m)) (hm : FitsSignificand m)
    (hpos : 0 < m) : ofInt (n * m) / ofInt m = ofInt n := by
  have hn := hproduct.of_mul hpos
  obtain ⟨magnitude, hquotient⟩ := div_eq_finite hproduct hm hpos.ne'
  obtain ⟨_, hexact⟩ := ofInt_eq_finite hn
  have hunits : roundUnits ((n * m).natAbs * unitsPerOne) m.natAbs = n.natAbs * unitsPerOne := by
    rw [Int.natAbs_mul, Nat.mul_right_comm]
    exact roundUnits_of_isMagnitude hn.isMagnitude (Int.natAbs_pos.mpr hpos.ne')
  have hsign : (decide (n * m < 0) != decide (m < 0)) = decide (n < 0) := by
    rw [decide_eq_false hpos.not_gt, Bool.bne_false, decide_eq_decide]
    exact ⟨fun h => neg_of_mul_neg_left h hpos.le, fun h => mul_neg_of_neg_of_pos h hpos⟩
  simp only [hunits, hsign] at hquotient
  rw [hquotient, hexact]

end Binary64

/-! ## Quotients that are cut -/

/-- The quotient of an integer and a positive one up to a relative error, cut to a whole number
towards zero. -/
def cutQuotient (num den : Int) (error : ℚ) : Int :=
  num.sign * ⌊(num.natAbs / den : ℚ) * (1 + error)⌋₊

section Naturals

variable {num den quotient : Nat} {error : ℚ}

theorem abs_mul_lt_one (herror : num * |error| < 1) : -1 < num * error ∧ num * error < 1 := by
  rwa [← abs_lt, abs_mul, abs_of_nonneg (Nat.cast_nonneg num)]

/-- A small error does not bring a quotient past a whole number. -/
theorem floor_of_not_dvd (hden : 0 < den) (herror : num * |error| < 1) (h : ¬den ∣ num) :
    ⌊(num / den : ℚ) * (1 + error)⌋₊ = num / den := by
  obtain ⟨hlow, hhigh⟩ := abs_mul_lt_one herror
  have hrest : num % den ≠ 0 := fun hzero => h (Nat.dvd_of_mod_eq_zero hzero)
  have hlt := Nat.mod_lt num hden
  have hsplit := Nat.div_add_mod num den
  have hbelow : (den * (num / den : ℕ) : ℚ) + 1 ≤ num := by
    have : den * (num / den) + 1 ≤ num := by omega
    exact_mod_cast this
  have habove : (num : ℚ) + 1 ≤ den * (num / den : ℕ) + den := by
    have : num + 1 ≤ den * (num / den) + den := by omega
    exact_mod_cast this
  have hquotient : (0 : ℚ) ≤ den * (num / den : ℕ) := by positivity
  have hden' : (0 : ℚ) < den := by exact_mod_cast hden
  rw [div_mul_eq_mul_div, Nat.floor_eq_iff (div_nonneg (by linarith) hden'.le),
    le_div_iff₀ hden', div_lt_iff₀ hden']
  constructor <;> linarith

/-- It can bring a whole number below itself, and then to the one before it. -/
theorem floor_of_whole (herror : quotient * |error| < 1) :
    ⌊(quotient : ℚ) * (1 + error)⌋₊ = quotient ∨
      ⌊(quotient : ℚ) * (1 + error)⌋₊ + 1 = quotient := by
  obtain ⟨hlow, hhigh⟩ := abs_mul_lt_one herror
  have hsplit : (quotient : ℚ) * (1 + error) = quotient + quotient * error := by ring
  have hnonneg : (0 : ℚ) ≤ quotient := Nat.cast_nonneg quotient
  rw [hsplit]
  by_cases hmissing : (quotient : ℚ) * error < 0
  · obtain ⟨before, rfl⟩ : ∃ before, quotient = before + 1 := by
      refine Nat.exists_eq_add_one.mpr (Nat.pos_of_ne_zero ?_)
      rintro rfl
      simp at hmissing
    have hbefore : (0 : ℚ) ≤ before := Nat.cast_nonneg before
    refine .inr (congrArg (· + 1) ?_)
    push_cast at *
    rw [Nat.floor_eq_iff (by linarith)]
    constructor <;> linarith
  · refine .inl ?_
    rw [Nat.floor_eq_iff (by linarith)]
    constructor <;> linarith

theorem tdiv_eq_sign_mul (value : Int) (den : Nat) :
    value.tdiv den = value.sign * (value.natAbs / den : ℕ) := by
  have hnat : ∀ count : ℕ, (count : Int).tdiv den = (count : Int).sign * (count / den : ℕ) := by
    intro count
    rw [← Int.ofNat_tdiv]
    rcases Nat.eq_zero_or_pos count with rfl | hpos
    · simp
    · rw [Int.sign_natCast_of_ne_zero hpos.ne', one_mul]
  obtain ⟨count, rfl | rfl⟩ := value.eq_nat_or_neg
  · rw [Int.natAbs_natCast, hnat]
  · rw [Int.neg_tdiv, hnat, Int.sign_neg, Int.natAbs_neg, Int.natAbs_natCast, neg_mul]

end Naturals

section Integers

variable {num den n : Int} {error : ℚ}

theorem cutQuotient_of_not_dvd (hden : 0 < den) (herror : num.natAbs * |error| < 1)
    (h : ¬den ∣ num) : cutQuotient num den error = num.tdiv den := by
  obtain ⟨count, rfl⟩ := Int.eq_ofNat_of_zero_le hden.le
  have hfloor := floor_of_not_dvd (Int.natCast_pos.mp hden) herror
    (fun hdvd => h (Int.natCast_dvd.mpr hdvd))
  rw [cutQuotient, Int.cast_natCast, hfloor, tdiv_eq_sign_mul]

theorem cutQuotient_of_eq_mul (hden : 0 < den) (herror : num.natAbs * |error| < 1)
    (h : num = n * den) :
    cutQuotient num den error = n ∨ cutQuotient num den error = n - n.sign := by
  have hden' : (0 : ℚ) < den := by exact_mod_cast hden
  have habs : (num.natAbs : ℚ) = n.natAbs * den := by
    rw [h, Int.natAbs_mul, Nat.cast_mul, Nat.cast_natAbs den, abs_of_pos hden]
  have hsign : num.sign = n.sign := by
    rw [h, Int.sign_mul, Int.sign_eq_one_of_pos hden, mul_one]
  have hsmaller : (n.natAbs : ℚ) * |error| < 1 := by
    have hone : (1 : ℚ) ≤ den := by exact_mod_cast hden
    refine lt_of_le_of_lt ?_ herror
    rw [habs]
    exact mul_le_mul_of_nonneg_right (le_mul_of_one_le_right (Nat.cast_nonneg _) hone)
      (abs_nonneg error)
  rw [cutQuotient, habs, mul_div_cancel_right₀ _ hden'.ne', hsign]
  rcases floor_of_whole hsmaller with hfloor | hfloor
  · exact .inl (by rw [hfloor, Int.sign_mul_natAbs])
  · refine .inr ?_
    rw [eq_sub_iff_add_eq, ← mul_add_one, ← Int.natCast_succ, Nat.succ_eq_add_one, hfloor,
      Int.sign_mul_natAbs]

end Integers

namespace ServerStatus

open Binary64 (FitsSignificand precision Measures)

/-! ## The errors of a rate -/

/-- Two divisions and a conversion together are off by at most four errors of one rounding. -/
theorem abs_error_le {first second third : ℚ} (hfirst : |first| < precision)
    (hsecond : |second| < precision) (hthird : |third| < precision) :
    |(1 + third) / ((1 + first) * (1 + second)) - 1| ≤ 4 * precision := by
  have hproduct : |first * second| ≤ precision * precision := by
    rw [abs_mul]
    exact mul_le_mul hfirst.le hsecond.le (abs_nonneg _) ((abs_nonneg _).trans hfirst.le)
  rw [precision, abs_lt] at hfirst hsecond hthird
  rw [precision, abs_le] at hproduct
  have hpos : 0 < (1 + first) * (1 + second) := mul_pos (by linarith) (by linarith)
  rw [div_sub_one hpos.ne', abs_div, abs_of_pos hpos, div_le_iff₀ hpos, precision, abs_le]
  constructor <;> linarith

/-- Below 2^51, the error of a rate does not reach one. -/
theorem natAbs_mul_abs_lt_one {num : Int} {error : ℚ} (herror : |error| ≤ 4 * precision)
    (hlt : num.natAbs < 2 ^ 51) : num.natAbs * |error| < 1 := by
  have hcast : (num.natAbs : ℚ) < 2 ^ 51 := by exact_mod_cast hlt
  calc num.natAbs * |error| ≤ num.natAbs * (4 * precision) := by gcongr
    _ < 2 ^ 51 * (4 * precision) := by
      have hpos : 0 < 4 * precision := by norm_num [precision]
      gcongr
    _ = 1 := by norm_num [precision]

/-- A thousand times an integer of 53 bits stays below 2^63, also with the error of a rate. -/
theorem mul_one_add_lt {value error : ℚ} (hvalue : value ≤ 9007199254740992000)
    (herror : |error| ≤ 4 * precision) : value * (1 + error) < 9223372036854775808 := by
  rw [precision, abs_le] at herror
  calc value * (1 + error) ≤ 9007199254740992000 * (1 + 4 * (1 / 9007199254740992)) := by
        gcongr <;> linarith
    _ < 9223372036854775808 := by norm_num

/-- What a number measures as a quotient is cut to its integer part. -/
theorem toInt64_eq_cutQuotient {x : Binary64} {num den : Int} {error : ℚ}
    (h : x.Measures (decide (num < 0)) ((num.natAbs / den : ℚ) * (1 + error)))
    (hvalue : (num.natAbs / den : ℚ) * (1 + error) < 9223372036854775808) :
    x.toInt64 = cutQuotient num den error := by
  rw [h.toInt64_eq hvalue, cutQuotient]
  rcases lt_trichotomy num 0 with hneg | rfl | hpos
  · simp [hneg, Int.sign_eq_neg_one_of_neg hneg]
  · simp
  · simp [hpos.not_gt, Int.sign_eq_one_of_pos hpos]

theorem le_natAbs_mul {change : Int} {divisor : ℚ} (hdivisor : divisor ≤ 2 ^ 128)
    (hne : (change.natAbs : ℚ) ≠ 0) : divisor ≤ change.natAbs * 2 ^ 128 := by
  have hone : (1 : ℚ) ≤ change.natAbs := by
    exact_mod_cast Nat.one_le_iff_ne_zero.mpr (by exact_mod_cast hne)
  exact hdivisor.trans (le_mul_of_one_le_left (by positivity) hone)

section Rates

variable {now before : Int} {current previous : Sample} {seconds : Binary64} {value : ℚ}

theorem rate_eq_toInt64 (hchange : FitsInt64 (now - before))
    (hseconds : seconds.Measures false value) (hpos : 0 < value) :
    rate now before seconds = (Binary64.ofInt (now - before) / seconds).toInt64 := by
  rw [rate, hseconds.not_le_zero hpos, if_neg Bool.false_ne_true, change_eq_sub hchange]

theorem measures_thousand : (Binary64.ofNat 1000).Measures false 1000 := by
  have hexact : FitsSignificand (1000 : Nat) := by decide
  have hmeasures := Binary64.measures_ofInt_of_fitsSignificand hexact
  rw [Binary64.ofInt_natCast, Int.natAbs_natCast] at hmeasures
  exact_mod_cast hmeasures

/-- The seconds between two samples are off by the errors of a conversion and of a division. -/
theorem exists_measures_sampleSeconds (hpos : 0 < (current.time.since previous.time).millis)
    (hmillis : FitsInt64 (current.time.since previous.time).millis) :
    ∃ first second, |first| < precision ∧ |second| < precision ∧
      (sampleSeconds current previous).Measures false
        ((current.time.since previous.time).millis * (1 + first) / 1000 * (1 + second)) := by
  have hfinite := isFinite_sampleSeconds hmillis
  rw [sampleSeconds] at hfinite ⊢
  generalize (current.time.since previous.time).millis = millis at *
  obtain ⟨first, hfirst, hmeasure⟩ := Binary64.exists_measures_ofInt hmillis hpos
  have hsmall : (millis : ℚ) * (1 + first) ≠ 0 → 1000 ≤ millis * (1 + first) * 2 ^ 128 := by
    intro _
    have hone : (1 : ℚ) ≤ millis := by exact_mod_cast hpos
    have hlow : 1 / 2 ≤ 1 + first := by
      rw [precision, abs_lt] at hfirst
      linarith
    calc (1000 : ℚ) ≤ 1 * (1 / 2) * 2 ^ 128 := by norm_num
      _ ≤ millis * (1 + first) * 2 ^ 128 := by gcongr
  obtain ⟨second, hsecond, hseconds⟩ :=
    hmeasure.exists_div measures_thousand (by norm_num) hsmall hfinite
  exact ⟨first, second, hfirst, hsecond, hseconds⟩

/-- The seconds are positive, and not too large to be a divisor. -/
theorem seconds_bounds {millis : Int} (hpos : 0 < millis) (hmillis : FitsInt64 millis)
    {first second : ℚ} (hfirst : |first| < precision) (hsecond : |second| < precision) :
    0 < millis * (1 + first) / 1000 * (1 + second) ∧
      millis * (1 + first) / 1000 * (1 + second) ≤ 2 ^ 128 := by
  have hone : (1 : ℚ) ≤ millis := by exact_mod_cast hpos
  have hbound : (millis : ℚ) ≤ 9223372036854775807 := by exact_mod_cast hmillis.2
  rw [precision, abs_lt] at hfirst hsecond
  have hfirst_pos : 0 < 1 + first := by linarith
  have hsecond_pos : 0 < 1 + second := by linarith
  refine ⟨by positivity, ?_⟩
  calc millis * (1 + first) / 1000 * (1 + second)
      ≤ 9223372036854775807 * 2 / 1000 * 2 := by
        gcongr <;> linarith
    _ ≤ 2 ^ 128 := by norm_num

/-- A rate is the change per second up to a relative error of four roundings. -/
theorem exists_rate_eq (hchange : FitsSignificand (now - before))
    (hpos : 0 < (current.time.since previous.time).millis)
    (hmillis : FitsInt64 (current.time.since previous.time).millis) :
    ∃ error, |error| ≤ 4 * precision ∧ rate now before (sampleSeconds current previous) =
      cutQuotient ((now - before) * 1000) (current.time.since previous.time).millis error := by
  obtain ⟨first, second, hfirst, hsecond, hseconds⟩ := exists_measures_sampleSeconds hpos hmillis
  obtain ⟨hseconds_pos, hseconds_le⟩ := seconds_bounds hpos hmillis hfirst hsecond
  have hmeasures := Binary64.measures_ofInt_of_fitsSignificand hchange
  have hfinite := isFinite_rate hpos hmillis hchange.fitsInt64
  rw [rate_eq_toInt64 hchange.fitsInt64 hseconds hseconds_pos]
  generalize (current.time.since previous.time).millis = millis at *
  generalize now - before = change at *
  obtain ⟨third, hthird, hquotient⟩ :=
    hmeasures.exists_div hseconds hseconds_pos (le_natAbs_mul hseconds_le) hfinite
  have herror := abs_error_le hfirst hsecond hthird
  have hcast : ((change * 1000).natAbs : ℚ) = change.natAbs * 1000 := by
    rw [Int.natAbs_mul]
    push_cast
    rfl
  refine ⟨_, herror, toInt64_eq_cutQuotient ?_ ?_⟩
  · have hsign : decide (change * 1000 < 0) = (decide (change < 0) != false) := by
      rw [Bool.bne_false, decide_eq_decide]
      omega
    have hvalue : (change.natAbs * 1000 / millis : ℚ) *
        (1 + ((1 + third) / ((1 + first) * (1 + second)) - 1)) =
          change.natAbs / (millis * (1 + first) / 1000 * (1 + second)) * (1 + third) := by
      field_simp
      ring
    rw [hsign, hcast, hvalue]
    exact hquotient
  · have hlarge : (change.natAbs : ℚ) ≤ 9007199254740992 := by
      exact_mod_cast Binary64.natAbs_le_of_fitsSignificand hchange
    have hone : (1 : ℚ) ≤ millis := by exact_mod_cast hpos
    refine mul_one_add_lt ((div_le_self (Nat.cast_nonneg _) hone).trans ?_) herror
    rw [hcast]
    linarith

/-- The seconds between two samples are not rounded if they are whole. -/
theorem sampleSeconds_of_whole {count : Int}
    (hmillis : (current.time.since previous.time).millis = count * 1000)
    (hfits : FitsSignificand (current.time.since previous.time).millis) :
    sampleSeconds current previous = .ofInt count := by
  rw [hmillis] at hfits
  rw [sampleSeconds, hmillis, ← Binary64.ofInt_natCast, Nat.cast_ofNat]
  exact Binary64.ofInt_mul_div hfits (by decide) (by decide)

/-- A quotient of integers of 53 bits, which is rounded only once, is cut like the exact one. -/
theorem toInt64_div {change count : Int} (hchange : FitsSignificand change)
    (hcount : FitsSignificand count) (hpos : 0 < count) :
    (Binary64.ofInt change / .ofInt count).toInt64 = change.tdiv count := by
  by_cases hdvd : count ∣ change
  · obtain ⟨quotient, rfl⟩ := hdvd
    rw [mul_comm] at hchange ⊢
    rw [Binary64.ofInt_mul_div hchange hcount hpos,
      Binary64.toInt64_ofInt (hchange.of_mul hpos), Int.mul_tdiv_cancel _ hpos.ne']
  · have hnumerator := Binary64.measures_ofInt_of_fitsSignificand hchange
    have hdenominator := Binary64.measures_ofInt_of_fitsSignificand hcount
    have hfinite := Binary64.isFinite_div hchange.fitsInt64 hcount.fitsInt64 hpos.ne'
    have hcast : ((count.natAbs : ℕ) : ℚ) = count := by
      rw [Nat.cast_natAbs, abs_of_pos hpos]
    rw [decide_eq_false hpos.not_gt, hcast] at hdenominator
    have hone : (1 : ℚ) ≤ count := by exact_mod_cast hpos
    have hlarge : (change.natAbs : ℚ) ≤ 9007199254740992 := by
      exact_mod_cast Binary64.natAbs_le_of_fitsSignificand hchange
    have hbound : (count : ℚ) ≤ 2 ^ 128 := by
      have hle : (count : ℚ) ≤ 9007199254740992 := by exact_mod_cast hcount.2
      exact hle.trans (by norm_num)
    obtain ⟨error, herror, hquotient⟩ :=
      hnumerator.exists_div hdenominator (by linarith) (le_natAbs_mul hbound) hfinite
    rw [Bool.bne_false] at hquotient
    have hmissing : change.natAbs * |error| < 1 := by
      calc change.natAbs * |error| ≤ 9007199254740992 * |error| := by gcongr
        _ < 9007199254740992 * precision := by gcongr
        _ = 1 := by norm_num [precision]
    have hvalue : (change.natAbs / count : ℚ) * (1 + error) < 9223372036854775808 := by
      refine mul_one_add_lt ((div_le_self (Nat.cast_nonneg _) hone).trans ?_) ?_
      · linarith
      · rw [precision] at herror ⊢
        linarith
    rw [toInt64_eq_cutQuotient hquotient hvalue, cutQuotient_of_not_dvd hpos hmissing hdvd]

theorem rate_of_whole_seconds (hchange : FitsSignificand (now - before)) {count : Int}
    (hpos : 0 < count) (hmillis : (current.time.since previous.time).millis = count * 1000)
    (hfits : FitsSignificand (current.time.since previous.time).millis) :
    rate now before (sampleSeconds current previous) = (now - before).tdiv count := by
  have hcount : FitsSignificand count := (hmillis ▸ hfits).of_mul (by decide)
  have hmeasures := Binary64.measures_ofInt_of_fitsSignificand hcount
  rw [decide_eq_false hpos.not_gt] at hmeasures
  have hcast : (0 : ℚ) < count.natAbs := by exact_mod_cast Int.natAbs_pos.mpr hpos.ne'
  rw [sampleSeconds_of_whole hmillis hfits, rate_eq_toInt64 hchange.fitsInt64 hmeasures hcast,
    toInt64_div hchange hcount hpos]

end Rates

/-- What is shown as the change of a counter per second. -/
structure TellsRate (change millis shown : Int) : Prop where
  /-- Nothing happens while no time passes or the clock runs backwards. -/
  stopped : millis ≤ 0 → shown = 0
  /-- Otherwise it is the exact quotient, up to a relative error of one part in 2^51, cut to a
  whole number towards zero. -/
  near : 0 < millis → ∃ error : ℚ, |error| ≤ 1 / 2 ^ 51 ∧
    shown = cutQuotient (change * 1000) millis error
  /-- A quotient between two whole numbers is cut like the exact one. -/
  between : 0 < millis → (change * 1000).natAbs < 2 ^ 51 → ¬millis ∣ change * 1000 →
    shown = (change * 1000).tdiv millis
  /-- For a whole number the number itself is shown, or the one before it. -/
  whole : 0 < millis → (change * 1000).natAbs < 2 ^ 51 → ∀ n, change * 1000 = n * millis →
    shown = n ∨ shown = n - n.sign
  /-- If whole seconds have passed, nothing is lost at all. -/
  seconds : 0 < millis → FitsSignificand millis → 1000 ∣ millis →
    shown = (change * 1000).tdiv millis

/-- A rate is told by the change of the counter and by the time that has passed. -/
theorem rate_tells {now before : Int} {current previous : Sample}
    (hchange : FitsSignificand (now - before))
    (hmillis : FitsInt64 (current.time.since previous.time).millis) :
    TellsRate (now - before) (current.time.since previous.time).millis
      (rate now before (sampleSeconds current previous)) := by
  constructor
  · exact rate_of_no_time
  · intro hpos
    have hprecision : 1 / 2 ^ 51 = 4 * precision := by norm_num [precision]
    rw [hprecision]
    exact exists_rate_eq hchange hpos hmillis
  · intro hpos hlt hdvd
    obtain ⟨error, herror, heq⟩ := exists_rate_eq hchange hpos hmillis
    rw [heq, cutQuotient_of_not_dvd hpos (natAbs_mul_abs_lt_one herror hlt) hdvd]
  · intro hpos hlt n hn
    obtain ⟨error, herror, heq⟩ := exists_rate_eq hchange hpos hmillis
    rw [heq]
    exact cutQuotient_of_eq_mul hpos (natAbs_mul_abs_lt_one herror hlt) hn
  · intro hpos hfits hdvd
    obtain ⟨count, hcount⟩ := hdvd
    rw [mul_comm] at hcount
    have hcount_pos : 0 < count := by omega
    rw [rate_of_whole_seconds hchange hcount_pos hcount hfits, hcount,
      Int.mul_tdiv_mul_of_pos_left _ _ (by decide)]

/-- A sample with one counter outside of the declared members. -/
def countingSample (nanos n : Int) : Sample where
  time := ⟨nanos, 0⟩
  cores := 0
  status := { host := "db-1" }
  reply := .object [("host", .string "db-1"), ("n", .ofInt n)]

/-- A counter that goes on by 30 per second is shown as slower than that after 1.1 seconds. -/
theorem steadyCounter_shown_low :
    (33 - 0) * 1000 = 30 * ((countingSample 1100000000 33).time.since
      (countingSample 0 0).time).millis ∧
    rate 33 0 (sampleSeconds (countingSample 1100000000 33) (countingSample 0 0)) = 29 ∧
    pathCell "n.rate()" (countingSample 1100000000 33) (countingSample 0 0) = "29" :=
  ⟨by decide, by decide +kernel, by decide +kernel⟩

/-- The number before 30 is one of the two that can be shown. -/
theorem steadyCounter_told :
    FitsSignificand (33 - 0) ∧
    FitsInt64 ((countingSample 1100000000 33).time.since (countingSample 0 0).time).millis ∧
    TellsRate (33 - 0)
      ((countingSample 1100000000 33).time.since (countingSample 0 0).time).millis
      (rate 33 0 (sampleSeconds (countingSample 1100000000 33) (countingSample 0 0))) := by
  have hchange : FitsSignificand (33 - 0) := by decide
  have hmillis : FitsInt64
      ((countingSample 1100000000 33).time.since (countingSample 0 0).time).millis := by decide
  exact ⟨hchange, hmillis, rate_tells hchange hmillis⟩

end ServerStatus

end LoadWatch
