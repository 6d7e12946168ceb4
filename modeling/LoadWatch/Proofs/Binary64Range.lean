/-
  Proofs/Binary64Range.lean --- where arithmetic stays among finite numbers.

  WHAT THIS FILE IS FOR.  A product or a quotient of finite numbers can be an
  infinity, and a quotient by zero is an infinity or no number at all.  Here it
  is shown that the numbers made from 64-bit integers stay clear of that.

  Magnitudes are compared with powers of two, in units: `Below` is a finite
  number with an upper bound, `Above` one with a lower bound.  Rounding moves a
  quotient by less than a factor of two either way (`roundUnits_mul_le`,
  `le_roundUnits_mul`), so a product or a quotient has the exponent that the
  exponents of its operands give, up to two.

  Main results: `Below.mul`, `Below.div`, `Above.div`, and the bounds for
  integers `below_ofInt` and `above_ofInt`.  Apart from these, rounding keeps the
  order of quotients (`roundUnits_mono`), and a quotient is not positive if what
  is divided is not (`NonPositive.div`).
-/
import LoadWatch.Binary64.Basic

set_option autoImplicit false

namespace LoadWatch.Binary64

attribute [local instance (2000)] instPowNat

/-! ## Rounding -/

/-- One step of the rounding is at most the quotient, or one unit. -/
theorem step_le (num den : Nat) : den * 2 ^ lastBit num den ≤ max num den := by
  by_cases hsmall : num / den < 2 ^ (52 : Nat)
  · have hstep : lastBit num den = 0 := by
      have hlog : (num / den).log2 ≤ 52 := by
        by_cases hzero : num / den = 0
        · simp [hzero]
        · exact Nat.le_of_lt ((Nat.log2_lt hzero).mpr hsmall)
      unfold lastBit
      omega
    rw [hstep, Nat.pow_zero, Nat.mul_one]
    exact Nat.le_max_right num den
  · have hne : num / den ≠ 0 := by
      have := Nat.two_pow_pos 52
      omega
    have hstep : 2 ^ lastBit num den ≤ num / den := by
      refine Nat.le_trans (Nat.pow_le_pow_right (by decide) (Nat.sub_le _ _)) ?_
      exact Nat.log2_self_le hne
    calc den * 2 ^ lastBit num den ≤ den * (num / den) := Nat.mul_le_mul_left den hstep
      _ ≤ num := Nat.mul_div_le num den
      _ ≤ max num den := Nat.le_max_left num den

/-- The rounded quotient is made of whole steps. -/
theorem roundUnits_mul_den (num den : Nat) : roundUnits num den * den =
    roundHalfEven num (den * 2 ^ lastBit num den) * (den * 2 ^ lastBit num den) := by
  rw [roundUnits, Nat.mul_assoc, Nat.mul_comm (2 ^ lastBit num den)]

/-- The rounded quotient is at most half a step away from the quotient. -/
theorem roundUnits_near (num : Nat) {den : Nat} (hden : 0 < den) :
    2 * num ≤ 2 * (roundUnits num den * den) + max num den ∧
      2 * (roundUnits num den * den) ≤ 2 * num + max num den := by
  have hstep := step_le num den
  have hnear := roundHalfEven_near num (Nat.mul_pos hden (Nat.two_pow_pos (lastBit num den)))
  rw [roundUnits_mul_den]
  omega

theorem roundUnits_zero (den : Nat) : roundUnits 0 den = 0 := by
  simp [roundUnits, roundHalfEven]

/-- Rounding up gives at most twice the quotient, or one unit more. -/
theorem roundUnits_mul_le (num : Nat) {den : Nat} (hden : 0 < den) :
    roundUnits num den * den ≤ 2 * num + den := by
  have := (roundUnits_near num hden).2
  omega

/-- Rounding down gives at least half of a quotient that is at least one unit. -/
theorem le_roundUnits_mul {num den : Nat} (hden : 0 < den) (h : den ≤ num) :
    num ≤ 2 * (roundUnits num den * den) := by
  have := (roundUnits_near num hden).1
  omega

/-- A quotient at most `bound` is rounded to at most four times as much. -/
theorem roundUnits_le {num den bound : Nat} (hden : 0 < den) (hbound : 0 < bound)
    (h : num ≤ den * bound) : roundUnits num den ≤ bound * 2 ^ (2 : Nat) := by
  have hround := roundUnits_mul_le num hden
  have hone : den ≤ den * bound := Nat.le_mul_of_pos_right den hbound
  have hscaled : roundUnits num den * den ≤ bound * 2 ^ (2 : Nat) * den := by
    have heq : bound * 2 ^ (2 : Nat) * den = 4 * (den * bound) := by
      rw [Nat.mul_comm (bound * 2 ^ (2 : Nat)), ← Nat.mul_assoc, Nat.mul_comm]
    omega
  exact Nat.le_of_mul_le_mul_right hscaled hden

theorem lastBit_mono {num num' : Nat} (den : Nat) (h : num ≤ num') :
    lastBit num den ≤ lastBit num' den := by
  have hdiv : num / den ≤ num' / den := Nat.div_le_div_right h
  have hlog : (num / den).log2 ≤ (num' / den).log2 := by
    by_cases hzero : num / den = 0
    · simp [hzero]
    · have hpos : 0 < num' / den := Nat.lt_of_lt_of_le (Nat.pos_of_ne_zero hzero) hdiv
      exact (Nat.le_log2 (Nat.ne_of_gt hpos)).mpr (Nat.le_trans (Nat.log2_self_le hzero) hdiv)
  exact Nat.sub_le_sub_right hlog 52

/-- From 2^52 units on, one step of the rounding is at most one part in 2^52 of the quotient. -/
theorem step_mul_le {num den : Nat} (hden : 0 < den) (h : den * 2 ^ (52 : Nat) ≤ num) :
    den * 2 ^ lastBit num den * 2 ^ (52 : Nat) ≤ num := by
  have hquotient : 2 ^ (52 : Nat) ≤ num / den := by
    rwa [Nat.le_div_iff_mul_le hden, Nat.mul_comm]
  have hne : num / den ≠ 0 := by
    have := Nat.two_pow_pos 52
    omega
  have hlog : 52 ≤ (num / den).log2 := (Nat.le_log2 hne).mpr hquotient
  calc den * 2 ^ lastBit num den * 2 ^ (52 : Nat) = den * 2 ^ (num / den).log2 := by
        rw [Nat.mul_assoc, ← Nat.pow_add, lastBit, Nat.sub_add_cancel hlog]
    _ ≤ den * (num / den) := Nat.mul_le_mul_left den (Nat.log2_self_le hne)
    _ ≤ num := Nat.mul_div_le num den

/-- From 2^52 units on, the significand has all its bits. -/
theorem le_roundHalfEven_lastBit {num den : Nat} (hden : 0 < den)
    (h : den * 2 ^ (52 : Nat) ≤ num) :
    2 ^ (52 : Nat) ≤ roundHalfEven num (den * 2 ^ lastBit num den) := by
  have hstep := step_mul_le hden h
  calc 2 ^ (52 : Nat) = roundHalfEven (2 ^ (52 : Nat) * (den * 2 ^ lastBit num den))
        (den * 2 ^ lastBit num den) :=
        (roundHalfEven_mul _ (Nat.mul_pos hden (Nat.two_pow_pos _))).symm
    _ ≤ roundHalfEven num (den * 2 ^ lastBit num den) :=
        roundHalfEven_mono _ (Nat.mul_comm .. ▸ hstep)

/-- A last bit above the smallest one belongs to a quotient of 2^52 units or more. -/
theorem le_of_lastBit_pos {num den : Nat} (h : 0 < lastBit num den) :
    0 < den ∧ den * 2 ^ (52 : Nat) ≤ num := by
  have hlog : 52 ≤ (num / den).log2 := by
    unfold lastBit at h
    omega
  have hne : num / den ≠ 0 := by
    intro hzero
    rw [hzero, Nat.log2_zero] at hlog
    omega
  have hden : 0 < den := Nat.pos_of_ne_zero fun hzero => hne (by rw [hzero, Nat.div_zero])
  have hquotient : 2 ^ (52 : Nat) ≤ num / den := (Nat.le_log2 hne).mp hlog
  rw [Nat.le_div_iff_mul_le hden, Nat.mul_comm] at hquotient
  exact ⟨hden, hquotient⟩

/-- Rounding keeps the order of quotients with the same divisor. -/
theorem roundUnits_mono {num num' : Nat} (den : Nat) (h : num ≤ num') :
    roundUnits num den ≤ roundUnits num' den := by
  rcases Nat.lt_or_eq_of_le (lastBit_mono den h) with hlt | heq
  · -- The smaller significand is at most 2^53, and the larger one has a larger last bit.
    obtain ⟨hden, hnum⟩ := le_of_lastBit_pos (Nat.zero_lt_of_lt hlt)
    calc roundUnits num den ≤ 2 ^ (53 : Nat) * 2 ^ lastBit num den :=
          Nat.mul_le_mul_right _ (roundHalfEven_lastBit_le num den)
      _ = 2 ^ (52 : Nat) * 2 ^ (lastBit num den + 1) := by
          rw [← Nat.pow_add, ← Nat.pow_add, Nat.add_comm _ 1, ← Nat.add_assoc]
      _ ≤ 2 ^ (52 : Nat) * 2 ^ lastBit num' den :=
          Nat.mul_le_mul_left _ (Nat.pow_le_pow_right Nat.two_pos hlt)
      _ ≤ roundUnits num' den :=
          Nat.mul_le_mul_right _ (le_roundHalfEven_lastBit hden hnum)
  · rw [roundUnits, roundUnits, heq]
    exact Nat.mul_le_mul_right _ (roundHalfEven_mono _ h)

/-! ## The range of the format -/

theorem two_pow_le (k n : Nat) (h : k ≤ n) : 2 ^ k ≤ 2 ^ n := Nat.pow_le_pow_right Nat.two_pos h

theorem two_pow_mul_lt (k n m : Nat) (h : n + k < m) : 2 ^ n * 2 ^ k < 2 ^ m := by
  rw [← Nat.pow_add]
  exact Nat.pow_lt_pow_right Nat.one_lt_two h

theorem two_pow_le_unitsPerOne {k : Nat} (h : k ≤ 1074) : 2 ^ k ≤ unitsPerOne := by
  rw [unitsPerOne]
  exact two_pow_le k 1074 h

theorem unitsPerOne_pos : 0 < unitsPerOne := two_pow_le_unitsPerOne (Nat.zero_le 1074)

theorem limit_pos : 0 < limit := by
  rw [limit]
  exact Nat.two_pow_pos 2098

theorem unitsPerOne_mul_lt_limit {k : Nat} (h : k < 1024) : unitsPerOne * 2 ^ k < limit := by
  have hlt : 1074 + k < 2098 := by omega
  rw [unitsPerOne, limit]
  exact two_pow_mul_lt k 1074 2098 hlt

/-! ## Bounds -/

/-- The number is neither an infinity nor no number at all. -/
def IsFinite (x : Binary64) : Prop :=
  ∃ negative units magnitude, x = .finite negative units magnitude

/-- The number is finite, and its magnitude is at most `2 ^ exponent`. -/
def Below (exponent : Nat) (x : Binary64) : Prop :=
  ∃ negative units magnitude, x = .finite negative units magnitude ∧
    units ≤ unitsPerOne * 2 ^ exponent

/-- The number is finite, and its magnitude is at least `1 / 2 ^ exponent`. -/
def Above (exponent : Nat) (x : Binary64) : Prop :=
  ∃ negative units magnitude, x = .finite negative units magnitude ∧
    unitsPerOne ≤ units * 2 ^ exponent

variable {x y : Binary64} {a b : Nat}

theorem Below.isFinite (h : x.Below a) : x.IsFinite := by
  obtain ⟨negative, units, magnitude, hx, -⟩ := h
  exact ⟨negative, units, magnitude, hx⟩

theorem Below.mono (h : x.Below a) (hle : a ≤ b) : x.Below b := by
  obtain ⟨negative, units, magnitude, hx, hunits⟩ := h
  exact ⟨negative, units, magnitude, hx,
    Nat.le_trans hunits (Nat.mul_le_mul_left unitsPerOne (two_pow_le a b hle))⟩

/-- A quotient clear of the limit is rounded to a finite number. -/
theorem below_ofRatio (negative : Bool) {num den : Nat} (hden : 0 < den)
    (h : num ≤ den * (unitsPerOne * 2 ^ a)) (hlimit : a < 1022) :
    (ofRatio negative num den).Below (a + 2) := by
  have hunits : roundUnits num den ≤ unitsPerOne * 2 ^ (a + 2) := by
    have := roundUnits_le hden (Nat.mul_pos unitsPerOne_pos (Nat.two_pow_pos a)) h
    rwa [Nat.mul_assoc, ← Nat.pow_add] at this
  have hlt : roundUnits num den < limit :=
    Nat.lt_of_le_of_lt hunits (unitsPerOne_mul_lt_limit (by omega))
  rw [ofRatio, dif_pos hlt]
  exact ⟨negative, _, _, rfl, hunits⟩

/-- A rounded quotient that is finite has the sign it is given. -/
theorem ofRatio_eq_finite {negative : Bool} {num den : Nat}
    (h : (ofRatio negative num den).IsFinite) : ∃ magnitude,
      ofRatio negative num den = .finite negative (roundUnits num den) magnitude := by
  by_cases hlt : roundUnits num den < limit
  · exact ⟨isMagnitude_roundUnits hlt, dif_pos hlt⟩
  · obtain ⟨_, _, _, heq⟩ := h
    rw [ofRatio, dif_neg hlt] at heq
    cases heq

theorem ofRatio_zero (negative : Bool) (den : Nat) : ofRatio negative 0 den = zero negative := by
  have hround := roundUnits_zero den
  rw [ofRatio, dif_pos (by rw [hround]; exact limit_pos)]
  simp only [hround, zero]

/-- A quotient of at least one unit keeps a lower bound when it is rounded. -/
theorem above_ofRatio {negative : Bool} {num den : Nat} (hden : 0 < den) (hunit : den ≤ num)
    (h : unitsPerOne * den ≤ num * 2 ^ a) (hfinite : (ofRatio negative num den).IsFinite) :
    (ofRatio negative num den).Above (a + 1) := by
  obtain ⟨magnitude, heq⟩ := ofRatio_eq_finite hfinite
  have hscaled : unitsPerOne * den ≤ roundUnits num den * 2 ^ (a + 1) * den := by
    calc unitsPerOne * den ≤ num * 2 ^ a := h
      _ ≤ 2 * (roundUnits num den * den) * 2 ^ a :=
        Nat.mul_le_mul_right _ (le_roundUnits_mul hden hunit)
      _ = roundUnits num den * 2 ^ (a + 1) * den := by
        rw [Nat.pow_succ]
        ac_rfl
  exact ⟨negative, _, magnitude, heq, Nat.le_of_mul_le_mul_right hscaled hden⟩

/-! ## Products and quotients -/

section Finite

variable {s t : Bool} {u v : Nat} {hu : IsMagnitude u} {hv : IsMagnitude v}

theorem finite_mul_finite :
    finite s u hu * finite t v hv = ofRatio (s != t) (u * v) unitsPerOne := by
  show Binary64.mul _ _ = _
  rw [Binary64.mul]

theorem finite_div_finite (hpos : 0 < v) :
    finite s u hu / finite t v hv = ofRatio (s != t) (u * unitsPerOne) v := by
  show (if v = 0 then _ else _) = _
  rw [if_neg (Nat.ne_of_gt hpos)]

theorem finite_div_zero (hzero : v = 0) :
    finite s u hu / finite t v hv = if u = 0 then .nan else .infinite (s != t) := by
  show (if v = 0 then _ else _) = _
  rw [if_pos hzero]

/-- What is divided by zero is not finite. -/
theorem pos_of_isFinite_div (h : (finite s u hu / finite t v hv).IsFinite) : 0 < v := by
  refine Nat.pos_of_ne_zero ?_
  intro hzero
  obtain ⟨_, _, _, heq⟩ := h
  rw [finite_div_zero hzero] at heq
  split at heq <;> cases heq

end Finite

/-- The product of two numbers with upper bounds has one. -/
theorem Below.mul (hx : x.Below a) (hy : y.Below b) (hlimit : a + b < 1022) :
    (x * y).Below (a + b + 2) := by
  obtain ⟨s, u, hu, rfl, hule⟩ := hx
  obtain ⟨t, v, hv, rfl, hvle⟩ := hy
  rw [finite_mul_finite]
  refine below_ofRatio _ unitsPerOne_pos ?_ hlimit
  calc u * v ≤ unitsPerOne * 2 ^ a * (unitsPerOne * 2 ^ b) := Nat.mul_le_mul hule hvle
    _ = unitsPerOne * (unitsPerOne * 2 ^ (a + b)) := by
      rw [Nat.pow_add, Nat.mul_assoc, Nat.mul_left_comm (2 ^ a)]

theorem Above.units_pos {negative : Bool} {units : Nat} {magnitude : IsMagnitude units}
    (h : (finite negative units magnitude).Above a) : 0 < units := by
  obtain ⟨_, _, _, heq, hle⟩ := h
  obtain ⟨-, rfl⟩ := Binary64.finite.inj heq
  refine Nat.pos_of_ne_zero ?_
  rintro rfl
  have := unitsPerOne_pos
  omega

/-- The quotient of a number with an upper bound and one with a lower bound has an upper bound. -/
theorem Below.div (hx : x.Below a) (hy : y.Above b) (hlimit : a + b < 1022) :
    (x / y).Below (a + b + 2) := by
  obtain ⟨s, u, hu, rfl, hule⟩ := hx
  obtain ⟨t, v, hv, rfl, hvle⟩ := id hy
  have hpos : 0 < v := hy.units_pos
  rw [finite_div_finite hpos]
  refine below_ofRatio _ hpos ?_ hlimit
  calc u * unitsPerOne ≤ unitsPerOne * 2 ^ a * (v * 2 ^ b) := Nat.mul_le_mul hule hvle
    _ = v * (unitsPerOne * 2 ^ (a + b)) := by
      rw [Nat.pow_add, Nat.mul_left_comm, Nat.mul_assoc]

/-- The product of two numbers with lower bounds has one. -/
theorem Above.mul (hx : x.Above a) (hy : y.Above b) (hfinite : (x * y).IsFinite)
    (hlimit : a + b ≤ 1074) : (x * y).Above (a + b + 1) := by
  obtain ⟨s, u, hu, rfl, hule⟩ := hx
  obtain ⟨t, v, hv, rfl, hvle⟩ := hy
  rw [finite_mul_finite] at hfinite ⊢
  have hproduct : unitsPerOne * unitsPerOne ≤ u * v * 2 ^ (a + b) := by
    calc unitsPerOne * unitsPerOne ≤ u * 2 ^ a * (v * 2 ^ b) := Nat.mul_le_mul hule hvle
      _ = u * v * 2 ^ (a + b) := by
        rw [Nat.pow_add, Nat.mul_mul_mul_comm]
  refine above_ofRatio unitsPerOne_pos ?_ hproduct hfinite
  have hscaled : unitsPerOne * 2 ^ (a + b) ≤ u * v * 2 ^ (a + b) :=
    Nat.le_trans (Nat.mul_le_mul_left unitsPerOne (two_pow_le_unitsPerOne hlimit)) hproduct
  exact Nat.le_of_mul_le_mul_right hscaled (Nat.two_pow_pos (a + b))

/-- The quotient of a number with a lower bound and one with an upper bound has a lower bound. -/
theorem Above.div (hx : x.Above a) (hy : y.Below b) (hfinite : (x / y).IsFinite)
    (hlimit : a + b ≤ 1074) : (x / y).Above (a + b + 1) := by
  obtain ⟨s, u, hu, rfl, hule⟩ := hx
  obtain ⟨t, v, hv, rfl, hvle⟩ := hy
  have hpos : 0 < v := pos_of_isFinite_div hfinite
  rw [finite_div_finite hpos] at hfinite ⊢
  refine above_ofRatio hpos ?_ ?_ hfinite
  · have hpow : 2 ^ b ≤ u := by
      have hsum : 2 ^ b * 2 ^ a ≤ u * 2 ^ a := by
        rw [← Nat.pow_add, Nat.add_comm]
        exact Nat.le_trans (two_pow_le_unitsPerOne hlimit) hule
      exact Nat.le_of_mul_le_mul_right hsum (Nat.two_pow_pos a)
    calc v ≤ unitsPerOne * 2 ^ b := hvle
      _ ≤ unitsPerOne * u := Nat.mul_le_mul_left unitsPerOne hpow
      _ = u * unitsPerOne := Nat.mul_comm _ _
  · calc unitsPerOne * v ≤ u * 2 ^ a * (unitsPerOne * 2 ^ b) := Nat.mul_le_mul hule hvle
      _ = u * unitsPerOne * 2 ^ (a + b) := by
        rw [Nat.pow_add, Nat.mul_mul_mul_comm]

/-! ## Integers -/

theorem ofInt_natCast (n : Nat) : ofInt n = ofNat n := by
  have hsign : decide ((n : Int) < 0) = false := decide_eq_false (by omega)
  rw [ofInt, ofNat, Int.natAbs_natCast, hsign]

theorem ofInt_zero : ofInt 0 = zero false := by
  rw [ofInt, Int.natAbs_zero, Nat.zero_mul]
  exact ofRatio_zero false 1

/-- Integers have upper bounds, zero among them. -/
theorem below_ofInt {n : Int} (h : n.natAbs ≤ 2 ^ a) (hlimit : a < 1022) :
    (ofInt n).Below (a + 2) := by
  refine below_ofRatio _ Nat.one_pos ?_ hlimit
  rw [Nat.one_mul, Nat.mul_comm]
  exact Nat.mul_le_mul_left unitsPerOne h

/-- Integers other than zero have lower bounds. -/
theorem above_ofInt {n : Int} (hne : n ≠ 0) (hfinite : (ofInt n).IsFinite) :
    (ofInt n).Above 1 := by
  have hpos : 1 ≤ n.natAbs := Int.natAbs_pos.mpr hne
  have hle : unitsPerOne ≤ n.natAbs * unitsPerOne := Nat.le_mul_of_pos_left unitsPerOne hpos
  refine above_ofRatio Nat.one_pos (Nat.le_trans unitsPerOne_pos hle) ?_ hfinite
  rwa [Nat.mul_one, Nat.pow_zero, Nat.mul_one]

/-- Integers of 64 bits have an upper bound. -/
theorem below_ofInt_of_fits {n : Int} (h : FitsInt64 n) : (ofInt n).Below 65 := by
  refine below_ofInt (a := 63) ?_ (by decide)
  unfold FitsInt64 minInt64 maxInt64 at h
  omega

theorem above_ofInt_of_fits {n : Int} (h : FitsInt64 n) (hne : n ≠ 0) : (ofInt n).Above 1 :=
  above_ofInt hne (below_ofInt_of_fits h).isFinite

theorem below_ofNat {n : Nat} (h : n ≤ 2 ^ a) (hlimit : a < 1022) : (ofNat n).Below (a + 2) := by
  rw [← ofInt_natCast]
  exact below_ofInt h hlimit

theorem above_ofNat {n : Nat} (hne : n ≠ 0) (hfinite : (ofNat n).IsFinite) :
    (ofNat n).Above 1 := by
  rw [← ofInt_natCast] at hfinite ⊢
  exact above_ofInt (Int.natCast_ne_zero.mpr hne) hfinite

/-- Natural numbers have no sign. -/
theorem ofNat_eq_finite {n : Nat} (h : (ofNat n).IsFinite) :
    ∃ units magnitude, ofNat n = .finite false units magnitude := by
  obtain ⟨magnitude, heq⟩ := ofRatio_eq_finite h
  exact ⟨_, magnitude, heq⟩

/-- Natural numbers other than zero are positive. -/
theorem ofNat_eq_positive {n : Nat} (hne : n ≠ 0) (h : (ofNat n).IsFinite) :
    ∃ units magnitude, ofNat n = .finite false units magnitude ∧
      (finite false units magnitude).Above 1 := by
  obtain ⟨units, magnitude, heq⟩ := ofNat_eq_finite h
  exact ⟨units, magnitude, heq, heq ▸ above_ofNat hne h⟩

/-! ## Order -/

/-- The larger of two numbers with an upper bound has it as well. -/
theorem Below.larger (hx : x.Below a) (hy : y.Below a) : (x.larger y).Below a := by
  have hcases : x.larger y = x ∨ x.larger y = y := by
    unfold Binary64.larger
    split
    · exact .inr rfl
    · exact .inl rfl
    · split
      · exact .inr rfl
      · exact .inl rfl
  rcases hcases with h | h
  · rwa [h]
  · rwa [h]

/-- A number that is at least a positive number with a lower bound has it as well. -/
theorem Above.larger {v : Nat} {hv : IsMagnitude v} (hx : x.IsFinite)
    (hy : (finite false v hv).Above b) : (x.larger (finite false v hv)).Above b := by
  obtain ⟨s, u, hu, rfl⟩ := hx
  have hlarger : (finite s u hu).larger (finite false v hv) =
      if (if s then -(u : Int) else u) ≤ (v : Int) then finite false v hv else finite s u hu := rfl
  rw [hlarger]
  by_cases hxy : (if s then -(u : Int) else u) ≤ (v : Int)
  · rwa [if_pos hxy]
  · rw [if_neg hxy]
    obtain ⟨_, _, _, heq, hle⟩ := hy
    obtain ⟨-, rfl⟩ := Binary64.finite.inj heq
    have hvu : v ≤ u := by
      split at hxy <;> omega
    exact ⟨s, u, hu, rfl, Nat.le_trans hle (Nat.mul_le_mul_right _ hvu)⟩

/-- The number is on the line, and not to the right of zero. -/
def NonPositive (x : Binary64) : Prop := ∃ position, x.position? = some position ∧ position ≤ 0

theorem NonPositive.le_zero (h : x.NonPositive) : x.le (.zero false) = true := by
  obtain ⟨position, hposition, hle⟩ := h
  have hzero : (zero false).position? = some 0 := rfl
  rw [le, hposition, hzero]
  exact decide_eq_true hle

/-- A quotient without a positive part is not rounded to one. -/
theorem nonPositive_ofRatio {negative : Bool} {num den : Nat} (h : negative = true ∨ num = 0) :
    (ofRatio negative num den).NonPositive := by
  have hround : negative = true ∨ roundUnits num den = 0 := by
    refine h.imp_right ?_
    rintro rfl
    exact roundUnits_zero den
  have hlimit := limit_pos
  by_cases hlt : roundUnits num den < limit
  · rw [ofRatio, dif_pos hlt]
    refine ⟨_, rfl, ?_⟩
    rcases hround with rfl | hzero
    · rw [if_pos rfl]
      omega
    · rw [hzero]
      cases negative <;> decide
  · rw [ofRatio, dif_neg hlt]
    refine ⟨_, rfl, ?_⟩
    rcases hround with rfl | hzero
    · rw [if_pos rfl]
      omega
    · omega

theorem nonPositive_ofInt {n : Int} (h : n ≤ 0) : (ofInt n).NonPositive := by
  refine nonPositive_ofRatio ?_
  rcases Int.lt_or_eq_of_le h with hneg | rfl
  · exact .inl (decide_eq_true hneg)
  · exact .inr (by rw [Int.natAbs_zero, Nat.zero_mul])

/-- Divided by a positive number, a number stays on its side of zero. -/
theorem NonPositive.div {v : Nat} {hv : IsMagnitude v} (hx : x.NonPositive) (hpos : 0 < v) :
    (x / finite false v hv).NonPositive := by
  obtain ⟨position, hposition, hle⟩ := hx
  cases x with
  | nan => cases hposition
  | infinite negative =>
    obtain rfl := Option.some.inj hposition
    refine ⟨_, rfl, ?_⟩
    rwa [Bool.bne_false]
  | finite s u hu =>
    obtain rfl := Option.some.inj hposition
    rw [finite_div_finite hpos]
    refine nonPositive_ofRatio ?_
    cases s with
    | true => exact .inl rfl
    | false =>
      rw [if_neg Bool.false_ne_true] at hle
      have hzero : u = 0 := by omega
      rw [hzero, Nat.zero_mul]
      exact .inr rfl

end LoadWatch.Binary64
