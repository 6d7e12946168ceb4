/-
  Proofs/ExactNumbers.lean --- what is left of integers that become numbers.

  WHAT THIS FILE IS FOR.  A number has 53 bits of significand, so an integer of
  up to 53 bits, and 2^53 itself, becomes a number without being rounded
  (`position?_ofInt`).  A quotient of two such numbers is rounded, but only its
  ratio counts (`roundUnits_congr`): equal ratios give numbers at the same place,
  whatever their terms and the signs of these are (`position?_div_eq`).

  A divisor of zero gives no quotient.  What comes out depends on the sign of
  what is divided alone (`zero_div_zero`, `div_zero_of_ne`), and all quotients by
  other integers lie between the infinities (`isFinite_div`).

  Main results: `position?_ofInt` and `position?_div_eq`.
-/
import LoadWatch.Proofs.Binary64Range

set_option autoImplicit false

namespace LoadWatch

/-- The quotient of a multiple by the same multiple is rounded alike. -/
theorem roundHalfEven_mul_right (num den : Nat) {factor : Nat} (hfactor : 0 < factor) :
    roundHalfEven (num * factor) (den * factor) = roundHalfEven num den := by
  have hrest : 2 * (num * factor % (den * factor)) = 2 * (num % den) * factor := by
    rw [Nat.mul_mod_mul_right, Nat.mul_assoc]
  unfold roundHalfEven
  rw [hrest, Nat.mul_div_mul_right _ _ hfactor]
  simp only [Nat.mul_lt_mul_right hfactor]

namespace Binary64

attribute [local instance (2000)] instPowNat

/-! ## Integers -/

/-- The integer is one of those that numbers have room for, from -2^53 to 2^53. -/
def FitsSignificand (n : Int) : Prop := -9007199254740992 ≤ n ∧ n ≤ 9007199254740992

instance (n : Int) : Decidable (FitsSignificand n) := inferInstanceAs (Decidable (_ ∧ _))

variable {n m : Int}

theorem FitsSignificand.fitsInt64 (h : FitsSignificand n) : FitsInt64 n := by
  unfold FitsSignificand at h
  unfold FitsInt64 minInt64 maxInt64
  omega

/-- An integer of up to 53 bits times a power of two is a magnitude of the format. -/
theorem isMagnitude_mul_two_pow {n rest : Nat} (hn : n ≤ 2 ^ (53 : Nat)) (hrest : rest ≤ 1074) :
    IsMagnitude (n * 2 ^ rest) := by
  refine ⟨?_, ?_⟩
  · calc n * 2 ^ rest ≤ 2 ^ (53 : Nat) * 2 ^ rest := Nat.mul_le_mul_right _ hn
      _ ≤ 2 ^ (53 : Nat) * unitsPerOne := Nat.mul_le_mul_left _ (two_pow_le_unitsPerOne hrest)
      _ = unitsPerOne * 2 ^ (53 : Nat) := Nat.mul_comm _ _
      _ < limit := unitsPerOne_mul_lt_limit (by decide)
  · rcases Nat.lt_or_eq_of_le hn with hlt | rfl
    · exact ⟨n, rest, hlt, rfl⟩
    · exact ⟨1, 53 + rest, by decide, by rw [Nat.one_mul, Nat.pow_add]⟩

/-- The magnitude of such an integer is one of the format. -/
theorem FitsSignificand.isMagnitude (h : FitsSignificand n) :
    IsMagnitude (n.natAbs * unitsPerOne) := by
  have hle : n.natAbs ≤ 2 ^ (53 : Nat) := by
    unfold FitsSignificand at h
    omega
  obtain ⟨rest, hone, hrest⟩ : ∃ rest : Nat, unitsPerOne = 2 ^ rest ∧ rest ≤ 1074 :=
    ⟨1074, by rw [unitsPerOne], Nat.le_refl 1074⟩
  rw [hone]
  exact isMagnitude_mul_two_pow hle hrest

/-- It is not rounded. -/
theorem ofInt_eq_finite (h : FitsSignificand n) : ∃ magnitude,
    ofInt n = .finite (decide (n < 0)) (n.natAbs * unitsPerOne) magnitude := by
  have hround := roundUnits_of_isMagnitude h.isMagnitude Nat.one_pos
  rw [Nat.mul_one] at hround
  obtain ⟨magnitude, heq⟩ := ofRatio_eq_finite (below_ofInt_of_fits h.fitsInt64).isFinite
  rw [hround] at magnitude
  refine ⟨magnitude, ?_⟩
  rw [ofInt, heq]
  simp only [hround]

/-- The place of such an integer is the integer itself, in units. -/
theorem position?_ofInt (h : FitsSignificand n) : (ofInt n).position? = some (n * unitsPerOne) := by
  obtain ⟨magnitude, heq⟩ := ofInt_eq_finite h
  rw [heq, position?, Int.natCast_mul]
  by_cases hneg : n < 0
  · rw [decide_eq_true hneg, if_pos rfl, ← Int.neg_mul, Int.ofNat_natAbs_of_nonpos (by omega),
      Int.neg_neg]
  · rw [decide_eq_false hneg, if_neg Bool.false_ne_true, Int.natAbs_of_nonneg (by omega)]

/-- An integer other than zero is a number other than zero, of the same sign. -/
theorem ofInt_eq_finite_of_ne (h : FitsInt64 n) (hne : n ≠ 0) : ∃ units magnitude,
    ofInt n = .finite (decide (n < 0)) units magnitude ∧ 0 < units := by
  obtain ⟨magnitude, heq⟩ := ofRatio_eq_finite (below_ofInt_of_fits h).isFinite
  have habove := above_ofInt_of_fits h hne
  rw [ofInt, heq] at habove
  exact ⟨_, magnitude, heq, habove.units_pos⟩

/-! ## Divisors of zero -/

theorem zero_div_zero : ofInt 0 / ofInt 0 = .nan := by
  rw [ofInt_zero, zero, finite_div_zero rfl, if_pos rfl]

/-- Other integers are divided by zero into infinities of their own sign. -/
theorem div_zero_of_ne (h : FitsInt64 n) (hne : n ≠ 0) :
    ofInt n / ofInt 0 = .infinite (decide (n < 0)) := by
  obtain ⟨units, magnitude, heq, hpos⟩ := ofInt_eq_finite_of_ne h hne
  rw [heq, ofInt_zero, zero, finite_div_zero rfl, if_neg (Nat.ne_of_gt hpos), Bool.bne_false]

/-- Any other divisor gives a number between the infinities. -/
theorem isFinite_div (hn : FitsInt64 n) (hm : FitsInt64 m) (hne : m ≠ 0) :
    (ofInt n / ofInt m).IsFinite :=
  ((below_ofInt_of_fits hn).div (above_ofInt_of_fits hm hne) (by decide)).isFinite

/-! ## Quotients -/

/-- The rounding of a quotient depends on its ratio alone. -/
theorem roundUnits_mul_right (num den : Nat) {factor : Nat} (hfactor : 0 < factor) :
    roundUnits (num * factor) (den * factor) = roundUnits num den := by
  have hbit : lastBit (num * factor) (den * factor) = lastBit num den := by
    rw [lastBit, lastBit, Nat.mul_div_mul_right _ _ hfactor]
  rw [roundUnits, roundUnits, hbit, Nat.mul_right_comm, roundHalfEven_mul_right _ _ hfactor]

/-- Equal ratios are rounded alike. -/
theorem roundUnits_congr {num den num' den' : Nat} (hden : 0 < den) (hden' : 0 < den')
    (h : num * den' = num' * den) : roundUnits num den = roundUnits num' den' := by
  rw [← roundUnits_mul_right num den hden', ← roundUnits_mul_right num' den' hden, h,
    Nat.mul_comm den]

/-- The quotient of integers that are not rounded is their ratio, rounded once. -/
theorem div_eq_finite (hn : FitsSignificand n) (hm : FitsSignificand m) (hne : m ≠ 0) :
    ∃ magnitude, ofInt n / ofInt m = .finite (decide (n < 0) != decide (m < 0))
      (roundUnits (n.natAbs * unitsPerOne) m.natAbs) magnitude := by
  have hfinite := isFinite_div hn.fitsInt64 hm.fitsInt64 hne
  obtain ⟨nMagnitude, hnumber⟩ := ofInt_eq_finite hn
  obtain ⟨mMagnitude, hdivisor⟩ := ofInt_eq_finite hm
  have hpos : 0 < m.natAbs * unitsPerOne := Nat.mul_pos (Int.natAbs_pos.mpr hne) unitsPerOne_pos
  rw [hnumber, hdivisor, finite_div_finite hpos] at hfinite ⊢
  obtain ⟨magnitude, heq⟩ := ofRatio_eq_finite hfinite
  rw [roundUnits_mul_right _ _ unitsPerOne_pos] at magnitude
  refine ⟨magnitude, ?_⟩
  rw [heq]
  simp only [roundUnits_mul_right _ _ unitsPerOne_pos]

theorem sign_eq (hne : n ≠ 0) : n.sign = if decide (n < 0) then -1 else 1 := by
  rcases Int.lt_or_gt_of_ne hne with hneg | hpos
  · rw [decide_eq_true hneg, if_pos rfl, Int.sign_eq_neg_one_of_neg hneg]
  · rw [decide_eq_false (by omega), if_neg Bool.false_ne_true, Int.sign_eq_one_of_pos hpos]

/-- Equal ratios have equal signs. -/
theorem sign_congr {n' m' : Int} (hn : n ≠ 0) (hn' : n' ≠ 0) (hm : m ≠ 0) (hm' : m' ≠ 0)
    (h : n * m' = n' * m) :
    (decide (n < 0) != decide (m < 0)) = (decide (n' < 0) != decide (m' < 0)) := by
  have hsigns : ∀ s t s' t' : Bool,
      ((if s then -1 else 1) * (if t' then -1 else 1) : Int) =
        (if s' then -1 else 1) * (if t then -1 else 1) → (s != t) = (s' != t') := by decide
  refine hsigns _ _ _ _ ?_
  rw [← sign_eq hn, ← sign_eq hm, ← sign_eq hn', ← sign_eq hm', ← Int.sign_mul, ← Int.sign_mul, h]

/-- Equal ratios of integers that are not rounded are numbers at the same place. -/
theorem position?_div_eq {n' m' : Int} (hn : FitsSignificand n) (hn' : FitsSignificand n')
    (hm : FitsSignificand m) (hm' : FitsSignificand m') (hm₀ : m ≠ 0) (hm'₀ : m' ≠ 0)
    (h : n * m' = n' * m) :
    (ofInt n / ofInt m).position? = (ofInt n' / ofInt m').position? := by
  obtain ⟨magnitude, heq⟩ := div_eq_finite hn hm hm₀
  obtain ⟨magnitude', heq'⟩ := div_eq_finite hn' hm' hm'₀
  have hunits : roundUnits (n.natAbs * unitsPerOne) m.natAbs =
      roundUnits (n'.natAbs * unitsPerOne) m'.natAbs := by
    refine roundUnits_congr (Int.natAbs_pos.mpr hm₀) (Int.natAbs_pos.mpr hm'₀) ?_
    rw [Nat.mul_right_comm, Nat.mul_right_comm n'.natAbs, ← Int.natAbs_mul, ← Int.natAbs_mul, h]
  rw [heq, heq', position?, position?, ← hunits]
  by_cases hzero : n = 0
  · have hnothing : roundUnits (n.natAbs * unitsPerOne) m.natAbs = 0 := by
      rw [hzero, Int.natAbs_zero, Nat.zero_mul]
      exact roundUnits_zero _
    rw [hnothing]
    simp
  · have hzero' : n' ≠ 0 := by
      rintro rfl
      rw [Int.zero_mul] at h
      exact (Int.mul_ne_zero hzero hm'₀) h
    rw [sign_congr hzero hzero' hm₀ hm'₀ h]

end Binary64

end LoadWatch
