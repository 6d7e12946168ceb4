/-
  Proofs/NumberLine.lean --- binary numbers as points of the extended real line.

  WHAT THIS FILE IS FOR.  Numbers are compared by their places, which are
  integers: a finite number is counted in units, and the infinities stand at the
  limits.  Here it is shown that this is the comparison of what the numbers
  stand for.  The place tells the point of the extended real line
  (`value?_eq_map`), and it does so without changing the order
  (`strictMonoOn_point`), since all finite numbers are between the limits.

  What a number stands for is not left to the way it is kept here.  It is the
  value that the interchange format gives to 64 bits (`value?_ofBits`), and every
  number is encoded by some 64 bits (`exists_ofBits`).

  Integers of up to 53 bits stand for themselves (`value?_ofInt`), and only zero
  stands for zero (`position?_ofInt_eq_zero_iff`).

  Main results: `value?_eq_iff`, `exists_positions`, `value?_ofBits` and
  `exists_ofBits`.
-/
import Mathlib.Data.EReal.Basic
import Mathlib.Data.Int.ConditionallyCompleteOrder
import Mathlib.Tactic.Ring
import LoadWatch.Binary64.Bits
import LoadWatch.Proofs.ExactNumbers

set_option autoImplicit false

namespace LoadWatch.Binary64

/-! ## Values -/

/-- The point that a number stands for; what is not a number stands for none. -/
noncomputable def value? : Binary64 → Option EReal
  | .nan => none
  | .infinite negative => some (if negative then ⊥ else ⊤)
  | .finite negative units _ =>
    some (((if negative then -(units : ℝ) else units) / 2 ^ 1074 : ℝ) : EReal)

/-- What the interchange format says of a sign, an exponent and a fraction. -/
noncomputable def encodedValue? (negative : Bool) (exponent fraction : ℕ) : Option EReal :=
  let sign : ℝ := if negative then -1 else 1
  if exponent = 2047 then
    if fraction = 0 then some (if negative then ⊥ else ⊤) else none
  else if exponent = 0 then
    some ((sign * (fraction / 2 ^ 52) * 2 ^ (-1022 : ℤ) : ℝ) : EReal)
  else
    some ((sign * (1 + fraction / 2 ^ 52) * 2 ^ ((exponent : ℤ) - 1023) : ℝ) : EReal)

theorem value?_eq_none_iff (x : Binary64) : x.value? = none ↔ x.isNaN = true := by
  cases x with
  | nan => exact ⟨fun _ => rfl, fun _ => rfl⟩
  | infinite negative => exact ⟨nofun, nofun⟩
  | finite negative units magnitude => exact ⟨nofun, nofun⟩

/-! ## The order of places is the order of values -/

/-- The point at a place. -/
noncomputable def point (position : ℤ) : EReal :=
  if position ≤ -(limit : ℤ) then ⊥
  else if (limit : ℤ) ≤ position then ⊤
  else ((position / 2 ^ 1074 : ℝ) : EReal)

theorem point_of_between {position : ℤ} (low : -(limit : ℤ) < position)
    (high : position < limit) : point position = ((position / 2 ^ 1074 : ℝ) : EReal) := by
  rw [point, if_neg (not_le.mpr low), if_neg (not_le.mpr high)]

/-- Numbers stand for the points at their places. -/
theorem value?_eq_map (x : Binary64) : x.value? = x.position?.map point := by
  have hlimit := limit_pos
  cases x with
  | nan => rfl
  | infinite negative =>
    cases negative with
    | true => exact congrArg some (if_pos le_rfl).symm
    | false =>
      have hlow : ¬(limit : ℤ) ≤ -limit := by omega
      exact congrArg some ((if_neg hlow).trans (if_pos le_rfl)).symm
  | finite negative units magnitude =>
    have hunits : units < limit := magnitude.1
    cases negative with
    | true =>
      have hpoint := point_of_between (show -(limit : ℤ) < -units by omega) (by omega)
      rw [Int.cast_neg, Int.cast_natCast] at hpoint
      exact congrArg some hpoint.symm
    | false =>
      have hpoint := point_of_between (show -(limit : ℤ) < units by omega) (by omega)
      rw [Int.cast_natCast] at hpoint
      exact congrArg some hpoint.symm

theorem position_mem {x : Binary64} {position : ℤ} (h : x.position? = some position) :
    position ∈ Set.Icc (-(limit : ℤ)) limit := by
  have hlimit := limit_pos
  cases x with
  | nan => cases h
  | infinite negative =>
    obtain rfl := Option.some.inj h
    cases negative with
    | true => exact ⟨le_rfl, by rw [if_pos rfl]; omega⟩
    | false => exact ⟨by rw [if_neg Bool.false_ne_true]; omega, le_rfl⟩
  | finite negative units magnitude =>
    have hunits : units < limit := magnitude.1
    obtain rfl := Option.some.inj h
    constructor <;> cases negative <;> simp only [if_true, Bool.false_eq_true, if_false] <;> omega

/-- From one limit to the other, further places have larger points. -/
theorem strictMonoOn_point : StrictMonoOn point (Set.Icc (-(limit : ℤ)) limit) := by
  have hlimit := limit_pos
  intro left hleft right hright hlt
  by_cases hlow : left = -(limit : ℤ)
  · have hbot : point left = ⊥ := if_pos hlow.le
    rw [hbot]
    by_cases hhigh : right = limit
    · have htop : point right = ⊤ := (if_neg (by omega)).trans (if_pos hhigh.ge)
      rw [htop]
      exact bot_lt_top
    · rw [point_of_between (by omega) (lt_of_le_of_ne hright.2 hhigh)]
      exact EReal.bot_lt_coe _
  · have hleft' := point_of_between (lt_of_le_of_ne hleft.1 (Ne.symm hlow)) (by
      have := hright.2
      omega)
    rw [hleft']
    by_cases hhigh : right = limit
    · have htop : point right = ⊤ := (if_neg (by omega)).trans (if_pos hhigh.ge)
      rw [htop]
      exact EReal.coe_lt_top _
    · have hbelow : right < limit := lt_of_le_of_ne hright.2 hhigh
      have habove : -(limit : ℤ) < right := lt_of_le_of_lt hleft.1 hlt
      rw [point_of_between habove hbelow, EReal.coe_lt_coe_iff]
      exact div_lt_div_of_pos_right (Int.cast_lt.mpr hlt) (by positivity)

/-- Numbers stand for the same point exactly if they have the same place. -/
theorem value?_eq_iff (x y : Binary64) : x.value? = y.value? ↔ x.position? = y.position? := by
  rw [value?_eq_map, value?_eq_map]
  refine ⟨fun h => ?_, fun h => by rw [h]⟩
  cases hx : x.position? with
  | none =>
    rw [hx, Option.map_none] at h
    exact (Option.map_eq_none_iff.mp h.symm).symm
  | some left =>
    rw [hx, Option.map_some] at h
    obtain ⟨right, hright, hpoint⟩ := Option.map_eq_some_iff.mp h.symm
    rw [hright]
    exact congrArg some
      (strictMonoOn_point.injOn (position_mem hright) (position_mem hx) hpoint).symm

/-- Numbers are in the order of their places. -/
theorem exists_positions {x y : Binary64} {a b : EReal} (hx : x.value? = some a)
    (hy : y.value? = some b) : ∃ left right, x.position? = some left ∧
      y.position? = some right ∧ (left < right ↔ a < b) := by
  rw [value?_eq_map] at hx hy
  obtain ⟨left, hleft, rfl⟩ := Option.map_eq_some_iff.mp hx
  obtain ⟨right, hright, rfl⟩ := Option.map_eq_some_iff.mp hy
  have hlt := strictMonoOn_point.lt_iff_lt (position_mem hleft) (position_mem hright)
  exact ⟨left, right, hleft, hright, hlt.symm⟩

/-! ## Integers -/

theorem value?_zero (negative : Bool) : (zero negative).value? = some 0 := by
  simp [zero, value?]

/-- A number is at the place of zero exactly if its value is zero. -/
theorem position?_eq_zero_iff (x : Binary64) : x.position? = some 0 ↔ x.value? = some 0 := by
  rw [← value?_zero false, value?_eq_iff]
  rfl

/-- Zero is the only integer that becomes zero. -/
theorem position?_ofInt_eq_zero_iff (n : ℤ) : (ofInt n).position? = some 0 ↔ n = 0 := by
  constructor
  · intro h
    by_contra hne
    have hpos := Nat.mul_pos (Int.natAbs_pos.mpr hne) unitsPerOne_pos
    have hunits := le_roundUnits_mul Nat.one_pos hpos
    have hlimit := limit_pos
    rw [ofInt, ofRatio] at h
    split at h
    · have hplace := Option.some.inj h
      split at hplace <;> omega
    · have hplace := Option.some.inj h
      split at hplace <;> omega
  · rintro rfl
    rw [ofInt_zero]
    rfl

section Powers

attribute [local instance (2000)] instPowNat

theorem unitsPerOne_cast : ((unitsPerOne : ℕ) : ℝ) = 2 ^ 1074 := by
  obtain ⟨k, hunits, hk⟩ : ∃ k : ℕ, unitsPerOne = 2 ^ k ∧ k = 1074 :=
    ⟨1074, by rw [unitsPerOne], rfl⟩
  rw [hunits, ← hk]
  exact Nat.cast_pow 2 k

end Powers

/-- A sign and a magnitude make up an integer. -/
theorem signed_natAbs_div (n : ℤ) {unit : ℝ} (hunit : unit ≠ 0) :
    (if decide (n < 0) then -(n.natAbs * unit) else n.natAbs * unit) / unit = n := by
  by_cases hneg : n < 0
  · rw [decide_eq_true hneg, if_pos rfl, ← neg_mul, mul_div_cancel_right₀ _ hunit,
      Nat.cast_natAbs, abs_of_neg hneg, Int.cast_neg, neg_neg]
  · rw [decide_eq_false hneg, if_neg Bool.false_ne_true, mul_div_cancel_right₀ _ hunit,
      Nat.cast_natAbs, abs_of_nonneg (not_lt.mp hneg)]

/-- An integer that is not rounded stands for itself. -/
theorem value?_ofInt {n : ℤ} (h : FitsSignificand n) :
    (ofInt n).value? = some ((n : ℝ) : EReal) := by
  obtain ⟨magnitude, heq⟩ := ofInt_eq_finite h
  have hunit : (2 : ℝ) ^ 1074 ≠ 0 := pow_ne_zero _ two_ne_zero
  rw [heq, value?, Nat.cast_mul, unitsPerOne_cast, signed_natAbs_div n hunit]

/-! ## The interchange format -/

theorem two_zpow_scale (shift : ℕ) :
    (2 : ℝ) ^ ((shift : ℤ) - 1022) = 2 ^ shift * 2 ^ 52 / 2 ^ 1074 := by
  have hsum : (shift : ℤ) - 1022 = shift + (52 : ℕ) - (1074 : ℕ) := by
    push_cast
    ring
  rw [hsum, zpow_sub₀ two_ne_zero, zpow_add₀ two_ne_zero, zpow_natCast, zpow_natCast,
    zpow_natCast]

/-- Without a leading one the fraction is all of the significand. -/
theorem encodedUnits_zero_div (fraction : ℕ) :
    (encodedUnits 0 fraction : ℝ) / 2 ^ 1074 = fraction / 2 ^ 52 * 2 ^ (-1022 : ℤ) := by
  have hscale := two_zpow_scale 0
  rw [Nat.cast_zero, zero_sub, pow_zero, one_mul] at hscale
  rw [hscale, encodedUnits, if_pos rfl, div_mul_div_comm, mul_comm ((2 : ℝ) ^ 52),
    mul_div_mul_right _ _ (by positivity)]

/-- A magnitude in units is the value that its exponent and fraction have in the format. -/
theorem encodedUnits_div {exponent : ℕ} (hexponent : exponent ≠ 0) (fraction : ℕ) :
    (encodedUnits exponent fraction : ℝ) / 2 ^ 1074 =
      (1 + fraction / 2 ^ 52) * 2 ^ ((exponent : ℤ) - 1023) := by
  obtain ⟨shift, rfl⟩ := Nat.exists_eq_succ_of_ne_zero hexponent
  have hshift : ((shift.succ : ℕ) : ℤ) - 1023 = (shift : ℤ) - 1022 := by
    push_cast
    ring
  have hsignificand : (1 + fraction / 2 ^ 52 : ℝ) = (2 ^ 52 + fraction) / 2 ^ 52 := by
    rw [add_div, div_self (by positivity)]
  rw [hshift, two_zpow_scale, hsignificand, encodedUnits, if_neg hexponent, Nat.succ_sub_one,
    div_mul_div_comm, mul_comm ((2 : ℝ) ^ shift), mul_left_comm,
    mul_div_mul_left _ _ (by positivity)]
  simp only [Nat.cast_mul, Nat.cast_add, Nat.cast_pow, Nat.cast_ofNat]

/-- What 64 bits encode stands for what the format says of them. -/
theorem value?_ofBits (bits : BitVec 64) :
    (ofBits bits).value? = encodedValue? bits.msb (exponentOf bits) (fractionOf bits) := by
  have hsign : ∀ negative : Bool, ∀ magnitude : ℝ,
      (if negative then -magnitude else magnitude) = (if negative then -1 else 1) * magnitude := by
    intro negative magnitude
    cases negative <;> simp
  have hlast := exponentOf_lt bits
  by_cases hfinite : exponentOf bits < 2047
  · rw [ofBits, dif_pos hfinite, value?, hsign, mul_div_assoc, encodedValue?,
      if_neg (Nat.ne_of_lt hfinite)]
    by_cases hzero : exponentOf bits = 0
    · rw [if_pos hzero, hzero, encodedUnits_zero_div, mul_assoc]
    · rw [if_neg hzero, encodedUnits_div hzero, mul_assoc]
  · have hexponent : exponentOf bits = 2047 := by omega
    rw [ofBits, dif_neg hfinite, encodedValue?, if_pos hexponent]
    by_cases hzero : fractionOf bits = 0
    · rw [if_pos hzero, if_pos hzero]
      rfl
    · rw [if_neg hzero, if_neg hzero]
      rfl

/-- The three parts of 64 bits are found again in their sum. -/
theorem parts_of_sum (negative : Bool) {exponent fraction : ℕ} (hexponent : exponent < 2048)
    (hfraction : fraction < 2 ^ 52) :
    let bits := BitVec.ofNat 64 (signBit negative + (exponent * 2 ^ 52 + fraction))
    bits.msb = negative ∧ exponentOf bits = exponent ∧ fractionOf bits = fraction := by
  intro bits
  have hsign : signBit negative = 0 ∨ signBit negative = 2 ^ 63 := by
    cases negative
    · exact .inl rfl
    · exact .inr rfl
  have hbits : bits.toNat = signBit negative + (exponent * 2 ^ 52 + fraction) := by
    rw [BitVec.toNat_ofNat]
    omega
  refine ⟨?_, ?_, ?_⟩
  · rw [BitVec.msb_eq_decide, hbits]
    cases negative with
    | true => exact decide_eq_true (by simp only [signBit, if_true]; omega)
    | false => exact decide_eq_false (by simp only [signBit, Bool.false_eq_true, if_false]; omega)
  · rw [exponentOf, hbits]
    omega
  · rw [fractionOf, hbits]
    omega

/-- A magnitude with 53 bits or more is a significand of exactly 53 bits, moved up. -/
theorem exists_normal {units : ℕ} (h : IsMagnitude units) (hlarge : 2 ^ 52 ≤ units) :
    ∃ significand shift : ℕ, 2 ^ 52 ≤ significand ∧ significand < 2 ^ 53 ∧ shift < 2046 ∧
      units.log2 = shift + 52 ∧ units = significand * 2 ^ shift := by
  obtain ⟨hlimit, coefficient, power, hcoefficient, hunits⟩ := h
  have hne : units ≠ 0 := by omega
  obtain ⟨shift, hshift⟩ : ∃ shift, units.log2 = shift + 52 := by
    have := (Nat.le_log2 hne).mpr hlarge
    exact ⟨units.log2 - 52, by omega⟩
  have hlow : 2 ^ 52 * 2 ^ shift ≤ units := by
    rw [← Nat.pow_add, Nat.add_comm, ← hshift]
    exact Nat.log2_self_le hne
  have hhigh : units < 2 ^ 53 * 2 ^ shift := by
    rw [← Nat.pow_add, Nat.add_comm, show shift + 53 = units.log2 + 1 by omega]
    exact Nat.lt_log2_self
  have hbound : shift < 2046 := by
    have := (Nat.log2_lt hne).mpr hlimit
    omega
  have hle : shift ≤ power := by
    have hpower : units.log2 < 53 + power := by
      rw [Nat.log2_lt hne, hunits, Nat.pow_add]
      exact Nat.mul_lt_mul_of_pos_right hcoefficient (Nat.two_pow_pos power)
    omega
  have hsplit : units = coefficient * 2 ^ (power - shift) * 2 ^ shift := by
    rw [hunits, Nat.mul_assoc, ← Nat.pow_add, Nat.sub_add_cancel hle]
  refine ⟨coefficient * 2 ^ (power - shift), shift, ?_, ?_, hbound, hshift, hsplit⟩
  · rw [hsplit] at hlow
    exact Nat.le_of_mul_le_mul_right hlow (Nat.two_pow_pos shift)
  · rw [hsplit] at hhigh
    exact Nat.lt_of_mul_lt_mul_right hhigh

/-- The bits of a magnitude are those of an exponent and a fraction that give it back. -/
theorem exists_parts {units : ℕ} (h : IsMagnitude units) : ∃ exponent fraction : ℕ,
    exponent < 2047 ∧ fraction < 2 ^ 52 ∧ magnitudeBits units = exponent * 2 ^ 52 + fraction ∧
      encodedUnits exponent fraction = units := by
  by_cases hsmall : units < 2 ^ 52
  · have hlog : units.log2 - 52 = 0 := by
      by_cases hzero : units = 0
      · rw [hzero, Nat.log2_zero]
      · have := (Nat.log2_lt hzero).mpr hsmall
        omega
    refine ⟨0, units, by omega, hsmall, ?_, if_pos rfl⟩
    rw [magnitudeBits, hlog]
    simp
  · obtain ⟨significand, shift, hlow, hhigh, hshift, hlog, hunits⟩ :=
      exists_normal h (Nat.le_of_not_lt hsmall)
    refine ⟨shift + 1, significand - 2 ^ 52, by omega, by omega, ?_, ?_⟩
    · have hquotient : units / 2 ^ shift = significand := by
        rw [hunits, Nat.mul_div_cancel _ (Nat.two_pow_pos shift)]
      rw [magnitudeBits, hlog, Nat.add_sub_cancel, hquotient]
      omega
    · rw [encodedUnits, if_neg (Nat.succ_ne_zero shift), Nat.add_sub_cancel, hunits,
        Nat.add_sub_cancel' hlow]

/-- The bits of a number encode it. -/
theorem ofBits_of_bits? {x : Binary64} {bits : ℕ} (h : x.bits? = some bits) :
    ofBits (BitVec.ofNat 64 bits) = x := by
  cases x with
  | nan => cases h
  | infinite negative =>
    obtain rfl := Option.some.inj h
    obtain ⟨hsign, hexponent, hfraction⟩ :=
      parts_of_sum negative (show 2047 < 2048 by omega) (show 0 < 2 ^ 52 by omega)
    rw [Nat.add_zero] at hsign hexponent hfraction
    rw [ofBits, dif_neg (by omega), if_pos hfraction, hsign]
  | finite negative units magnitude =>
    obtain rfl := Option.some.inj h
    obtain ⟨exponent, fraction, hexponent, hfraction, hbits, hunits⟩ := exists_parts magnitude
    have hparts := parts_of_sum negative (show exponent < 2048 by omega) hfraction
    rw [← hbits] at hparts
    obtain ⟨hsign, hexponent', hfraction'⟩ := hparts
    rw [ofBits, dif_pos (by omega)]
    simp only [hsign, hexponent', hfraction', hunits]

/-- Every number is encoded by some 64 bits. -/
theorem exists_ofBits (x : Binary64) : ∃ bits, ofBits bits = x := by
  cases hbits : x.bits? with
  | some bits => exact ⟨_, ofBits_of_bits? hbits⟩
  | none =>
    cases x with
    | nan =>
      obtain ⟨-, hexponent, hfraction⟩ :=
        parts_of_sum false (show 2047 < 2048 by omega) (show 1 < 2 ^ 52 by omega)
      refine ⟨BitVec.ofNat 64 (signBit false + (2047 * 2 ^ 52 + 1)), ?_⟩
      rw [ofBits, dif_neg (by omega), if_neg (by omega)]
    | infinite negative => cases hbits
    | finite negative units magnitude => cases hbits

end LoadWatch.Binary64
