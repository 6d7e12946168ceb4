/-
  Proofs/PrintedNumbers.lean --- what the text of a number with fixed places says.

  WHAT THIS FILE IS FOR.  A finite number is printed with a fixed count of decimal
  places.  Here the text is read as a decimal, and it is said which one it is: of
  all decimals with that many places the nearest to the number, and the even one
  of two that are equally near, under the sign of the number.

  A decimal is given by its characters (`WrittenDecimal`), and its value is that
  of its digits, so that nothing of the printer comes into what a text says.  A
  text says one decimal only (`WrittenDecimal.text_injective`), and that is why we
  may speak of the number that was printed.

  The number that is printed is a sign and a count of units of the last place.
  The count is one exact rounding of the magnitude (`isNearest_printed`); rounding
  keeps the order, and the sign is put before it, so that the printed numbers are
  in the order of the numbers themselves (`value_printed_mono`).

  Main result: `fixed_printsNumbers`.
-/
import LoadWatch.Proofs.NumberLine
import LoadWatch.Proofs.UnitAmounts
import LoadWatch.Proofs.WrittenTokens

set_option autoImplicit false

namespace LoadWatch.Binary64

/-- The number with a magnitude and a sign. -/
noncomputable def signed (negative : Bool) (magnitude : ℝ) : ℝ :=
  if negative then -magnitude else magnitude

/-! ## Written decimals -/

/-- A decimal as it is written: digits with a sign or without one, and more of them behind a point
if there are decimal places. -/
structure WrittenDecimal where
  negative : Bool
  whole : List Char
  fraction : List Char
  nonempty : whole ≠ []
  digits : ∀ c ∈ whole ++ fraction, c.isDigit = true
  /-- A zero comes first only if there is nothing else before the point. -/
  leading : whole.head? = some '0' → whole = ['0']

namespace WrittenDecimal

/-- What comes after the digits before the point. -/
def tail (decimal : WrittenDecimal) : List Char :=
  if decimal.fraction = [] then [] else '.' :: decimal.fraction

/-- The characters of a decimal. -/
def text (decimal : WrittenDecimal) : String :=
  String.ofList ((if decimal.negative then ['-'] else []) ++ (decimal.whole ++ decimal.tail))

/-- The count of decimal places. -/
def places (decimal : WrittenDecimal) : ℕ := decimal.fraction.length

/-- The number of units of the last place, which is what the digits are without the point. -/
def units (decimal : WrittenDecimal) : ℕ :=
  Nat.ofDigitChars 10 (decimal.whole ++ decimal.fraction) 0

/-- The number that is written, without its sign. -/
noncomputable def magnitude (decimal : WrittenDecimal) : ℝ := decimal.units / 10 ^ decimal.places

/-- The number that is written. -/
noncomputable def value (decimal : WrittenDecimal) : ℝ :=
  signed decimal.negative decimal.magnitude

/-- The last digit is even. -/
def EndsEven (decimal : WrittenDecimal) : Prop :=
  ∃ c ∈ ['0', '2', '4', '6', '8'], (decimal.whole ++ decimal.fraction).getLast? = some c

/-- Without its sign, the decimal is the nearest one to a number among those with as many places,
and ends with an even digit if another one is equally near. -/
structure IsNearest (decimal : WrittenDecimal) (number : ℝ) : Prop where
  nearest : ∀ n : ℤ, |decimal.magnitude - number| ≤ |n / 10 ^ decimal.places - number|
  tie : ∀ n : ℤ, n / 10 ^ decimal.places ≠ decimal.magnitude →
    |n / 10 ^ decimal.places - number| = |decimal.magnitude - number| → decimal.EndsEven

theorem magnitude_nonneg (decimal : WrittenDecimal) : 0 ≤ decimal.magnitude := by
  rw [magnitude]
  positivity

/-! ### A text says one decimal -/

/-- No digit comes right after those before the point. -/
theorem isDigit_of_tail_eq_cons {decimal : WrittenDecimal} {c : Char} {rest : List Char}
    (h : decimal.tail = c :: rest) : c.isDigit = false := by
  rw [tail] at h
  split at h
  · cases h
  · obtain ⟨rfl, -⟩ := List.cons.inj h
    rfl

/-- The digits before the point are those that come first. -/
theorem takeWhile_isDigit (decimal : WrittenDecimal) :
    (decimal.whole ++ decimal.tail).takeWhile Char.isDigit = decimal.whole := by
  have hwhole : ∀ c ∈ decimal.whole, c.isDigit = true :=
    fun c hc => decimal.digits c (List.mem_append_left _ hc)
  rw [List.takeWhile_append_of_pos hwhole]
  cases htail : decimal.tail with
  | nil => simp
  | cons c rest => simp [isDigit_of_tail_eq_cons htail]

theorem head?_ne_minus (decimal : WrittenDecimal) :
    (decimal.whole ++ decimal.tail).head? ≠ some '-' := by
  intro h
  rw [List.head?_append_of_ne_nil _ decimal.nonempty] at h
  have hdigit := decimal.digits '-' (List.mem_append_left _ (List.mem_of_head? h))
  exact absurd hdigit (by decide)

theorem fraction_eq_of_tail_eq {left right : WrittenDecimal} (h : left.tail = right.tail) :
    left.fraction = right.fraction := by
  rw [tail, tail] at h
  split at h <;> split at h <;> simp_all

/-- A sign is told from the first digit. -/
theorem sign_append_inj {left right : Bool} {unsigned unsigned' : List Char}
    (hleft : unsigned.head? ≠ some '-') (hright : unsigned'.head? ≠ some '-')
    (h : (if left then ['-'] else []) ++ unsigned = (if right then ['-'] else []) ++ unsigned') :
    left = right ∧ unsigned = unsigned' := by
  cases left with
  | true =>
    cases right with
    | true => exact ⟨rfl, List.cons.inj h |>.2⟩
    | false => exact absurd (congrArg List.head? h).symm hright
  | false =>
    cases right with
    | true => exact absurd (congrArg List.head? h) hleft
    | false => exact ⟨rfl, h⟩

/-- A text is that of one decimal only. -/
theorem text_injective : Function.Injective text := by
  intro left right h
  obtain ⟨hsign, hunsigned⟩ := sign_append_inj left.head?_ne_minus right.head?_ne_minus
    (String.ofList_injective h)
  have hwhole : left.whole = right.whole := by
    rw [← left.takeWhile_isDigit, hunsigned, right.takeWhile_isDigit]
  have htail : left.tail = right.tail := by
    rw [hwhole] at hunsigned
    exact List.append_cancel_left hunsigned
  have hfraction := fraction_eq_of_tail_eq htail
  cases left
  cases right
  simp_all

/-! ### The last digit -/

theorem mem_of_even_digit {c : Char} (hdigit : c.isDigit = true)
    (heven : (c.toNat - '0'.toNat) % 2 = 0) : c ∈ ['0', '2', '4', '6', '8'] := by
  obtain ⟨hlow, hhigh⟩ := Char.isDigit_iff_toNat.mp hdigit
  simp only [Char.reduceToNat] at hlow hhigh heven
  have hcode : c.toNat = '0'.toNat ∨ c.toNat = '2'.toNat ∨ c.toNat = '4'.toNat ∨
      c.toNat = '6'.toNat ∨ c.toNat = '8'.toNat := by
    simp only [Char.reduceToNat]
    omega
  simpa only [Char.toNat_inj, List.mem_cons, List.not_mem_nil, or_false] using hcode

/-- An even number of units ends with an even digit. -/
theorem endsEven_of_units {decimal : WrittenDecimal} (h : decimal.units % 2 = 0) :
    decimal.EndsEven := by
  have hne : decimal.whole ++ decimal.fraction ≠ [] :=
    List.append_ne_nil_of_left_ne_nil decimal.nonempty _
  have hdigit := decimal.digits _ (List.getLast_mem hne)
  have hlast := List.getLast?_eq_some_getLast hne
  have hsplit := List.dropLast_concat_getLast hne
  generalize (decimal.whole ++ decimal.fraction).getLast hne = last at hdigit hlast hsplit
  rw [units, ← hsplit, Nat.ofDigitChars_append, Nat.ofDigitChars_cons, Nat.ofDigitChars_nil] at h
  exact ⟨last, mem_of_even_digit hdigit (by omega), hlast⟩

end WrittenDecimal

/-! ## The decimal that is printed -/

/-- The last digits of a number say what is left of it. -/
theorem ofDigitChars_lastDigits (places n front : ℕ) :
    Nat.ofDigitChars 10 (lastDigits places n) front = 10 ^ places * front + n % 10 ^ places := by
  induction places generalizing n with
  | zero => simp [lastDigits, Nat.mod_one]
  | succ places ih =>
    have hdigit : n % 10 < 10 := Nat.mod_lt n (by decide)
    rw [lastDigits, Nat.ofDigitChars_append, ih,
      Nat.ofDigitChars_cons_digitChar_of_lt_ten hdigit, Nat.ofDigitChars_nil, pow_succ',
      Nat.mod_mul]
    ring

theorem lastDigits_eq_nil_iff {places n : ℕ} : lastDigits places n = [] ↔ places = 0 := by
  rw [← List.length_eq_zero_iff, length_lastDigits]

/-- The decimal that a finite number is printed as. -/
def printed (negative : Bool) (units places : ℕ) : WrittenDecimal where
  negative := negative
  whole := Nat.toDigits 10 (scaledMagnitude units places / 10 ^ places)
  fraction := lastDigits places (scaledMagnitude units places)
  nonempty := Nat.toDigits_ne_nil
  digits c hc := by
    rcases List.mem_append.mp hc with hwhole | hfraction
    · exact Nat.isDigit_of_mem_toDigits (by decide) (by decide) hwhole
    · exact isDigit_of_mem_lastDigits hfraction
  leading h := by
    rcases Nat.eq_zero_or_pos (scaledMagnitude units places / 10 ^ places) with hzero | hpos
    · rw [hzero]
      rfl
    · exact absurd h (Json.head?_toDigits_ne_zero hpos)

section Printed

variable (negative : Bool) (units places : ℕ)

@[simp] theorem places_printed : (printed negative units places).places = places :=
  length_lastDigits _ _

/-- The digits without the point are those of the scaled magnitude. -/
@[simp] theorem units_printed :
    (printed negative units places).units = scaledMagnitude units places := by
  rw [WrittenDecimal.units, printed, Nat.ofDigitChars_append, Nat.ofDigitChars_ten_toDigits,
    ofDigitChars_lastDigits, Nat.div_add_mod]

theorem magnitude_printed :
    (printed negative units places).magnitude = scaledMagnitude units places / 10 ^ places := by
  rw [WrittenDecimal.magnitude, units_printed, places_printed]

/-- The text of a finite number is that of its decimal. -/
theorem fixed_finite (magnitude : IsMagnitude units) :
    (finite negative units magnitude).fixed places = (printed negative units places).text := by
  have htail : (printed negative units places).tail =
      if places = 0 then [] else '.' :: lastDigits places (scaledMagnitude units places) := by
    simp only [WrittenDecimal.tail, printed, lastDigits_eq_nil_iff]
  rw [WrittenDecimal.text, htail]
  rfl

end Printed

/-! ## Nearest decimals -/

/-- Every other integer is at least half a unit away from a number near an integer. -/
theorem half_le_abs_sub {number : ℝ} {near n : ℤ} (h : |number - near| ≤ 1 / 2) (hne : n ≠ near) :
    1 / 2 ≤ |number - n| := by
  have hone : (1 : ℝ) ≤ |(n : ℝ) - near| := by
    exact_mod_cast Int.one_le_abs (sub_ne_zero.mpr hne)
  have htriangle : |(n : ℝ) - near| ≤ |number - near| + |number - n| := by
    calc |(n : ℝ) - near| = |(number - near) - (number - n)| := by rw [sub_sub_sub_cancel_left]
      _ ≤ |number - near| + |number - n| := abs_sub _ _
  linarith

/-- The scaled magnitude is the integer nearest to the magnitude in units of the last place. -/
theorem scaledMagnitude_near (units places : ℕ) :
    |(units / 2 ^ 1074 * 10 ^ places : ℝ) - (scaledMagnitude units places : ℤ)| ≤ 1 / 2 ∧
      (|(units / 2 ^ 1074 * 10 ^ places : ℝ) - (scaledMagnitude units places : ℤ)| = 1 / 2 →
        scaledMagnitude units places % 2 = 0) := by
  obtain ⟨hnear, htie⟩ :=
    Units.isNearestEven_roundHalfEven (units * 10 ^ places) unitsPerOne_pos
  rw [← scaledMagnitude] at hnear htie
  have hdistance :
      |(units / 2 ^ 1074 * 10 ^ places : ℝ) - (scaledMagnitude units places : ℤ)| =
        (|(units * 10 ^ places : ℕ) / (unitsPerOne : ℕ) - scaledMagnitude units places| : ℚ) := by
    rw [Rat.cast_abs, Rat.cast_sub, Rat.cast_div, Rat.cast_natCast, Rat.cast_natCast,
      Rat.cast_natCast, unitsPerOne_cast, Nat.cast_mul, Nat.cast_pow, Nat.cast_ofNat,
      div_mul_eq_mul_div, Int.cast_natCast]
  have hhalf : (1 / 2 : ℝ) = (1 / 2 : ℚ) := by norm_num
  rw [hdistance, hhalf, Rat.cast_le, Rat.cast_inj]
  exact ⟨hnear, htie⟩

/-- Distances between decimals are those between their numbers of units. -/
theorem abs_div_pow_sub (n number : ℝ) (places : ℕ) :
    |n / 10 ^ places - number| = |number * 10 ^ places - n| / 10 ^ places := by
  have hpos : (0 : ℝ) < 10 ^ places := by positivity
  rw [div_sub' hpos.ne', abs_div, abs_of_pos hpos, abs_sub_comm, mul_comm]

/-- What is printed is the nearest decimal. -/
theorem isNearest_printed (negative : Bool) (units places : ℕ) :
    (printed negative units places).IsNearest (units / 2 ^ 1074) := by
  obtain ⟨hnear, htie⟩ := scaledMagnitude_near units places
  constructor
  · intro n
    rw [magnitude_printed, places_printed, abs_div_pow_sub, abs_div_pow_sub]
    refine div_le_div_of_nonneg_right ?_ (by positivity)
    by_cases hsame : n = scaledMagnitude units places
    · rw [hsame, Int.cast_natCast]
    · exact hnear.trans (half_le_abs_sub hnear hsame)
  · intro n hne hequal
    rw [magnitude_printed, places_printed] at hne hequal
    rw [abs_div_pow_sub, abs_div_pow_sub, div_left_inj' (by positivity)] at hequal
    have hother : n ≠ scaledMagnitude units places := by
      rintro rfl
      exact hne (by rw [Int.cast_natCast])
    -- The other integer is at least half a unit away, and so this one is half a unit away too.
    have hhalf := half_le_abs_sub hnear hother
    rw [hequal] at hhalf
    refine WrittenDecimal.endsEven_of_units ?_
    rw [units_printed]
    exact htie (le_antisymm hnear hhalf)

/-! ## Signs -/

theorem abs_signed_sub_signed (negative : Bool) (left right : ℝ) :
    |signed negative left - signed negative right| = |left - right| := by
  cases negative with
  | true =>
    show |-left - -right| = _
    rw [neg_sub_neg, abs_sub_comm]
  | false => rfl

theorem abs_signed (negative : Bool) (magnitude : ℝ) :
    |signed negative magnitude| = |magnitude| := by
  cases negative with
  | true => exact abs_neg magnitude
  | false => rfl

theorem signed_not (negative : Bool) (magnitude : ℝ) :
    signed (!negative) magnitude = -signed negative magnitude := by
  cases negative with
  | true => exact (neg_neg magnitude).symm
  | false => rfl

/-- The sign of a number; what is not a number has none. -/
def sign? : Binary64 → Option Bool
  | .nan => none
  | .infinite negative => some negative
  | .finite negative _ _ => some negative

/-- The sign of a number is the first of its bits. -/
theorem sign?_ofBits {bits : BitVec 64} (h : (ofBits bits).isNaN = false) :
    (ofBits bits).sign? = some bits.msb := by
  rw [ofBits] at h ⊢
  split
  · rfl
  · rename_i hlast
    rw [dif_neg hlast] at h
    split
    · rfl
    · rename_i hfraction
      rw [if_neg hfraction] at h
      cases h

theorem value?_finite (negative : Bool) {units : ℕ} (magnitude : IsMagnitude units) :
    (finite negative units magnitude).value? =
      some ((signed negative (units / 2 ^ 1074) : ℝ) : EReal) := by
  cases negative with
  | true =>
    rw [value?, if_pos rfl, neg_div]
    rfl
  | false => rfl

/-- A number that stands for a real number is finite. -/
theorem eq_finite_of_value? {x : Binary64} {v : ℝ} (h : x.value? = some (v : EReal)) :
    ∃ negative units magnitude, x = .finite negative units magnitude ∧
      v = signed negative (units / 2 ^ 1074) := by
  cases x with
  | nan => cases h
  | infinite negative =>
    cases negative with
    | true => exact absurd (Option.some.inj h).symm (EReal.coe_ne_bot v)
    | false => exact absurd (Option.some.inj h).symm (EReal.coe_ne_top v)
  | finite negative units magnitude =>
    rw [value?_finite] at h
    exact ⟨negative, units, magnitude, rfl, (EReal.coe_injective (Option.some.inj h)).symm⟩

/-- A number that stands for another point is an infinity. -/
theorem eq_infinite_of_value? {x : Binary64} {point : EReal} (h : x.value? = some point)
    (hpoint : ∀ v : ℝ, (v : EReal) ≠ point) :
    ∃ negative, x = .infinite negative ∧ (if negative then ⊥ else ⊤) = point := by
  cases x with
  | nan => cases h
  | infinite negative => exact ⟨negative, rfl, Option.some.inj h⟩
  | finite negative units magnitude =>
    rw [value?_finite] at h
    exact absurd (Option.some.inj h) (hpoint _)

/-! ## Printed numbers -/

/-- The printed number is at most half a unit of the last place away. -/
theorem value_printed_near (negative : Bool) (units places : ℕ) :
    |(printed negative units places).value - signed negative (units / 2 ^ 1074)| ≤
      1 / 2 / 10 ^ places := by
  show |signed negative (printed negative units places).magnitude - signed negative _| ≤ _
  rw [abs_signed_sub_signed, magnitude_printed, abs_div_pow_sub]
  exact div_le_div_of_nonneg_right (scaledMagnitude_near units places).1 (by positivity)

section Order

variable {negative negative' : Bool} {units units' places : ℕ}

/-- Larger magnitudes are not printed as smaller ones. -/
theorem magnitude_printed_mono (h : (units / 2 ^ 1074 : ℝ) ≤ units' / 2 ^ 1074) :
    (printed negative units places).magnitude ≤ (printed negative' units' places).magnitude := by
  have hunits : units ≤ units' := by
    exact_mod_cast (div_le_div_iff_of_pos_right (by positivity)).mp h
  have hscaled := roundHalfEven_mono unitsPerOne (Nat.mul_le_mul_right (10 ^ places) hunits)
  rw [magnitude_printed, magnitude_printed]
  exact div_le_div_of_nonneg_right (by exact_mod_cast hscaled) (by positivity)

/-- Zero is printed as zero. -/
theorem magnitude_printed_zero (h : (units / 2 ^ 1074 : ℝ) ≤ 0) :
    (printed negative units places).magnitude = 0 := by
  have hzero : units = 0 := by
    by_contra hne
    have hpos : (0 : ℝ) < units := by exact_mod_cast Nat.pos_of_ne_zero hne
    exact absurd h (not_le.mpr (div_pos hpos (by positivity)))
  rw [magnitude_printed, hzero, scaledMagnitude_zero, Nat.cast_zero, zero_div]

/-- Larger numbers are not printed as smaller ones. -/
theorem value_printed_mono
    (h : signed negative (units / 2 ^ 1074) ≤ signed negative' (units' / 2 ^ 1074)) :
    (printed negative units places).value ≤ (printed negative' units' places).value := by
  have hprinted := (printed negative units places).magnitude_nonneg
  have hprinted' := (printed negative' units' places).magnitude_nonneg
  show signed negative _ ≤ signed negative' _
  cases negative with
  | true =>
    cases negative' with
    | true => exact neg_le_neg (magnitude_printed_mono (neg_le_neg_iff.mp h))
    | false => exact (neg_nonpos.mpr hprinted).trans hprinted'
  | false =>
    cases negative' with
    | true =>
      -- Both are zero, and the zeros of both signs are printed as zero.
      have hle : (units / 2 ^ 1074 : ℝ) ≤ -(units' / 2 ^ 1074) := h
      have hunits : (0 : ℝ) ≤ units / 2 ^ 1074 := by positivity
      have hunits' : (0 : ℝ) ≤ units' / 2 ^ 1074 := by positivity
      rw [magnitude_printed_zero (hle.trans (neg_nonpos.mpr hunits')),
        magnitude_printed_zero (neg_nonneg.mp (hunits.trans hle))]
      exact neg_zero.ge
    | false => exact magnitude_printed_mono h

end Order

/-- The other sign makes no other difference. -/
theorem fixed_neg (negative : Bool) {units : ℕ} (magnitude : IsMagnitude units) (places : ℕ) :
    (-finite negative units magnitude).fixed places =
      Units.flipSign ((finite negative units magnitude).fixed places) := by
  have hhead : (fixedDigits (scaledMagnitude units places) places).head? ≠ some '-' :=
    Units.head?_toDigits_append _ _
  exact (Units.flipSign_ofList negative hhead).symm

/-- What the texts of numbers with a fixed count of decimal places say. The decimals in it are told by
the texts alone. -/
structure PrintsNumbers (places : ℕ) : Prop where
  /-- A finite number is printed as the nearest decimal with that many places, under its own
  sign, also where the decimal is zero. -/
  finite : ∀ (x : Binary64) (v : ℝ), x.value? = some (v : EReal) → ∃ decimal : WrittenDecimal,
    x.fixed places = decimal.text ∧ x.sign? = some decimal.negative ∧ decimal.places = places ∧
      decimal.IsNearest |v|
  /-- The printed number is at most half a unit of the last place away. -/
  near : ∀ (x : Binary64) (v : ℝ) (decimal : WrittenDecimal), x.value? = some (v : EReal) →
    x.fixed places = decimal.text → |decimal.value - v| ≤ 1 / 2 / 10 ^ places
  /-- The printed numbers are in the order of the numbers. -/
  monotone : ∀ (x y : Binary64) (v w : ℝ) (left right : WrittenDecimal),
    x.value? = some (v : EReal) → y.value? = some (w : EReal) → v ≤ w →
      x.fixed places = left.text → y.fixed places = right.text → left.value ≤ right.value
  /-- The number with the other sign is printed with the other sign. -/
  negated : ∀ (x : Binary64) (v : ℝ), x.value? = some (v : EReal) →
    (-x).value? = some ((-v : ℝ) : EReal) ∧ (-x).sign? = x.sign?.map (! ·) ∧
      (-x).fixed places = Units.flipSign (x.fixed places)
  noNumber : ∀ x : Binary64, x.value? = none → x.fixed places = "NaN"
  above : ∀ x : Binary64, x.value? = some ⊤ → x.fixed places = "+Inf"
  below : ∀ x : Binary64, x.value? = some ⊥ → x.fixed places = "-Inf"

/-- Numbers are printed like that with any count of decimal places. -/
theorem printsNumbers (places : ℕ) : PrintsNumbers places where
  finite x v h := by
    obtain ⟨negative, units, magnitude, rfl, rfl⟩ := eq_finite_of_value? h
    refine ⟨printed negative units places, fixed_finite negative units places magnitude, rfl,
      places_printed _ _ _, ?_⟩
    rw [abs_signed, abs_of_nonneg (by positivity)]
    exact isNearest_printed negative units places
  near x v decimal h htext := by
    obtain ⟨negative, units, magnitude, rfl, rfl⟩ := eq_finite_of_value? h
    rw [fixed_finite] at htext
    rw [← WrittenDecimal.text_injective htext]
    exact value_printed_near negative units places
  monotone x y v w left right hx hy hle hleft hright := by
    obtain ⟨negative, units, magnitude, rfl, rfl⟩ := eq_finite_of_value? hx
    obtain ⟨negative', units', magnitude', rfl, rfl⟩ := eq_finite_of_value? hy
    rw [fixed_finite] at hleft hright
    rw [← WrittenDecimal.text_injective hleft, ← WrittenDecimal.text_injective hright]
    exact value_printed_mono hle
  negated x v h := by
    obtain ⟨negative, units, magnitude, rfl, rfl⟩ := eq_finite_of_value? h
    refine ⟨?_, rfl, fixed_neg negative magnitude places⟩
    rw [← signed_not]
    exact value?_finite (!negative) magnitude
  noNumber x h := by
    cases x with
    | nan => rfl
    | infinite negative => cases h
    | finite negative units magnitude => cases h
  above x h := by
    obtain ⟨negative, rfl, hpoint⟩ := eq_infinite_of_value? h EReal.coe_ne_top
    cases negative with
    | true => exact absurd hpoint bot_ne_top
    | false => rfl
  below x h := by
    obtain ⟨negative, rfl, hpoint⟩ := eq_infinite_of_value? h EReal.coe_ne_bot
    cases negative with
    | true => rfl
    | false => exact absurd hpoint top_ne_bot

/-- Every number is printed as it should be, whatever 64 bits it is. What a number stands for, and
its sign, are those of the bits that encode it, and every number is encoded by some. -/
theorem fixed_printsNumbers :
    (∀ places, PrintsNumbers places) ∧
      (∀ bits, (ofBits bits).value? =
        encodedValue? bits.msb (exponentOf bits) (fractionOf bits)) ∧
      (∀ bits, (ofBits bits).isNaN = false → (ofBits bits).sign? = some bits.msb) ∧
      ∀ x, ∃ bits, ofBits bits = x :=
  ⟨printsNumbers, value?_ofBits, fun _ => sign?_ofBits, exists_ofBits⟩

/-- One eighth is half way between two decimals with two places. -/
example : (ofBits 0x3FC0000000000000#64).fixed 2 = "0.12" := by decide +kernel

/-- The negative number nearest to zero is printed as zero, and still under its sign. -/
example : (ofBits 0x8000000000000001#64).fixed 1 = "-0.0" := by decide +kernel

end LoadWatch.Binary64
