/-
  Proofs/UnitAmounts.lean --- the unit and the number that an amount is shown with.

  WHAT THIS FILE IS FOR.  An amount is divided by its base again and again, and
  every quotient is rounded.  So it is not obvious that the loop stops at the
  right unit: an amount just below a power of the base could be rounded up to
  the power, and be divided once more.

  Rounding keeps the order of quotients, so that the quotients of all amounts are
  on the same side of the base as those of the two integers around the power
  (`Separates`), and these are computed (`isBase_thousand`, `isBase_kibi`).  From
  there on, the loop is followed by induction on the divisions that are left
  (`IsBase.shift_eq`), and stops at the largest unit that is not above the amount
  (`IsBase.shift_ofInt`).

  Divisions by 1024 are exact for integers of up to 53 bits, and only the tenths
  shown are rounded (`scaledMagnitude_kibi`).  The sign has no part in any of
  this (`IsBase.format_eq`), and the two ends of the range, which differ by one,
  are the same number (`IsBase.magnitudeText_ends`).

  Main result: `amountTexts`.
-/
import Mathlib.Algebra.Order.Group.Abs
import Mathlib.Data.Nat.Find
import Mathlib.Order.Bounds.Defs
import Mathlib.Tactic.Linarith
import LoadWatch.Proofs.ExactNumbers
import LoadWatch.Proofs.RatioCells

set_option autoImplicit false

namespace LoadWatch.Units

open Binary64 (unitsPerOne roundUnits roundUnits_mono IsMagnitude scaledMagnitude)

attribute [local instance (2000)] instPowNat

/-! ## The loop -/

/-- A number and how often it was divided. -/
abbrev State := Binary64 × Nat

/-- One pass of the loop: a number whose magnitude is not below the base is divided by it, if there
is a larger unit left. -/
inductive Pass (base largest : Nat) : State → State → Prop
  | divide {number : Binary64} {count : Nat} (atLeast : (Binary64.ofNat base).le number.abs = true)
      (room : count < largest) :
      Pass base largest (number, count) (number / Binary64.ofNat base, count + 1)

/-- The loop ends in a state, which no pass leaves. -/
inductive Ends (base largest : Nat) : State → State → Prop
  | here {state : State} (stuck : ∀ next, ¬ Pass base largest state next) :
      Ends base largest state state
  | pass {state next final : State} (pass : Pass base largest state next)
      (rest : Ends base largest next final) : Ends base largest state final

variable {base largest : Nat}

theorem Pass.unique {state next other : State} (h : Pass base largest state next)
    (h' : Pass base largest state other) : next = other := by
  cases h
  cases h'
  rfl

/-- The loop can end in one state only. -/
theorem Ends.unique {state final other : State} (h : Ends base largest state final)
    (h' : Ends base largest state other) : final = other := by
  induction h with
  | here stuck =>
    cases h' with
    | here _ => rfl
    | pass hpass _ => exact absurd hpass (stuck _)
  | pass hpass _ ih =>
    cases h' with
    | here stuck => exact absurd hpass (stuck _)
    | pass hother hrest => exact ih (hpass.unique hother ▸ hrest)

theorem shift_of_le {shifts : Nat} {number : Binary64}
    (h : (Binary64.ofNat base).le number.abs = true) :
    shift base (shifts + 1) number = ((shift base shifts (number / Binary64.ofNat base)).1,
      (shift base shifts (number / Binary64.ofNat base)).2 + 1) := by
  rw [shift, if_pos h]

theorem shift_of_not_le {shifts : Nat} {number : Binary64}
    (h : ¬ (Binary64.ofNat base).le number.abs = true) :
    shift base (shifts + 1) number = (number, 0) := by
  rw [shift, if_neg h]

/-- It ends where the divisions end. -/
theorem ends_shift {shifts count : Nat} (h : count + shifts = largest) (number : Binary64) :
    Ends base largest (number, count)
      ((shift base shifts number).1, count + (shift base shifts number).2) := by
  induction shifts generalizing number count with
  | zero =>
    refine .here fun next hpass => ?_
    cases hpass with
    | divide _ room => exact absurd h (Nat.ne_of_lt room)
  | succ shifts ih =>
    by_cases hle : (Binary64.ofNat base).le number.abs = true
    · rw [shift_of_le hle, ← Nat.add_assoc, Nat.add_right_comm]
      exact .pass (.divide hle (by omega)) (ih (by omega) _)
    · rw [shift_of_not_le hle]
      refine .here fun next hpass => ?_
      cases hpass with
      | divide atLeast _ => exact absurd atLeast hle

theorem ends_of_shift {number final : Binary64} {k : Nat}
    (h : shift base largest number = (final, k)) : Ends base largest (number, 0) (final, k) := by
  have hends : Ends base largest (number, 0) _ := ends_shift (Nat.zero_add largest) number
  rwa [h, Nat.zero_add] at hends

/-! ## Magnitudes that are divided -/

/-- The magnitude of an amount that was divided by the base the given number of times, each
quotient rounded. -/
def quotientUnits (base magnitude : Nat) : Nat → Nat
  | 0 => roundUnits (magnitude * unitsPerOne) 1
  | count + 1 => roundUnits (quotientUnits base magnitude count) base

/-- Larger amounts have larger quotients. -/
theorem quotientUnits_mono {n m : Nat} (h : n ≤ m) (count : Nat) :
    quotientUnits base n count ≤ quotientUnits base m count := by
  induction count with
  | zero => exact roundUnits_mono 1 (Nat.mul_le_mul_right _ h)
  | succ count ih => exact roundUnits_mono base ih

/-- Around every power of the base, the quotients are on their side of the base. -/
def Separates (base : Nat) : Prop := ∀ count < 4,
  base * unitsPerOne ≤ quotientUnits base (base ^ (count + 1)) count ∧
    quotientUnits base (base ^ (count + 1) - 1) count < base * unitsPerOne

instance (base : Nat) : Decidable (Separates base) := Nat.decidableBallLT 4 _

/-- A rounded quotient is below the base exactly if the amount is below the power. -/
theorem Separates.le_quotientUnits_iff (h : Separates base) {count : Nat} (hcount : count < 4)
    (magnitude : Nat) :
    base * unitsPerOne ≤ quotientUnits base magnitude count ↔ base ^ (count + 1) ≤ magnitude := by
  obtain ⟨hat, hbelow⟩ := h count hcount
  constructor
  · intro hle
    by_contra hlt
    -- The integer right below the power stands for all amounts that are below it.
    have hpred : magnitude ≤ base ^ (count + 1) - 1 := by omega
    exact absurd (Nat.lt_of_le_of_lt (quotientUnits_mono hpred count) hbelow) (Nat.not_lt.mpr hle)
  · intro hle
    exact Nat.le_trans hat (quotientUnits_mono hle count)

/-- What is asked of the base of the units. -/
structure IsBase (base : Nat) : Prop where
  one_lt : 1 < base
  fits : Binary64.FitsSignificand base
  /-- The largest amounts are shown in the largest unit. -/
  pow_le : base ^ 4 ≤ 9223372036854775807
  separates : Separates base

theorem isBase_thousand : IsBase 1000 := ⟨by decide, by decide, by decide, by decide +kernel⟩

theorem isBase_kibi : IsBase 1024 := ⟨by decide, by decide, by decide, by decide +kernel⟩

/-! ## Numbers that are divided -/

theorem IsBase.ofNat_eq (h : IsBase base) :
    ∃ magnitude, Binary64.ofNat base = .finite false (base * unitsPerOne) magnitude := by
  obtain ⟨magnitude, heq⟩ := Binary64.ofInt_eq_finite h.fits
  rw [Binary64.ofInt_natCast] at heq
  exact ⟨magnitude, heq⟩

/-- A quotient by a base is not out of range. -/
theorem IsBase.div_eq (h : IsBase base) (negative : Bool) {units : Nat}
    (magnitude : IsMagnitude units) : ∃ magnitude',
      Binary64.finite negative units magnitude / Binary64.ofNat base =
        .finite negative (roundUnits units base) magnitude' := by
  have hpos : 0 < base := Nat.zero_lt_of_lt h.one_lt
  have hlt : roundUnits units base < Binary64.limit := by
    calc roundUnits units base ≤ roundUnits (units * base) base :=
          roundUnits_mono base (Nat.le_mul_of_pos_right units hpos)
      _ = units := Binary64.roundUnits_of_isMagnitude magnitude hpos
      _ < Binary64.limit := magnitude.1
  have hround := Binary64.roundUnits_mul_right units base Binary64.unitsPerOne_pos
  have hscaled : roundUnits (units * unitsPerOne) (base * unitsPerOne) < Binary64.limit := by
    rwa [hround]
  obtain ⟨_, hbase⟩ := h.ofNat_eq
  refine ⟨Binary64.isMagnitude_roundUnits hlt, ?_⟩
  rw [hbase, Binary64.finite_div_finite (Nat.mul_pos hpos Binary64.unitsPerOne_pos),
    Bool.bne_false, Binary64.ofRatio, dif_pos hscaled]
  simp only [hround]

/-- The condition of the loop compares magnitudes. -/
theorem IsBase.le_abs_iff (h : IsBase base) (negative : Bool) {units : Nat}
    (magnitude : IsMagnitude units) :
    (Binary64.ofNat base).le (Binary64.finite negative units magnitude).abs = true ↔
      base * unitsPerOne ≤ units := by
  obtain ⟨_, hbase⟩ := h.ofNat_eq
  rw [hbase, Binary64.le, Binary64.abs]
  simp only [Binary64.position?, Bool.false_eq_true, if_false, decide_eq_true_eq]
  omega

/-- From an amount that was divided some times already, the loop goes on to the first quotient below
the base, or as far as it may. -/
theorem IsBase.shift_eq (h : IsBase base) (negative : Bool) (n shifts count : Nat)
    (hcount : count + shifts ≤ 4) (magnitude : IsMagnitude (quotientUnits base n count)) :
    ∃ k final magnitude', final = count + k ∧
      shift base shifts (.finite negative (quotientUnits base n count) magnitude) =
        (.finite negative (quotientUnits base n final) magnitude', k) ∧
      k ≤ shifts ∧ (k ≠ 0 → base ^ final ≤ n) ∧ (k < shifts → n < base ^ (final + 1)) := by
  -- The number in the loop is the quotient of the amount itself, so that every pass is decided by
  -- the amount and a power of the base, whatever was rounded before.
  induction shifts generalizing count with
  | zero => exact ⟨0, count, magnitude, rfl, rfl, Nat.le_refl 0, nofun, nofun⟩
  | succ shifts ih =>
    have hiff := (h.le_abs_iff negative magnitude).trans
      (h.separates.le_quotientUnits_iff (by omega) n)
    by_cases hle : base ^ (count + 1) ≤ n
    · obtain ⟨magnitude', hdiv⟩ := h.div_eq negative magnitude
      obtain ⟨k, final, last, hfinal, hshift, hk, hreached, hstopped⟩ :=
        ih (count + 1) (by omega) magnitude'
      rw [shift_of_le (hiff.mpr hle), hdiv]
      refine ⟨k + 1, final, last, by omega, ?_, Nat.succ_le_succ hk, fun _ => ?_,
        fun hlt => hstopped (Nat.lt_of_succ_lt_succ hlt)⟩
      · exact congrArg (fun state => (state.1, state.2 + 1)) hshift
      · by_cases hzero : k = 0
        · rwa [hfinal, hzero]
        · exact hreached hzero
    · exact ⟨0, count, magnitude, rfl, shift_of_not_le (mt hiff.mp hle), Nat.zero_le _, nofun,
        fun _ => Nat.not_le.mp hle⟩

/-- The unit that suits a magnitude: the largest of the units that are not above it. -/
def unitIndex (base n : Nat) : Nat := Nat.findGreatest (fun k => base ^ k ≤ n) 4

/-- The loop stops at the unit that suits the amount. -/
theorem IsBase.shift_ofInt (h : IsBase base) {a : Int} (hfits : FitsInt64 a) : ∃ magnitude,
    shift base 4 (Binary64.ofInt a) =
      (.finite (decide (a < 0)) (quotientUnits base a.natAbs (unitIndex base a.natAbs)) magnitude,
        unitIndex base a.natAbs) := by
  obtain ⟨magnitude, hnumber⟩ :=
    Binary64.ofRatio_eq_finite (Binary64.below_ofInt_of_fits hfits).isFinite
  obtain ⟨k, final, last, hfinal, hshift, hk, hreached, hstopped⟩ :=
    h.shift_eq (decide (a < 0)) a.natAbs 4 0 (Nat.le_refl 4) magnitude
  rw [Nat.zero_add] at hfinal
  subst hfinal
  have hindex : unitIndex base a.natAbs = final := by
    refine Nat.findGreatest_eq_iff.mpr ⟨hk, hreached, fun j hj hj4 => Nat.not_le.mpr ?_⟩
    calc a.natAbs < base ^ (final + 1) := hstopped (Nat.lt_of_lt_of_le hj hj4)
      _ ≤ base ^ j := Nat.pow_le_pow_right (Nat.zero_lt_of_lt h.one_lt) hj
  rw [hindex]
  exact ⟨last, by rw [Binary64.ofInt, hnumber]; exact hshift⟩

/-! ## Exact quotients -/

/-- Divisions of integers of up to 53 bits by 1024 are exact. -/
theorem quotientUnits_kibi {n count rest : Nat} (hn : n ≤ 2 ^ (53 : Nat))
    (hrest : rest + 10 * count = 1074) : quotientUnits 1024 n count = n * 2 ^ rest := by
  induction count generalizing rest with
  | zero =>
    obtain rfl : rest = 1074 := hrest
    have hexact := Binary64.roundUnits_of_isMagnitude
      (Binary64.isMagnitude_mul_two_pow hn (Nat.le_refl 1074)) Nat.one_pos
    rwa [Nat.mul_one] at hexact
  | succ count ih =>
    have hbefore : quotientUnits 1024 n count = n * 2 ^ (rest + 10) := ih (by omega)
    rw [quotientUnits, hbefore, Nat.pow_add, ← Nat.mul_assoc]
    exact Binary64.roundUnits_of_isMagnitude
      (Binary64.isMagnitude_mul_two_pow hn (by omega)) (by decide)

/-- The tenths of such a quotient are those of the ratio, rounded once. -/
theorem scaledMagnitude_kibi {n count : Nat} (hn : n ≤ 2 ^ (53 : Nat)) (hcount : count ≤ 4) :
    scaledMagnitude (quotientUnits 1024 n count) 1 = roundHalfEven (10 * n) (1024 ^ count) := by
  obtain ⟨rest, hrest⟩ : ∃ rest, rest + 10 * count = 1074 := ⟨1074 - 10 * count, by omega⟩
  have hone : unitsPerOne = 1024 ^ count * 2 ^ rest := by
    rw [unitsPerOne, ← hrest, Nat.add_comm, Nat.pow_add, Nat.pow_mul]
  rw [quotientUnits_kibi hn hrest, scaledMagnitude, hone, Nat.pow_one, Nat.mul_right_comm,
    roundHalfEven_mul_right _ _ (Nat.two_pow_pos rest), Nat.mul_comm]

/-! ## Nearest numbers -/

/-- The number is the nearest one to a ratio, of two equally near ones the even one. -/
def IsNearestEven (number : Nat) (ratio : ℚ) : Prop :=
  |ratio - number| ≤ 1 / 2 ∧ (|ratio - number| = 1 / 2 → number % 2 = 0)

/-- A ratio half way between two numbers leaves half of the divisor. -/
theorem two_mul_mod_of_tie {num den : Nat} (hden : 0 < den)
    (h : 2 * num = 2 * (roundHalfEven num den * den) + den ∨
      2 * num + den = 2 * (roundHalfEven num den * den)) : 2 * (num % den) = den := by
  have hdiv := Nat.div_add_mod num den
  have hmod := Nat.mod_lt num hden
  rw [Nat.mul_comm] at hdiv
  rcases roundHalfEven_eq_or num den with heq | heq
  · rw [heq] at h
    omega
  · rw [heq, Nat.add_mul] at h
    omega

/-- Rounding a ratio gives the nearest number. -/
theorem isNearestEven_roundHalfEven (num : Nat) {den : Nat} (hden : 0 < den) :
    IsNearestEven (roundHalfEven num den) (num / den) := by
  have hpos : (0 : ℚ) < den := by exact_mod_cast hden
  obtain ⟨hlow, hhigh⟩ := roundHalfEven_near num hden
  have htie := @two_mul_mod_of_tie num den hden
  have heven := @roundHalfEven_even_of_tie num den
  generalize roundHalfEven num den = rounded at hlow hhigh htie heven ⊢
  have hlow' : 2 * (num : ℚ) ≤ 2 * (rounded * den) + den := by exact_mod_cast hlow
  have hhigh' : 2 * ((rounded : ℚ) * den) ≤ 2 * num + den := by exact_mod_cast hhigh
  refine ⟨abs_le.mpr ⟨?_, ?_⟩, fun h => heven (htie ?_)⟩
  · rw [le_sub_iff_add_le, le_div_iff₀ hpos]
    linarith
  · rw [sub_le_iff_le_add, div_le_iff₀ hpos]
    linarith
  · rcases (abs_eq (by norm_num)).mp h with hup | hdown
    · have hnum : (num : ℚ) = (1 / 2 + rounded) * den :=
        (div_eq_iff hpos.ne').mp (sub_eq_iff_eq_add.mp hup)
      have hexact : 2 * (num : ℚ) = 2 * (rounded * den) + den := by linarith
      exact .inl (by exact_mod_cast hexact)
    · have hnum : (num : ℚ) = (-(1 / 2) + rounded) * den :=
        (div_eq_iff hpos.ne').mp (sub_eq_iff_eq_add.mp hdown)
      have hexact : 2 * (num : ℚ) + den = 2 * (rounded * den) := by linarith
      exact .inr (by exact_mod_cast hexact)

/-! ## Texts -/

theorem decimal_eq_toString (n : Int) : decimal n = toString n := by
  cases n with
  | ofNat n =>
    have hsign : ¬ (Int.ofNat n < 0) := by simp
    rw [decimal, Json.integerText, if_neg hsign]
    rfl
  | negSucc n =>
    have hsign : Int.negSucc n < 0 := Int.negSucc_lt_zero n
    rw [decimal, Json.integerText, if_pos hsign, String.ofList_append]
    rfl

/-- The text of a magnitude, without a sign. -/
def magnitudeText (base : Nat) (symbols : List String) (n : Nat) : List Char :=
  (if unitIndex base n = 0 then Nat.toDigits 10 n
    else Binary64.fixedDigits (scaledMagnitude (quotientUnits base n (unitIndex base n)) 1) 1) ++
    (symbols.getD (unitIndex base n) "").toList

/-- The text of an amount follows from where the loop ends. -/
theorem format_of_shift {symbols : List String} (hsymbols : symbols.length = 5) {a : Int}
    {number : Binary64} {k : Nat} (h : shift base 4 (Binary64.ofInt a) = (number, k)) :
    format base symbols a =
      (if k = 0 then decimal a else number.fixed 1) ++ symbols.getD k "" := by
  have hlast : symbols.length - 1 = 4 := by rw [hsymbols]
  rw [format, hlast, h]

/-- An amount is shown by its sign and its magnitude. -/
theorem IsBase.format_eq (h : IsBase base) {symbols : List String} (hsymbols : symbols.length = 5)
    {a : Int} (hfits : FitsInt64 a) : format base symbols a =
      String.ofList (Binary64.signText (decide (a < 0)) ++
        magnitudeText base symbols a.natAbs) := by
  obtain ⟨magnitude, hshift⟩ := h.shift_ofInt hfits
  rw [format_of_shift hsymbols hshift, magnitudeText]
  generalize unitIndex base a.natAbs = k at magnitude ⊢
  by_cases hzero : k = 0
  · simp [hzero, decimal, Json.integerText, Binary64.signText, String.append_assoc]
  · simp [hzero, Binary64.fixed, String.append_assoc]

/-- The text with the other sign. -/
def flipSign (text : String) : String :=
  match text.toList with
  | '-' :: rest => String.ofList rest
  | unsigned => String.ofList ('-' :: unsigned)

theorem flipSign_ofList (negative : Bool) {unsigned : List Char}
    (h : unsigned.head? ≠ some '-') :
    flipSign (String.ofList (Binary64.signText negative ++ unsigned)) =
      String.ofList (Binary64.signText (!negative) ++ unsigned) := by
  cases negative with
  | true => simp [flipSign, Binary64.signText]
  | false =>
    have hunsigned : (String.ofList unsigned).toList = unsigned := String.toList_ofList
    simp only [Binary64.signText, Bool.false_eq_true, if_false, List.nil_append, flipSign]
    split
    · rename_i rest heq
      rw [hunsigned] at heq
      exact absurd (congrArg List.head? heq) h
    · rename_i heq
      simp [hunsigned]

theorem head?_toDigits_append (n : Nat) (rest : List Char) :
    (Nat.toDigits 10 n ++ rest).head? ≠ some '-' := by
  intro h
  rw [List.head?_append_of_ne_nil _ Nat.toDigits_ne_nil] at h
  have hdigit := Nat.isDigit_of_mem_toDigits (by decide) (by decide) (List.mem_of_head? h)
  exact absurd hdigit (by decide)

theorem head?_magnitudeText (base : Nat) (symbols : List String) (n : Nat) :
    (magnitudeText base symbols n).head? ≠ some '-' := by
  rw [magnitudeText]
  split
  · exact head?_toDigits_append _ _
  · rw [Binary64.fixedDigits, List.append_assoc]
    exact head?_toDigits_append _ _

/-! ## The ends of the range -/

theorem quotientUnits_congr {n m : Nat} (h : quotientUnits base n 0 = quotientUnits base m 0)
    (count : Nat) : quotientUnits base n count = quotientUnits base m count := by
  induction count with
  | zero => exact h
  | succ count ih => rw [quotientUnits, quotientUnits, ih]

theorem IsBase.unitIndex_eq (h : IsBase base) {n : Nat} (hn : 9223372036854775807 ≤ n) :
    unitIndex base n = 4 :=
  Nat.findGreatest_eq (Nat.le_trans h.pow_le hn)

/-- The ends of the range are the same number, but for the sign. -/
theorem IsBase.magnitudeText_ends (h : IsBase base) (symbols : List String) :
    magnitudeText base symbols minInt64.natAbs = magnitudeText base symbols maxInt64.natAbs := by
  have hround : roundUnits (minInt64.natAbs * unitsPerOne) 1 =
      roundUnits (maxInt64.natAbs * unitsPerOne) 1 := by decide +kernel
  have hnumber : quotientUnits base minInt64.natAbs 0 = quotientUnits base maxInt64.natAbs 0 := by
    rw [quotientUnits, quotientUnits, hround]
  have hlarge : (4 : Nat) ≠ 0 := by decide
  rw [magnitudeText, magnitudeText, h.unitIndex_eq (by decide), h.unitIndex_eq (by decide),
    if_neg hlarge, if_neg hlarge, quotientUnits_congr hnumber]

/-- Forcing an integer into the range keeps its sign, and takes both ends of it for each other. -/
theorem clampInt64_neg {x : Int} (hx : x ≠ 0) :
    (clampInt64 (-x) < 0 ↔ ¬ clampInt64 x < 0) ∧
      ((clampInt64 (-x)).natAbs = (clampInt64 x).natAbs ∨
        clampInt64 (-x) = minInt64 ∧ clampInt64 x = maxInt64 ∨
        clampInt64 (-x) = maxInt64 ∧ clampInt64 x = minInt64) := by
  unfold clampInt64 minInt64 maxInt64
  omega

/-- An amount with the other sign is shown with the other sign, also where it is forced into the
range. -/
theorem IsBase.format_neg (h : IsBase base) {symbols : List String} (hsymbols : symbols.length = 5)
    {x : Int} (hx : x ≠ 0) : format base symbols (clampInt64 (-x)) =
      flipSign (format base symbols (clampInt64 x)) := by
  obtain ⟨hsign, habs⟩ := clampInt64_neg hx
  have hnegative : decide (clampInt64 (-x) < 0) = !decide (clampInt64 x < 0) := by
    rw [decide_eq_decide.mpr hsign, decide_not]
  have hmagnitude : magnitudeText base symbols (clampInt64 (-x)).natAbs =
      magnitudeText base symbols (clampInt64 x).natAbs := by
    rcases habs with heq | ⟨hlow, hhigh⟩ | ⟨hhigh, hlow⟩
    · rw [heq]
    · rw [hlow, hhigh, h.magnitudeText_ends]
    · rw [hlow, hhigh, h.magnitudeText_ends]
  rw [h.format_eq hsymbols (clampInt64_mem _), h.format_eq hsymbols (clampInt64_mem _),
    flipSign_ofList _ (head?_magnitudeText _ _ _), hnegative, hmagnitude]

/-! ## Amounts -/

/-- What the text of an amount says, for a loop that ends with a number that was divided `k`
times. -/
structure ShowsAmount (base : Nat) (symbols : List String) (a : Int) (text : String)
    (number : Binary64) (k : Nat) : Prop where
  ends : Ends base 4 (Binary64.ofInt a, 0) (number, k)
  /-- The loop does not end in any other state. -/
  only : ∀ final, Ends base 4 (Binary64.ofInt a, 0) final → final = (number, k)
  /-- The unit is the largest one that is not above the amount. -/
  index : a ≠ 0 → IsGreatest {k | k ≤ 4 ∧ base ^ k ≤ a.natAbs} k
  zero : a = 0 → k = 0
  /-- An amount in the smallest unit is shown as it is. -/
  whole : k = 0 → text = toString a ++ symbols.getD 0 ""
  /-- Other amounts are shown with one decimal place. -/
  divided : k ≠ 0 → text = number.fixed 1 ++ symbols.getD k "" ∧ IsDecimal 1 (number.fixed 1)
  /-- In powers of 1024, integers of up to 53 bits are rounded once, to the nearest tenth. -/
  nearest : base = 1024 → a.natAbs ≤ 2 ^ (53 : Nat) → k ≠ 0 → ∃ tenths : Nat,
    IsNearestEven tenths (10 * a.natAbs / 1024 ^ k) ∧
      number.fixed 1 = String.ofList (Binary64.signText (decide (a < 0)) ++
        Nat.toDigits 10 (tenths / 10) ++ ['.', Nat.digitChar (tenths % 10)])
  /-- The other sign makes no other difference. -/
  flipped : a ≠ 0 → a ≠ minInt64 → format base symbols (-a) = flipSign text

theorem isGreatest_unitIndex {n : Nat} (hn : n ≠ 0) :
    IsGreatest {k | k ≤ 4 ∧ base ^ k ≤ n} (unitIndex base n) := by
  have hone : base ^ 0 ≤ n := Nat.one_le_iff_ne_zero.mpr hn
  have hle : base ^ unitIndex base n ≤ n :=
    Nat.findGreatest_spec (P := fun k => base ^ k ≤ n) (Nat.zero_le 4) hone
  exact ⟨⟨Nat.findGreatest_le 4, hle⟩, fun k hk => Nat.le_findGreatest hk.1 hk.2⟩

theorem IsBase.unitIndex_zero (h : IsBase base) : unitIndex base 0 = 0 := by
  refine Nat.findGreatest_eq_zero_iff.mpr fun k _ _ hle => ?_
  exact absurd (Nat.pow_pos (Nat.zero_lt_of_lt h.one_lt)) (Nat.not_lt.mpr hle)

theorem fixedDigits_one (tenths : Nat) : Binary64.fixedDigits tenths 1 =
    Nat.toDigits 10 (tenths / 10) ++ ['.', Nat.digitChar (tenths % 10)] := rfl

/-- Amounts are shown in the unit that suits them. -/
theorem IsBase.showsAmount (h : IsBase base) {symbols : List String}
    (hsymbols : symbols.length = 5) {a : Int} (hfits : FitsInt64 a) :
    ∃ number k, ShowsAmount base symbols a (format base symbols a) number k := by
  obtain ⟨magnitude, hshift⟩ := h.shift_ofInt hfits
  have hends := ends_of_shift hshift
  have htext := format_of_shift hsymbols hshift
  refine ⟨.finite (decide (a < 0)) _ magnitude, unitIndex base a.natAbs, ?_⟩
  constructor
  case ends => exact hends
  case only => exact fun final hfinal => hfinal.unique hends
  case index => exact fun hne => isGreatest_unitIndex (Int.natAbs_ne_zero.mpr hne)
  case zero =>
    rintro rfl
    exact h.unitIndex_zero
  case whole =>
    intro hk
    simp only [htext, hk, if_true, decimal_eq_toString]
  case divided =>
    intro hk
    simp only [htext, hk, if_false, true_and]
    exact Binary64.isDecimal_fixed Nat.one_ne_zero ⟨_, _, _, rfl⟩
  case nearest =>
    rintro rfl hsmall -
    have hindex : unitIndex 1024 a.natAbs ≤ 4 := Nat.findGreatest_le 4
    refine ⟨roundHalfEven (10 * a.natAbs) (1024 ^ unitIndex 1024 a.natAbs), ?_, ?_⟩
    · have hpos : 0 < 1024 ^ unitIndex 1024 a.natAbs := Nat.pow_pos (by decide)
      simpa using isNearestEven_roundHalfEven (10 * a.natAbs) hpos
    · rw [Binary64.fixed, scaledMagnitude_kibi hsmall hindex, fixedDigits_one, List.append_assoc]
  case flipped =>
    intro hne hmin
    have hfits' : FitsInt64 (-a) := by
      unfold FitsInt64 minInt64 maxInt64 at *
      omega
    have hneg := h.format_neg hsymbols hne
    rwa [clampInt64_eq_self hfits.1 hfits.2, clampInt64_eq_self hfits'.1 hfits'.2] at hneg

/-- What is shown of an amount that a server reports. -/
structure AmountTexts (amount : Int) : Prop where
  /-- An amount of bytes is shown in bytes. -/
  bytes : ∃ number k,
    ShowsAmount 1024 ["B", "K", "M", "G", "T"] amount (Units.bytes amount) number k
  /-- An amount of megabytes is shown in bytes, forced into the range. -/
  megabytes : ∃ number k, ShowsAmount 1024 ["B", "K", "M", "G", "T"]
    (clampInt64 (amount * 1048576)) (Units.megabytes amount) number k
  /-- An amount of bytes is shown in bits, forced into the range. -/
  bits : ∃ number k, ShowsAmount 1000 ["b", "k", "m", "g", "t"]
    (clampInt64 (amount * 8)) (Units.bits amount) number k
  /-- The other sign makes no other difference, also at the ends of the range. -/
  flipped : amount ≠ 0 → amount ≠ minInt64 →
    Units.bytes (-amount) = flipSign (Units.bytes amount) ∧
      Units.megabytes (-amount) = flipSign (Units.megabytes amount) ∧
      Units.bits (-amount) = flipSign (Units.bits amount)

/-- Every amount of 64 bits is shown in the unit that suits it. -/
theorem amountTexts {amount : Int} (hfits : FitsInt64 amount) : AmountTexts amount where
  bytes := isBase_kibi.showsAmount rfl hfits
  megabytes := isBase_kibi.showsAmount rfl (clampInt64_mem _)
  bits := isBase_thousand.showsAmount rfl (clampInt64_mem _)
  flipped hne hmin := by
    have hbytes : ∃ number k, ShowsAmount 1024 _ amount (Units.bytes amount) number k :=
      isBase_kibi.showsAmount rfl hfits
    obtain ⟨number, k, hshows⟩ := hbytes
    refine ⟨hshows.flipped hne hmin, ?_, ?_⟩
    · rw [megabytes, bytesOfMegabytes, Int.neg_mul]
      exact isBase_kibi.format_neg rfl (by omega)
    · rw [bits, Int.neg_mul]
      exact isBase_thousand.format_neg rfl (by omega)

/-- The largest amount is out of range in bits, and both signs of it are shown alike. -/
theorem largestAmount_texts : FitsInt64 maxInt64 ∧ AmountTexts maxInt64 ∧
    Units.bits maxInt64 = "9223372.0t" ∧ Units.bits (-maxInt64) = "-9223372.0t" := by
  have hfits : FitsInt64 maxInt64 := by decide
  have htexts := amountTexts hfits
  have hbits : Units.bits maxInt64 = "9223372.0t" := by decide +kernel
  have hflipped := (htexts.flipped (by decide) (by decide)).2.2
  exact ⟨hfits, htexts, hbits, by rw [hflipped, hbits]; rfl⟩

end LoadWatch.Units
