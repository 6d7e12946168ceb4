/-
  Rounding.lean --- rounding a quotient of natural numbers.

  `roundHalfEven num den` is the natural number nearest to `num / den`; a
  quotient half way between two numbers goes to the even one.  Every rounding
  of the library, of binary significands and of decimal digits, is this one.

  Main properties: the result is within half a unit of the quotient
  (`roundHalfEven_near`), a tie gives an even number (`roundHalfEven_even_of_tie`),
  a whole quotient is its own rounding (`roundHalfEven_mul`), and rounding keeps
  the order of quotients (`roundHalfEven_mono`).
-/

set_option autoImplicit false

namespace LoadWatch

/-- The quotient `num / den` rounded to the nearest natural number, a half to the even one. -/
def roundHalfEven (num den : Nat) : Nat :=
  if 2 * (num % den) < den then num / den
  else if den < 2 * (num % den) then num / den + 1
  else num / den + num / den % 2

/-- The rounding is one of the two neighbours of the quotient. -/
theorem roundHalfEven_eq_or (num den : Nat) :
    roundHalfEven num den = num / den ∨ roundHalfEven num den = num / den + 1 := by
  unfold roundHalfEven
  split
  · exact .inl rfl
  · split
    · exact .inr rfl
    · rcases Nat.mod_two_eq_zero_or_one (num / den) with h | h
      · exact .inl (by rw [h, Nat.add_zero])
      · exact .inr (by rw [h])

/-- The rounding is at most half a unit away from the quotient. -/
theorem roundHalfEven_near (num : Nat) {den : Nat} (hden : 0 < den) :
    2 * num ≤ 2 * (roundHalfEven num den * den) + den ∧
      2 * (roundHalfEven num den * den) ≤ 2 * num + den := by
  have hdiv := Nat.div_add_mod num den
  have hmod := Nat.mod_lt num hden
  rw [Nat.mul_comm] at hdiv
  unfold roundHalfEven
  split
  · constructor <;> omega
  · split
    · rw [Nat.add_mul]
      constructor <;> omega
    · rcases Nat.mod_two_eq_zero_or_one (num / den) with h | h
      · rw [h, Nat.add_zero]
        constructor <;> omega
      · rw [h, Nat.add_mul]
        constructor <;> omega

/-- A quotient half way between two numbers is rounded to the even one. -/
theorem roundHalfEven_even_of_tie {num den : Nat} (h : 2 * (num % den) = den) :
    roundHalfEven num den % 2 = 0 := by
  unfold roundHalfEven
  rw [if_neg (by omega), if_neg (by omega)]
  omega

/-- A whole quotient is its own rounding. -/
theorem roundHalfEven_mul (n : Nat) {den : Nat} (hden : 0 < den) :
    roundHalfEven (n * den) den = n := by
  have hmod : n * den % den = 0 := Nat.mul_mod_left n den
  unfold roundHalfEven
  rw [hmod, if_pos (by omega), Nat.mul_div_cancel n hden]

/-- A quotient at most `bound` has a rounding at most `bound`. -/
theorem roundHalfEven_le {num den bound : Nat} (h : num / den < bound) :
    roundHalfEven num den ≤ bound := by
  rcases roundHalfEven_eq_or num den with he | he <;> omega

/-- A larger quotient is not rounded to a smaller number. -/
theorem roundHalfEven_mono {num num' : Nat} (den : Nat) (h : num ≤ num') :
    roundHalfEven num den ≤ roundHalfEven num' den := by
  have hdiv : num / den ≤ num' / den := Nat.div_le_div_right h
  have hupper : roundHalfEven num den ≤ num / den + 1 := by
    rcases roundHalfEven_eq_or num den with he | he <;> omega
  have hlower : num' / den ≤ roundHalfEven num' den := by
    rcases roundHalfEven_eq_or num' den with he | he <;> omega
  rcases Nat.lt_or_eq_of_le hdiv with hlt | heq
  · exact Nat.le_trans hupper (Nat.le_trans hlt hlower)
  · -- Between the same two neighbours, only what is left over counts.
    have hnum := Nat.div_add_mod num den
    have hnum' := Nat.div_add_mod num' den
    have hmod : num % den ≤ num' % den := by
      rw [← heq] at hnum'
      omega
    unfold roundHalfEven
    rw [← heq]
    have hparity := Nat.mod_two_eq_zero_or_one (num / den)
    repeat' split
    all_goals omega

end LoadWatch
