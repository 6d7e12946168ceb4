/-
  Binary64/Basic.lean --- binary floating point numbers of 64 bits.

  A number is not a number, an infinity, or finite.  The magnitude of a finite
  number is counted in units of 2^-1074, the smallest step of the format, so
  that it is a natural number and every operation is exact arithmetic followed
  by one rounding, `ofRatio`: to a significand of at most 53 bits, a tie to the
  even one, and to an infinity where the magnitude would reach 2^1024.

  Main properties: a rounded magnitude is a magnitude of the format
  (`isMagnitude_roundUnits`), and a magnitude of the format is its own rounding
  (`roundUnits_of_isMagnitude`).
-/
import LoadWatch.Int64Range
import LoadWatch.Rounding

set_option autoImplicit false

namespace LoadWatch

namespace Binary64

-- Powers of natural numbers are those of `Nat`, also where other powers are in scope; a literal
-- exponent carries its type for that reason.
attribute [local instance (2000)] instPowNat

/-- The number of units in one: the unit is 2^-1074. -/
def unitsPerOne : Nat := 2 ^ (1074 : Nat)

/-- Magnitudes from here on, 2^1024 in units, are infinite. -/
def limit : Nat := 2 ^ (2098 : Nat)

/-- The magnitudes of finite numbers, in units: a significand of at most 53 bits times a
power of two, below the limit. -/
def IsMagnitude (units : Nat) : Prop :=
  units < limit ∧
    ∃ significand shift : Nat, significand < 2 ^ (53 : Nat) ∧ units = significand * 2 ^ shift

end Binary64

/-- A binary floating point number of 64 bits. -/
inductive Binary64 where
  /-- Not a number. -/
  | nan
  /-- An infinity with its sign. -/
  | infinite (negative : Bool)
  /-- A finite number, whose magnitude is counted in units of 2^-1074. -/
  | finite (negative : Bool) (units : Nat) (magnitude : Binary64.IsMagnitude units)
  deriving DecidableEq

namespace Binary64

attribute [local instance (2000)] instPowNat

/-! ## Rounding -/

/-- The power of two, in units, of the last bit of a 53-bit significand for `num / den`. -/
def lastBit (num den : Nat) : Nat := (num / den).log2 - 52

/-- The quotient `num / den`, in units, rounded to a significand of 53 bits. -/
def roundUnits (num den : Nat) : Nat :=
  roundHalfEven num (den * 2 ^ lastBit num den) * 2 ^ lastBit num den

/-- The rounded significand has at most 53 bits, or is 2^53. -/
theorem roundHalfEven_lastBit_le (num den : Nat) :
    roundHalfEven num (den * 2 ^ lastBit num den) ≤ 2 ^ (53 : Nat) := by
  refine roundHalfEven_le ?_
  rw [← Nat.div_div_eq_div_mul, Nat.div_lt_iff_lt_mul (Nat.two_pow_pos _), ← Nat.pow_add]
  refine Nat.lt_of_lt_of_le Nat.lt_log2_self (Nat.pow_le_pow_right (by decide) ?_)
  unfold lastBit
  omega

/-- A rounded magnitude below the limit is a magnitude of the format. -/
theorem isMagnitude_roundUnits {num den : Nat} (h : roundUnits num den < limit) :
    IsMagnitude (roundUnits num den) := by
  refine ⟨h, ?_⟩
  rcases Nat.lt_or_eq_of_le (roundHalfEven_lastBit_le num den) with hlt | heq
  · exact ⟨_, _, hlt, rfl⟩
  · refine ⟨1, 53 + lastBit num den, by decide, ?_⟩
    rw [roundUnits, heq, Nat.pow_add, Nat.one_mul]

/-- The number nearest to `num / den` units with the given sign; an infinity if that is out of
the range of finite numbers. -/
def ofRatio (negative : Bool) (num den : Nat) : Binary64 :=
  if h : roundUnits num den < limit then
    .finite negative (roundUnits num den) (isMagnitude_roundUnits h)
  else .infinite negative

/-- A magnitude of the format is its own rounding. -/
theorem roundUnits_of_isMagnitude {units : Nat} (h : IsMagnitude units) {den : Nat}
    (hden : 0 < den) : roundUnits (units * den) den = units := by
  have ⟨significand, shift, hs, hu⟩ := h.2
  clear h
  subst hu
  rw [roundUnits, lastBit, Nat.mul_div_cancel _ hden]
  by_cases hz : significand = 0
  · subst hz
    simp [roundHalfEven]
  · generalize hk : (significand * 2 ^ shift).log2 - 52 = k
    have hpos : significand * 2 ^ shift ≠ 0 :=
      Nat.mul_ne_zero hz (Nat.ne_of_gt (Nat.two_pow_pos _))
    have hlog : (significand * 2 ^ shift).log2 < 53 + shift := by
      rw [Nat.log2_lt hpos, Nat.pow_add]
      exact Nat.mul_lt_mul_of_pos_right hs (Nat.two_pow_pos _)
    have hle : k ≤ shift := by omega
    obtain ⟨rest, rfl⟩ := Nat.exists_eq_add_of_le hle
    have hsplit : significand * 2 ^ (k + rest) = significand * 2 ^ rest * 2 ^ k := by
      rw [Nat.pow_add, Nat.mul_assoc, Nat.mul_comm (2 ^ rest)]
    have hnum : significand * 2 ^ (k + rest) * den =
        significand * 2 ^ rest * (den * 2 ^ k) := by
      rw [hsplit, Nat.mul_assoc, Nat.mul_comm (2 ^ k)]
    rw [hnum, roundHalfEven_mul _ (Nat.mul_pos hden (Nat.two_pow_pos _)), hsplit]

/-! ## Constants and conversions -/

/-- Zero is a magnitude. -/
theorem isMagnitude_zero : IsMagnitude 0 :=
  ⟨by rw [limit]; exact Nat.two_pow_pos 2098, 0, 0, by decide, rfl⟩

/-- Zero with the given sign. -/
def zero (negative : Bool) : Binary64 := .finite negative 0 isMagnitude_zero

/-- The number nearest to an integer. -/
def ofInt (n : Int) : Binary64 := ofRatio (n < 0) (n.natAbs * unitsPerOne) 1

/-- The number nearest to a natural number. -/
def ofNat (n : Nat) : Binary64 := ofRatio false (n * unitsPerOne) 1

/-- The integer part, towards zero, forced into the range of 64-bit integers; zero for what is
not a number. -/
def toInt64 : Binary64 → Int
  | .nan => 0
  | .infinite negative => if negative then minInt64 else maxInt64
  | .finite negative units _ =>
    let whole : Int := (units / unitsPerOne : Nat)
    clampInt64 (if negative then -whole else whole)

/-! ## Arithmetic -/

/-- The number with the other sign. -/
def neg : Binary64 → Binary64
  | .nan => .nan
  | .infinite negative => .infinite !negative
  | .finite negative units magnitude => .finite (!negative) units magnitude

/-- The number without its sign. -/
def abs : Binary64 → Binary64
  | .nan => .nan
  | .infinite _ => .infinite false
  | .finite _ units magnitude => .finite false units magnitude

/-- The product, rounded once. An infinity times zero is not a number. -/
def mul : Binary64 → Binary64 → Binary64
  | .nan, _ => .nan
  | _, .nan => .nan
  | .infinite s, .infinite t => .infinite (s != t)
  | .infinite s, .finite t units _ => if units = 0 then .nan else .infinite (s != t)
  | .finite s units _, .infinite t => if units = 0 then .nan else .infinite (s != t)
  | .finite s u _, .finite t v _ => ofRatio (s != t) (u * v) unitsPerOne

/-- The quotient, rounded once. A number other than zero divided by zero is an infinity; zero
divided by zero and an infinity divided by an infinity are not numbers. -/
def div : Binary64 → Binary64 → Binary64
  | .nan, _ => .nan
  | _, .nan => .nan
  | .infinite _, .infinite _ => .nan
  | .infinite s, .finite t _ _ => .infinite (s != t)
  | .finite s _ _, .infinite t => zero (s != t)
  | .finite s u _, .finite t v _ =>
    if v = 0 then (if u = 0 then .nan else .infinite (s != t))
    else ofRatio (s != t) (u * unitsPerOne) v

instance : Neg Binary64 := ⟨neg⟩
instance : Mul Binary64 := ⟨mul⟩
instance : Div Binary64 := ⟨div⟩

/-! ## Order -/

/-- The place of a number on the line, in units, with the infinities at the limits. Both zeros
have the same place, and what is not a number has none. -/
def position? : Binary64 → Option Int
  | .nan => none
  | .infinite negative => some (if negative then -(limit : Int) else limit)
  | .finite negative units _ => some (if negative then -(units : Int) else units)

/-- What is not a number. -/
def isNaN : Binary64 → Bool
  | .nan => true
  | _ => false

/-- The left number is at most the right one. Nothing compares with what is not a number. -/
def le (left right : Binary64) : Bool :=
  match left.position?, right.position? with
  | some l, some r => l ≤ r
  | _, _ => false

/-- The larger of two numbers; what is not a number is passed over. -/
def larger (left right : Binary64) : Binary64 :=
  match left.position?, right.position? with
  | none, _ => right
  | _, none => left
  | some l, some r => if l ≤ r then right else left

/-- Exactly what is not a number has no place on the line. -/
theorem position?_eq_none_iff (x : Binary64) : x.position? = none ↔ x.isNaN = true := by
  cases x with
  | nan => exact ⟨fun _ => rfl, fun _ => rfl⟩
  | infinite negative => exact ⟨nofun, nofun⟩
  | finite negative units isMagnitude => exact ⟨nofun, nofun⟩

end Binary64

end LoadWatch
