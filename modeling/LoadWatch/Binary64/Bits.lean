/-
  Binary64/Bits.lean --- the interchange format of binary floating point numbers.

  A number is encoded in 64 bits: the sign, eleven bits of exponent, and the 52
  bits of the significand below its leading one.  What is not a number has many
  encodings, of either sign; all of them are read, and none is written here.

  Main property: the bits that are read are those of a magnitude of the format
  (`isMagnitude_encodedUnits`).
-/
import LoadWatch.Binary64.Basic

set_option autoImplicit false

namespace LoadWatch.Binary64

-- Powers of natural numbers are those of `Nat`, also where other powers are in scope.
attribute [local instance (2000)] instPowNat

/-! ## Writing -/

/-- The exponent and significand bits of a finite magnitude. -/
def magnitudeBits (units : Nat) : Nat :=
  let exponent := units.log2 - 52
  exponent * 2 ^ (52 : Nat) + units / 2 ^ exponent

/-- The bit of the sign. -/
def signBit (negative : Bool) : Nat := if negative then 2 ^ (63 : Nat) else 0

/-- The 64 bits of a number, none for what is not a number. -/
def bits? : Binary64 → Option Nat
  | .nan => none
  | .infinite negative => some (signBit negative + 2047 * 2 ^ (52 : Nat))
  | .finite negative units _ => some (signBit negative + magnitudeBits units)

/-! ## Reading -/

/-- The exponent among 64 bits, as it is written. -/
def exponentOf (bits : BitVec 64) : Nat := bits.toNat / 2 ^ (52 : Nat) % 2 ^ (11 : Nat)

/-- The bits of the significand below its leading one. -/
def fractionOf (bits : BitVec 64) : Nat := bits.toNat % 2 ^ (52 : Nat)

/-- The magnitude with the given exponent and fraction, in units. The exponent zero stands for
numbers without a leading one. -/
def encodedUnits (exponent fraction : Nat) : Nat :=
  if exponent = 0 then fraction else (2 ^ (52 : Nat) + fraction) * 2 ^ (exponent - 1)

theorem fractionOf_lt (bits : BitVec 64) : fractionOf bits < 2 ^ (52 : Nat) :=
  Nat.mod_lt _ (Nat.two_pow_pos 52)

theorem exponentOf_lt (bits : BitVec 64) : exponentOf bits < 2048 :=
  Nat.mod_lt _ (Nat.two_pow_pos 11)

/-- Every exponent but the last one is that of magnitudes of the format. -/
theorem isMagnitude_encodedUnits {exponent fraction : Nat} (hexponent : exponent < 2047)
    (hfraction : fraction < 2 ^ (52 : Nat)) : IsMagnitude (encodedUnits exponent fraction) := by
  have hshift : ∃ significand shift : Nat, significand < 2 ^ (53 : Nat) ∧ shift ≤ 2045 ∧
      encodedUnits exponent fraction = significand * 2 ^ shift := by
    by_cases hzero : exponent = 0
    · exact ⟨fraction, 0, by omega, by omega, by simp [encodedUnits, hzero]⟩
    · exact ⟨2 ^ (52 : Nat) + fraction, exponent - 1, by omega, by omega,
        by rw [encodedUnits, if_neg hzero]⟩
  obtain ⟨significand, shift, hsignificand, hle, heq⟩ := hshift
  have hbelow : ∀ top : Nat, 53 + shift ≤ top → significand * 2 ^ shift < 2 ^ top := by
    intro top htop
    calc significand * 2 ^ shift < 2 ^ (53 : Nat) * 2 ^ shift :=
          Nat.mul_lt_mul_of_pos_right hsignificand (Nat.two_pow_pos shift)
      _ = 2 ^ (53 + shift) := (Nat.pow_add 2 53 shift).symm
      _ ≤ 2 ^ top := Nat.pow_le_pow_right Nat.two_pos htop
  refine ⟨?_, significand, shift, hsignificand, heq⟩
  rw [heq, limit]
  exact hbelow 2098 (by omega)

/-- The number that 64 bits encode. -/
def ofBits (bits : BitVec 64) : Binary64 :=
  if h : exponentOf bits < 2047 then
    .finite bits.msb (encodedUnits (exponentOf bits) (fractionOf bits))
      (isMagnitude_encodedUnits h (fractionOf_lt bits))
  else if fractionOf bits = 0 then .infinite bits.msb
  else .nan

end LoadWatch.Binary64
