import Mathlib.Algebra.Order.Field.Power
import Mathlib.Data.Rat.Cast.Order
import ConfigLayers.Binary64.Basic

/-!
# The value of a double

A double stands for a rational number. It is taken for an integer if and only if this number is one,
and then for this integer, whichever of the two zeros it may be.
-/

namespace ConfigLayers.Binary64

/-- The rational number that a double stands for. -/
def value (x : Binary64) : ℚ := signed x.negative x.significand * 2 ^ x.exponent

theorem signed_mul (negative : Bool) (m n : Nat) :
    signed negative (m * n) = signed negative m * n := by
  cases negative <;> simp [signed]

theorem natAbs_signed (negative : Bool) (n : Nat) : (signed negative n).natAbs = n := by
  cases negative <;> simp [signed]

theorem cast_pow2 (n : Nat) : ((pow2 n : Nat) : ℚ) = 2 ^ n := by
  simp [pow2]

variable {x : Binary64} {n : Int}

/-- With an exponent that is not negative the significand is scaled up. -/
theorem value_of_nonneg (h : 0 ≤ x.exponent) :
    x.value = (signed x.negative (x.significand * pow2 x.exponent.toNat) : Int) := by
  obtain ⟨k, hk⟩ := Int.eq_ofNat_of_zero_le h
  rw [value, hk, Int.toNat_natCast, signed_mul, Int.cast_mul, Int.cast_natCast, cast_pow2,
    zpow_natCast]

/-- With a negative one it is divided. -/
theorem value_eq_intCast_iff_of_neg (h : x.exponent < 0) :
    x.value = n ↔ signed x.negative x.significand = n * pow2 (-x.exponent).toNat := by
  obtain ⟨k, hk⟩ := Int.eq_ofNat_of_zero_le (Int.neg_nonneg.mpr h.le)
  have hexponent : x.exponent = -(k : Int) := by omega
  have hne : (2 : ℚ) ^ k ≠ 0 := pow_ne_zero k two_ne_zero
  rw [value, hk, Int.toNat_natCast, hexponent, zpow_neg, zpow_natCast, mul_inv_eq_iff_eq_mul₀ hne,
    ← cast_pow2, ← Int.cast_natCast (pow2 k), ← Int.cast_mul, Int.cast_inj]

/-- A double is taken for the integer that it stands for, if it stands for one. -/
theorem toInt?_eq_some_iff : x.toInt? = some n ↔ x.value = n := by
  rw [toInt?]
  split
  · next h => rw [value_of_nonneg h, Option.some.injEq, Int.cast_inj]
  · next h =>
    rw [value_eq_intCast_iff_of_neg (Int.not_le.mp h)]
    generalize (-x.exponent).toNat = k
    have hpos : (pow2 k : Int) ≠ 0 := Int.natCast_ne_zero.mpr (pow2_pos k).ne'
    split
    · next hrest =>
      have hdivides : x.significand / pow2 k * pow2 k = x.significand :=
        Nat.div_mul_cancel (Nat.dvd_of_mod_eq_zero hrest)
      rw [Option.some.injEq, ← mul_left_inj' hpos, ← signed_mul, hdivides]
    · next hrest =>
      -- an integer would divide the significand without rest
      have hne : signed x.negative x.significand ≠ n * pow2 k := by
        intro heq
        have habs := congrArg Int.natAbs heq
        rw [natAbs_signed, Int.natAbs_mul, Int.natAbs_natCast] at habs
        rw [habs, Nat.mul_mod_left] at hrest
        exact hrest rfl
      simp [hne]

end ConfigLayers.Binary64
