import Mathlib.Data.Nat.Basic
import Mathlib.Tactic.Ring

/-!
# Rounding by masks

`x &&& ~~~(unit - 1)` rounds a machine word down to a multiple of `unit` when `unit` is a power of
two.
-/

namespace HermOS

/-- Of two multiples the smaller one is at least one unit below. -/
theorem add_le_of_dvd {unit small large : ℕ} (small_dvd : unit ∣ small) (large_dvd : unit ∣ large)
    (less : small < large) : small + unit ≤ large := by
  obtain ⟨count, rfl⟩ := small_dvd
  obtain ⟨more, rfl⟩ := large_dvd
  rw [← Nat.mul_succ]
  exact Nat.mul_le_mul_left unit (Nat.lt_of_mul_lt_mul_left less)

/-- Clear the low bits of a word; rounds down to a multiple of a power of two. -/
def clearBelow (word unit : UInt64) : UInt64 := word &&& ~~~(unit - 1)

theorem and_two_pow_complement (value exponent width : ℕ) (fits : value < 2 ^ width) :
    value &&& (2 ^ width - (2 ^ exponent - 1 + 1)) = value / 2 ^ exponent * 2 ^ exponent := by
  by_cases small : exponent < width
  · have below : 2 ^ exponent - 1 < 2 ^ width := by
      have := Nat.pow_lt_pow_right (a := 2) (by decide) small
      omega
    rw [← Nat.shiftRight_eq_div_pow, ← Nat.shiftLeft_eq]
    apply Nat.eq_of_testBit_eq
    intro index
    rw [Nat.testBit_and, Nat.testBit_two_pow_sub_succ below, Nat.testBit_two_pow_sub_one,
      Nat.testBit_shiftLeft, Nat.testBit_shiftRight]
    by_cases low : index < exponent
    · simp [low, Nat.not_le.mpr low]
    · have high : exponent ≤ index := Nat.le_of_not_lt low
      by_cases inside : index < width
      · simp [low, high, inside]
      · have zero : value.testBit index = false := by
          apply Nat.testBit_lt_two_pow
          exact fits.trans_le (Nat.pow_le_pow_right (by decide) (Nat.le_of_not_lt inside))
        simp [low, high, inside, zero]
  · have wide : 2 ^ width ≤ 2 ^ exponent :=
      Nat.pow_le_pow_right (by decide) (Nat.le_of_not_lt small)
    have positive : 0 < 2 ^ exponent := Nat.two_pow_pos exponent
    rw [Nat.div_eq_of_lt (fits.trans_le wide), Nat.sub_add_cancel positive,
      Nat.sub_eq_zero_of_le wide]
    simp

/-- The mask rounds down to a multiple of a power of two. -/
theorem clearBelow_toNat {word unit : UInt64} (power : unit.toNat.isPowerOfTwo) :
    (clearBelow word unit).toNat = word.toNat / unit.toNat * unit.toNat := by
  obtain ⟨exponent, unit_eq⟩ := power
  have one_le : (1 : UInt64) ≤ unit := by
    rw [UInt64.le_iff_toNat_le, unit_eq]
    exact Nat.two_pow_pos exponent
  have mask : (~~~(unit - 1)).toNat = 2 ^ 64 - (2 ^ exponent - 1 + 1) := by
    rw [UInt64.toNat_not, UInt64.toNat_sub_of_le _ _ one_le, unit_eq]
    simp only [UInt64.size, UInt64.toNat_one]
    omega
  rw [clearBelow, UInt64.toNat_and, mask,
    and_two_pow_complement _ exponent 64 word.toNat_lt, unit_eq]

theorem clearBelow_le {word unit : UInt64} (power : unit.toNat.isPowerOfTwo) :
    clearBelow word unit ≤ word := by
  rw [UInt64.le_iff_toNat_le, clearBelow_toNat power]
  exact Nat.div_mul_le_self _ _

/-- A word splits into its rounded part and its offset, without wrap-around. -/
theorem clearBelow_add_sub {word unit : UInt64} (power : unit.toNat.isPowerOfTwo) :
    (clearBelow word unit).toNat + (word - clearBelow word unit).toNat = word.toNat := by
  have below := @clearBelow_le word unit power
  rw [UInt64.toNat_sub_of_le _ _ below]
  have := UInt64.le_iff_toNat_le.mp below
  omega

end HermOS
