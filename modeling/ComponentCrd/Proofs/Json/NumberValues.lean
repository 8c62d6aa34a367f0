import ComponentCrd.Json.Value
import Mathlib.Algebra.Order.Ring.Rat
import Mathlib.Data.Int.Cast.Lemmas

/-! The value of a number. A double has the value that the binary64 format gives its bits, and this
is the quotient of natural numbers that its magnitude stands for. So the doubles that count as whole
are those with an integer for a value.
-/

namespace ComponentCrd

namespace Magnitude

/-- The value of a magnitude by its bits: 52 bits of a fraction, and above them an exponent. The
lowest exponent has no leading one, and the spacing of the next one.
-/
def value (m : Magnitude) : Rat :=
  let exponent : Nat := m.val / 2 ^ 52
  let fraction : Nat := m.val % 2 ^ 52
  let digits : Nat := if exponent = 0 then fraction else 2 ^ 52 + fraction
  digits * 2 ^ ((max exponent 1 : Nat) - 1075 : Int)

theorem significand_eq (m : Magnitude)
    : m.significand
      = if m.val / 2 ^ 52 = 0 then m.val % 2 ^ 52 else 2 ^ 52 + m.val % 2 ^ 52 := by
  change (if m.val / 2 ^ 52 = 0 then m.val else 2 ^ 52 + m.val % 2 ^ 52) = _
  split <;> omega

/-- The value of a magnitude is the quotient that it is compared and rounded by. -/
theorem value_eq_quotient (m : Magnitude) : m.value = m.quotient.1 / m.quotient.2 := by
  have shift : ((max (m.val / 2 ^ 52) 1 : Nat) - 1075 : Int) = m.shift - (1074 : Nat) := by
    change _ = ((m.val / 2 ^ 52 - 1 : Nat) : Int) - _
    omega
  simp only [value, quotient, Nat.pow_eq, Nat.cast_mul, Nat.cast_pow, Nat.cast_ofNat]
  rw [← significand_eq, shift, zpow_sub₀ two_ne_zero, zpow_natCast, zpow_natCast, mul_div_assoc]

end Magnitude

/-- The value of a number. -/
def Number.value : Number → Rat
  | .integer value => value
  | .float value => if value.negative then -value.magnitude.value else value.magnitude.value

/-- A quotient of natural numbers is an integer exactly if there is no remainder. -/
theorem exists_intCast_div_iff {num den : Nat} (nonzero : (den : Rat) ≠ 0)
    : (∃ integer : Int, (num / den : Rat) = integer) ↔ den ∣ num := by
  simp only [div_eq_iff nonzero]
  constructor
  · rintro ⟨integer, same⟩
    have same : (num : Int) = integer * den := by exact_mod_cast same
    exact Int.natCast_dvd_natCast.mp ⟨integer, same.trans (mul_comm _ _)⟩
  · rintro ⟨count, rfl⟩
    exact ⟨count, by rw [Nat.cast_mul, Int.cast_natCast, mul_comm]⟩

/-- A double counts as whole exactly if its value is an integer. -/
theorem Binary64.isWhole_iff {value : Binary64}
    : value.magnitude.isWhole ↔ ∃ integer : Int, (Number.float value).value = integer := by
  have den : (value.magnitude.quotient.2 : Rat) ≠ 0 := by
    simp only [Magnitude.quotient, Nat.pow_eq, Nat.cast_pow]
    exact pow_ne_zero _ two_ne_zero
  have remainder
      : value.magnitude.isWhole
        ↔ value.magnitude.quotient.2 ∣ value.magnitude.quotient.1 := by
    simp only [Magnitude.isWhole, beq_iff_eq, Nat.dvd_iff_mod_eq_zero]
  rw [remainder, ← exists_intCast_div_iff den, ← Magnitude.value_eq_quotient, Number.value]
  split
  · rw [neg_surjective.exists]
    simp only [Int.cast_neg, neg_eq_iff_eq_neg]
  · rfl

end ComponentCrd
