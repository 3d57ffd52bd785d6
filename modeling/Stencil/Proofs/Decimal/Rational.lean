import Mathlib.Algebra.Order.Field.Power
import Mathlib.Algebra.Order.Field.Rat
import Mathlib.Data.Nat.Digits.Lemmas
import Mathlib.Tactic.FieldSimp
import Stencil.Decimal.Rounding

/-!
# The rational numbers that decimals stand for

A decimal stands for its coefficient times a power of ten, with the opposite sign
if it is negative.  Its leading digit tells between which powers of ten the number
lies.
-/

namespace Stencil

namespace Decimal

/-- A coefficient times a power of ten. -/
def scaled (coefficient : Nat) (exponent : Int) : ℚ :=
  coefficient * 10 ^ exponent

/-- The rational number that a decimal stands for. -/
def toRat (decimal : Decimal) : ℚ :=
  if decimal.negative then -scaled decimal.coefficient decimal.exponent
  else scaled decimal.coefficient decimal.exponent

/-! ## Coefficients and powers -/

theorem scaled_nonneg (coefficient : Nat) (exponent : Int) : 0 ≤ scaled coefficient exponent :=
  mul_nonneg (Nat.cast_nonneg coefficient) (zpow_nonneg (by norm_num) exponent)

@[simp] theorem scaled_zero (exponent : Int) : scaled 0 exponent = 0 := by
  simp [scaled]

@[simp] theorem scaled_exponent_zero (coefficient : Nat) : scaled coefficient 0 = coefficient := by
  simp [scaled]

/-- Zeros behind the digits make the exponent smaller. -/
theorem scaled_mul_pow (coefficient count : Nat) (exponent : Int) :
    scaled (coefficient * 10 ^ count) exponent = scaled coefficient (exponent + count) := by
  rw [scaled, scaled, zpow_add₀ (by norm_num), zpow_natCast]
  push_cast
  ring

theorem scaled_ten_pow (count : Nat) (exponent : Int) :
    scaled (10 ^ count) exponent = 10 ^ (exponent + count) := by
  rw [← one_mul (10 ^ count), scaled_mul_pow, scaled, Nat.cast_one, one_mul]

/-- Coefficients at one exponent are compared as they are. -/
theorem scaled_le_scaled_iff
    {left right : Nat}
    {exponent : Int} :
    scaled left exponent ≤ scaled right exponent ↔ left ≤ right := by
  have positive : (0 : ℚ) < 10 ^ exponent := zpow_pos (by norm_num) exponent
  rw [scaled, scaled, mul_le_mul_iff_of_pos_right positive, Nat.cast_le]

theorem scaled_inj
    {left right : Nat}
    {exponent : Int} :
    scaled left exponent = scaled right exponent ↔ left = right := by
  rw [le_antisymm_iff, scaled_le_scaled_iff, scaled_le_scaled_iff, ← le_antisymm_iff]

theorem scaled_lt_scaled_iff
    {left right : Nat}
    {exponent : Int} :
    scaled left exponent < scaled right exponent ↔ left < right := by
  rw [lt_iff_not_ge, scaled_le_scaled_iff, not_le]

/-! ## Numbers of decimals -/

theorem abs_toRat (decimal : Decimal) :
    |decimal.toRat| = scaled decimal.coefficient decimal.exponent := by
  rw [toRat]
  split
  · rw [abs_neg, abs_of_nonneg (scaled_nonneg _ _)]
  · rw [abs_of_nonneg (scaled_nonneg _ _)]

@[simp] theorem toRat_ofNat (number : Nat) : (ofNat number).toRat = number := by
  simp [toRat, ofNat]

/-- Only a zero stands for zero. -/
theorem toRat_eq_zero_iff
    {decimal : Decimal} :
    decimal.toRat = 0 ↔ decimal.isZero = true := by
  rw [← abs_eq_zero, abs_toRat, ← scaled_zero decimal.exponent, scaled_inj, isZero,
    decide_eq_true_eq]

/-! ## Leading digits -/

theorem digitCount_le_iff
    {decimal : Decimal}
    {count : Nat}
    (positive : 0 < count) :
    decimal.digitCount ≤ count ↔ decimal.coefficient < 10 ^ count :=
  Nat.length_toDigits_le_iff (by decide) positive

theorem digitCount_pos (decimal : Decimal) : 0 < decimal.digitCount :=
  Nat.length_toDigits_pos

/-- The coefficient has the digits that it is counted to have. -/
theorem coefficient_lt (decimal : Decimal) : decimal.coefficient < 10 ^ decimal.digitCount :=
  (digitCount_le_iff decimal.digitCount_pos).1 le_rfl

theorem le_coefficient
    {decimal : Decimal}
    (nonzero : decimal.isZero = false) :
    10 ^ (decimal.digitCount - 1) ≤ decimal.coefficient := by
  by_contra small
  have notZero : decimal.coefficient ≠ 0 := by simpa [isZero] using nonzero
  rcases Nat.eq_zero_or_pos (decimal.digitCount - 1) with single | more
  · rw [single] at small
    omega
  · have fewer := (digitCount_le_iff more).2 (Nat.lt_of_not_le small)
    have positive := decimal.digitCount_pos
    omega

theorem abs_toRat_lt (decimal : Decimal) : |decimal.toRat| < 10 ^ (decimal.adjusted + 1) := by
  have whole : decimal.adjusted + 1 = decimal.exponent + decimal.digitCount := by
    rw [adjusted]
    ring
  rw [abs_toRat, whole, ← scaled_ten_pow, scaled_lt_scaled_iff]
  exact decimal.coefficient_lt

theorem le_abs_toRat
    {decimal : Decimal}
    (nonzero : decimal.isZero = false) :
    10 ^ decimal.adjusted ≤ |decimal.toRat| := by
  have positive := decimal.digitCount_pos
  have whole : decimal.adjusted = decimal.exponent + (decimal.digitCount - 1 : Nat) := by
    rw [adjusted]
    omega
  rw [abs_toRat, whole, ← scaled_ten_pow, scaled_le_scaled_iff]
  exact le_coefficient nonzero

/-- The leading digit of a number has an exponent up to a bound exactly if the number
is below the next power of ten. -/
theorem adjusted_le_iff
    {decimal : Decimal}
    {bound : Int}
    (nonzero : decimal.isZero = false) :
    decimal.adjusted ≤ bound ↔ |decimal.toRat| < 10 ^ (bound + 1) := by
  constructor
  · intro within
    refine lt_of_lt_of_le decimal.abs_toRat_lt ?_
    exact zpow_le_zpow_right₀ (by norm_num) (by omega)
  · intro below
    have powers := lt_of_le_of_lt (le_abs_toRat nonzero) below
    have exponents := (zpow_lt_zpow_iff_right₀ (by norm_num)).1 powers
    omega

end Decimal

end Stencil
