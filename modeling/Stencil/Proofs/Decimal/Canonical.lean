import Stencil.Proofs.Decimal.Rational

/-!
# Decimals of one value

Decimals are compared by their canonical forms.  A canonical form stands for the number
of its decimal, and two of them that stand for one number are equal, because a
coefficient that does not end in zero fixes its exponent.  So two decimals are
numerically equal if and only if they stand for one rational number.
-/

namespace Stencil

namespace Decimal

/-! ## Trailing zeros -/

/-- Removing trailing zeros keeps the number. -/
theorem scaled_stripZeros (count coefficient : Nat) (exponent : Int) :
    scaled (stripZeros count coefficient exponent).1 (stripZeros count coefficient exponent).2 =
      scaled coefficient exponent := by
  induction count generalizing coefficient exponent with
  | zero => rfl
  | succ count hypothesis =>
    rw [stripZeros]
    split
    · rename_i endsInZero
      have multiple : coefficient / 10 * 10 ^ 1 = coefficient := by omega
      have shifted := scaled_mul_pow (coefficient / 10) 1 exponent
      rw [multiple] at shifted
      rw [hypothesis, shifted]
      rfl
    · rfl

/-- No trailing zero is left of a coefficient with at most so many digits. -/
theorem stripZeros_mod_ten
    {count coefficient : Nat}
    (nonzero : coefficient ≠ 0)
    (few : coefficient < 10 ^ count)
    (exponent : Int) :
    (stripZeros count coefficient exponent).1 % 10 ≠ 0 := by
  induction count generalizing coefficient exponent with
  | zero => exact absurd (Nat.lt_one_iff.1 few) nonzero
  | succ count hypothesis =>
    rw [stripZeros]
    split
    · rw [pow_succ] at few
      exact hypothesis (by omega) (by omega) _
    · assumption

/-! ## Canonical forms -/

/-- A decimal is zero in one form, or its coefficient does not end in zero. -/
def IsCanonical (decimal : Decimal) : Prop :=
  decimal = ⟨false, 0, 0⟩ ∨ decimal.coefficient % 10 ≠ 0

theorem isCanonical_canonical (decimal : Decimal) : decimal.canonical.IsCanonical := by
  unfold canonical
  split
  · exact .inl rfl
  · rename_i nonzero
    have notZero : decimal.coefficient ≠ 0 := by simpa [isZero] using nonzero
    exact .inr (stripZeros_mod_ten notZero decimal.coefficient_lt _)

/-- The canonical form stands for the same number. -/
@[simp] theorem toRat_canonical (decimal : Decimal) : decimal.canonical.toRat = decimal.toRat := by
  unfold canonical
  split
  · rename_i isZero
    rw [toRat_eq_zero_iff.2 isZero]
    simp [toRat]
  · simp only [toRat, scaled_stripZeros]

/-- A coefficient that does not end in zero has the least exponent. -/
theorem exponent_le_of_scaled_eq
    {left right : Nat}
    {exponent other : Int}
    (noZero : left % 10 ≠ 0)
    (same : scaled left exponent = scaled right other) :
    other ≤ exponent := by
  by_contra above
  obtain ⟨count, rfl⟩ : ∃ count : Nat, other = exponent + (count + 1 : Nat) :=
    ⟨(other - exponent - 1).toNat, by omega⟩
  rw [← scaled_mul_pow, scaled_inj, pow_succ, ← Nat.mul_assoc] at same
  rw [same, Nat.mul_mod_left] at noZero
  exact noZero rfl

theorem IsCanonical.eq_zero
    {decimal : Decimal}
    (canonical : decimal.IsCanonical)
    (zero : decimal.toRat = 0) :
    decimal = ⟨false, 0, 0⟩ := by
  rcases canonical with isZero | noZero
  · exact isZero
  · have none : decimal.coefficient = 0 := by simpa [isZero] using toRat_eq_zero_iff.1 zero
    rw [none] at noZero
    exact absurd rfl noZero

/-- Decimals of one number that is not zero have one sign. -/
theorem negative_eq_of_toRat_eq
    {left right : Decimal}
    (same : left.toRat = right.toRat)
    (nonzero : left.toRat ≠ 0) :
    left.negative = right.negative := by
  have leftSign := scaled_nonneg left.coefficient left.exponent
  have rightSign := scaled_nonneg right.coefficient right.exponent
  simp only [toRat] at same nonzero
  cases leftNegative : left.negative <;> cases rightNegative : right.negative <;>
    simp only [leftNegative, rightNegative, Bool.false_eq_true, if_false, if_true] at same nonzero
  · rfl
  · exact absurd (by linarith) nonzero
  · exact absurd (by linarith) nonzero
  · rfl

/-- Canonical decimals of one number are equal. -/
theorem IsCanonical.eq_of_toRat_eq
    {left right : Decimal}
    (leftCanonical : left.IsCanonical)
    (rightCanonical : right.IsCanonical)
    (same : left.toRat = right.toRat) :
    left = right := by
  by_cases zero : left.toRat = 0
  · rw [leftCanonical.eq_zero zero, rightCanonical.eq_zero (same ▸ zero)]
  · have noZero {decimal : Decimal} (canonical : decimal.IsCanonical)
        (nonzero : decimal.toRat ≠ 0) : decimal.coefficient % 10 ≠ 0 := by
      rcases canonical with rfl | noZero
      · exact absurd (by simp [toRat]) nonzero
      · exact noZero
    have size : scaled left.coefficient left.exponent =
        scaled right.coefficient right.exponent := by
      rw [← abs_toRat, ← abs_toRat, same]
    have exponent := Int.le_antisymm
      (exponent_le_of_scaled_eq (noZero rightCanonical (same ▸ zero)) size.symm)
      (exponent_le_of_scaled_eq (noZero leftCanonical zero) size)
    rw [exponent, scaled_inj] at size
    have sign := negative_eq_of_toRat_eq same zero
    obtain ⟨negative, coefficient, power⟩ := left
    obtain ⟨negative', coefficient', power'⟩ := right
    exact (mk.injEq ..).mpr ⟨sign, size, exponent⟩

/-- Decimals are numerically equal if and only if they stand for one number. -/
theorem numericallyEqual_iff_toRat_eq
    {left right : Decimal} :
    left.numericallyEqual right = true ↔ left.toRat = right.toRat := by
  rw [numericallyEqual_iff]
  constructor
  · intro same
    rw [← toRat_canonical left, same, toRat_canonical]
  · intro same
    rw [← toRat_canonical left, ← toRat_canonical right] at same
    exact (isCanonical_canonical left).eq_of_toRat_eq (isCanonical_canonical right) same

end Decimal

end Stencil
