import Stencil.Proofs.Decimal.Rational

/-!
# When a negation is exact

A format holds a number if it is a coefficient of so many digits times a power of ten
that is not too small, and if the number is not too large.  Fitting a decimal into a
format always gives a number that the format holds, and it keeps a number that the
format holds.  So the negation of a decimal is exact if and only if the format holds
the number.
-/

namespace Stencil

namespace Decimal

namespace Format

/-- A format with digits, in which the exponents of leading digits have a range. -/
structure IsProper (format : Format) : Prop where
  /-- There is a digit. -/
  precision_pos : 0 < format.precision
  /-- The least exponent of a leading digit is not above the greatest one. -/
  least_le : format.least ≤ format.greatest

/-- A number of a format. -/
structure Holds (format : Format) (number : ℚ) : Prop where
  /-- The number has not too many digits behind a power of ten that is not too small. -/
  digits : ∃ coefficient exponent, coefficient < 10 ^ format.precision ∧
    format.tiny ≤ exponent ∧ |number| = scaled coefficient exponent
  /-- The number is not too large. -/
  below : |number| < 10 ^ (format.greatest + 1)

theorem holds_neg
    {format : Format}
    {number : ℚ} :
    format.Holds (-number) ↔ format.Holds number := by
  constructor
  · rintro ⟨digits, below⟩
    rw [abs_neg] at digits below
    exact ⟨digits, below⟩
  · rintro ⟨digits, below⟩
    rw [← abs_neg] at digits below
    exact ⟨digits, below⟩

end Format

/-! ## Dropping digits -/

theorem roundedQuotient_le (number divisor : Nat) :
    roundedQuotient number divisor ≤ number / divisor + 1 := by
  unfold roundedQuotient
  dsimp only
  split
  · omega
  · split <;> omega

theorem roundedQuotient_mul
    (quotient : Nat)
    {divisor : Nat}
    (positive : 0 < divisor) :
    roundedQuotient (quotient * divisor) divisor = quotient := by
  simp [roundedQuotient, Nat.mul_mod_left, Nat.mul_div_cancel quotient positive, positive]

theorem dropDigits_le (decimal : Decimal) (count : Nat) :
    decimal.dropDigits count ≤ 10 ^ (decimal.digitCount - count) := by
  unfold dropDigits
  split
  · exact Nat.zero_le _
  · rename_i within
    have whole : 10 ^ decimal.digitCount = 10 ^ (decimal.digitCount - count) * 10 ^ count := by
      rw [← Nat.pow_add, Nat.sub_add_cancel (Nat.le_of_not_lt within)]
    have small := decimal.coefficient_lt
    rw [whole] at small
    exact Nat.le_trans (roundedQuotient_le _ _)
      (Nat.div_lt_of_lt_mul (Nat.mul_comm _ _ ▸ small))

/-- Dropping zeros is exact. -/
theorem dropDigits_of_multiple
    {decimal : Decimal}
    {count quotient : Nat}
    (positive : 0 < count)
    (multiple : decimal.coefficient = quotient * 10 ^ count) :
    decimal.dropDigits count = quotient := by
  have power : 0 < 10 ^ count := Nat.pow_pos (by decide)
  unfold dropDigits
  split
  · rename_i fewer
    have small := (digitCount_le_iff positive).1 (Nat.le_of_lt fewer)
    rw [multiple] at small
    have zero : quotient < 1 := Nat.lt_of_mul_lt_mul_right (by rwa [Nat.one_mul])
    omega
  · rw [multiple]
    exact roundedQuotient_mul quotient power

/-! ## Rounding at an exponent -/

/-- Decimals with one sign and one size are one number. -/
theorem toRat_eq_of_abs
    {left right : Decimal}
    (sign : left.negative = right.negative)
    (size : |left.toRat| = |right.toRat|) :
    left.toRat = right.toRat := by
  rw [abs_toRat, abs_toRat] at size
  rw [toRat, toRat, sign, size]

theorem le_exponent_roundedAt (decimal : Decimal) (exponent : Int) :
    exponent ≤ (decimal.roundedAt exponent).exponent := by
  unfold roundedAt
  split
  · assumption
  · exact Int.le_refl _

/-- Rounding leaves the digits before an exponent, and a carry. -/
theorem coefficient_roundedAt_le
    {decimal : Decimal}
    {exponent : Int}
    {count : Nat}
    (digits : decimal.adjusted + 1 ≤ exponent + count) :
    (decimal.roundedAt exponent).coefficient ≤ 10 ^ count := by
  rw [adjusted] at digits
  unfold roundedAt
  split
  · have fewer : decimal.digitCount ≤ count := by omega
    exact Nat.le_of_lt (Nat.lt_of_lt_of_le decimal.coefficient_lt
      (Nat.pow_le_pow_right (by decide) fewer))
  · exact Nat.le_trans (dropDigits_le _ _) (Nat.pow_le_pow_right (by decide) (by omega))

theorem adjusted_roundedAt_le
    {decimal : Decimal}
    {exponent : Int}
    {count : Nat}
    (digits : decimal.adjusted + 1 ≤ exponent + count) :
    (decimal.roundedAt exponent).adjusted ≤ exponent + count := by
  have rounded := coefficient_roundedAt_le digits
  by_cases above : exponent ≤ decimal.exponent
  · have same : decimal.roundedAt exponent = decimal := if_pos above
    rw [same]
    omega
  · have place : (decimal.roundedAt exponent).exponent = exponent := by
      rw [roundedAt, if_neg above]
    have counted : (decimal.roundedAt exponent).digitCount ≤ count + 1 :=
      (digitCount_le_iff (Nat.succ_pos count)).2
        (Nat.lt_of_le_of_lt rounded (Nat.pow_lt_pow_right (by decide) (Nat.lt_succ_self count)))
    rw [adjusted, place]
    omega

/-- Decimals of one number have their leading digits at one place. -/
theorem adjusted_le_of_toRat_eq
    {left right : Decimal}
    (same : left.toRat = right.toRat)
    (nonzero : right.isZero = false) :
    left.adjusted ≤ right.adjusted := by
  have leftNonzero : left.isZero = false := by
    rw [Bool.eq_false_iff, ne_eq, ← toRat_eq_zero_iff, same, toRat_eq_zero_iff, nonzero]
    exact Bool.false_ne_true
  rw [adjusted_le_iff leftNonzero, same]
  exact right.abs_toRat_lt

/-- Rounding at an exponent is exact for the multiples of its power. -/
theorem toRat_roundedAt
    {decimal : Decimal}
    {exponent : Int}
    {coefficient : Nat}
    (multiple : |decimal.toRat| = scaled coefficient exponent) :
    (decimal.roundedAt exponent).toRat = decimal.toRat := by
  unfold roundedAt
  split
  · rfl
  · rename_i below
    obtain ⟨count, same⟩ : ∃ count : Nat, exponent = decimal.exponent + count :=
      ⟨(exponent - decimal.exponent).toNat, by omega⟩
    have positive : 0 < count := by omega
    have dropped : (exponent - decimal.exponent).toNat = count := by omega
    refine toRat_eq_of_abs rfl ?_
    rw [multiple, abs_toRat, dropped]
    rw [abs_toRat, same, ← scaled_mul_pow, scaled_inj] at multiple
    rw [dropDigits_of_multiple positive multiple]

/-- A multiple of a power of ten is one of every smaller power. -/
theorem exists_scaled_of_le
    (coefficient : Nat)
    {exponent smaller : Int}
    (above : smaller ≤ exponent) :
    ∃ multiple, scaled coefficient exponent = scaled multiple smaller := by
  obtain ⟨count, rfl⟩ : ∃ count : Nat, exponent = smaller + count :=
    ⟨(exponent - smaller).toNat, by omega⟩
  exact ⟨coefficient * 10 ^ count, (scaled_mul_pow _ _ _).symm⟩

/-! ## Fitting -/

section Fitting

variable
  {format : Format}
  {decimal fitted : Decimal}

theorem dropCarry_eq
    (within : decimal.digitCount ≤ format.precision) :
    format.dropCarry decimal = decimal :=
  if_neg (Nat.not_lt.2 within)

/-- A carry is dropped to so many digits as the format has. -/
theorem dropCarry_bounds
    (proper : format.IsProper)
    (digits : decimal.coefficient ≤ 10 ^ format.precision) :
    (format.dropCarry decimal).coefficient < 10 ^ format.precision ∧
      decimal.exponent ≤ (format.dropCarry decimal).exponent := by
  have positive := proper.precision_pos
  unfold Format.dropCarry
  split
  · have power : 0 < 10 ^ format.precision := Nat.pow_pos (by decide)
    exact ⟨by dsimp only; omega, by dsimp only; omega⟩
  · rename_i within
    exact ⟨(digitCount_le_iff positive).1 (Nat.le_of_not_lt within), Int.le_refl _⟩

theorem holds_of_adjusted
    (digits : decimal.coefficient < 10 ^ format.precision)
    (notTiny : format.tiny ≤ decimal.exponent)
    (notLarge : decimal.adjusted ≤ format.greatest) :
    format.Holds decimal.toRat where
  digits := ⟨_, _, digits, notTiny, decimal.abs_toRat⟩
  below := lt_of_lt_of_le decimal.abs_toRat_lt
    (zpow_le_zpow_right₀ (by norm_num) (by omega))

theorem holds_zero (format : Format) : format.Holds 0 where
  digits := ⟨0, format.tiny, Nat.pow_pos (by decide), Int.le_refl _, by simp⟩
  below := by
    rw [abs_zero]
    exact zpow_pos (by norm_num) _

/-- What is fitted into a format is a number of the format. -/
theorem holds_of_fit?
    (proper : format.IsProper)
    (fits : format.fit? decimal = some fitted) :
    format.Holds fitted.toRat := by
  have positive := proper.precision_pos
  have range := proper.least_le
  unfold Format.fit? at fits
  split at fits
  · rename_i zero
    obtain rfl := Option.some.inj fits
    have noNumber : (format.fitZero decimal).toRat = 0 := toRat_eq_zero_iff.2 zero
    rw [noNumber]
    exact holds_zero format
  split at fits
  · cases fits
  split at fits
  · rename_i small
    obtain rfl := Option.some.inj fits
    obtain ⟨precision, same⟩ : ∃ fewer, format.precision = fewer + 1 :=
      ⟨format.precision - 1, by omega⟩
    have place : format.tiny = format.least - precision := by
      rw [Format.tiny, same]
      omega
    have digits : decimal.adjusted + 1 ≤ format.tiny + precision := by omega
    refine holds_of_adjusted ?_ (le_exponent_roundedAt _ _) ?_
    · rw [same]
      exact Nat.lt_of_le_of_lt (coefficient_roundedAt_le digits)
        (Nat.pow_lt_pow_right (by decide) (Nat.lt_succ_self precision))
    · have rounded := adjusted_roundedAt_le digits
      omega
  · simp only [Option.ite_none_left_eq_some, Option.some.injEq] at fits
    obtain ⟨notLarge, rfl⟩ := fits
    rename_i notSmall
    have above := le_exponent_roundedAt decimal (decimal.adjusted - (format.precision - 1))
    obtain ⟨digits, place⟩ := dropCarry_bounds proper
      (coefficient_roundedAt_le (show decimal.adjusted + 1 ≤
        decimal.adjusted - (format.precision - 1) + format.precision by omega))
    refine holds_of_adjusted digits ?_ (Int.not_lt.1 notLarge)
    rw [Format.tiny]
    omega

/-- A number of a format is fitted into it exactly. -/
theorem fit?_of_holds
    (proper : format.IsProper)
    (holds : format.Holds decimal.toRat) :
    ∃ fitted, format.fit? decimal = some fitted ∧ fitted.toRat = decimal.toRat := by
  have positive := proper.precision_pos
  obtain ⟨⟨coefficient, exponent, digits, notTiny, size⟩, below⟩ := holds
  unfold Format.fit?
  cases zero : decimal.isZero with
  | true =>
    have noNumber : (format.fitZero decimal).toRat = 0 := toRat_eq_zero_iff.2 zero
    exact ⟨_, if_pos rfl, noNumber.trans (toRat_eq_zero_iff.2 zero).symm⟩
  | false =>
    have notLarge : decimal.adjusted ≤ format.greatest := (adjusted_le_iff zero).2 below
    rw [if_neg Bool.false_ne_true, if_neg (Int.not_lt.2 notLarge)]
    split
    · obtain ⟨multiple, same⟩ := exists_scaled_of_le coefficient notTiny
      exact ⟨_, rfl, toRat_roundedAt (size.trans same)⟩
    · -- The number is a multiple of the power at which it is rounded.
      have reaches : decimal.adjusted - (format.precision - 1) ≤ exponent := by
        have more : |decimal.toRat| < 10 ^ (exponent + format.precision) := by
          rw [size, ← scaled_ten_pow]
          exact scaled_lt_scaled_iff.2 digits
        have powers := (zpow_lt_zpow_iff_right₀ (by norm_num)).1
          (lt_of_le_of_lt (le_abs_toRat zero) more)
        omega
      obtain ⟨multiple, same⟩ := exists_scaled_of_le coefficient reaches
      have kept := toRat_roundedAt (size.trans same)
      have smaller := adjusted_le_of_toRat_eq kept zero
      have above := le_exponent_roundedAt decimal (decimal.adjusted - (format.precision - 1))
      have within : (decimal.roundedAt (decimal.adjusted - (format.precision - 1))).digitCount ≤
          format.precision := by
        rw [adjusted] at smaller
        omega
      dsimp only
      rw [dropCarry_eq within, if_neg (by omega)]
      exact ⟨_, rfl, kept⟩

/-- A decimal is fitted into a format exactly if the format holds its number. -/
theorem fit?_exact_iff
    (proper : format.IsProper) :
    (∃ fitted, format.fit? decimal = some fitted ∧ fitted.toRat = decimal.toRat) ↔
      format.Holds decimal.toRat := by
  constructor
  · rintro ⟨fitted, fits, same⟩
    rw [← same]
    exact holds_of_fit? proper fits
  · exact fit?_of_holds proper

end Fitting

/-! ## Negation -/

/-- The sign that a decimal gets by negation, without rounding. -/
theorem toRat_flipped (decimal : Decimal) :
    toRat { decimal with negative := !decimal.negative && !decimal.isZero } =
      -decimal.toRat := by
  cases zero : decimal.isZero with
  | true =>
    have noNumber := toRat_eq_zero_iff.2 zero
    rw [noNumber, neg_zero]
    exact toRat_eq_zero_iff.2 zero
  | false =>
    cases sign : decimal.negative <;> simp [toRat, sign]

/-- A negation is exact if and only if the format holds the number. -/
theorem negate?_exact_iff
    {format : Format}
    (proper : format.IsProper)
    (decimal : Decimal) :
    (∃ negated, negate? format decimal = some negated ∧ negated.toRat = -decimal.toRat) ↔
      format.Holds decimal.toRat := by
  rw [← toRat_flipped, ← Format.holds_neg, ← toRat_flipped]
  exact fit?_exact_iff proper

theorem isProper_working : Format.working.IsProper where
  precision_pos := by decide
  least_le := by decide

end Decimal

end Stencil
