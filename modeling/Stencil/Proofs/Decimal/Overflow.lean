import Stencil.Proofs.Decimal.Negation

/-!
# When a negation overflows

A number that a format does not hold is rounded to one that it holds, or it is too large
for that.  A number is too large from half a last digit below the power of ten behind the
greatest leading digit on: from there, rounding makes a digit more than the format has.
-/

namespace Stencil

namespace Decimal

/-! ## The bounds that rounding reaches -/

/-- A rounded quotient reaches an even number from half below it on. -/
theorem le_roundedQuotient_iff
    {bound number divisor : Nat}
    (even : bound % 2 = 0)
    (positive : 0 < divisor) :
    bound ≤ roundedQuotient number divisor ↔ 2 * (bound * divisor) ≤ 2 * number + divisor := by
  have rounded := roundedQuotient_le number divisor
  have remainder := Nat.mod_lt number positive
  have whole : number = number / divisor * divisor + number % divisor :=
    (Nat.div_add_mod' number divisor).symm
  rcases Nat.lt_trichotomy bound (number / divisor + 1) with below | same | above
  · have least : number / divisor ≤ roundedQuotient number divisor := by
      unfold roundedQuotient
      dsimp only
      split
      · exact Nat.le_refl _
      · split <;> omega
    have products := Nat.mul_le_mul_right divisor (Nat.le_of_lt_succ below)
    constructor
    · omega
    · omega
  · have product : bound * divisor = number / divisor * divisor + divisor := by
      rw [same, Nat.succ_mul]
    -- Only here the remainder decides; a tie goes up because the bound is even.
    unfold roundedQuotient
    dsimp only
    split
    · omega
    · split <;> omega
  · have products := Nat.mul_le_mul_right divisor (show number / divisor + 2 ≤ bound by omega)
    rw [Nat.add_mul] at products
    constructor
    · omega
    · omega

theorem le_dropDigits_iff
    {decimal : Decimal}
    {bound count : Nat}
    (even : bound % 2 = 0)
    (boundPositive : 0 < bound)
    (countPositive : 0 < count) :
    bound ≤ decimal.dropDigits count ↔
      2 * (bound * 10 ^ count) ≤ 2 * decimal.coefficient + 10 ^ count := by
  have power : 0 < 10 ^ count := Nat.pow_pos (by decide)
  unfold dropDigits
  split
  · rename_i fewer
    obtain ⟨fewerDigits, rfl⟩ : ∃ less, count = less + 1 := ⟨count - 1, by omega⟩
    have small : decimal.coefficient < 10 ^ fewerDigits :=
      Nat.lt_of_lt_of_le decimal.coefficient_lt (Nat.pow_le_pow_right (by decide) (by omega))
    have products := Nat.mul_le_mul_right (10 ^ (fewerDigits + 1)) boundPositive
    rw [Nat.pow_succ] at products ⊢
    omega
  · exact le_roundedQuotient_iff even power

/-- A number is rounded at least to an even multiple of the power from half a power below
it on. -/
theorem scaled_le_roundedAt_iff
    {decimal : Decimal}
    {exponent : Int}
    {bound : Nat}
    (even : bound % 2 = 0)
    (positive : 0 < bound) :
    scaled bound exponent ≤ |(decimal.roundedAt exponent).toRat| ↔
      scaled bound exponent ≤ |decimal.toRat| + 10 ^ exponent / 2 := by
  by_cases above : exponent ≤ decimal.exponent
  · have same : decimal.roundedAt exponent = decimal := if_pos above
    obtain ⟨multiple, size⟩ := exists_scaled_of_le decimal.coefficient above
    have power : (0 : ℚ) < 10 ^ exponent := zpow_pos (by norm_num) exponent
    rw [same, abs_toRat, size, scaled_le_scaled_iff]
    constructor
    · intro reaches
      have scaledReaches := (@scaled_le_scaled_iff bound multiple exponent).2 reaches
      linarith
    · intro reaches
      by_contra below
      have next := (@scaled_le_scaled_iff (multiple + 1) bound exponent).2 (by omega)
      have step : scaled (multiple + 1) exponent = scaled multiple exponent + 10 ^ exponent := by
        simp only [scaled]
        push_cast
        ring
      linarith
  · obtain ⟨count, rfl⟩ : ∃ count : Nat, exponent = decimal.exponent + count :=
      ⟨(exponent - decimal.exponent).toNat, by omega⟩
    have dropped : (decimal.exponent + count - decimal.exponent).toNat = count := by omega
    have digits := @le_dropDigits_iff decimal bound count even positive (by omega)
    rw [abs_toRat, abs_toRat, roundedAt, if_neg above, dropped, scaled_le_scaled_iff, digits,
      ← scaled_ten_pow, ← scaled_mul_pow, ← @scaled_le_scaled_iff _ _ decimal.exponent]
    simp only [scaled]
    push_cast
    constructor
    · intro reaches
      linarith
    · intro reaches
      linarith

/-! ## Overflow -/

section Overflow

variable
  {format : Format}
  {decimal : Decimal}

theorem adjusted_dropCarry_le
    (proper : format.IsProper)
    (digits : decimal.coefficient ≤ 10 ^ format.precision) :
    (format.dropCarry decimal).adjusted ≤ decimal.adjusted := by
  have positive := proper.precision_pos
  have bounds := dropCarry_bounds proper digits
  have counted := (digitCount_le_iff positive).2 bounds.1
  by_cases within : decimal.digitCount ≤ format.precision
  · rw [dropCarry_eq within]
  · have place : (format.dropCarry decimal).exponent = decimal.exponent + 1 := by
      rw [Format.dropCarry, if_pos (Nat.lt_of_not_le within)]
    rw [adjusted, adjusted, place]
    omega

/-- The leading digit moves up exactly if a carry is dropped. -/
theorem le_adjusted_dropCarry_iff
    (proper : format.IsProper)
    (digits : decimal.coefficient ≤ 10 ^ format.precision) :
    decimal.exponent + format.precision ≤ (format.dropCarry decimal).adjusted ↔
      10 ^ format.precision ≤ decimal.coefficient := by
  have positive := proper.precision_pos
  rw [← Nat.not_lt, ← digitCount_le_iff positive]
  by_cases within : decimal.digitCount ≤ format.precision
  · rw [dropCarry_eq within, adjusted]
    omega
  · have carried : 10 ^ format.precision ≤ decimal.coefficient := by
      rw [← Nat.not_lt, ← digitCount_le_iff positive]
      exact within
    obtain ⟨fewer, same⟩ : ∃ fewer, format.precision = fewer + 1 :=
      ⟨format.precision - 1, by omega⟩
    have dropped : format.dropCarry decimal =
        ⟨decimal.negative, 10 ^ fewer, decimal.exponent + 1⟩ := by
      have whole : decimal.coefficient = 10 ^ fewer * 10 := by
        rw [← pow_succ, ← same]
        exact Nat.le_antisymm digits carried
      rw [Format.dropCarry, if_pos (Nat.lt_of_not_le within), whole,
        Nat.mul_div_cancel _ (by decide)]
    have counted : fewer < digitCount ⟨decimal.negative, 10 ^ fewer, decimal.exponent + 1⟩ := by
      rcases Nat.eq_zero_or_pos fewer with single | more
      · rw [single]
        exact digitCount_pos _
      · rw [← Nat.not_le, digitCount_le_iff more]
        exact Nat.lt_irrefl _
    rw [dropped, adjusted]
    simp only [within, not_false_eq_true, iff_true]
    omega

/-- Rounding to the digits of a format makes one digit more exactly if it reaches the
next power of ten. -/
theorem lt_adjusted_rounded_iff
    (proper : format.IsProper) :
    decimal.adjusted < (format.dropCarry
        (decimal.roundedAt (decimal.adjusted - (format.precision - 1)))).adjusted ↔
      10 ^ (decimal.adjusted + 1) ≤
        |(decimal.roundedAt (decimal.adjusted - (format.precision - 1))).toRat| := by
  have digits : (decimal.roundedAt (decimal.adjusted - (format.precision - 1))).coefficient ≤
      10 ^ format.precision := coefficient_roundedAt_le (by omega)
  by_cases above : decimal.adjusted - (format.precision - 1) ≤ decimal.exponent
  · have same : decimal.roundedAt (decimal.adjusted - (format.precision - 1)) = decimal :=
      if_pos above
    have within : decimal.digitCount ≤ format.precision := by
      rw [adjusted] at above
      omega
    rw [same, dropCarry_eq within]
    simp only [lt_irrefl, false_iff, not_le]
    exact decimal.abs_toRat_lt
  · have place : (decimal.roundedAt (decimal.adjusted - (format.precision - 1))).exponent =
        decimal.adjusted - (format.precision - 1) := by
      rw [roundedAt, if_neg above]
    have power : decimal.adjusted + 1 =
        decimal.adjusted - (format.precision - 1) + format.precision := by omega
    have carries := le_adjusted_dropCarry_iff proper digits
    rw [place] at carries
    rw [abs_toRat, place, power, ← scaled_ten_pow, scaled_le_scaled_iff, ← carries]
    omega

namespace Format

/-- The least size that a format has no number for: half a last digit below the power of
ten behind the greatest leading digit. -/
def overflowBound (format : Format) : ℚ :=
  10 ^ (format.greatest + 1) - 10 ^ (format.greatest + 1 - format.precision) / 2

theorem overflowBound_le (format : Format) :
    format.overflowBound ≤ 10 ^ (format.greatest + 1) := by
  have last : (0 : ℚ) < 10 ^ (format.greatest + 1 - format.precision) :=
    zpow_pos (by norm_num) _
  unfold overflowBound
  linarith

theorem lt_overflowBound
    (proper : format.IsProper) :
    10 ^ format.greatest < format.overflowBound := by
  have positive := proper.precision_pos
  have power : (0 : ℚ) < 10 ^ format.greatest := zpow_pos (by norm_num) _
  have next : (10 : ℚ) ^ (format.greatest + 1) = 10 ^ format.greatest * 10 :=
    zpow_add_one₀ (by norm_num) _
  have last : (10 : ℚ) ^ (format.greatest + 1 - format.precision) ≤ 10 ^ format.greatest :=
    zpow_le_zpow_right₀ (by norm_num) (by omega)
  unfold overflowBound
  linarith

end Format

/-- A decimal fits if its leading digit stands before the greatest place. -/
theorem fit?_ne_none_of_adjusted_lt
    (proper : format.IsProper)
    (smaller : decimal.adjusted < format.greatest) :
    format.fit? decimal ≠ none := by
  have carried := @adjusted_dropCarry_le format
    (decimal.roundedAt (decimal.adjusted - (format.precision - 1))) proper
    (coefficient_roundedAt_le (by omega))
  have rounded := @adjusted_roundedAt_le decimal
    (decimal.adjusted - (format.precision - 1)) format.precision (by omega)
  have fits : ¬ format.greatest < (format.dropCarry
      (decimal.roundedAt (decimal.adjusted - (format.precision - 1)))).adjusted := by
    omega
  have notLarge : ¬ format.greatest < decimal.adjusted := by omega
  simp only [Format.fit?, if_neg notLarge, if_neg fits]
  split
  · exact Option.some_ne_none _
  · split <;> exact Option.some_ne_none _

/-- Where the leading digit stands at the greatest place, rounding decides. -/
theorem fit?_eq_none_iff_of_adjusted_eq
    (proper : format.IsProper)
    (nonzero : decimal.isZero = false)
    (top : decimal.adjusted = format.greatest) :
    format.fit? decimal = none ↔ format.overflowBound ≤ |decimal.toRat| := by
  have positive := proper.precision_pos
  have range := proper.least_le
  have even : 10 ^ format.precision % 2 = 0 := by
    obtain ⟨fewer, same⟩ : ∃ fewer, format.precision = fewer + 1 :=
      ⟨format.precision - 1, by omega⟩
    rw [same, pow_succ]
    omega
  have place : decimal.adjusted - (format.precision - 1) =
      format.greatest + 1 - format.precision := by omega
  have reached : format.greatest + 1 - format.precision + format.precision =
      format.greatest + 1 := by omega
  have carries := @lt_adjusted_rounded_iff format decimal proper
  have rounds := @scaled_le_roundedAt_iff decimal
    (format.greatest + 1 - format.precision) _ even (Nat.pow_pos (by decide))
  rw [place, top] at carries
  rw [scaled_ten_pow, reached] at rounds
  rw [Format.fit?, nonzero, if_neg Bool.false_ne_true, if_neg (by omega), if_neg (by omega),
    place, Format.overflowBound, sub_le_iff_le_add, ← rounds, ← carries]
  simp only [ite_eq_left_iff, reduceCtorEq, imp_false, not_not]

/-- A decimal fits exactly if its size stays below the bound of the format. -/
theorem fit?_eq_none_iff
    (proper : format.IsProper) :
    format.fit? decimal = none ↔ format.overflowBound ≤ |decimal.toRat| := by
  have reaches := Format.lt_overflowBound proper
  cases zero : decimal.isZero with
  | true =>
    have power : (0 : ℚ) < 10 ^ format.greatest := zpow_pos (by norm_num) _
    have fits : format.fit? decimal = some (format.fitZero decimal) := if_pos zero
    rw [fits, toRat_eq_zero_iff.2 zero, abs_zero]
    simp only [reduceCtorEq, false_iff, not_le]
    exact power.trans reaches
  | false =>
    rcases lt_trichotomy decimal.adjusted format.greatest with below | top | above
    · have small : |decimal.toRat| < 10 ^ format.greatest :=
        lt_of_lt_of_le decimal.abs_toRat_lt (zpow_le_zpow_right₀ (by norm_num) (by omega))
      simp only [fit?_ne_none_of_adjusted_lt proper below, false_iff, not_le]
      exact small.trans reaches
    · exact fit?_eq_none_iff_of_adjusted_eq proper zero top
    · have fails : format.fit? decimal = none := by
        rw [Format.fit?, zero, if_neg Bool.false_ne_true, if_pos above]
      simp only [fails, true_iff]
      calc format.overflowBound
          ≤ 10 ^ (format.greatest + 1) := format.overflowBound_le
        _ ≤ 10 ^ decimal.adjusted := zpow_le_zpow_right₀ (by norm_num) (by omega)
        _ ≤ |decimal.toRat| := le_abs_toRat zero

end Overflow

/-- A negation overflows exactly if the size of the number reaches the bound. -/
theorem negate?_eq_none_iff
    {format : Format}
    (proper : format.IsProper)
    (decimal : Decimal) :
    negate? format decimal = none ↔ format.overflowBound ≤ |decimal.toRat| := by
  rw [← abs_neg, ← toRat_flipped]
  exact fit?_eq_none_iff proper

end Decimal

end Stencil
