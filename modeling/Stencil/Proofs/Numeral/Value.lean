import Stencil.Proofs.Numeral.Grammar

/-!
# The values of numerals

A numeral of base sixteen or eight is an integer, and a decimal numeral keeps the
coefficient and the exponent that it is written with.  The main statement is that
every numeral has this value, as long as its exponents are in the range of decimals.
-/

namespace Stencil

namespace Numeral

/-- The digits of a fraction. -/
def fractionDigits : Option (Digits .ten) → Text
  | none => []
  | some digits => digits.text

/-- The number that an exponent is; it is zero if none is written. -/
def powerValue : Option Power → Int
  | none => 0
  | some power => power.value

/-- The decimal that a numeral writes down. -/
def Form.written : Form → Decimal
  | .hexadecimal _ _ digits => Decimal.ofNat digits.value
  | .octal _ _ digits => Decimal.ofNat digits.value
  | .decimal whole fraction power =>
    Decimal.compose false whole.text (fractionDigits fraction) (powerValue power)

/-- Whether a numeral is decimal, with exponents that no decimal has. -/
def Form.isOutOfRange : Form → Bool
  | .hexadecimal _ _ _ => false
  | .octal _ _ _ => false
  | .decimal whole fraction power => !(Form.decimal whole fraction power).written.isHeld

/-! ## Numerals of base ten -/

theorem Digits.all_isDigit_of_ten (digits : Digits .ten) :
    digits.text.all CodePoint.isDigit = true :=
  digits.all_isDigit

theorem announcedBase_decimal
    (whole : Digits .ten)
    (fraction : Option (Digits .ten))
    (power : Option Power) :
    announcedBase (Form.decimal whole fraction power).text = none := by
  unfold announcedBase
  split
  · rename_i zero mark others unread
    obtain ⟨noHexadecimal, noOctal⟩ := @not_mark_of_decimal [] (by simp) whole fraction power
      zero mark others (by rw [List.append_nil, unread])
    simp [noHexadecimal, noOctal]
  · rfl

/-- A text that begins with a digit has no sign. -/
theorem readSign_digits
    (digits : Digits .ten)
    (rest : Text) :
    Decimal.readSign (digits.text ++ rest) = (false, digits.text ++ rest) := by
  obtain ⟨first, others, whole, isDigit⟩ := digits.exists_cons
  have noSign : ¬ first = '-' ∧ ¬ first = '+' := by
    constructor
    · rintro rfl
      exact absurd isDigit (by decide)
    · rintro rfl
      exact absurd isDigit (by decide)
  simp [whole, Decimal.readSign, noSign]

theorem readExponent_powerText (power : Option Power) :
    Decimal.readExponent (powerText power) = some (powerValue power) := by
  cases power with
  | none => rfl
  | some power =>
    have marked : (decide (power.mark = 'e') || decide (power.mark = 'E')) = true := by
      simpa using power.isMark
    have signed : Decimal.readSign (power.sign ++ power.digits.text) =
        (decide (power.sign = [('-' : CodePoint)]), power.digits.text) := by
      rcases power.isSign with none | plus | minus
      · have unsigned := readSign_digits power.digits []
        rw [List.append_nil] at unsigned
        rw [none, List.nil_append, unsigned]
        rfl
      · rw [plus]
        rfl
      · rw [minus]
        rfl
    simp [powerText, Power.text, Decimal.readExponent, marked, signed,
      power.digits.all_isDigit_of_ten, power.digits.text_ne_nil, powerValue, Power.value,
      Digits.value, Base.radix]

theorem readFraction_fractionText
    (fraction : Option (Digits .ten))
    (power : Option Power) :
    Decimal.readFraction (fractionText fraction ++ powerText power) =
      (fractionDigits fraction, powerText power) := by
  have digitsEnd := @isDigit_head?_powerText_append [] (by simp) power
  rw [List.append_nil] at digitsEnd
  cases fraction with
  | none =>
    cases power with
    | none => rfl
    | some power =>
      have noPoint : ¬ power.mark = '.' := by
        rcases power.isMark with small | capital
        · rw [small]
          decide
        · rw [capital]
          decide
      simp [fractionText, powerText, Power.text, Decimal.readFraction, noPoint, fractionDigits]
  | some digits =>
    rw [fractionText, List.cons_append, Decimal.readFraction, if_pos rfl,
      Text.takeWhile_append_of_head? digits.all_isDigit_of_ten digitsEnd,
      Text.dropWhile_append_of_head? digits.all_isDigit_of_ten digitsEnd]
    rfl

theorem read?_decimal
    (whole : Digits .ten)
    (fraction : Option (Digits .ten))
    (power : Option Power) :
    Decimal.read? (Form.decimal whole fraction power).text =
      if (Form.decimal whole fraction power).written.isHeld then
        some (Form.decimal whole fraction power).written
      else none := by
  have digitsEnd := @isDigit_head?_fractionText_append [] (by simp) fraction power
  rw [List.append_nil] at digitsEnd
  have someDigits : whole.text.isEmpty = false := by simp [whole.text_ne_nil]
  simp only [Decimal.read?, Form.text, readSign_digits]
  rw [Text.takeWhile_append_of_head? whole.all_isDigit_of_ten digitsEnd,
    Text.dropWhile_append_of_head? whole.all_isDigit_of_ten digitsEnd, readFraction_fractionText,
    readExponent_powerText]
  simp only [someDigits, Bool.false_and, Bool.false_eq_true, if_false]
  rfl

/-- Decimal numerals that are written alike write down one decimal. -/
theorem written_eq_of_text_eq
    {whole whole' : Digits .ten}
    {fraction fraction' : Option (Digits .ten)}
    {power power' : Option Power}
    (same : (Form.decimal whole fraction power).text =
      (Form.decimal whole' fraction' power').text) :
    (Form.decimal whole fraction power).written =
      (Form.decimal whole' fraction' power').written := by
  have digitsEnd := @isDigit_head?_fractionText_append [] (by simp) fraction power
  have digitsEnd' := @isDigit_head?_fractionText_append [] (by simp) fraction' power'
  rw [List.append_nil] at digitsEnd digitsEnd'
  simp only [Form.text] at same
  have sameWhole := congrArg (List.takeWhile CodePoint.isDigit) same
  rw [Text.takeWhile_append_of_head? whole.all_isDigit_of_ten digitsEnd,
    Text.takeWhile_append_of_head? whole'.all_isDigit_of_ten digitsEnd'] at sameWhole
  rw [sameWhole, List.append_cancel_left_eq] at same
  have sameFraction := congrArg Decimal.readFraction same
  rw [readFraction_fractionText, readFraction_fractionText, Prod.mk.injEq] at sameFraction
  have samePower := congrArg Decimal.readExponent sameFraction.2
  rw [readExponent_powerText, readExponent_powerText, Option.some.injEq] at samePower
  rw [Form.written, Form.written, sameWhole, sameFraction.1, samePower]

/-! ## All numerals -/

/-- A numeral has the value that it writes down if its exponents are in range. -/
theorem value?_text (form : Form) :
    value? form.text = if form.isOutOfRange then none else some form.written := by
  cases form with
  | hexadecimal mark isMark digits =>
    simp [value?, Form.text, announcedBase, isMark, Form.isOutOfRange, Form.written,
      Digits.value, Base.radix]
  | octal mark isMark digits =>
    have noHexadecimal : ¬ mark = 'x' ∧ ¬ mark = 'X' := by
      rcases isMark with rfl | rfl <;> decide
    simp [value?, Form.text, announcedBase, isMark, noHexadecimal, Form.isOutOfRange,
      Form.written, Digits.value, Base.radix]
  | decimal whole fraction power =>
    rw [value?, announcedBase_decimal]
    simp only [read?_decimal, Form.isOutOfRange, Bool.not_eq_true']
    cases (Form.decimal whole fraction power).written.isHeld <;> rfl

/-- Only a decimal numeral can have exponents that no decimal has. -/
theorem Form.isOutOfRange_iff
    {form : Form} :
    form.isOutOfRange = true ↔ ∃ whole fraction power,
      form = .decimal whole fraction power ∧
        (Decimal.greatestAdjusted < form.written.adjusted ∨
          form.written.exponent < Decimal.leastExponent) := by
  cases form with
  | hexadecimal mark isMark digits => simp [Form.isOutOfRange]
  | octal mark isMark digits => simp [Form.isOutOfRange]
  | decimal whole fraction power =>
    have notHeld (decimal : Decimal) : decimal.isHeld = false ↔
        Decimal.greatestAdjusted < decimal.adjusted ∨
          decimal.exponent < Decimal.leastExponent := by
      rw [Decimal.isHeld, Bool.and_eq_false_iff, decide_eq_false_iff_not,
        decide_eq_false_iff_not, Int.not_le, Int.not_le]
    simp only [Form.isOutOfRange, Bool.not_eq_true', notHeld]
    constructor
    · intro outside
      exact ⟨whole, fraction, power, rfl, outside⟩
    · rintro ⟨_, _, _, _, outside⟩
      exact outside

end Numeral

end Stencil
