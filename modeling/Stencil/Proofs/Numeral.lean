import Stencil.Decimal.Printer
import Stencil.Proofs.Numeral.Value

/-!
# Numbers are read as they are written

A written number that is not negative has digits before the point, perhaps
digits behind it, and perhaps an exponent with a sign.  Whatever has these parts
is scanned as one numeral before a space, and its value is put together from the
parts.  The main statement is that a number is the value of its own text.
-/

namespace Stencil

namespace Text

theorem all_isDigit_ofNat (number : Nat) : (ofNat number).all CodePoint.isDigit = true := by
  rw [List.all_eq_true]
  intro point member
  obtain ⟨digit, isDigit, rfl⟩ := List.mem_map.1 member
  have decimal := Nat.isDigit_of_mem_toDigits (by decide) (by decide) isDigit
  simp only [Char.isDigit, Bool.and_eq_true, decide_eq_true_eq, UInt32.le_iff_toNat_le] at decimal
  simp only [CodePoint.isDigit, Bool.and_eq_true, decide_eq_true_eq]
  exact decimal

theorem ofNat_ne_nil (number : Nat) : ofNat number ≠ [] := by
  intro empty
  exact Nat.toDigits_ne_nil (List.map_eq_nil_iff.1 empty)

theorem foldl_value_map
    (digits : List Char)
    (decimal : ∀ digit ∈ digits, digit.isDigit = true)
    (start : Nat) :
    (digits.map CodePoint.ofChar).foldl (fun total digit => total * 10 + digit.digitValue) start =
      Nat.ofDigitChars 10 digits start := by
  induction digits generalizing start with
  | nil => simp
  | cons digit digits hypothesis =>
    obtain ⟨isDigit, others⟩ := List.forall_mem_cons.1 decimal
    have below : digit.toNat < 0x3A := by
      simp only [Char.isDigit, Bool.and_eq_true, decide_eq_true_eq,
        UInt32.le_iff_toNat_le] at isDigit
      exact Nat.lt_succ_of_le isDigit.2
    rw [List.map_cons, List.foldl_cons, hypothesis others, Nat.ofDigitChars_cons]
    simp [CodePoint.digitValue, below, Nat.mul_comm]

/-- The digits of a number have its value. -/
theorem value_ofNat (number : Nat) : value 10 (ofNat number) = number := by
  rw [value, ofNat, foldl_value_map _ fun _ => Nat.isDigit_of_mem_toDigits (by decide) (by decide)]
  exact Nat.ofDigitChars_ten_toDigits

/-- Zeros before digits do not change their value. -/
theorem value_replicate_zero_append (count : Nat) (digits : Text) :
    value 10 (List.replicate count (CodePoint.ofChar '0') ++ digits) = value 10 digits := by
  induction count with
  | zero => rfl
  | succ count hypothesis =>
    rw [List.replicate_succ, List.cons_append]
    exact hypothesis

end Text

namespace Numeral

/-- The parts of a written number. -/
structure Parts where
  /-- The digits before the point. -/
  whole : Text
  /-- The digits behind the point; there is no point if there are none. -/
  fraction : Text
  /-- Whether the exponent is negative, and its digits. -/
  exponent : Option (Bool × Text)
  /-- There is a digit before the point. -/
  whole_ne_nil : whole ≠ []
  /-- Only digits stand before the point. -/
  whole_digits : whole.all CodePoint.isDigit = true
  /-- Only digits stand behind the point. -/
  fraction_digits : fraction.all CodePoint.isDigit = true
  /-- An exponent is not empty and has only digits. -/
  exponent_digits : ∀ pair ∈ exponent, pair.2 ≠ [] ∧ pair.2.all CodePoint.isDigit = true

namespace Parts

/-- The point and the digits behind it. -/
def fractionText (parts : Parts) : Text :=
  if parts.fraction = [] then [] else '.' :: parts.fraction

/-- The sign of an exponent. -/
def signOf (negative : Bool) : CodePoint :=
  if negative then '-' else '+'

/-- The mark, the sign and the digits of the exponent. -/
def exponentText (parts : Parts) : Text :=
  match parts.exponent with
  | none => []
  | some (negative, digits) => 'E' :: signOf negative :: digits

/-- The text of a number with the parts. -/
def text (parts : Parts) : Text :=
  parts.whole ++ (parts.fractionText ++ parts.exponentText)

/-- The value of the exponent. -/
def exponentValue (parts : Parts) : Int :=
  match parts.exponent with
  | none => 0
  | some (negative, digits) =>
    let size : Int := Text.value 10 digits
    if negative then -size else size

/-- The number with the parts. -/
def value (parts : Parts) : Decimal :=
  Decimal.compose false parts.whole parts.fraction parts.exponentValue

/-! ## A written number is a numeral -/

theorem exists_fraction (parts : Parts) :
    ∃ fraction, Numeral.fractionText fraction = parts.fractionText ∧
      fractionDigits fraction = parts.fraction := by
  unfold fractionText
  split
  · rename_i empty
    exact ⟨none, rfl, empty.symm⟩
  · rename_i notEmpty
    exact ⟨some ⟨parts.fraction, notEmpty, parts.fraction_digits⟩, rfl, rfl⟩

theorem isSign_signOf (negative : Bool) :
    [signOf negative] = [] ∨ [signOf negative] = [('+' : CodePoint)] ∨
      [signOf negative] = [('-' : CodePoint)] := by
  cases negative with
  | false => exact .inr (.inl rfl)
  | true => exact .inr (.inr rfl)

theorem exists_power (parts : Parts) :
    ∃ power, powerText power = parts.exponentText ∧ powerValue power = parts.exponentValue := by
  unfold exponentText exponentValue
  split
  · exact ⟨none, rfl, rfl⟩
  · rename_i negative digits given
    obtain ⟨notEmpty, inside⟩ := parts.exponent_digits _ given
    refine ⟨some ⟨'E', [signOf negative], ⟨digits, notEmpty, inside⟩, .inr rfl,
      isSign_signOf negative⟩, rfl, ?_⟩
    cases negative <;> rfl

/-- A written number is a decimal numeral of the same value. -/
theorem exists_form (parts : Parts) :
    ∃ whole fraction power, (Form.decimal whole fraction power).text = parts.text ∧
      (Form.decimal whole fraction power).written = parts.value := by
  obtain ⟨fraction, places, digits⟩ := parts.exists_fraction
  obtain ⟨power, exponent, value⟩ := parts.exists_power
  refine ⟨⟨parts.whole, parts.whole_ne_nil, parts.whole_digits⟩, fraction, power, ?_, ?_⟩
  · rw [Form.text, places, exponent, text]
  · rw [Form.written, digits, value, Parts.value]

/-- The text of a number is scanned as one numeral before a space. -/
theorem lexeme_append
    (parts : Parts)
    (rest : Text)
    (ends : ∀ point ∈ rest.head?, point = ' ') :
    Numeral.lexeme (parts.text ++ rest) = parts.text := by
  obtain ⟨whole, fraction, power, written, _⟩ := parts.exists_form
  rw [← written]
  refine lexeme_text_append (fun point first => ?_) _
  rw [ends point first]
  decide

/-- The value of a written number is put together from its parts. -/
theorem value?_text
    (parts : Parts)
    (held : parts.value.isHeld = true) :
    Numeral.value? parts.text = some parts.value := by
  obtain ⟨whole, fraction, power, written, value⟩ := parts.exists_form
  rw [← written, Numeral.value?_text, Form.isOutOfRange, value, held]
  rfl

/-- Numbers that are written alike have the same parts in value. -/
theorem value_eq_of_text_eq
    {parts parts' : Parts}
    (same : parts.text = parts'.text) :
    parts.value = parts'.value := by
  obtain ⟨whole, fraction, power, written, value⟩ := parts.exists_form
  obtain ⟨whole', fraction', power', written', value'⟩ := parts'.exists_form
  rw [← value, ← value']
  exact written_eq_of_text_eq (written.trans (same.trans written'.symm))

end Parts

end Numeral

namespace Decimal

open Numeral

/-- The sign of an exponent and its digits. -/
def exponentParts (exponent : Int) : Bool × Text :=
  (decide (exponent < 0), Text.ofNat exponent.natAbs)

theorem exponentMark_eq (exponent : Int) :
    exponentMark exponent =
      CodePoint.ofChar 'E' :: Parts.signOf (exponentParts exponent).1 ::
        (exponentParts exponent).2 := by
  cases exponent with
  | ofNat number => rfl
  | negSucc number =>
    have negative : Int.negSucc number < 0 := Int.negSucc_lt_zero number
    rw [exponentMark, if_pos negative, exponentParts, decide_eq_true negative]
    rfl

/-- The parts of a number in scientific notation. -/
def scientificParts (digit : CodePoint) (digits : Text) (exponent : Int)
    (inside : (digit :: digits).all CodePoint.isDigit = true) : Parts where
  whole := [digit]
  fraction := digits
  exponent := some (exponentParts exponent)
  whole_ne_nil := List.cons_ne_nil _ _
  whole_digits := by
    simp only [List.all_cons, Bool.and_eq_true] at inside
    simp [inside.1]
  fraction_digits := by
    simp only [List.all_cons, Bool.and_eq_true] at inside
    exact inside.2
  exponent_digits := by
    rintro pair ⟨⟩
    exact ⟨Text.ofNat_ne_nil _, Text.all_isDigit_ofNat _⟩

/-- The parts of a number in plain notation. -/
def plainParts (whole fraction : Text)
    (notEmpty : whole ≠ [])
    (wholeDigits : whole.all CodePoint.isDigit = true)
    (fractionDigits : fraction.all CodePoint.isDigit = true) : Parts where
  whole := whole
  fraction := fraction
  exponent := none
  whole_ne_nil := notEmpty
  whole_digits := wholeDigits
  fraction_digits := fractionDigits
  exponent_digits := by simp

theorem exponentValue_scientificParts
    {digit : CodePoint}
    {digits : Text}
    {exponent : Int}
    {inside : (digit :: digits).all CodePoint.isDigit = true} :
    (scientificParts digit digits exponent inside).exponentValue = exponent := by
  simp only [Parts.exponentValue, scientificParts, exponentParts, Text.value_ofNat,
    decide_eq_true_eq]
  omega

theorem text_scientificParts
    {digit : CodePoint}
    {digits : Text}
    {exponent : Int}
    {inside : (digit :: digits).all CodePoint.isDigit = true} :
    (scientificParts digit digits exponent inside).text =
      scientific (digit :: digits) exponent := by
  have mark : (scientificParts digit digits exponent inside).exponentText =
      exponentMark exponent := (exponentMark_eq exponent).symm
  rw [Parts.text, mark]
  cases digits with
  | nil => rfl
  | cons second digits => rfl

/-- Plain notation has the parts of a number without an exponent. -/
theorem exists_parts_plain
    {digits : Text}
    (notEmpty : digits ≠ [])
    (inside : digits.all CodePoint.isDigit = true)
    (places : Nat) :
    ∃ parts : Parts, parts.text = plain digits places ∧ parts.exponentValue = 0 ∧
      parts.fraction.length = places ∧
      Text.value 10 (parts.whole ++ parts.fraction) = Text.value 10 digits := by
  by_cases none : places = 0
  · refine ⟨plainParts digits [] notEmpty inside rfl, ?_, rfl, none.symm, ?_⟩
    · rw [plain, if_pos none]
      exact List.append_nil digits
    · exact congrArg _ (List.append_nil digits)
  · by_cases within : places < digits.length
    · have front : digits.take (digits.length - places) ≠ [] := by
        rw [ne_eq, List.take_eq_nil_iff, not_or]
        exact ⟨by omega, notEmpty⟩
      have behind : digits.drop (digits.length - places) ≠ [] := by
        rw [ne_eq, List.drop_eq_nil_iff]
        omega
      refine ⟨plainParts (digits.take (digits.length - places))
        (digits.drop (digits.length - places)) front ?_ ?_, ?_, rfl, ?_, ?_⟩
      · exact List.all_eq_true.2 fun point member =>
          List.all_eq_true.1 inside point (List.mem_of_mem_take member)
      · exact List.all_eq_true.2 fun point member =>
          List.all_eq_true.1 inside point (List.mem_of_mem_drop member)
      · simp only [plain, none, within, if_false, if_true, Parts.text, Parts.fractionText,
          Parts.exponentText, plainParts, behind, List.append_nil, List.append_assoc]
        rfl
      · simp only [plainParts, List.length_drop]
        omega
      · simp only [plainParts, List.take_append_drop]
    · have fraction : (List.replicate (places - digits.length) (CodePoint.ofChar '0') ++
          digits).all CodePoint.isDigit = true := by
        rw [List.all_append, inside, Bool.and_true, List.all_replicate]
        simp [show CodePoint.isDigit '0' = true from by decide]
      refine ⟨plainParts (Text.of "0") (List.replicate (places - digits.length)
        (CodePoint.ofChar '0') ++ digits) (by decide) (by decide) fraction, ?_, rfl, ?_, ?_⟩
      · simp only [plain, none, within, if_false, Parts.text, Parts.fractionText,
          Parts.exponentText, plainParts, List.append_eq_nil_iff, notEmpty, and_false,
          List.append_nil, List.append_assoc]
        rfl
      · simp only [plainParts, List.length_append, List.length_replicate]
        omega
      · exact Text.value_replicate_zero_append (places - digits.length + 1) digits

/-- A number that is not negative is written with the parts that it is put
together from. -/
theorem exists_parts
    {decimal : Decimal}
    (positive : decimal.negative = false) :
    ∃ parts : Parts, parts.text = decimal.toText ∧ parts.value = decimal := by
  have notEmpty := Text.ofNat_ne_nil decimal.coefficient
  have inside := Text.all_isDigit_ofNat decimal.coefficient
  have length : (Text.ofNat decimal.coefficient).length = decimal.digitCount := by
    rw [Text.ofNat, List.length_map, digitCount]
  have coefficient := Text.value_ofNat decimal.coefficient
  simp only [toText, positive, Bool.false_eq_true, if_false]
  by_cases isPlain : decimal.isPlain = true
  · rw [if_pos isPlain]
    obtain ⟨parts, written, exponent, places, digits⟩ :=
      exists_parts_plain notEmpty inside (-decimal.exponent).toNat
    refine ⟨parts, written, ?_⟩
    simp only [Decimal.isPlain, Bool.and_eq_true, decide_eq_true_eq] at isPlain
    have exponentBack : (0 : Int) - ((-decimal.exponent).toNat : Nat) = decimal.exponent := by
      omega
    rw [Parts.value, compose, digits, coefficient, exponent, places, exponentBack, ← positive]
  · rw [if_neg isPlain]
    obtain ⟨digit, digits, whole⟩ := List.exists_cons_of_ne_nil notEmpty
    rw [whole] at inside length coefficient
    refine ⟨scientificParts digit digits decimal.adjusted inside, ?_, ?_⟩
    · rw [text_scientificParts, whole]
    · have exponentBack : decimal.adjusted - digits.length = decimal.exponent := by
        simp only [adjusted, ← length, List.length_cons]
        omega
      rw [Parts.value, compose, exponentValue_scientificParts]
      simp only [scientificParts, List.singleton_append, coefficient, exponentBack, ← positive]

/-- A number that is not negative is the value of its text. -/
theorem value?_toText
    {decimal : Decimal}
    (positive : decimal.negative = false)
    (held : decimal.isHeld = true) :
    Numeral.value? decimal.toText = some decimal := by
  obtain ⟨parts, written, value⟩ := exists_parts positive
  rw [← written, ← value]
  exact parts.value?_text (by rw [value]; exact held)

/-- The text of a number that is not negative begins with a digit. -/
theorem exists_digit_toText
    {decimal : Decimal}
    (positive : decimal.negative = false) :
    ∃ digit rest, decimal.toText = digit :: rest ∧ digit.isDigit = true := by
  obtain ⟨parts, written, _⟩ := exists_parts positive
  obtain ⟨digit, digits, whole⟩ := List.exists_cons_of_ne_nil parts.whole_ne_nil
  have inside := parts.whole_digits
  rw [whole, List.all_cons, Bool.and_eq_true] at inside
  refine ⟨digit, digits ++ (parts.fractionText ++ parts.exponentText), ?_, inside.1⟩
  rw [← written, Parts.text, whole, List.cons_append]

/-- A negative number is written as its opposite behind a minus sign. -/
theorem toText_of_negative
    {decimal : Decimal}
    (negative : decimal.negative = true) :
    decimal.toText = CodePoint.ofChar '-' :: toText { decimal with negative := false } := by
  simp only [toText, negative, if_true, Bool.false_eq_true, if_false]
  rfl

/-- The text of a negative number is not the one of a number that is not negative. -/
theorem toText_ne_of_negative
    {left right : Decimal}
    (negative : left.negative = true)
    (positive : right.negative = false) :
    left.toText ≠ right.toText := by
  intro same
  obtain ⟨digit, rest, begins, isDigit⟩ := exists_digit_toText positive
  rw [toText_of_negative negative, begins, List.cons.injEq] at same
  rw [← same.1] at isDigit
  exact absurd isDigit (by decide)

/-- A decimal is known by its text. -/
theorem toText_injective : Function.Injective toText := by
  have ofPositive : ∀ left right : Decimal, left.negative = false → right.negative = false →
      left.toText = right.toText → left = right := by
    intro left right leftPositive rightPositive same
    obtain ⟨parts, written, value⟩ := exists_parts leftPositive
    obtain ⟨parts', written', value'⟩ := exists_parts rightPositive
    rw [← value, ← value']
    exact Parts.value_eq_of_text_eq (written.trans (same.trans written'.symm))
  intro left right same
  cases leftSign : left.negative with
  | false =>
    cases rightSign : right.negative with
    | false => exact ofPositive left right leftSign rightSign same
    | true => exact absurd same.symm (toText_ne_of_negative rightSign leftSign)
  | true =>
    cases rightSign : right.negative with
    | false => exact absurd same (toText_ne_of_negative leftSign rightSign)
    | true =>
      rw [toText_of_negative leftSign, toText_of_negative rightSign, List.cons.injEq] at same
      have unsigned := ofPositive _ _ rfl rfl same.2
      simp only [mk.injEq, true_and] at unsigned
      obtain ⟨negative, coefficient, exponent⟩ := left
      obtain ⟨negative', coefficient', exponent'⟩ := right
      simp only at leftSign rightSign unsigned
      rw [leftSign, rightSign, unsigned.1, unsigned.2]

end Decimal

namespace Token

/-- The text of a number is scanned up to a space. -/
theorem scanHere_number
    {cursor : Cursor}
    {decimal : Decimal}
    {rest : Text}
    (unread : cursor.rest = decimal.toText ++ (Text.space ++ rest))
    (positive : decimal.negative = false) :
    scanHere cursor = .ok (take cursor .number decimal.toText) := by
  obtain ⟨parts, written, _⟩ := Decimal.exists_parts positive
  have numeral := parts.lexeme_append (Text.space ++ rest) (by rintro point ⟨⟩; rfl)
  rw [written] at numeral
  have scanned : scanNumber cursor = .ok (take cursor .number decimal.toText) := by
    have noTail : (Text.space ++ rest).takeWhile Numeral.isTail = [] :=
      List.takeWhile_cons_of_neg (by decide)
    simp only [scanNumber, unread, numeral, List.drop_left, noTail, List.isEmpty_nil, if_true]
  obtain ⟨digit, digits, begins, isDigit⟩ := Decimal.exists_digit_toText positive
  have first : cursor.rest = digit :: (digits ++ (Text.space ++ rest)) := by
    rw [unread, begins, List.cons_append]
  rw [scanHere, first]
  simp only [isDigit, if_true]
  exact scanned

end Token

end Stencil
