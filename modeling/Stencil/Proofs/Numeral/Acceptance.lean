import Mathlib.Tactic.Ring
import Stencil.Proofs.Decimal.Rational
import Stencil.Proofs.Numeral.Value

/-!
# Which numerals are scanned

At a digit scanning succeeds exactly if a numeral of the grammar ends there where a
numeral may end, and there is at most one such numeral.  The main statement adds
that every other failure is placed at the digit, and that a numeral has the rational
number that its digits stand for as its value, unless its exponents are out of range.
-/

namespace Stencil

namespace Numeral

/-! ## The numbers that numerals stand for -/

/-- The number of a fraction: its digits, as many places behind the point. -/
def fractionNumber : Option (Digits .ten) → ℚ
  | none => 0
  | some digits => digits.value / 10 ^ digits.text.length

/-- The number that a numeral stands for. -/
def Form.number : Form → ℚ
  | .hexadecimal _ _ digits => digits.value
  | .octal _ _ digits => digits.value
  | .decimal whole fraction power =>
    (whole.value + fractionNumber fraction) * 10 ^ powerValue power

theorem fractionNumber_eq (fraction : Option (Digits .ten)) :
    fractionNumber fraction =
      Text.value 10 (fractionDigits fraction) / 10 ^ (fractionDigits fraction).length := by
  cases fraction with
  | none => simp [fractionNumber, fractionDigits, Text.value]
  | some digits => rfl

/-- A decimal stands for the number of the numeral that writes it down. -/
theorem toRat_written (form : Form) : form.written.toRat = form.number := by
  cases form with
  | hexadecimal mark isMark digits => exact Decimal.toRat_ofNat digits.value
  | octal mark isMark digits => exact Decimal.toRat_ofNat digits.value
  | decimal whole fraction power =>
    have ten : (10 : ℚ) ^ (fractionDigits fraction).length ≠ 0 := pow_ne_zero _ (by norm_num)
    rw [Form.written, Decimal.toRat, Decimal.compose, if_neg Bool.false_ne_true, Decimal.scaled,
      Text.value_append, Nat.pow_eq, zpow_sub₀ (by norm_num), zpow_natCast, Form.number,
      fractionNumber_eq,
      Digits.value, Base.radix]
    push_cast
    field_simp

theorem isNegative_written (form : Form) : form.written.negative = false := by
  cases form <;> rfl

/-- A numeral has no value only if its exponents are out of range. -/
theorem value?_eq_none_iff
    {form : Form} :
    value? form.text = none ↔ ∃ whole fraction power,
      form = .decimal whole fraction power ∧
        (Decimal.greatestAdjusted < form.written.adjusted ∨
          form.written.exponent < Decimal.leastExponent) := by
  rw [value?_text, ← Form.isOutOfRange_iff]
  cases form.isOutOfRange <;> simp

theorem eq_written_of_value?
    {form : Form}
    {decimal : Decimal}
    (found : value? form.text = some decimal) :
    decimal = form.written := by
  rw [value?_text, Option.ite_none_left_eq_some, Option.some.injEq] at found
  exact found.2.symm

/-! ## The numeral that heads a text -/

/-- A numeral heads a text, and it may end where the rest of the text begins. -/
structure Heads (text : Text) (form : Form) (after : Text) : Prop where
  /-- The numeral stands before the rest of the text. -/
  whole : text = form.text ++ after
  /-- It does not touch a word character, a full stop or an apostrophe. -/
  ends : ∀ point ∈ after.head?, point.isWord = false ∧ point ≠ '.' ∧ point ≠ '\''

theorem Heads.isTail_eq_false
    {text after : Text}
    {form : Form}
    (heads : Heads text form after) :
    ∀ point ∈ after.head?, isTail point = false := by
  intro point first
  obtain ⟨noWord, noStop, noApostrophe⟩ := heads.ends point first
  exact isTail_eq_false_iff.2 ⟨noWord, noApostrophe, noStop⟩

theorem Heads.lexeme_eq
    {text after : Text}
    {form : Form}
    (heads : Heads text form after) :
    lexeme text = form.text := by
  rw [heads.whole]
  exact lexeme_text_append heads.isTail_eq_false form

/-- At most one numeral heads a text. -/
theorem Heads.unique
    {text after after' : Text}
    {form form' : Form}
    (heads : Heads text form after)
    (heads' : Heads text form' after') :
    form.text = form'.text ∧ after = after' := by
  have same : form.text = form'.text := heads.lexeme_eq.symm.trans heads'.lexeme_eq
  have whole := heads.whole.symm.trans heads'.whole
  rw [same, List.append_cancel_left_eq] at whole
  exact ⟨same, whole⟩

end Numeral

namespace Token

open Numeral

variable
  {cursor : Cursor}
  {digit : CodePoint}
  {rest : Text}

/-- At a digit a token is scanned as a numeral. -/
theorem scan_eq_scanNumber
    (unread : cursor.rest = digit :: rest)
    (isDigit : digit.isDigit = true) :
    scan cursor = scanNumber cursor := by
  have noBlanks : cursor.skipBlanks = cursor :=
    @Cursor.skipBlanks_eq cursor [] _ unread rfl
      ⟨digit, rest, rfl, CodePoint.isBlank_of_isDigit isDigit⟩
  rw [scan, noBlanks, scanHere, unread]
  simp only [isDigit, if_true]

theorem scan_of_heads
    {after : Text}
    {form : Form}
    (unread : cursor.rest = digit :: rest)
    (isDigit : digit.isDigit = true)
    (heads : Heads cursor.rest form after) :
    scan cursor =
      .ok (located cursor .number form.text, cursor.forward form.text.length) := by
  have behind : cursor.rest.drop form.text.length = after := by
    rw [heads.whole, List.drop_left]
  have noTail : (after.takeWhile isTail).isEmpty = true :=
    Text.isEmpty_takeWhile_iff.2 heads.isTail_eq_false
  rw [scan_eq_scanNumber unread isDigit]
  simp only [scanNumber, heads.lexeme_eq, behind, noTail, if_true]
  rfl

/-- What is scanned at a digit is a numeral that ends where it may end; otherwise
scanning fails at the digit. -/
theorem heads_or_malformed
    (unread : cursor.rest = digit :: rest)
    (isDigit : digit.isDigit = true) :
    (∃ form after, Heads cursor.rest form after) ∨
      ∃ text, scan cursor = .error ⟨.malformedNumber text, cursor.position⟩ := by
  obtain ⟨form, after, found, whole⟩ := exists_form_append isDigit rest
  rw [← unread] at found whole
  have behind : cursor.rest.drop form.text.length = after := by rw [whole, List.drop_left]
  cases noTail : (after.takeWhile isTail).isEmpty with
  | true =>
    refine .inl ⟨form, after, whole, fun point first => ?_⟩
    obtain ⟨noWord, noApostrophe, noStop⟩ :=
      isTail_eq_false_iff.1 (Text.isEmpty_takeWhile_iff.1 noTail point first)
    exact ⟨noWord, noStop, noApostrophe⟩
  | false =>
    refine .inr ⟨form.text ++ after.takeWhile isTail, ?_⟩
    rw [scan_eq_scanNumber unread isDigit]
    simp only [scanNumber, found, behind, noTail, Bool.false_eq_true, if_false]

/-- At a digit a token is scanned exactly if the text goes on with a numeral that ends
where a numeral may end: the token is that numeral, which is the only one, and nothing
else is passed.  Otherwise scanning fails at the digit.  A numeral has no value only
if it is decimal and its exponents are out of range; its value is the number that its
digits stand for, with the coefficient and the exponent that a decimal numeral is
written with. -/
theorem scan_number_iff_heads
    (unread : cursor.rest = digit :: rest)
    (isDigit : digit.isDigit = true) :
    (∀ token behind, scan cursor = .ok (token, behind) ↔
      ∃ form after, Heads cursor.rest form after ∧
        token = located cursor .number form.text ∧
        behind = cursor.forward form.text.length ∧ behind.rest = after) ∧
    (∀ form form' after after', Heads cursor.rest form after →
      Heads cursor.rest form' after' → form.text = form'.text) ∧
    ((¬ ∃ form after, Heads cursor.rest form after) →
      ∃ text, scan cursor = .error ⟨.malformedNumber text, cursor.position⟩) ∧
    ∀ form : Form,
      (value? form.text = none ↔ ∃ whole fraction power,
        form = .decimal whole fraction power ∧
          (Decimal.greatestAdjusted < form.written.adjusted ∨
            form.written.exponent < Decimal.leastExponent)) ∧
      ∀ decimal, value? form.text = some decimal →
        decimal.toRat = form.number ∧ decimal.negative = false ∧
        ∀ whole fraction power, form = .decimal whole fraction power →
          decimal.coefficient = Text.value 10 (whole.text ++ fractionDigits fraction) ∧
          decimal.exponent = powerValue power - (fractionDigits fraction).length := by
  refine ⟨fun token behind => ⟨fun scanned => ?_, ?_⟩,
    fun form form' after after' heads heads' => (heads.unique heads').1, fun none => ?_,
    fun form => ⟨value?_eq_none_iff, fun decimal found => ?_⟩⟩
  · rcases heads_or_malformed unread isDigit with ⟨form, after, heads⟩ | ⟨text, failed⟩
    · rw [scan_of_heads unread isDigit heads] at scanned
      obtain ⟨rfl, rfl⟩ := Prod.mk.inj (Except.ok.inj scanned)
      exact ⟨form, after, heads, rfl, rfl, Cursor.rest_forward_of_append heads.whole⟩
    · rw [failed] at scanned
      cases scanned
  · rintro ⟨form, after, heads, rfl, rfl, _⟩
    exact scan_of_heads unread isDigit heads
  · exact (heads_or_malformed unread isDigit).resolve_left none
  · obtain rfl := eq_written_of_value? found
    refine ⟨toRat_written form, isNegative_written form, ?_⟩
    rintro whole fraction power rfl
    exact ⟨rfl, rfl⟩

/-- A numeral with each part before other text, and one that runs into more digits. -/
theorem scan_number_of_parts :
    (∃ form, Heads (Text.of "1.50e+3)") form (Text.of ")") ∧ form.number = 1500) ∧
    ∃ text, scan (Cursor.start (Text.of "t") (Text.of "1e5.2")) =
      .error ⟨.malformedNumber text, ⟨Text.of "t", 1, 1, 0⟩⟩ := by
  constructor
  · have unread : (Cursor.start (Text.of "t") (Text.of "1.50e+3)")).rest =
        CodePoint.ofChar '1' :: Text.of ".50e+3)" := by
      decide +kernel
    have scanned : scan (Cursor.start (Text.of "t") (Text.of "1.50e+3)")) =
        .ok (⟨.number, Text.of "1.50e+3", ⟨Text.of "t", 1, 1, 0⟩, 0⟩,
          ⟨Text.of "t", 7, 1, 8, 7, Text.of ")"⟩) := by
      decide +kernel
    have value : value? (Text.of "1.50e+3") = some ⟨false, 150, 1⟩ := by decide +kernel
    obtain ⟨accepted, _, _, values⟩ := scan_number_iff_heads unread (by decide)
    obtain ⟨form, after, heads, written, _, rfl⟩ := (accepted _ _).1 scanned
    have sameText : Text.of "1.50e+3" = form.text := congrArg Token.value written
    rw [sameText] at value
    have number := ((values form).2 _ value).1
    refine ⟨form, heads, ?_⟩
    rw [← number]
    norm_num [Decimal.toRat, Decimal.scaled]
  · have unread : (Cursor.start (Text.of "t") (Text.of "1e5.2")).rest =
        CodePoint.ofChar '1' :: Text.of "e5.2" := by
      decide +kernel
    have failed : (scan (Cursor.start (Text.of "t") (Text.of "1e5.2"))).toOption = none := by
      decide +kernel
    have none : ¬ ∃ form after,
        Heads (Cursor.start (Text.of "t") (Text.of "1e5.2")).rest form after := by
      rintro ⟨form, after, heads⟩
      rw [scan_of_heads unread (by decide) heads] at failed
      cases failed
    exact (scan_number_iff_heads unread (by decide)).2.2.1 none

end Token

end Stencil
