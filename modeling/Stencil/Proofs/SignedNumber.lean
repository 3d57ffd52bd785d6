import Stencil.Proofs.Decimal.Overflow
import Stencil.Proofs.Numeral.Acceptance
import Stencil.Proofs.RightOperand

/-!
# Numbers with a sign

A sign that touches a numeral belongs to the number.  Behind a plus sign the number is
the value of the numeral, whatever the number of its digits.  Behind a minus sign it is
negated in the working format, which holds 28 digits and a range of exponents.  The main
statement is that a minus sign is read exactly if and only if this format holds the
number; reading stops if and only if the number is too large for the format, and otherwise
it gives another number.
-/

namespace Stencil

namespace Numeral

/-- A numeral begins with a digit. -/
theorem Form.exists_digit (form : Form) :
    ∃ digit rest, form.text = digit :: rest ∧ digit.isDigit = true := by
  cases form with
  | hexadecimal mark isMark digits => exact ⟨_, _, rfl, by decide⟩
  | octal mark isMark digits => exact ⟨_, _, rfl, by decide⟩
  | decimal whole fraction power =>
    obtain ⟨digit, others, written, isDigit⟩ := whole.exists_cons
    exact ⟨digit, others ++ (fractionText fraction ++ powerText power),
      by rw [Form.text, written, List.cons_append], isDigit⟩

/-- A digit does not go on with an operator. -/
theorem isOperatorRest_of_isDigit
    {point : CodePoint}
    (isDigit : point.isDigit = true) :
    Style.isOperatorRest point = false := by
  have checked : (Text.of "-+!&|=><").all (fun point => !point.isDigit) = true := by decide
  rw [Bool.eq_false_iff]
  intro isRest
  have member : point ∈ Text.of "-+!&|=><" := by simpa [Style.isOperatorRest] using isRest
  have noDigit := List.all_eq_true.1 checked point member
  simp [isDigit] at noDigit

end Numeral

namespace Template

open Numeral Reading Region

/-- A numeral with a sign before it, as an inline expression. -/
def signedBody (sign : CodePoint) (form : Form) : Text :=
  Text.space ++ ([sign] ++ (form.text ++ (Text.space ++ Delimiters.braces.inline.closing)))

section Signed

variable
  {options : Options}
  {name : Text}
  {sign : CodePoint}
  {form : Form}

theorem rest_inlineStart (name body : Text) : (inlineStart name body).rest = body :=
  Cursor.rest_forward_of_append rfl

/-- The sign stands behind a space. -/
theorem continues_sign
    (isSign : sign = '+' ∨ sign = '-') :
    (inlineRegion options (signedBody sign form)).Continues
      (inlineStart name (signedBody sign form))
      (Token.located ((inlineStart name (signedBody sign form)).forward 1) .operator [sign])
      ((inlineStart name (signedBody sign form)).forward 2) := by
  refine @Continues.of_operator _ _ Text.space [sign] _ (apart_inlineRegion _ _)
    (rest_inlineStart _ _) Text.isBlank_space ?_ ?_
  · rcases isSign with rfl | rfl <;> decide
  · intro point first
    obtain ⟨digit, rest, written, isDigit⟩ := form.exists_digit
    rw [written] at first
    obtain rfl : digit = point := Option.some.inj first
    exact isOperatorRest_of_isDigit isDigit

theorem rest_behind_sign (name : Text) (sign : CodePoint) (form : Form) :
    ((inlineStart name (signedBody sign form)).forward 2).rest =
      form.text ++ (Text.space ++ Delimiters.braces.inline.closing) := by
  rw [Cursor.rest_forward, rest_inlineStart]
  rfl

theorem isBeforeDigit_behind_sign (name : Text) (sign : CodePoint) (form : Form) :
    isBeforeDigit ((inlineStart name (signedBody sign form)).forward 2) = true := by
  obtain ⟨digit, rest, written, isDigit⟩ := form.exists_digit
  rw [isBeforeDigit, rest_behind_sign, written]
  exact isDigit

/-- The numeral stands right behind the sign. -/
theorem token_behind_sign (name : Text) (sign : CodePoint) (form : Form) :
    Reading.token ((inlineStart name (signedBody sign form)).forward 2) =
      .ok (Token.located ((inlineStart name (signedBody sign form)).forward 2) .number form.text,
        ((inlineStart name (signedBody sign form)).forward 2).forward form.text.length) := by
  obtain ⟨digit, rest, written, isDigit⟩ := form.exists_digit
  have unread := rest_behind_sign name sign form
  have begins : ((inlineStart name (signedBody sign form)).forward 2).rest =
      digit :: (rest ++ (Text.space ++ Delimiters.braces.inline.closing)) := by
    rw [unread, written, List.cons_append]
  rw [token_eq_ok]
  refine Token.scan_of_heads begins isDigit ⟨unread, ?_⟩
  rintro point ⟨⟩
  decide

/-- The region ends behind the numeral. -/
theorem isDone_behind_numeral (name : Text) (sign : CodePoint) (form : Form) :
    (inlineRegion options (signedBody sign form)).isDone
      (((inlineStart name (signedBody sign form)).forward 2).forward form.text.length) = true := by
  refine @Apart.isDone_eq_true _ _ Text.space [] (apart_inlineRegion options _) ?_
    Text.isBlank_space
  rw [Cursor.rest_forward_of_append (rest_behind_sign name sign form), List.append_nil]
  rfl

/-- A number with a sign is an expression. -/
theorem reads_of_written
    {value : Decimal}
    (isSign : sign = '+' ∨ sign = '-')
    (written : Written (inlineStart name (signedBody sign form)) ⟨name, 1, 4, 3⟩ (.number value)
      (((inlineStart name (signedBody sign form)).forward 2).forward form.text.length)) :
    (inlineRegion options (signedBody sign form)).Reads (.expression 1) 0
      (inlineStart name (signedBody sign form)) (.literal ⟨name, 1, 4, 3⟩ (.number value))
      (((inlineStart name (signedBody sign form)).forward 2).forward form.text.length) := by
  have next := @continues_sign options name sign form isSign
  have bare : isPrefixOperator [sign] = false := by
    rcases isSign with rfl | rfl <;> decide
  have operand := Reads.operand next (by simp [Token.located, bare])
    (@Reads.literal _ 0 _ _ _ _ _ _ next (by simp) (written.literal?_eq_ok 0))
  exact .expression operand .none (.inl (isDone_behind_numeral name sign form))

/-- A source of one number with a sign is read to that number. -/
theorem read_of_written
    {table : OperatorTable}
    {limit : Int}
    {value : Decimal}
    (allowed : 1 ≤ limit)
    (isSign : sign = '+' ∨ sign = '-')
    (written : Written (inlineStart name (signedBody sign form)) ⟨name, 1, 4, 3⟩ (.number value)
      (((inlineStart name (signedBody sign form)).forward 2).forward form.text.length)) :
    (read ⟨table, limit, Kind.all⟩ name .braces (inlineSource (signedBody sign form))).result =
      .ok ⟨.literal ⟨name, 1, 4, 3⟩ (.number value), []⟩ := by
  refine read_inlineSource (reads_of_written isSign written) ?_ (by omega)
  rw [Cursor.rest_forward_of_append (rest_behind_sign name sign form)]

/-- A minus sign is no literal where the number cannot be negated. -/
theorem literal?_eq_overflow
    (negated : Reading.negative form.text = .error .overflow)
    (calls : Nat) :
    literal? (calls + 1) (inlineStart name (signedBody '-' form)) = .error .overflow := by
  obtain ⟨_, scanned⟩ := @continues_sign {} name '-' form (.inr rfl)
  have touches := isBeforeDigit_behind_sign name '-' form
  have next := token_behind_sign name '-' form
  have minus : [CodePoint.ofChar '-'] = Text.of "-" := rfl
  simp only [literal?, scanned, ok_bind]
  simp [Token.located, Token.isWord, Token.isOperator, minus, touches, next, negated]

/-- Reading stops with an overflow where a number cannot be negated. -/
theorem expression_eq_overflow
    (negated : Reading.negative form.text = .error .overflow)
    (calls : Nat) :
    (inlineRegion options (signedBody '-' form)).expression (calls + 4) 1 1
      (inlineStart name (signedBody '-' form)) = .error .overflow := by
  obtain ⟨notDone, scanned⟩ := @continues_sign options name '-' form (.inr rfl)
  have bare : isPrefixOperator [CodePoint.ofChar '-'] = false := by decide
  have atom : (inlineRegion options (signedBody '-' form)).atom (calls + 2) 1
      (inlineStart name (signedBody '-' form)) = .error .overflow := by
    rw [Region.atom, notDone]
    simp only [Bool.false_eq_true, if_false, scanned, ok_bind, Token.kind_located, reduceCtorEq,
      literal?_eq_overflow negated]
    rfl
  have unary : (inlineRegion options (signedBody '-' form)).unary (calls + 3) 1
      (inlineStart name (signedBody '-' form)) = .error .overflow := by
    rw [Region.unary, notDone]
    simp only [Bool.false_eq_true, if_false, scanned, ok_bind, Token.located, bare,
      Bool.and_false, atom]
  rw [Region.expression, unary]
  rfl

end Signed

/-! ## Reading numbers with a sign -/

section Results

variable
  {table : OperatorTable}
  {limit : Int}
  {form : Form}
  {value : Decimal}

/-- Behind a plus sign a numeral is read as its value. -/
theorem read_plus
    (name : Text)
    (allowed : 1 ≤ limit)
    (valued : value? form.text = some value) :
    (read ⟨table, limit, Kind.all⟩ name .braces (inlineSource (signedBody '+' form))).result =
      .ok ⟨.literal ⟨name, 1, 4, 3⟩ (.number value), []⟩ := by
  obtain ⟨_, scanned⟩ := @continues_sign {} name '+' form (.inl rfl)
  have number : Reading.number form.text = .ok value := by
    simp only [Reading.number, valued]
  exact read_of_written allowed (.inl rfl) (.positive scanned rfl
    (isBeforeDigit_behind_sign name '+' form) (token_behind_sign name '+' form) number)

/-- Behind a minus sign a numeral is read as the negation of its value in the working
format, and reading stops if that overflows. -/
theorem read_minus
    (name : Text)
    (allowed : 1 ≤ limit)
    (valued : value? form.text = some value) :
    (read ⟨table, limit, Kind.all⟩ name .braces (inlineSource (signedBody '-' form))).result =
      match value.negate? .working with
      | some negated => .ok ⟨.literal ⟨name, 1, 4, 3⟩ (.number negated), []⟩
      | none => .error .overflow := by
  cases outcome : value.negate? .working with
  | some negated =>
    obtain ⟨_, scanned⟩ := @continues_sign {} name '-' form (.inr rfl)
    have number : Reading.negative form.text = .ok negated := by
      simp only [Reading.negative, Reading.number, valued, ok_bind, outcome]
    exact read_of_written allowed (.inr rfl) (.negative scanned rfl
      (isBeforeDigit_behind_sign name '-' form) (token_behind_sign name '-' form) number)
  | none =>
    have negated : Reading.negative form.text = .error .overflow := by
      simp only [Reading.negative, Reading.number, valued, ok_bind, outcome]
    exact read_inlineSource_eq_error allowed fun calls => expression_eq_overflow negated calls

/-- A numeral that has a value is read as that value behind a plus sign.  Behind a minus
sign it is read as the opposite of the value if and only if the working format holds the
value, and reading stops with an overflow if and only if the value is too large for the
working format; between the two it is read as another number. -/
theorem read_signed_number
    (name : Text)
    (allowed : 1 ≤ limit)
    (valued : value? form.text = some value) :
    value.toRat = form.number ∧
    (read ⟨table, limit, Kind.all⟩ name .braces (inlineSource (signedBody '+' form))).result =
      .ok ⟨.literal ⟨name, 1, 4, 3⟩ (.number value), []⟩ ∧
    ((∃ negated,
      (read ⟨table, limit, Kind.all⟩ name .braces (inlineSource (signedBody '-' form))).result =
        .ok ⟨.literal ⟨name, 1, 4, 3⟩ (.number negated), []⟩ ∧
      negated.toRat = -form.number) ↔ Decimal.Format.working.Holds form.number) ∧
    ((read ⟨table, limit, Kind.all⟩ name .braces (inlineSource (signedBody '-' form))).result =
      .error .overflow ↔ Decimal.Format.working.overflowBound ≤ |form.number|) ∧
    (¬ Decimal.Format.working.Holds form.number →
      |form.number| < Decimal.Format.working.overflowBound →
      ∃ negated,
        (read ⟨table, limit, Kind.all⟩ name .braces (inlineSource (signedBody '-' form))).result =
          .ok ⟨.literal ⟨name, 1, 4, 3⟩ (.number negated), []⟩ ∧
        negated.toRat ≠ -form.number) := by
  have number : value.toRat = form.number := by
    rw [eq_written_of_value? valued]
    exact toRat_written form
  have exactly := Decimal.negate?_exact_iff Decimal.isProper_working value
  have overflows := Decimal.negate?_eq_none_iff Decimal.isProper_working value
  rw [number] at exactly overflows
  rw [← exactly, ← overflows, ← not_le, ← overflows, read_minus name allowed valued]
  refine ⟨number, read_plus name allowed valued, ?_, ?_, ?_⟩
  · cases value.negate? .working <;> simp
  · cases value.negate? .working <;> simp
  · intro notExact fits
    obtain ⟨negated, outcome⟩ := Option.ne_none_iff_exists'.1 fits
    rw [outcome]
    exact ⟨negated, rfl, fun same => notExact ⟨negated, outcome, same⟩⟩

end Results

/-- A decimal numeral of an integer. -/
def integerForm (digits : Text) (notEmpty : digits ≠ [])
    (all : digits.all CodePoint.isDigit = true) : Form :=
  .decimal ⟨digits, notEmpty, all⟩ none none

/-- A number of eight digits is read exactly behind both signs. -/
theorem read_signed_number_of_eight_digits :
    (read ⟨.standard, 100, Kind.all⟩ [] .braces (Text.of "\x7b\x7b +20240229 \x7d\x7d")).result =
      .ok ⟨.literal ⟨[], 1, 4, 3⟩ (.number ⟨false, 20240229, 0⟩), []⟩ ∧
    ∃ negated,
      (read ⟨.standard, 100, Kind.all⟩ [] .braces (Text.of "\x7b\x7b -20240229 \x7d\x7d")).result =
        .ok ⟨.literal ⟨[], 1, 4, 3⟩ (.number negated), []⟩ ∧
      negated.toRat = -20240229 := by
  let form := integerForm (Text.of "20240229") (by decide) (by decide)
  have valued : value? form.text = some ⟨false, 20240229, 0⟩ := by decide +kernel
  have plus : inlineSource (signedBody '+' form) = Text.of "\x7b\x7b +20240229 \x7d\x7d" := by
    decide +kernel
  have minus : inlineSource (signedBody '-' form) = Text.of "\x7b\x7b -20240229 \x7d\x7d" := by
    decide +kernel
  obtain ⟨number, positive, negative, _⟩ := @read_signed_number .standard 100 form _ []
    (by decide) valued
  have holds : Decimal.Format.working.Holds (Decimal.toRat ⟨false, 20240229, 0⟩) :=
    Decimal.holds_of_adjusted (by decide +kernel) (by decide +kernel) (by decide +kernel)
  rw [number] at holds
  obtain ⟨negated, read, opposite⟩ := negative.2 holds
  rw [plus] at positive
  rw [minus] at read
  refine ⟨positive, negated, read, ?_⟩
  rw [opposite, ← number]
  simp [Decimal.toRat]

/-- A number of 29 digits is read behind a minus sign, and the last digit is lost. -/
theorem not_read_opposite_of_many_digits :
    value? (Text.of "12345678901234567890123456789") =
      some ⟨false, 12345678901234567890123456789, 0⟩ ∧
    (read ⟨.standard, 100, Kind.all⟩ [] .braces
      (Text.of "\x7b\x7b -12345678901234567890123456789 \x7d\x7d")).result =
        .ok ⟨.literal ⟨[], 1, 4, 3⟩ (.number ⟨true, 1234567890123456789012345679, 1⟩), []⟩ ∧
    Decimal.toRat ⟨true, 1234567890123456789012345679, 1⟩ ≠ -12345678901234567890123456789 := by
  let form := integerForm (Text.of "12345678901234567890123456789") (by decide) (by decide)
  have written : form.text = Text.of "12345678901234567890123456789" := by decide +kernel
  have valued : value? form.text = some ⟨false, 12345678901234567890123456789, 0⟩ := by
    decide +kernel
  have minus : inlineSource (signedBody '-' form) =
      Text.of "\x7b\x7b -12345678901234567890123456789 \x7d\x7d" := by
    decide +kernel
  have negated : Decimal.negate? .working ⟨false, 12345678901234567890123456789, 0⟩ =
      some ⟨true, 1234567890123456789012345679, 1⟩ := by
    decide +kernel
  have read := @read_minus .standard 100 form _ [] (by decide) valued
  rw [minus, negated] at read
  refine ⟨written ▸ valued, read, ?_⟩
  norm_num [Decimal.toRat, Decimal.scaled]

end Template

end Stencil
