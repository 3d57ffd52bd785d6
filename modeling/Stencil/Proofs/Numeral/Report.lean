import Stencil.Proofs.Decimal.Canonical
import Stencil.Proofs.Location
import Stencil.Proofs.NormalForm.Literal
import Stencil.Proofs.Numeral
import Stencil.Proofs.SignedNumber
import Stencil.Proofs.Tokenization
import Stencil.Report

/-!
# Numbers in reports

A report shows a number as a text.  This text is again a literal of the number: behind
a minus sign the rounded number is read once more, and because the working format holds
it, nothing is lost the second time.  The text of a number without a minus sign is one
numeral, with the coefficient and the exponent of the number.
-/

namespace Stencil

namespace Decimal

/-! ## Ranges -/

/-- Fitting leaves exponents in the range of a format. -/
theorem fit?_within
    {format : Format}
    {decimal fitted : Decimal}
    (proper : format.IsProper)
    (fits : format.fit? decimal = some fitted) :
    format.tiny ≤ fitted.exponent ∧ fitted.adjusted ≤ format.greatest := by
  have digits := proper.precision_pos
  have least := proper.least_le
  have tiny : format.tiny + (format.precision - 1 : Nat) = format.least := by
    rw [Format.tiny]
    omega
  unfold Format.fit? at fits
  split at fits
  · rename_i zero
    obtain rfl := Option.some.inj fits
    have single : digitCount (format.fitZero decimal) = 1 := by
      have none : decimal.coefficient = 0 := by simpa [isZero] using zero
      simp [digitCount, Format.fitZero, none]
    have exponent : (format.fitZero decimal).exponent =
        max format.tiny (min format.greatest decimal.exponent) := rfl
    rw [adjusted, single, exponent]
    omega
  · split at fits
    · cases fits
    · split at fits
      · rename_i below
        obtain rfl := Option.some.inj fits
        have place := @adjusted_roundedAt_le decimal format.tiny (format.precision - 1) (by omega)
        exact ⟨le_exponent_roundedAt decimal format.tiny, by omega⟩
      · dsimp only at fits
        split at fits
        · cases fits
        · rename_i notBelow notLarge
          obtain rfl := Option.some.inj fits
          have few := @coefficient_roundedAt_le decimal
            (decimal.adjusted - (format.precision - 1)) format.precision (by omega)
          have raised := (dropCarry_bounds proper few).2
          have place :=
            le_exponent_roundedAt decimal (decimal.adjusted - (format.precision - 1))
          have atLeast : format.tiny = format.least - (format.precision - 1) := rfl
          exact ⟨by omega, by omega⟩

/-- What is negated in the working format can be held. -/
theorem isHeld_of_negate?
    {decimal negated : Decimal}
    (negates : decimal.negate? .working = some negated) :
    negated.isHeld = true := by
  obtain ⟨exponent, adjusted⟩ := fit?_within isProper_working negates
  have tiny : leastExponent ≤ Format.working.tiny := by decide
  have greatest : Format.working.greatest ≤ greatestAdjusted := by decide
  simp only [isHeld, Bool.and_eq_true, decide_eq_true_eq]
  omega

end Decimal

namespace Numeral

/-- The text of a number without a minus sign is a numeral of that number. -/
theorem exists_form_toText
    {value : Decimal}
    (positive : value.negative = false)
    (held : value.isHeld = true) :
    ∃ form : Form, form.text = value.toText ∧ value? form.text = some value := by
  obtain ⟨parts, written, _⟩ := Decimal.exists_parts positive
  obtain ⟨whole, fraction, power, sameText, _⟩ := parts.exists_form
  refine ⟨.decimal whole fraction power, sameText.trans written, ?_⟩
  rw [sameText, written, Decimal.value?_toText positive held]

/-- The value of a numeral can be held, or it is an integer of too many digits. -/
theorem isHeld_or_of_value?
    {form : Form}
    {value : Decimal}
    (valued : value? form.text = some value) :
    value.isHeld = true ∨
      value = .ofNat value.coefficient ∧ Decimal.greatestAdjusted < value.adjusted := by
  have integer (number : Nat) : (Decimal.ofNat number).isHeld = true ∨
      Decimal.ofNat number = .ofNat (Decimal.ofNat number).coefficient ∧
        Decimal.greatestAdjusted < (Decimal.ofNat number).adjusted := by
    rcases lt_or_ge Decimal.greatestAdjusted (Decimal.ofNat number).adjusted with
      above | within
    · exact .inr ⟨rfl, above⟩
    · have exponent : Decimal.leastExponent ≤ (Decimal.ofNat number).exponent :=
        show Decimal.leastExponent ≤ 0 by decide
      exact .inl (by simp [Decimal.isHeld, within, exponent])
  rw [value?_text, Option.ite_none_left_eq_some, Option.some.injEq] at valued
  obtain ⟨inRange, rfl⟩ := valued
  cases form with
  | hexadecimal => exact integer _
  | octal => exact integer _
  | decimal => exact .inl (by simpa [Form.isOutOfRange] using inRange)

end Numeral

namespace Region

open Numeral Reading

/-- A token that is scanned at a digit is a numeral. -/
theorem exists_form_of_digit
    {cursor behind : Cursor}
    {token : Token}
    {digit : CodePoint}
    {rest : Text}
    (unread : cursor.rest = digit :: rest)
    (isDigit : digit.isDigit = true)
    (scanned : Reading.token cursor = .ok (token, behind)) :
    ∃ form : Form, token.value = form.text := by
  rcases Token.heads_or_malformed unread isDigit with ⟨form, after, heads⟩ | ⟨text, failed⟩
  · rw [token_eq_ok, Token.scan_of_heads unread isDigit heads] at scanned
    obtain ⟨rfl, rfl⟩ := Prod.mk.inj (Except.ok.inj scanned)
    exact ⟨form, rfl⟩
  · rw [token_eq_ok, failed] at scanned
    cases scanned

/-- A number is the value of a numeral, or behind a minus sign the negation of one. -/
theorem Written.number_cases
    {cursor finish : Cursor}
    {position : Position}
    {value : Decimal}
    (written : Written cursor position (.number value) finish) :
    (∃ form : Form, value? form.text = some value ∧ value.negative = false) ∨
      ∃ (form : Form) (opposite : Decimal), value? form.text = some opposite ∧
        opposite.negate? .working = some value := by
  have unsigned {form : Form} (valued : value? form.text = some value) :
      value? form.text = some value ∧ value.negative = false :=
    ⟨valued, eq_written_of_value? valued ▸ isNegative_written form⟩
  cases written with
  | number scanned isNumber valued =>
    obtain ⟨⟨digit, rest, unread, isDigit⟩, isLexeme⟩ :=
      (token_eq_ok_iff_scans.1 scanned).number_of_kind isNumber
    obtain ⟨form, whole⟩ := exists_form_lexeme isDigit rest
    rw [isLexeme, unread, ← whole, number_eq_ok] at valued
    exact .inl ⟨form, unsigned valued⟩
  | negative signed isSign touches scanned valued =>
    obtain ⟨digit, rest, unread, isDigit⟩ := exists_of_isBeforeDigit touches
    obtain ⟨form, whole⟩ := exists_form_of_digit unread isDigit scanned
    obtain ⟨opposite, valued, negates⟩ := negative_eq_ok.1 valued
    exact .inr ⟨form, opposite, whole ▸ valued, negates⟩
  | positive signed isSign touches scanned valued =>
    obtain ⟨digit, rest, unread, isDigit⟩ := exists_of_isBeforeDigit touches
    obtain ⟨form, whole⟩ := exists_form_of_digit unread isDigit scanned
    exact .inl ⟨form, unsigned (whole ▸ number_eq_ok.1 valued)⟩

end Region

namespace Token

open Numeral

/-- A text that is one numeral is one token. -/
theorem list_numeral (name : Text) (form : Form) :
    list name form.text =
      .ok [⟨.number, form.text, .ofIndex name form.text 0, 0⟩, atFinish name form.text] := by
  obtain ⟨digit, rest, written, isDigit⟩ := form.exists_digit
  have unread : (Cursor.start name form.text).rest = digit :: rest := written
  have scanned := scan_of_heads unread isDigit ⟨(List.append_nil _).symm, nofun⟩
  have length : form.text.length = rest.length + 1 := congrArg List.length written
  have nothing : ((Cursor.start name form.text).forward form.text.length).rest = [] :=
    Cursor.rest_forward_of_append (List.append_nil _).symm
  have index : ((Cursor.start name form.text).forward form.text.length).index =
      form.text.length := by
    rw [Cursor.index_forward]
    exact (Nat.zero_add _).trans (Nat.min_self _)
  have last : located ((Cursor.start name form.text).forward form.text.length) .finish [] =
      atFinish name form.text := by
    rw [located, Cursor.position_forward_start, index, atFinish]
  have ended := scan_of_rest_eq_nil nothing
  rw [last] at ended
  have next : scanAll (rest.length + 1)
      ((Cursor.start name form.text).forward form.text.length) = .ok [atFinish name form.text] := by
    rw [scanAll, ended]
    rfl
  rw [list, length, scanAll, scanned]
  change (scanAll _ _ >>= fun others => .ok (_ :: others)) = _
  rw [next]
  rfl

end Token

namespace Template

open Numeral Region

/-- A text between spaces, as an inline expression. -/
def spacedBody (text : Text) : Text :=
  Text.space ++ (text ++ (Text.space ++ Delimiters.braces.inline.closing))

section Results

variable
  {table : OperatorTable}
  {limit : Int}
  {value : Decimal}

/-- The text of a number without a minus sign is read to that number. -/
theorem read_toText
    (name : Text)
    (allowed : 1 ≤ limit)
    (positive : value.negative = false)
    (held : value.isHeld = true) :
    (read ⟨table, limit, Kind.all⟩ name .braces (inlineSource (spacedBody value.toText))).result =
      .ok ⟨.literal ⟨name, 1, 4, 3⟩ (.number value), []⟩ := by
  have spells := @Cursor.spells_forward (inlineStart name (spacedBody value.toText))
    (Text.space ++ value.toText) (Text.space ++ Delimiters.braces.inline.closing)
    (by rw [rest_inlineStart, spacedBody, List.append_assoc])
  have ends := Cursor.rest_forward_of_append
    ((rest_inlineStart name (spacedBody value.toText)).trans (List.append_assoc _ _ _).symm)
  have apart := apart_inlineRegion ⟨table, limit, Kind.all⟩ (spacedBody value.toText)
  have next := Continues.of_spelled_number apart spells Text.isBlank_space positive ⟨_, ends⟩
  have valued : Reading.number value.toText = .ok value :=
    number_eq_ok.2 (Decimal.value?_toText positive held)
  have written := Written.number next.2 rfl valued
  have done := apart.isDone_eq_true (ends.trans (List.append_nil _).symm) Text.isBlank_space
  have operand := Reads.operand next rfl
    (@Reads.literal _ 0 _ _ _ _ _ _ next nofun (written.literal?_eq_ok 0))
  exact read_inlineSource (.expression operand .none (.inl done)) ends (by omega)

/-- The text of a number that the working format holds is read to an equal number. -/
theorem read_toText_of_negative
    (name : Text)
    (allowed : 1 ≤ limit)
    (negative : value.negative = true)
    (held : value.isHeld = true)
    (holds : Decimal.Format.working.Holds value.toRat) :
    ∃ again,
      (read ⟨table, limit, Kind.all⟩ name .braces
        (inlineSource (spacedBody value.toText))).result =
          .ok ⟨.literal ⟨name, 1, 4, 3⟩ (.number again), []⟩ ∧
      again.toRat = value.toRat := by
  let opposite : Decimal := { value with negative := false }
  have flipped : opposite.toRat = -value.toRat := by
    simp [Decimal.toRat, opposite, negative]
  have isOpposite : opposite.isHeld = true := held
  obtain ⟨form, written, valued⟩ := exists_form_toText (rfl : opposite.negative = false) isOpposite
  have text : spacedBody value.toText = signedBody '-' form := by
    rw [Decimal.toText_of_negative negative, ← written]
    rfl
  obtain ⟨again, negates, same⟩ :=
    (Decimal.negate?_exact_iff Decimal.isProper_working opposite).2
      (flipped ▸ Decimal.Format.holds_neg.2 holds)
  have outcome := @read_minus table limit form opposite name allowed valued
  rw [negates] at outcome
  refine ⟨again, text ▸ outcome, ?_⟩
  rw [same, flipped, neg_neg]

end Results

/-- Every number of a template is the value of a numeral or, behind a minus sign, the
negation of one, and a decimal can hold it, unless it is an integer of more digits than
decimals have.  The text that a report shows for a number that can be held is a literal:
as an inline expression it is read to an equal number and nothing else.  If the number
has no minus sign, as the values of numerals, the text is one numeral, which has the
coefficient and the exponent of the number. -/
theorem read_reported_number
    {options : Options}
    {name source : Text}
    {delimiters : Delimiters}
    {template : Template}
    {value : Decimal}
    (success : (read options name delimiters source).result = .ok template)
    (member : Literal.number value ∈ template.root.literals) :
    ((∃ form : Form, value? form.text = some value ∧ value.negative = false) ∨
      ∃ (form : Form) (opposite : Decimal), value? form.text = some opposite ∧
        opposite.negate? .working = some value) ∧
    (value.isHeld = true ∨
      value = .ofNat value.coefficient ∧ Decimal.greatestAdjusted < value.adjusted) ∧
    (value.isHeld = true →
      ∃ text, Report.ofLiteral (.number value) = .text text ∧
        (∀ (table : OperatorTable) (limit : Int) (place : Text), 1 ≤ limit → ∃ again,
          (read ⟨table, limit, Kind.all⟩ place .braces (inlineSource (spacedBody text))).result =
            .ok ⟨.literal ⟨place, 1, 4, 3⟩ (.number again), []⟩ ∧
          again.numericallyEqual value = true) ∧
        (value.negative = false →
          value? text = some value ∧
          ∀ place, Token.list place text =
            .ok [⟨.number, text, .ofIndex place text 0, 0⟩, Token.atFinish place text])) := by
  have written (literal : Literal) (can : CanBeWritten literal) (value : Decimal)
      (isNumber : literal = .number value) :
      (∃ form : Form, value? form.text = some value ∧ value.negative = false) ∨
        ∃ (form : Form) (opposite : Decimal), value? form.text = some opposite ∧
          opposite.negate? .working = some value := by
    obtain ⟨cursor, position, finish, written⟩ := can
    exact (isNumber ▸ written).number_cases
  have origin := every_of_read success (fun _ _ isNumber => by cases isNumber) written
    _ member value rfl
  refine ⟨origin, ?_, fun held => ⟨value.toText, rfl, ?_, ?_⟩⟩
  · rcases origin with ⟨form, valued, _⟩ | ⟨form, opposite, _, negates⟩
    · exact isHeld_or_of_value? valued
    · exact .inl (Decimal.isHeld_of_negate? negates)
  · intro table limit place allowed
    cases sign : value.negative with
    | false =>
      exact ⟨value, read_toText place allowed sign held,
        Decimal.numericallyEqual_iff_toRat_eq.2 rfl⟩
    | true =>
      have holds : Decimal.Format.working.Holds value.toRat := by
        rcases origin with ⟨_, _, positive⟩ | ⟨_, opposite, _, negates⟩
        · rw [sign] at positive
          cases positive
        · exact Decimal.holds_of_fit? Decimal.isProper_working negates
      obtain ⟨again, outcome, same⟩ := read_toText_of_negative place allowed sign held holds
      exact ⟨again, outcome, Decimal.numericallyEqual_iff_toRat_eq.2 same⟩
  · intro positive
    obtain ⟨form, written, valued⟩ := exists_form_toText positive held
    rw [← written]
    exact ⟨valued, fun place => Token.list_numeral place form⟩

/-- A small negative number, which is shown with an exponent. -/
theorem read_reported_number_of_exponent :
    (∃ template,
      (read {} [] .braces (Text.of "\x7b\x7b -0.00000012 \x7d\x7d")).result = .ok template ∧
      Literal.number ⟨true, 12, -8⟩ ∈ template.root.literals) ∧
    ∃ again,
      (read {} [] .braces (Text.of "\x7b\x7b -1.2E-7 \x7d\x7d")).result =
        .ok ⟨.literal ⟨[], 1, 4, 3⟩ (.number again), []⟩ ∧
      again.numericallyEqual ⟨true, 12, -8⟩ = true := by
  have evaluated : (read {} [] .braces
      (Text.of "\x7b\x7b -0.00000012 \x7d\x7d")).result.toOption.map
        (fun template => template.root.literals) = some [.number ⟨true, 12, -8⟩] := by
    decide +kernel
  have shown : inlineSource (spacedBody (Decimal.toText ⟨true, 12, -8⟩)) =
      Text.of "\x7b\x7b -1.2E-7 \x7d\x7d" := by
    decide +kernel
  obtain ⟨template, found, literals⟩ := Option.map_eq_some_iff.1 evaluated
  have success := Reading.toOption_eq_some.1 found
  have member : Literal.number ⟨true, 12, -8⟩ ∈ template.root.literals := by
    rw [literals]
    exact List.mem_singleton_self _
  refine ⟨⟨template, success, member⟩, ?_⟩
  obtain ⟨_, _, reads⟩ := read_reported_number success member
  obtain ⟨_, ⟨⟩, reread, _⟩ := reads (by decide +kernel)
  rw [← shown]
  exact reread .standard 100 [] (by decide)

end Template

end Stencil
