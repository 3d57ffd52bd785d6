import Stencil.Decimal.Reader
import Stencil.Proofs.Scanning

/-!
# The grammar of numerals

A numeral is written in hexadecimal or octal digits behind a zero and a mark, or
in decimal digits that may have a fraction and an exponent.  The scanner looks for
its parts one after the other and takes each as long as it can be.  The main
statements are that it always finds a numeral of this grammar, and that it finds
no other one than the numeral that is followed by the end of the text or by a
character that numerals must not touch.
-/

namespace Stencil

/-! ## Digits are word characters -/

namespace CodePoint

theorem isWord_of_isHexDigit
    {point : CodePoint}
    (hexadecimal : point.isHexDigit = true) :
    point.isWord = true := by
  obtain ⟨others, begins⟩ : ∃ others, alphanumericRanges =
      (0x30, 0x39) :: (0x41, 0x5A) :: (0x61, 0x7A) :: others := ⟨_, rfl⟩
  simp only [isHexDigit, isDigit, Bool.or_eq_true, Bool.and_eq_true, decide_eq_true_eq]
    at hexadecimal
  simp only [isWord, begins, Ranges.contains, Bool.or_eq_true]
  refine .inr ?_
  split
  · simp only [decide_eq_true_eq]
    omega
  · split
    · simp only [decide_eq_true_eq]
      omega
    · rw [if_pos (by omega), decide_eq_true_eq]
      omega

theorem isHexDigit_of_isDigit
    {point : CodePoint}
    (digit : point.isDigit = true) :
    point.isHexDigit = true := by
  simp [isHexDigit, digit]

theorem isHexDigit_of_isOctalDigit
    {point : CodePoint}
    (octal : point.isOctalDigit = true) :
    point.isHexDigit = true := by
  simp only [isOctalDigit, Bool.and_eq_true, decide_eq_true_eq] at octal
  apply isHexDigit_of_isDigit
  simp only [isDigit, Bool.and_eq_true, decide_eq_true_eq]
  omega

end CodePoint

namespace Numeral

/-- A numeral touches no word character, no apostrophe and no full stop. -/
theorem isTail_eq_false_iff
    {point : CodePoint} :
    isTail point = false ↔ point.isWord = false ∧ point ≠ '\'' ∧ point ≠ '.' := by
  simp [isTail, CodePoint.isWordRest, and_assoc]

/-! ## The ways to write a numeral -/

/-- The bases that numerals are written in. -/
inductive Base where
  /-- Behind a zero and an `o`. -/
  | eight
  /-- Without a mark. -/
  | ten
  /-- Behind a zero and an `x`. -/
  | sixteen
deriving DecidableEq, Repr

namespace Base

/-- The number of digits that a base has. -/
def radix : Base → Nat
  | .eight => 8
  | .ten => 10
  | .sixteen => 16

/-- The digits of a base. -/
def isDigit : Base → CodePoint → Bool
  | .eight => CodePoint.isOctalDigit
  | .ten => CodePoint.isDigit
  | .sixteen => CodePoint.isHexDigit

theorem isHexDigit_of_isDigit
    {base : Base}
    {point : CodePoint}
    (digit : base.isDigit point = true) :
    point.isHexDigit = true := by
  cases base with
  | eight => exact CodePoint.isHexDigit_of_isOctalDigit digit
  | ten => exact CodePoint.isHexDigit_of_isDigit digit
  | sixteen => exact digit

/-- Digits end where a numeral may end. -/
theorem isDigit_of_isTail
    {point : CodePoint}
    (noTail : isTail point = false)
    (base : Base) :
    base.isDigit point = false := by
  cases digit : base.isDigit point with
  | false => rfl
  | true =>
    have word := CodePoint.isWord_of_isHexDigit (isHexDigit_of_isDigit digit)
    simp [(isTail_eq_false_iff.1 noTail).1] at word

end Base

/-- One or more digits of a base. -/
structure Digits (base : Base) where
  /-- The digits. -/
  text : Text
  /-- There is a digit. -/
  text_ne_nil : text ≠ []
  /-- There is nothing else. -/
  all_isDigit : text.all base.isDigit = true

/-- The value of digits in their base. -/
def Digits.value {base : Base} (digits : Digits base) : Nat :=
  Text.value base.radix digits.text

theorem Digits.exists_cons
    {base : Base}
    (digits : Digits base) :
    ∃ first others, digits.text = first :: others ∧ base.isDigit first = true := by
  obtain ⟨first, others, whole⟩ := List.exists_cons_of_ne_nil digits.text_ne_nil
  have inside := digits.all_isDigit
  rw [whole, List.all_cons, Bool.and_eq_true] at inside
  exact ⟨first, others, whole, inside.1⟩

/-- Digits are taken up to what is no digit of their base. -/
theorem Digits.takeWhile_append
    {base : Base}
    (digits : Digits base)
    {rest : Text}
    (ends : ∀ point ∈ rest.head?, base.isDigit point = false) :
    (digits.text ++ rest).takeWhile base.isDigit = digits.text :=
  Text.takeWhile_append_of_head? digits.all_isDigit ends

/-- The exponent of a decimal numeral. -/
structure Power where
  /-- The letter before the exponent. -/
  mark : CodePoint
  /-- The sign of the exponent, or nothing. -/
  sign : Text
  /-- The digits of the exponent. -/
  digits : Digits .ten
  /-- The letter is a small or a capital one. -/
  isMark : mark = 'e' ∨ mark = 'E'
  /-- There is at most one sign. -/
  isSign : sign = [] ∨ sign = [('+' : CodePoint)] ∨ sign = [('-' : CodePoint)]

namespace Power

/-- The exponent as it is written. -/
def text (power : Power) : Text :=
  power.mark :: (power.sign ++ power.digits.text)

/-- The number that the exponent is. -/
def value (power : Power) : Int :=
  if power.sign = [('-' : CodePoint)] then -power.digits.value else power.digits.value

end Power

/-- A fraction as it is written. -/
def fractionText : Option (Digits .ten) → Text
  | none => []
  | some digits => '.' :: digits.text

/-- An exponent as it is written. -/
def powerText : Option Power → Text
  | none => []
  | some power => power.text

/-- The ways to write a numeral. -/
inductive Form where
  /-- A zero, a mark and hexadecimal digits. -/
  | hexadecimal (mark : CodePoint) (isMark : mark = 'x' ∨ mark = 'X') (digits : Digits .sixteen)
  /-- A zero, a mark and octal digits. -/
  | octal (mark : CodePoint) (isMark : mark = 'o' ∨ mark = 'O') (digits : Digits .eight)
  /-- Decimal digits, perhaps a point and more digits, and perhaps an exponent. -/
  | decimal (whole : Digits .ten) (fraction : Option (Digits .ten)) (power : Option Power)

/-- A numeral as it is written. -/
def Form.text : Form → Text
  | .hexadecimal mark _ digits => '0' :: mark :: digits.text
  | .octal mark _ digits => '0' :: mark :: digits.text
  | .decimal whole fraction power => whole.text ++ (fractionText fraction ++ powerText power)

/-! ## What is scanned is a numeral -/

theorem exists_digits_takeWhile
    {base : Base}
    {rest : Text}
    (some : (rest.takeWhile base.isDigit).isEmpty = false) :
    ∃ digits : Digits base, digits.text = rest.takeWhile base.isDigit :=
  ⟨⟨_, by simpa using some, List.all_takeWhile⟩, rfl⟩

theorem exists_fractionText (text : Text) :
    ∃ fraction, Numeral.fraction text = fractionText fraction := by
  cases text with
  | nil => exact ⟨none, rfl⟩
  | cons point rest =>
    cases noDigits : (rest.takeWhile CodePoint.isDigit).isEmpty with
    | true => exact ⟨none, by simp [Numeral.fraction, noDigits, fractionText]⟩
    | false =>
      by_cases isPoint : point = '.'
      · obtain ⟨digits, written⟩ := @exists_digits_takeWhile .ten rest noDigits
        refine ⟨some digits, ?_⟩
        simp only [Numeral.fraction, isPoint, noDigits, fractionText, written]
        rfl
      · exact ⟨none, by simp [Numeral.fraction, isPoint, fractionText]⟩

theorem sign_cases (text : Text) :
    Numeral.sign text = [] ∨ Numeral.sign text = [('+' : CodePoint)] ∨
      Numeral.sign text = [('-' : CodePoint)] := by
  cases text with
  | nil => exact .inl rfl
  | cons point rest =>
    by_cases isPlus : point = '+'
    · exact .inr (.inl (by simp [Numeral.sign, isPlus]))
    · by_cases isMinus : point = '-'
      · exact .inr (.inr (by simp [Numeral.sign, isMinus]))
      · exact .inl (by simp [Numeral.sign, isPlus, isMinus])

theorem exists_powerText (text : Text) :
    ∃ power, Numeral.exponent text = powerText power := by
  cases text with
  | nil => exact ⟨none, rfl⟩
  | cons mark rest =>
    by_cases isMark : mark = 'e' ∨ mark = 'E'
    · cases noDigits : ((rest.drop (Numeral.sign rest).length).takeWhile
          CodePoint.isDigit).isEmpty with
      | true => exact ⟨none, by simp [Numeral.exponent, noDigits, powerText]⟩
      | false =>
        obtain ⟨digits, written⟩ := @exists_digits_takeWhile .ten _ noDigits
        refine ⟨some ⟨mark, Numeral.sign rest, digits, isMark, sign_cases rest⟩, ?_⟩
        have marked : (decide (mark = 'e') || decide (mark = 'E')) = true := by simpa using isMark
        simp only [Numeral.exponent, marked, noDigits, powerText, Power.text, written]
        rfl
    · exact ⟨none, by simp [Numeral.exponent, isMark, powerText]⟩

theorem exists_form_decimal
    {digit : CodePoint}
    (isDigit : digit.isDigit = true)
    (rest : Text) :
    ∃ form : Form, form.text = Numeral.decimal (digit :: rest) := by
  have someDigits : ((digit :: rest).takeWhile Base.ten.isDigit).isEmpty = false := by
    simp [Base.isDigit, isDigit]
  obtain ⟨whole, written⟩ := exists_digits_takeWhile someDigits
  obtain ⟨fraction, places⟩ :=
    exists_fractionText ((digit :: rest).drop whole.text.length)
  obtain ⟨power, exponent⟩ := exists_powerText
    (((digit :: rest).drop whole.text.length).drop (fractionText fraction).length)
  refine ⟨.decimal whole fraction power, ?_⟩
  have same : (digit :: rest).takeWhile CodePoint.isDigit = whole.text := written.symm
  simp only [Numeral.decimal, same, places, exponent, Form.text, List.append_assoc]

/-- The scanner finds a numeral at every digit. -/
theorem exists_form_lexeme
    {digit : CodePoint}
    (isDigit : digit.isDigit = true)
    (rest : Text) :
    ∃ form : Form, form.text = lexeme (digit :: rest) := by
  cases rest with
  | nil => exact exists_form_decimal isDigit []
  | cons mark rest =>
    simp only [lexeme]
    split
    · rename_i hexadecimal
      simp only [Bool.and_eq_true, Bool.or_eq_true, decide_eq_true_eq, Bool.not_eq_true']
        at hexadecimal
      obtain ⟨⟨rfl, isMark⟩, someDigits⟩ := hexadecimal
      obtain ⟨digits, written⟩ := @exists_digits_takeWhile .sixteen rest someDigits
      exact ⟨.hexadecimal mark isMark digits, by rw [Form.text, written]; rfl⟩
    · split
      · rename_i octal
        simp only [Bool.and_eq_true, Bool.or_eq_true, decide_eq_true_eq, Bool.not_eq_true']
          at octal
        obtain ⟨⟨rfl, isMark⟩, someDigits⟩ := octal
        obtain ⟨digits, written⟩ := @exists_digits_takeWhile .eight rest someDigits
        exact ⟨.octal mark isMark digits, by rw [Form.text, written]; rfl⟩
      · exact exists_form_decimal isDigit (mark :: rest)

/-! ## What is scanned begins the text -/

theorem fraction_begins (text : Text) : Numeral.fraction text <+: text := by
  cases text with
  | nil => exact List.nil_prefix
  | cons point rest =>
    simp only [Numeral.fraction]
    split
    · exact List.cons_prefix_cons.2 ⟨rfl, List.takeWhile_prefix _⟩
    · exact List.nil_prefix

theorem sign_begins (text : Text) : Numeral.sign text <+: text := by
  cases text with
  | nil => exact List.nil_prefix
  | cons point rest =>
    simp only [Numeral.sign]
    split
    · exact List.cons_prefix_cons.2 ⟨rfl, List.nil_prefix⟩
    · exact List.nil_prefix

/-- A part of a text and a part of what is left behind it. -/
theorem append_begins_of_drop
    {front back text : Text}
    (begins : front <+: text)
    (follows : back <+: text.drop front.length) :
    front ++ back <+: text := by
  obtain ⟨rest, rfl⟩ := begins
  rw [List.drop_left] at follows
  exact (List.prefix_append_right_inj front).2 follows

theorem exponent_begins (text : Text) : Numeral.exponent text <+: text := by
  cases text with
  | nil => exact List.nil_prefix
  | cons mark rest =>
    simp only [Numeral.exponent]
    split
    · split
      · exact List.nil_prefix
      · rw [List.cons_append]
        exact List.cons_prefix_cons.2
          ⟨rfl, append_begins_of_drop (sign_begins rest) (List.takeWhile_prefix _)⟩
    · exact List.nil_prefix

theorem decimal_begins (text : Text) : Numeral.decimal text <+: text := by
  rw [Numeral.decimal, List.append_assoc]
  refine append_begins_of_drop (List.takeWhile_prefix _) ?_
  exact append_begins_of_drop (fraction_begins _) (exponent_begins _)

theorem lexeme_begins (text : Text) : lexeme text <+: text := by
  unfold lexeme
  split
  · dsimp only
    split
    · exact List.cons_prefix_cons.2
        ⟨rfl, List.cons_prefix_cons.2 ⟨rfl, List.takeWhile_prefix _⟩⟩
    · split
      · exact List.cons_prefix_cons.2
          ⟨rfl, List.cons_prefix_cons.2 ⟨rfl, List.takeWhile_prefix _⟩⟩
      · exact decimal_begins _
  · exact decimal_begins _

/-- At a digit the scanner finds a numeral that the text begins with. -/
theorem exists_form_append
    {digit : CodePoint}
    (isDigit : digit.isDigit = true)
    (rest : Text) :
    ∃ (form : Form) (after : Text), lexeme (digit :: rest) = form.text ∧
      digit :: rest = form.text ++ after := by
  obtain ⟨form, written⟩ := exists_form_lexeme isDigit rest
  obtain ⟨after, whole⟩ := lexeme_begins (digit :: rest)
  exact ⟨form, after, written.symm, by rw [written, whole]⟩

/-! ## A numeral that may end is scanned -/

section Ends

variable
  {rest : Text}
  (ends : ∀ point ∈ rest.head?, isTail point = false)

include ends

theorem head?_powerText_append (power : Option Power) :
    ∀ point ∈ (powerText power ++ rest).head?,
      point = 'e' ∨ point = 'E' ∨ isTail point = false := by
  intro point first
  cases power with
  | none => exact .inr (.inr (ends point first))
  | some power =>
    obtain rfl : power.mark = point := Option.some.inj first
    rcases power.isMark with small | capital
    · exact .inl small
    · exact .inr (.inl capital)

theorem isDigit_head?_powerText_append (power : Option Power) :
    ∀ point ∈ (powerText power ++ rest).head?, point.isDigit = false := by
  intro point first
  rcases head?_powerText_append ends power point first with rfl | rfl | noTail
  · decide
  · decide
  · exact Base.isDigit_of_isTail noTail .ten

theorem isDigit_head?_fractionText_append (fraction : Option (Digits .ten)) (power : Option Power) :
    ∀ point ∈ (fractionText fraction ++ (powerText power ++ rest)).head?,
      point.isDigit = false := by
  intro point first
  cases fraction with
  | none => exact isDigit_head?_powerText_append ends power point first
  | some digits =>
    obtain rfl : '.' = point := Option.some.inj first
    decide

theorem fraction_fractionText_append (fraction : Option (Digits .ten)) (power : Option Power) :
    Numeral.fraction (fractionText fraction ++ (powerText power ++ rest)) =
      fractionText fraction := by
  cases fraction with
  | none =>
    have noPoint : ∀ point ∈ (powerText power ++ rest).head?, ¬ point = '.' := by
      intro point first
      rcases head?_powerText_append ends power point first with rfl | rfl | noTail
      · decide
      · decide
      · exact (isTail_eq_false_iff.1 noTail).2.2
    rw [fractionText, List.nil_append]
    cases unread : powerText power ++ rest with
    | nil => rfl
    | cons point others =>
      rw [unread] at noPoint
      simp [Numeral.fraction, noPoint point rfl]
  | some digits =>
    have digitsEnd := isDigit_head?_powerText_append ends power
    have taken : (digits.text ++ (powerText power ++ rest)).takeWhile CodePoint.isDigit =
        digits.text := digits.takeWhile_append digitsEnd
    rw [fractionText, List.cons_append, Numeral.fraction, taken]
    simp [digits.text_ne_nil]

omit ends in
theorem sign_append (power : Power) :
    Numeral.sign (power.sign ++ (power.digits.text ++ rest)) = power.sign := by
  rcases power.isSign with none | plus | minus
  · obtain ⟨first, others, whole, isDigit⟩ := power.digits.exists_cons
    have noSign : ¬ first = '+' ∧ ¬ first = '-' := by
      constructor
      · rintro rfl
        exact absurd isDigit (by decide)
      · rintro rfl
        exact absurd isDigit (by decide)
    rw [none, List.nil_append, whole, List.cons_append]
    simp [Numeral.sign, noSign]
  · rw [plus]
    rfl
  · rw [minus]
    rfl

theorem exponent_powerText_append (power : Option Power) :
    Numeral.exponent (powerText power ++ rest) = powerText power := by
  cases power with
  | none =>
    rw [powerText, List.nil_append]
    cases rest with
    | nil => rfl
    | cons point others =>
      have noMark : ¬ point = 'e' ∧ ¬ point = 'E' := by
        constructor
        · rintro rfl
          exact absurd (ends _ rfl) (by decide)
        · rintro rfl
          exact absurd (ends _ rfl) (by decide)
      simp [Numeral.exponent, noMark]
  | some power =>
    have digitsEnd : ∀ point ∈ rest.head?, Base.ten.isDigit point = false :=
      fun point first => Base.isDigit_of_isTail (ends point first) .ten
    have taken : (power.digits.text ++ rest).takeWhile CodePoint.isDigit = power.digits.text :=
      power.digits.takeWhile_append digitsEnd
    have marked : (decide (power.mark = 'e') || decide (power.mark = 'E')) = true := by
      simpa using power.isMark
    rw [powerText, Power.text, List.cons_append, List.append_assoc, Numeral.exponent,
      sign_append power, List.drop_left, taken]
    simp [marked, power.digits.text_ne_nil]

theorem decimal_text_append
    (whole : Digits .ten)
    (fraction : Option (Digits .ten))
    (power : Option Power) :
    Numeral.decimal ((Form.decimal whole fraction power).text ++ rest) =
      (Form.decimal whole fraction power).text := by
  have digitsEnd := isDigit_head?_fractionText_append ends fraction power
  have taken : (whole.text ++ (fractionText fraction ++ (powerText power ++ rest))).takeWhile
      CodePoint.isDigit = whole.text := whole.takeWhile_append digitsEnd
  simp only [Form.text, List.append_assoc, Numeral.decimal]
  rw [taken, List.drop_left, fraction_fractionText_append ends, List.drop_left,
    exponent_powerText_append ends]

/-- A decimal numeral announces no other base than ten. -/
theorem not_mark_of_decimal
    {whole : Digits .ten}
    {fraction : Option (Digits .ten)}
    {power : Option Power}
    {zero mark : CodePoint}
    {others : Text}
    (unread : (Form.decimal whole fraction power).text ++ rest = zero :: mark :: others) :
    ¬ (mark = 'x' ∨ mark = 'X') ∧ ¬ (mark = 'o' ∨ mark = 'O') := by
  have isMark : mark.isDigit = true ∨ mark = '.' ∨ mark = 'e' ∨ mark = 'E' ∨
      isTail mark = false := by
    obtain ⟨digit, digits, written, _⟩ := whole.exists_cons
    have inside := whole.all_isDigit
    simp only [Form.text, List.append_assoc] at unread
    rw [written, List.cons_append, List.cons.injEq] at unread
    rw [written, List.all_cons, Bool.and_eq_true] at inside
    cases digits with
    | nil =>
      have first : mark ∈ (fractionText fraction ++ (powerText power ++ rest)).head? := by
        rw [List.nil_append] at unread
        rw [unread.2]
        rfl
      cases fraction with
      | none => exact .inr (.inr (head?_powerText_append ends power mark first))
      | some digits => exact .inr (.inl (Option.some.inj first).symm)
    | cons second digits =>
      rw [List.cons_append, List.cons.injEq] at unread
      obtain ⟨_, rfl, _⟩ := unread
      simp only [List.all_cons, Bool.and_eq_true] at inside
      exact .inl inside.2.1
  constructor
  · rintro (rfl | rfl) <;> exact absurd isMark (by decide)
  · rintro (rfl | rfl) <;> exact absurd isMark (by decide)

/-- A numeral is scanned before the end of a text and before everything that it may
touch. -/
theorem lexeme_text_append (form : Form) : lexeme (form.text ++ rest) = form.text := by
  cases form with
  | hexadecimal mark isMark digits =>
    have digitsEnd : ∀ point ∈ rest.head?, Base.sixteen.isDigit point = false :=
      fun point first => Base.isDigit_of_isTail (ends point first) .sixteen
    have taken : (digits.text ++ rest).takeWhile CodePoint.isHexDigit = digits.text :=
      digits.takeWhile_append digitsEnd
    simp [Form.text, lexeme, taken, isMark, digits.text_ne_nil]
  | octal mark isMark digits =>
    have digitsEnd : ∀ point ∈ rest.head?, Base.eight.isDigit point = false :=
      fun point first => Base.isDigit_of_isTail (ends point first) .eight
    have taken : (digits.text ++ rest).takeWhile CodePoint.isOctalDigit = digits.text :=
      digits.takeWhile_append digitsEnd
    have noHexadecimal : ¬ mark = 'x' ∧ ¬ mark = 'X' := by
      rcases isMark with rfl | rfl <;> decide
    simp [Form.text, lexeme, taken, isMark, noHexadecimal, digits.text_ne_nil]
  | decimal whole fraction power =>
    have decimal := decimal_text_append ends whole fraction power
    unfold lexeme
    split
    · rename_i zero mark others unread
      obtain ⟨noHexadecimal, noOctal⟩ := not_mark_of_decimal ends unread
      rw [unread] at decimal
      simp [noHexadecimal, noOctal, decimal]
    · exact decimal

end Ends

end Numeral

end Stencil
