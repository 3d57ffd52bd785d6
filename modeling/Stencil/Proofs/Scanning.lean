import Mathlib.Data.List.TakeWhile
import Stencil.Proofs.Lexeme

/-!
# What is scanned

The tokens that can begin at a cursor, as a relation with one rule for each kind
of lexeme, and the literals that can stand between two cursors, as a relation
with one rule for each form of a literal.  Both relations agree with the
functions that scan and read, so a proof about tokens or literals goes through
the rules and never opens the functions.
-/

namespace Stencil

/-- Nothing of a text has a property from its beginning on if its first character
does not have it. -/
theorem Text.isEmpty_takeWhile_iff
    {property : CodePoint → Bool}
    {text : Text} :
    (text.takeWhile property).isEmpty = true ↔ ∀ point ∈ text.head?, property point = false := by
  cases text with
  | nil => simp
  | cons point rest => cases holds : property point <;> simp [holds]

namespace Token

/-- A token begins at a cursor and ends at another one. -/
inductive Scans : Cursor → Token → Cursor → Prop
  | finish
      {cursor : Cursor}
      (atEnd : cursor.rest = []) :
      Scans cursor (located cursor .finish []) cursor
  | number
      {cursor : Cursor}
      {digit : CodePoint}
      {rest : Text}
      (unread : cursor.rest = digit :: rest)
      (isDigit : digit.isDigit = true)
      (ends : ∀ point ∈ (cursor.rest.drop (Numeral.lexeme cursor.rest).length).head?,
        Numeral.isTail point = false) :
      Scans cursor (located cursor .number (Numeral.lexeme cursor.rest))
        (cursor.forward (Numeral.lexeme cursor.rest).length)
  | string
      {cursor : Cursor}
      {rest text : Text}
      {count : Nat}
      (unread : cursor.rest = CodePoint.ofChar '"' :: rest)
      (read : StringLiteral.read rest = .ok (text, count)) :
      Scans cursor (located cursor .string text) (cursor.forward (count + 1))
  | word
      {cursor : Cursor}
      {word : Text}
      (found : Style.identifier.lexeme? cursor.rest = some word) :
      Scans cursor (located cursor .identifier word) (cursor.forward word.length)
  | operator
      {cursor : Cursor}
      {symbol : Text}
      (found : Style.operator.lexeme? cursor.rest = some symbol) :
      Scans cursor (located cursor .operator symbol) (cursor.forward symbol.length)
  | punctuation
      {cursor : Cursor}
      {point : CodePoint}
      {rest : Text}
      (unread : cursor.rest = point :: rest)
      (noDigit : point.isDigit = false)
      (noQuote : point ≠ CodePoint.ofChar '"')
      (noWord : point.isWordStart = false)
      (noOperator : Style.isOperatorStart point = false) :
      Scans cursor (located cursor (Kind.ofPunctuation point) [point]) (cursor.forward 1)

/-- A lexeme of a style begins with a character that its style begins with. -/
theorem exists_of_lexeme?
    {style : Style}
    {text lexeme : Text}
    (found : style.lexeme? text = some lexeme) :
    ∃ point rest, text = point :: rest ∧ style.isStart point = true ∧
      lexeme = point :: rest.takeWhile style.isRest := by
  cases text with
  | nil => simp [Style.lexeme?] at found
  | cons point rest =>
    simp only [Style.lexeme?, Option.ite_none_right_eq_some, Option.some.injEq] at found
    exact ⟨point, rest, rfl, found.1, found.2.symm⟩

theorem lexeme?_eq_none
    {style : Style}
    {point : CodePoint}
    (noStart : style.isStart point = false)
    (rest : Text) :
    style.lexeme? (point :: rest) = none := by
  simp [Style.lexeme?, noStart]

/-- The longest lexeme that a text begins with is a lexeme as a whole. -/
theorem isLexeme_of_lexeme?
    {style : Style}
    {text lexeme : Text}
    (found : style.lexeme? text = some lexeme) :
    style.IsLexeme lexeme := by
  obtain ⟨point, rest, rfl, start, rfl⟩ := exists_of_lexeme? found
  simp only [Style.IsLexeme, Style.lexeme?, start, if_true, List.takeWhile_idem]

/-- What is scanned where a token begins follows the rules for tokens. -/
theorem Scans.of_scanHere
    {cursor behind : Cursor}
    {token : Token}
    (scanned : scanHere cursor = .ok (token, behind)) :
    Scans cursor token behind := by
  unfold scanHere at scanned
  split at scanned
  · rename_i atEnd
    obtain ⟨rfl, rfl⟩ := Prod.mk.inj (Except.ok.inj scanned)
    exact .finish atEnd
  · rename_i point rest unread
    split at scanned
    · rename_i isDigit
      simp only [scanNumber] at scanned
      split at scanned
      · rename_i noTail
        obtain ⟨rfl, rfl⟩ := Prod.mk.inj (Except.ok.inj scanned)
        exact .number unread isDigit (Text.isEmpty_takeWhile_iff.1 noTail)
      · simp at scanned
    · rename_i noDigit
      split at scanned
      · rename_i isQuote
        subst isQuote
        simp only [scanString, unread, List.drop_one, List.tail_cons] at scanned
        split at scanned
        · rename_i text count read
          obtain ⟨rfl, rfl⟩ := Prod.mk.inj (Except.ok.inj scanned)
          exact .string unread read
        · simp at scanned
      · rename_i noQuote
        split at scanned
        · rename_i word found
          obtain ⟨rfl, rfl⟩ := Prod.mk.inj (Except.ok.inj scanned)
          exact .word found
        · rename_i noWord
          split at scanned
          · rename_i symbol found
            obtain ⟨rfl, rfl⟩ := Prod.mk.inj (Except.ok.inj scanned)
            exact .operator found
          · rename_i noOperator
            obtain ⟨rfl, rfl⟩ := Prod.mk.inj (Except.ok.inj scanned)
            rw [unread] at noWord noOperator
            simp only [Style.lexeme?, ite_eq_right_iff, reduceCtorEq, imp_false,
              Bool.not_eq_true] at noWord noOperator
            exact .punctuation unread (by simpa using noDigit) noQuote noWord noOperator

/-- What follows the rules for tokens is scanned. -/
theorem Scans.scanHere_eq
    {cursor behind : Cursor}
    {token : Token}
    (scans : Scans cursor token behind) :
    scanHere cursor = .ok (token, behind) := by
  cases scans with
  | finish atEnd =>
    rw [scanHere, atEnd]
    rfl
  | number unread isDigit ends =>
    have atDigit : scanHere cursor = scanNumber cursor := by
      simp only [scanHere, unread, isDigit, if_true]
    rw [atDigit, scanNumber, if_pos (Text.isEmpty_takeWhile_iff.2 ends)]
    rfl
  | string unread read =>
    rw [scanHere, unread]
    have noDigit : CodePoint.isDigit (CodePoint.ofChar '"') = false := by decide
    simp only [noDigit, Bool.false_eq_true, if_false, if_true, scanString, unread, List.drop_one,
      List.tail_cons, read]
  | word found =>
    obtain ⟨point, rest, unread, start, rfl⟩ := exists_of_lexeme? found
    have isWordStart : point.isWordStart = true := start
    have noQuote : ¬ point = CodePoint.ofChar '"' := by
      rintro rfl
      exact absurd isWordStart (by decide)
    rw [scanHere, unread]
    rw [unread] at found
    simp only [CodePoint.isDigit_of_isWordStart isWordStart, Bool.false_eq_true, if_false,
      noQuote, found]
    rfl
  | operator found =>
    obtain ⟨point, rest, unread, start, rfl⟩ := exists_of_lexeme? found
    obtain ⟨noDigit, noQuote, noWord, _⟩ := not_word_of_isOperatorStart start
    have absent : Style.identifier.lexeme? (point :: rest) = none := lexeme?_eq_none noWord rest
    rw [scanHere, unread]
    rw [unread] at found
    simp only [noDigit, Bool.false_eq_true, if_false, noQuote, absent, found]
    rfl
  | @punctuation point rest unread noDigit noQuote noWord noOperator =>
    have noName : Style.identifier.lexeme? (point :: rest) = none := lexeme?_eq_none noWord rest
    have noSymbol : Style.operator.lexeme? (point :: rest) = none :=
      lexeme?_eq_none noOperator rest
    rw [scanHere, unread]
    simp only [noDigit, Bool.false_eq_true, if_false, noQuote, noName, noSymbol]
    rfl

/-- Scanning where a token begins follows the rules for tokens. -/
theorem scanHere_eq_ok
    {cursor behind : Cursor}
    {token : Token} :
    scanHere cursor = .ok (token, behind) ↔ Scans cursor token behind :=
  ⟨.of_scanHere, Scans.scanHere_eq⟩

/-! ## What the kind of a token tells -/

theorem Kind.ofPunctuation_ne_lexeme (point : CodePoint) :
    Kind.ofPunctuation point ≠ .identifier ∧ Kind.ofPunctuation point ≠ .operator ∧
      Kind.ofPunctuation point ≠ .number ∧ Kind.ofPunctuation point ≠ .string := by
  unfold Kind.ofPunctuation
  repeat' split
  all_goals simp

theorem Scans.position_eq
    {cursor behind : Cursor}
    {token : Token}
    (scans : Scans cursor token behind) :
    token.position = cursor.position := by
  cases scans <;> rfl

theorem Scans.index_eq
    {cursor behind : Cursor}
    {token : Token}
    (scans : Scans cursor token behind) :
    token.index = cursor.index := by
  cases scans <;> rfl

theorem Scans.reaches
    {cursor behind : Cursor}
    {token : Token}
    (scans : Scans cursor token behind) :
    cursor.Reaches behind := by
  cases scans with
  | finish => exact .refl _
  | _ => exact Cursor.reaches_forward _ _

theorem Scans.word_of_kind
    {cursor behind : Cursor}
    {token : Token}
    (scans : Scans cursor token behind)
    (isWord : token.kind = .identifier) :
    Style.identifier.lexeme? cursor.rest = some token.value ∧
      behind = cursor.forward token.value.length := by
  cases scans with
  | word found => exact ⟨found, rfl⟩
  | punctuation => exact absurd isWord (Kind.ofPunctuation_ne_lexeme _).1
  | _ => cases isWord

theorem Scans.operator_of_kind
    {cursor behind : Cursor}
    {token : Token}
    (scans : Scans cursor token behind)
    (isOperator : token.kind = .operator) :
    Style.operator.lexeme? cursor.rest = some token.value ∧
      behind = cursor.forward token.value.length := by
  cases scans with
  | operator found => exact ⟨found, rfl⟩
  | punctuation => exact absurd isOperator (Kind.ofPunctuation_ne_lexeme _).2.1
  | _ => cases isOperator

theorem Scans.number_of_kind
    {cursor behind : Cursor}
    {token : Token}
    (scans : Scans cursor token behind)
    (isNumber : token.kind = .number) :
    (∃ digit rest, cursor.rest = digit :: rest ∧ digit.isDigit = true) ∧
      token.value = Numeral.lexeme cursor.rest := by
  cases scans with
  | number unread isDigit => exact ⟨⟨_, _, unread, isDigit⟩, rfl⟩
  | punctuation => exact absurd isNumber (Kind.ofPunctuation_ne_lexeme _).2.2.1
  | _ => cases isNumber

theorem Scans.string_of_kind
    {cursor behind : Cursor}
    {token : Token}
    (scans : Scans cursor token behind)
    (isString : token.kind = .string) :
    ∃ rest count, cursor.rest = CodePoint.ofChar '"' :: rest ∧
      StringLiteral.read rest = .ok (token.value, count) := by
  cases scans with
  | string unread read => exact ⟨_, _, unread, read⟩
  | punctuation => exact absurd isString (Kind.ofPunctuation_ne_lexeme _).2.2.2
  | _ => cases isString

end Token

namespace Reading

/-- The next token begins behind the blanks. -/
theorem token_eq_ok_iff_scans
    {cursor behind : Cursor}
    {found : Token} :
    token cursor = .ok (found, behind) ↔ Token.Scans cursor.skipBlanks found behind := by
  rw [token_eq_ok, Token.scan, Token.scanHere_eq_ok]

end Reading

namespace Region

open Reading

/-- The word for a truth value. -/
def truthWord (flag : Bool) : Text :=
  if flag then Text.of "true" else Text.of "false"

/-- A literal stands between two cursors; its position is the one of its first
token. -/
inductive Written : Cursor → Position → Literal → Cursor → Prop
  | boolean
      {cursor finish : Cursor}
      {word : Token}
      {flag : Bool}
      (scanned : token cursor = .ok (word, finish))
      (isTruth : word.isWord (truthWord flag) = true) :
      Written cursor word.position (.boolean flag) finish
  | number
      {cursor finish : Cursor}
      {numeral : Token}
      {value : Decimal}
      (scanned : token cursor = .ok (numeral, finish))
      (isNumber : numeral.kind = .number)
      (valued : Reading.number numeral.value = .ok value) :
      Written cursor numeral.position (.number value) finish
  | text
      {cursor finish : Cursor}
      {quoted : Token}
      (scanned : token cursor = .ok (quoted, finish))
      (isString : quoted.kind = .string) :
      Written cursor quoted.position (.text quoted.value) finish
  | negative
      {cursor middle finish : Cursor}
      {sign numeral : Token}
      {value : Decimal}
      (signed : token cursor = .ok (sign, middle))
      (isSign : sign.isOperator (Text.of "-") = true)
      (touches : isBeforeDigit middle = true)
      (scanned : token middle = .ok (numeral, finish))
      (valued : Reading.negative numeral.value = .ok value) :
      Written cursor sign.position (.number value) finish
  | positive
      {cursor middle finish : Cursor}
      {sign numeral : Token}
      {value : Decimal}
      (signed : token cursor = .ok (sign, middle))
      (isSign : sign.isOperator (Text.of "+") = true)
      (touches : isBeforeDigit middle = true)
      (scanned : token middle = .ok (numeral, finish))
      (valued : Reading.number numeral.value = .ok value) :
      Written cursor sign.position (.number value) finish

/-- A literal that is found is written by the rules for literals. -/
theorem Written.of_literal?
    {calls : Nat}
    {cursor finish : Cursor}
    {position : Position}
    {literal : Literal}
    (success : literal? (calls + 1) cursor = .ok (some (position, literal), finish)) :
    Written cursor position literal finish := by
  simp only [literal?, bind_eq_ok, Prod.exists] at success
  obtain ⟨first, behind, scanned, success⟩ := success
  split at success
  · rename_i isTrue
    simp only [pure_eq_ok, Prod.mk.injEq, Option.some.injEq] at success
    obtain ⟨⟨rfl, rfl⟩, rfl⟩ := success
    exact .boolean scanned isTrue
  split at success
  · rename_i isFalse
    simp only [pure_eq_ok, Prod.mk.injEq, Option.some.injEq] at success
    obtain ⟨⟨rfl, rfl⟩, rfl⟩ := success
    exact .boolean scanned isFalse
  split at success
  · rename_i isNumber
    simp only [bind_eq_ok, pure_eq_ok, Prod.mk.injEq, Option.some.injEq] at success
    obtain ⟨value, valued, ⟨rfl, rfl⟩, rfl⟩ := success
    exact .number scanned isNumber valued
  split at success
  · rename_i isString
    simp only [pure_eq_ok, Prod.mk.injEq, Option.some.injEq] at success
    obtain ⟨⟨rfl, rfl⟩, rfl⟩ := success
    exact .text scanned isString
  split at success
  · rename_i isSign
    simp only [bind_eq_ok, pure_eq_ok, Prod.exists, Prod.mk.injEq, Option.some.injEq] at success
    obtain ⟨numeral, last, next, value, valued, ⟨rfl, rfl⟩, rfl⟩ := success
    rw [Bool.and_eq_true] at isSign
    exact .negative scanned isSign.1 isSign.2 next valued
  split at success
  · rename_i isSign
    simp only [bind_eq_ok, pure_eq_ok, Prod.exists, Prod.mk.injEq, Option.some.injEq] at success
    obtain ⟨numeral, last, next, value, valued, ⟨rfl, rfl⟩, rfl⟩ := success
    rw [Bool.and_eq_true] at isSign
    exact .positive scanned isSign.1 isSign.2 next valued
  · simp at success

theorem isWord_eq_false_of_kind
    {token : Token}
    {kind : Token.Kind}
    (isKind : token.kind = kind)
    (noName : kind ≠ .identifier)
    (word : Text) :
    token.isWord word = false := by
  simp [Token.isWord, isKind, noName]

/-- What is written by the rules for literals is found. -/
theorem Written.literal?_eq_ok
    {cursor finish : Cursor}
    {position : Position}
    {literal : Literal}
    (written : Written cursor position literal finish)
    (calls : Nat) :
    literal? (calls + 1) cursor = .ok (some (position, literal), finish) := by
  cases written with
  | boolean scanned isTruth =>
    rename_i word flag
    simp only [literal?, scanned, ok_bind]
    cases flag with
    | true => exact if_pos isTruth
    | false =>
      obtain ⟨_, value⟩ : word.kind = .identifier ∧ word.value = Text.of "false" := by
        simpa [Token.isWord, truthWord] using isTruth
      have noTrue : word.isWord (Text.of "true") = false := by
        rw [Token.isWord, value, Bool.and_eq_false_iff]
        exact .inr (by decide)
      rw [if_neg (by simp [noTrue])]
      exact if_pos isTruth
  | number scanned isNumber valued =>
    have noWord := isWord_eq_false_of_kind isNumber Token.Kind.noConfusion
    simp only [literal?, scanned, ok_bind]
    simp [noWord, isNumber, valued, pure, Except.pure]
  | text scanned isString =>
    have noWord := isWord_eq_false_of_kind isString Token.Kind.noConfusion
    simp only [literal?, scanned, ok_bind]
    simp [noWord, isString, pure, Except.pure]
  | negative signed isSign touches scanned valued =>
    rename_i middle sign numeral value
    obtain ⟨isOperator, _⟩ : sign.kind = .operator ∧ sign.value = Text.of "-" := by
      simpa [Token.isOperator] using isSign
    have noWord := isWord_eq_false_of_kind isOperator Token.Kind.noConfusion
    simp only [literal?, signed, ok_bind]
    simp [noWord, isOperator, isSign, touches, scanned, valued, pure, Except.pure]
  | positive signed isSign touches scanned valued =>
    rename_i middle sign numeral value
    obtain ⟨isOperator, isPlus⟩ : sign.kind = .operator ∧ sign.value = Text.of "+" := by
      simpa [Token.isOperator] using isSign
    have noWord := isWord_eq_false_of_kind isOperator Token.Kind.noConfusion
    have noMinus : sign.isOperator (Text.of "-") = false := by
      rw [Token.isOperator, isPlus, Bool.and_eq_false_iff]
      exact .inr (by decide)
    simp only [literal?, signed, ok_bind]
    simp [noWord, isOperator, noMinus, isSign, touches, scanned, valued, pure, Except.pure]

end Region

end Stencil
