import Stencil.Diagnostic
import Stencil.Proofs.Respacing.Lexeme

/-!
# Texts on one line

A diagnostic is made of fixed words, of numbers, of quoted forms and of texts that it
cites as they are.  All but the last stand on one line, so the wording of a cause stands
on one line exactly if every text does that the cause cites.
-/

namespace Stencil

/-- A line feed or a carriage return. -/
def CodePoint.isLineBreak (point : CodePoint) : Bool :=
  point = '\n' || point = '\r'

theorem CodePoint.isLineBreak_of_isBlank
    {point : CodePoint}
    (noBlank : point.isBlank = false) :
    point.isLineBreak = false := by
  have noFeed : point ≠ '\n' := by
    rintro rfl
    exact absurd noBlank (by decide)
  have noReturn : point ≠ '\r' := by
    rintro rfl
    exact absurd noBlank (by decide)
  simp [isLineBreak, noFeed, noReturn]

namespace Text

/-- No line is broken within the text. -/
def IsLine (text : Text) : Prop :=
  ∀ point ∈ text, point.isLineBreak = false

instance (text : Text) : Decidable text.IsLine :=
  decidable_of_iff ((text.all fun point => !point.isLineBreak) = true) (by simp [IsLine])

theorem isLine_nil : IsLine [] :=
  List.forall_mem_nil _

@[simp] theorem isLine_cons
    {point : CodePoint}
    {rest : Text} :
    IsLine (point :: rest) ↔ point.isLineBreak = false ∧ rest.IsLine :=
  List.forall_mem_cons

@[simp] theorem isLine_append
    {left right : Text} :
    IsLine (left ++ right) ↔ left.IsLine ∧ right.IsLine :=
  List.forall_mem_append

theorem isLine_of_lexical
    {text : Text}
    (lexical : text.all CodePoint.isLexical = true) :
    text.IsLine := fun point member =>
  CodePoint.isLineBreak_of_isBlank
    (CodePoint.isBlank_of_isLexical (List.all_eq_true.1 lexical point member))

@[simp] theorem isLine_ofNat (number : Nat) : (ofNat number).IsLine := by
  refine isLine_of_lexical (List.all_eq_true.2 fun point member => ?_)
  exact CodePoint.isLexical_of_isDigit (List.all_eq_true.1 (all_isDigit_ofNat number) point member)

@[simp] theorem isLine_ofInt (number : Int) : (ofInt number).IsLine := by
  cases number with
  | ofNat number => exact isLine_ofNat number
  | negSucc number => exact isLine_cons.2 ⟨by decide, isLine_ofNat _⟩

/-- Lines with a line between neighbours are a line. -/
theorem isLine_join
    {separator : Text}
    {texts : List Text}
    (between : separator.IsLine)
    (lines : ∀ text ∈ texts, text.IsLine) :
    (join separator texts).IsLine := by
  induction texts with
  | nil => exact isLine_nil
  | cons first others hypothesis =>
    rw [List.forall_mem_cons] at lines
    cases others with
    | nil => simpa [join] using lines.1
    | cons second others =>
      have rest := hypothesis lines.2
      rw [join, List.intersperse_cons_cons, List.flatten_cons, List.flatten_cons, isLine_append,
        isLine_append]
      exact ⟨lines.1, between, rest⟩

theorem isLine_hexadecimal (width number : Nat) : (hexadecimal width number).IsLine := by
  have ofDigit : ∀ digit < 16, (CodePoint.ofChar digit.digitChar).isLineBreak = false := by
    decide
  have digits : IsLine ((Nat.toDigits 16 number).map CodePoint.ofChar) := by
    induction number using Nat.strongRecOn with
    | ind number hypothesis =>
      rcases Nat.lt_or_ge number 16 with small | large
      · rw [Nat.toDigits_of_lt_base small]
        exact isLine_cons.2 ⟨ofDigit number small, isLine_nil⟩
      · rw [Nat.toDigits_of_base_le (by decide) large, List.map_append, isLine_append]
        refine ⟨hypothesis _ (by omega), isLine_cons.2 ⟨ofDigit _ ?_, isLine_nil⟩⟩
        exact Nat.mod_lt _ (by decide)
  refine isLine_append.2 ⟨fun point member => ?_, digits⟩
  rw [List.eq_of_mem_replicate member]
  decide

/-- The quoted form of a text stands on one line. -/
@[simp] theorem isLine_quoted (text : Text) : text.quoted.IsLine := by
  have mark : text.quoteMark.isLineBreak = false := by
    unfold quoteMark
    split <;> decide
  have ofPoint (point : CodePoint) : (quotePoint text.quoteMark point).IsLine := by
    unfold quotePoint
    split
    · rename_i escaped
      rw [Bool.or_eq_true, decide_eq_true_eq, decide_eq_true_eq] at escaped
      have noBreak : point.isLineBreak = false := by
        rcases escaped with rfl | rfl
        · exact mark
        · decide
      exact isLine_cons.2 ⟨by decide, isLine_cons.2 ⟨noBreak, isLine_nil⟩⟩
    split
    · decide
    split
    · decide
    split
    · decide
    split
    · rename_i noFeed noReturn _ _
      exact isLine_cons.2 ⟨by simp [CodePoint.isLineBreak, noFeed, noReturn], isLine_nil⟩
    split
    · exact isLine_append.2 ⟨by decide, isLine_hexadecimal _ _⟩
    split
    · exact isLine_append.2 ⟨by decide, isLine_hexadecimal _ _⟩
    · exact isLine_append.2 ⟨by decide, isLine_hexadecimal _ _⟩
  refine isLine_cons.2 ⟨mark, isLine_append.2 ⟨?_, isLine_cons.2 ⟨mark, isLine_nil⟩⟩⟩
  intro point member
  obtain ⟨other, _, inside⟩ := List.mem_flatMap.1 member
  exact ofPoint other point inside

end Text

namespace Value

/-- Items between two brackets stand on one line if all of them do. -/
theorem isLine_enclosed
    {opening closing : String}
    {items : List Text}
    (brackets : (Text.of opening).IsLine ∧ (Text.of closing).IsLine)
    (lines : ∀ item ∈ items, item.IsLine) :
    (enclosed opening closing items).IsLine := by
  rw [enclosed, Text.isLine_append, Text.isLine_append]
  exact ⟨⟨brackets.1, Text.isLine_join (by decide) lines⟩, brackets.2⟩

/-- The quoted form of a pair of texts stands on one line, whatever the texts are. -/
theorem isLine_quoted_pair (first second : Text) :
    (Value.tuple [.text first, .text second]).quoted.IsLine := by
  rw [quoted]
  have brackets : (Text.of "(").IsLine ∧ (Text.of ")").IsLine := by decide
  refine isLine_enclosed brackets ?_
  simp [quotedItems, quoted]

end Value

/-! ## What a cause cites -/

/-- The texts that are shown as they are. -/
def Expectation.cited : Expectation → List Text
  | .literal text => [text]
  | .filterName symbol => [symbol]
  | .bindingSign name => [name]
  | _ => []

/-- The value of a token, which is not shown at the end of the input. -/
def Token.cited (token : Token) : List Text :=
  if token.kind = .finish then [] else [token.value]

namespace Cause

/-- The texts that the wording of a cause shows as they are. -/
def cited : Cause → List Text
  | .lexical (.malformedNumber lexeme) => [lexeme]
  | .lexical .unterminatedString => []
  | .lexical (.invalidEscape escape) => [escape]
  | .invalidEncoding => []
  | .unexpected expected found => expected.cited ++ found.cited
  | .missing expected => expected.cited
  | .missingBlockKeyword opening => [opening]
  | .unknownBlockKeyword keyword => [keyword]
  | .unmatchedTerminator block keyword => [block.opening, block.closing] ++ keyword.toList
  | .unterminatedBlock _ _ block terminator found =>
    [block.opening, block.closing, terminator] ++ found.join.toList
  | .textBeforeAlternatives block => [block.opening, block.closing]
  | .unterminatedComment closing => [closing]
  | .unknownPragmaField name => [name]
  | .invalidPragma fault => [fault.value.quoted]
  | .notBinary symbol => [symbol]
  | .unknownOperator symbol => [symbol]
  | .filterNotBare name following => name :: following.cited
  | .reservedWord word => [word]
  | .nestedTooDeeply _ => []

/-- The position that the wording of a cause shows. -/
def opener? : Cause → Option Position
  | .unterminatedBlock _ opener _ _ _ => some opener
  | _ => none

end Cause

theorem Expectation.isLine_inQuotes
    {text : Text} :
    (inQuotes text).IsLine ↔ text.IsLine := by
  have quote : (Text.of "'").IsLine := by decide
  simp [inQuotes, quote]

theorem Expectation.isLine_described
    {expected : Expectation} :
    expected.described.IsLine ↔ ∀ text ∈ expected.cited, text.IsLine := by
  cases expected <;> simp +decide [described, cited, isLine_inQuotes]

theorem Token.isLine_described
    {token : Token} :
    token.described.IsLine ↔ ∀ text ∈ token.cited, text.IsLine := by
  unfold described cited
  split <;> simp +decide

theorem Position.isLine_toText
    {position : Position} :
    position.toText.IsLine ↔ position.name.IsLine := by
  simp +decide [toText]

theorem Cause.isLine_tag
    {block : Pair}
    {keyword : Option Text} :
    (tag block keyword).IsLine ↔
      block.opening.IsLine ∧ block.closing.IsLine ∧ ∀ word ∈ keyword, word.IsLine := by
  cases keyword <;> simp +decide [tag, Expectation.isLine_inQuotes, and_comm]

/-- The wording of a cause stands on one line exactly if everything that it shows as it is
does. -/
theorem Cause.isLine_message
    {cause : Cause} :
    cause.message.IsLine ↔
      (∀ text ∈ cause.cited, text.IsLine) ∧ ∀ opener ∈ cause.opener?, opener.name.IsLine := by
  cases cause with
  | lexical fault => cases fault <;> simp +decide [message, Token.Fault.message, cited, opener?]
  | invalidEncoding => decide
  | unexpected expected found =>
    simp +decide [message, cited, opener?, Expectation.isLine_described, Token.isLine_described,
      or_imp, forall_and]
  | missing expected =>
    simp +decide [message, cited, opener?, Expectation.isLine_described]
  | unmatchedTerminator block keyword =>
    cases keyword <;> simp +decide [message, cited, opener?, isLine_tag]
  | unterminatedBlock construct opener block terminator found =>
    have ofKeyword : construct.keyword.IsLine := by cases construct <;> decide
    rcases found with _ | _ | word
    all_goals
      simp +decide [message, cited, opener?, isLine_tag, Position.isLine_toText,
        Expectation.isLine_inQuotes, ofKeyword]
      tauto
  | textBeforeAlternatives block => simp +decide [message, cited, opener?, isLine_tag]
  | unknownPragmaField name =>
    have fields : (Text.join (Text.of ", ") (Text.sorted pragmaFields)).IsLine := by
      refine Text.isLine_join (by decide) fun field member => ?_
      rw [Text.sorted, List.mem_mergeSort] at member
      have lines : ∀ field ∈ pragmaFields, field.IsLine := by decide
      exact lines field member
    simp +decide [message, cited, opener?, Expectation.isLine_inQuotes, fields]
  | invalidPragma fault =>
    have ofKind : fault.kind.name.IsLine := by cases fault.kind <;> decide
    simp +decide [message, cited, opener?, Delimiters.Fault.message, ofKind]
  | filterNotBare name following =>
    simp +decide [message, cited, opener?, Expectation.isLine_inQuotes, Token.isLine_described]
  | _ => simp +decide [message, cited, opener?, Expectation.isLine_inQuotes]

/-- A diagnostic stands on one line exactly if its wording and the name of its position
do. -/
theorem Diagnostic.isLine_toText
    {diagnostic : Diagnostic} :
    diagnostic.toText.IsLine ↔
      diagnostic.cause.message.IsLine ∧ diagnostic.position.name.IsLine := by
  simp +decide [toText, message, Position.isLine_toText]

end Stencil
