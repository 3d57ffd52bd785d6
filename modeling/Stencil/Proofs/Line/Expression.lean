import Stencil.Proofs.Line
import Stencil.Proofs.Quotation.Acceptance

/-!
# What the diagnostics of expressions cite

Words, numerals, operators and punctuation stand on one line, because a blank is part of
no lexeme.  So what a diagnostic cites stands on one line, unless it is a delimiter or what
a string literal denotes or would escape.

This module has the statement for the rules of expressions.
-/

namespace Stencil

/-! ## Delimiters and string literals -/

/-- A text is one of the delimiters. -/
def Delimiters.Has (delimiters : Delimiters) (text : Text) : Prop :=
  ∃ kind, text = (delimiters.pair kind).opening ∨ text = (delimiters.pair kind).closing

/-- The delimiters around a tag are delimiters. -/
theorem Delimiters.has_block (delimiters : Delimiters) :
    delimiters.Has delimiters.block.opening ∧ delimiters.Has delimiters.block.closing :=
  ⟨⟨.block, .inl rfl⟩, ⟨.block, .inr rfl⟩⟩

namespace Cause

/-- A cause cites what a string literal denotes, or what stands in one behind a backslash
and is no escape. -/
def Quotes : Cause → Text → Prop
  | .unexpected _ found, text => found.kind = .string ∧ text = found.value
  | .lexical (.invalidEscape escape), text => text = escape
  | _, _ => False

/-- Whatever a cause cites stands on one line, is a delimiter or is quoted. -/
def IsSourced (delimiters : Delimiters) (cause : Cause) : Prop :=
  ∀ text ∈ cause.cited, text.IsLine ∨ delimiters.Has text ∨ cause.Quotes text

theorem IsSourced.of_isLine
    {delimiters : Delimiters}
    {cause : Cause}
    (lines : ∀ text ∈ cause.cited, text.IsLine) :
    cause.IsSourced delimiters :=
  fun text member => .inl (lines text member)

theorem IsSourced.of_cited_eq_nil
    {delimiters : Delimiters}
    {cause : Cause}
    (nothing : cause.cited = []) :
    cause.IsSourced delimiters := by
  intro text member
  rw [nothing] at member
  cases member

end Cause

/-- What is asked for stands on one line or is a delimiter. -/
def Expectation.IsSourced (delimiters : Delimiters) (expected : Expectation) : Prop :=
  ∀ text ∈ expected.cited, text.IsLine ∨ delimiters.Has text

theorem Expectation.isSourced_literal
    {delimiters : Delimiters}
    {text : Text}
    (isLine : text.IsLine) :
    (Expectation.literal text).IsSourced delimiters :=
  List.forall_mem_singleton.2 (.inl isLine)

theorem Expectation.IsSourced.of_cited_eq_nil
    {delimiters : Delimiters}
    {expected : Expectation}
    (nothing : expected.cited = []) :
    expected.IsSourced delimiters := by
  intro text member
  rw [nothing] at member
  cases member

/-! ## Tokens on one line -/

namespace Token

variable
  {cursor behind : Cursor}
  {token : Token}

/-- A token behind blanks that is no string literal stands on one line. -/
theorem Scans.isLine_value
    (scans : Scans cursor.skipBlanks token behind)
    (noString : token.kind ≠ .string) :
    token.value.IsLine := by
  cases scans with
  | finish => exact Text.isLine_nil
  | @number digit rest unread isDigit =>
    obtain ⟨form, _, isForm, _⟩ := Numeral.exists_form_append isDigit rest
    rw [unread, isForm]
    exact Text.isLine_of_lexical form.all_isLexical
  | string => exact absurd rfl noString
  | word found =>
    exact Text.isLine_of_lexical (Style.all_isLexical_of_lexeme?
      CodePoint.isLexical_of_isWordStart CodePoint.isLexical_of_isWordRest found)
  | operator found =>
    exact Text.isLine_of_lexical (Style.all_isLexical_of_lexeme?
      CodePoint.isLexical_of_isOperatorStart CodePoint.isLexical_of_isOperatorRest found)
  | @punctuation point rest unread =>
    have noBlank := Text.head?_dropWhile CodePoint.isBlank cursor.rest point (by
      rw [← Text.trimStart, ← Cursor.rest_skipBlanks, unread]
      rfl)
    exact Text.isLine_cons.2 ⟨CodePoint.isLineBreak_of_isBlank noBlank, Text.isLine_nil⟩

/-- What a token cites stands on one line, unless the token is a string literal. -/
theorem Scans.isLine_cited
    (scans : Scans cursor.skipBlanks token behind)
    (noString : token.kind ≠ .string) :
    ∀ text ∈ token.cited, text.IsLine := by
  intro text member
  unfold Token.cited at member
  split at member
  · cases member
  · rw [List.mem_singleton.1 member]
    exact scans.isLine_value noString

/-- No token is scanned at a numeral that runs into other characters, or at a quote that
begins no string literal. -/
theorem exists_of_scanHere_error
    {failure : Failure}
    (failed : scanHere cursor = .error failure) :
    (∃ digit rest, cursor.rest = digit :: rest ∧ digit.isDigit = true ∧
      scanNumber cursor = .error failure) ∨
    StringLiteral.read (cursor.rest.drop 1) = .error failure.fault := by
  unfold scanHere at failed
  split at failed
  · cases failed
  · rename_i digit rest unread
    split at failed
    · rename_i isDigit
      exact .inl ⟨digit, rest, unread, isDigit, failed⟩
    · split at failed
      · simp only [scanString] at failed
        split at failed
        · cases failed
        · rename_i fault read
          cases failed
          exact .inr read
      · split at failed
        · cases failed
        · split at failed <;> cases failed

/-- A numeral stands on one line with what it runs into. -/
theorem isLine_of_scanNumber
    {digit : CodePoint}
    {rest lexeme : Text}
    {position : Position}
    (unread : cursor.rest = digit :: rest)
    (isDigit : digit.isDigit = true)
    (failed : scanNumber cursor = .error ⟨.malformedNumber lexeme, position⟩) :
    lexeme.IsLine := by
  simp only [scanNumber] at failed
  split at failed
  · cases failed
  · cases failed
    obtain ⟨form, _, isForm, _⟩ := Numeral.exists_form_append isDigit rest
    rw [unread, isForm, Text.isLine_append]
    refine ⟨Text.isLine_of_lexical form.all_isLexical, Text.isLine_of_lexical ?_⟩
    rw [List.all_eq_true]
    intro point member
    exact CodePoint.isLexical_of_isTail (List.all_eq_true.1 List.all_takeWhile point member)

/-- Where no token is scanned, all that is cited stands on one line or is quoted. -/
theorem isSourced_of_scanHere
    {failure : Failure}
    (failed : scanHere cursor = .error failure)
    (delimiters : Delimiters) :
    (Cause.lexical failure.fault).IsSourced delimiters := by
  obtain ⟨fault, position⟩ := failure
  cases fault with
  | unterminatedString => exact .of_cited_eq_nil rfl
  | invalidEscape escape => exact List.forall_mem_singleton.2 (.inr (.inr rfl))
  | malformedNumber lexeme =>
    refine .of_isLine (List.forall_mem_singleton.2 ?_)
    rcases exists_of_scanHere_error failed with ⟨digit, rest, unread, isDigit, number⟩ | read
    · exact isLine_of_scanNumber unread isDigit number
    · rcases StringLiteral.fault_of_read read with other | ⟨escape, other⟩ <;> cases other

end Token

/-! ## Steps of a rule -/

namespace Reading

variable {delimiters : Delimiters}

/-- What the diagnostic of a rule cites stands on one line, is a delimiter or is quoted. -/
def Sourced (delimiters : Delimiters) (outcome : Except Halt α) : Prop :=
  ∀ diagnostic, outcome = .error (.diagnosed diagnostic) → diagnostic.cause.IsSourced delimiters

theorem Sourced.ok (value : α) : Sourced delimiters (.ok value) := by
  intro diagnostic failure
  cases failure

theorem Sourced.pure (value : α) : Sourced delimiters (pure value) :=
  Sourced.ok value

/-- Two steps are sourced if the first is, and the second is wherever it is taken. -/
theorem Sourced.bind
    {first : Except Halt α}
    {second : α → Except Halt β}
    (near : Sourced delimiters first)
    (far : ∀ value, first = .ok value → Sourced delimiters (second value)) :
    Sourced delimiters (first >>= second) := by
  intro diagnostic failure
  cases outcome : first with
  | error found =>
    rw [outcome] at failure
    obtain rfl : found = .diagnosed diagnostic := Except.error.inj failure
    exact near diagnostic outcome
  | ok value =>
    rw [outcome] at failure
    exact far value outcome diagnostic failure

theorem Sourced.fail
    {cause : Cause}
    {position : Position}
    (sourced : cause.IsSourced delimiters) :
    Sourced delimiters (fail cause position : Except Halt α) := by
  intro diagnostic failure
  cases failure
  exact sourced

/-- A rule that is out of open rules or turns cites nothing. -/
theorem Sourced.exhausted : Sourced delimiters (.error .exhausted : Except Halt α) := by
  intro diagnostic failure
  cases failure

theorem Sourced.nest
    (grammar : Grammar)
    (depth : Nat)
    (position : Position) :
    Sourced delimiters (nest grammar depth position) := by
  unfold Reading.nest
  split
  · exact .fail (.of_cited_eq_nil rfl)
  · exact .ok _

theorem Sourced.token (cursor : Cursor) : Sourced delimiters (token cursor) := by
  unfold Reading.token
  split
  · exact .ok _
  · rename_i failure failed
    exact .fail (Token.isSourced_of_scanHere failed delimiters)

/-- What is found instead of something is quoted if it is a string literal. -/
theorem Sourced.unexpected
    {expected : Expectation}
    {cursor behind : Cursor}
    {found : Token}
    (known : expected.IsSourced delimiters)
    (scanned : Reading.token cursor = .ok (found, behind)) :
    Sourced delimiters (unexpected expected found : Except Halt α) := by
  refine .fail (List.forall_mem_append.2 ⟨fun text member => ?_, fun text member => ?_⟩)
  · exact (known text member).elim .inl fun isDelimiter => .inr (.inl isDelimiter)
  · by_cases isString : found.kind = .string
    · have isValue : text = found.value := by simpa [Token.cited, isString] using member
      exact .inr (.inr ⟨isString, isValue⟩)
    · exact .inl ((token_eq_ok_iff_scans.1 scanned).isLine_cited isString text member)

theorem Sourced.expect
    {expected : Expectation}
    (known : expected.IsSourced delimiters)
    (kind : Token.Kind)
    (cursor : Cursor) :
    Sourced delimiters (expect kind expected cursor) := by
  refine .bind (.token cursor) ?_
  rintro ⟨found, behind⟩ scanned
  dsimp only
  split
  · exact .pure _
  · exact .unexpected known scanned

theorem Sourced.expectOperator
    {symbol : Text}
    (isLine : symbol.IsLine)
    (cursor : Cursor) :
    Sourced delimiters (expectOperator symbol cursor) := by
  refine .bind (.token cursor) ?_
  rintro ⟨found, behind⟩ scanned
  dsimp only
  split
  · exact .pure _
  · exact .unexpected (Expectation.isSourced_literal isLine) scanned

theorem Sourced.number (numeral : Text) : Sourced delimiters (number numeral) := by
  intro diagnostic failure
  unfold Reading.number at failure
  split at failure <;> cases failure

theorem Sourced.negative (numeral : Text) : Sourced delimiters (negative numeral) := by
  refine .bind (.number numeral) ?_
  intro value _ diagnostic failure
  split at failure <;> cases failure

end Reading

namespace Region

open Reading

variable
  {delimiters : Delimiters}
  {region : Region}

/-! ## Names and literals -/

/-- The closing delimiter of a region is asked for. -/
theorem sourced_close
    (closes : delimiters.Has region.closing)
    (cursor : Cursor) :
    Sourced delimiters (region.close cursor) := by
  unfold close
  dsimp only
  split
  · exact .ok _
  · refine .bind (.token _) ?_
    rintro ⟨found, behind⟩ scanned
    exact .unexpected (List.forall_mem_singleton.2 (.inr closes)) scanned

theorem sourced_keyword
    {word : Text}
    (isLine : word.IsLine)
    (cursor : Cursor) :
    Sourced delimiters (region.keyword word cursor) := by
  refine .bind (.token cursor) ?_
  rintro ⟨found, behind⟩ scanned
  dsimp only
  split
  · exact .unexpected (Expectation.isSourced_literal isLine) scanned
  · exact .pure _

/-- A word that may not be used where it stands. -/
theorem Sourced.reservedWord
    {cursor behind : Cursor}
    {found : Token}
    (scanned : token cursor = .ok (found, behind))
    (isName : found.kind = .identifier) :
    Sourced delimiters
      (fail (.reservedWord found.value) found.position : Except Halt α) := by
  refine .fail (.of_isLine (List.forall_mem_singleton.2 ?_))
  exact (token_eq_ok_iff_scans.1 scanned).isLine_value (by simp [isName])

theorem sourced_identifier
    (calls : Nat)
    (cursor : Cursor) :
    Sourced delimiters (region.identifier calls cursor) := by
  cases calls with
  | zero => exact .exhausted
  | succ calls =>
    refine .bind (.token cursor) ?_
    rintro ⟨found, behind⟩ scanned
    dsimp only
    split
    · exact .unexpected (.of_cited_eq_nil rfl) scanned
    · rename_i isName
      split
      · refine Sourced.reservedWord scanned ?_
        simp only [ne_eq, decide_not, Bool.or_eq_true, not_or] at isName
        simpa using isName.1
      · exact .pure _

/-- A name that was read stands on one line. -/
theorem isLine_of_identifier
    {calls : Nat}
    {cursor behind : Cursor}
    {name : Identifier}
    (named : region.identifier calls cursor = .ok (name, behind)) :
    name.name.IsLine := by
  cases calls with
  | zero => cases named
  | succ calls =>
    obtain ⟨word, continues, isWord, _, rfl⟩ := identifier_eq_ok.1 named
    exact (token_eq_ok_iff_scans.1 continues.2).isLine_value (by simp [isWord])

theorem sourced_pathRest
    {name : Cursor → Except Halt (Identifier × Cursor)}
    (names : ∀ cursor, Sourced delimiters (name cursor))
    (turns : Nat)
    (cursor : Cursor) :
    Sourced delimiters (region.pathRest name turns cursor) := by
  induction turns generalizing cursor with
  | zero => exact .exhausted
  | succ turns hypothesis =>
    rw [pathRest]
    split
    · exact .ok _
    · refine .bind (.token cursor) ?_
      rintro ⟨dot, behind⟩ _
      dsimp only
      split
      · refine .bind (names behind) fun _ _ => ?_
        exact .bind (hypothesis _) fun _ _ => .pure _
      · exact .pure _

theorem sourced_path
    (calls : Nat)
    (cursor : Cursor) :
    Sourced delimiters (region.path calls cursor) := by
  cases calls with
  | zero => exact .exhausted
  | succ calls =>
    refine .bind (sourced_identifier calls cursor) fun _ _ => ?_
    exact .bind (sourced_pathRest (sourced_identifier calls) _ _) fun _ _ => .pure _

theorem sourced_literal?
    (calls : Nat)
    (cursor : Cursor) :
    Sourced delimiters (literal? calls cursor) := by
  cases calls with
  | zero => exact .exhausted
  | succ calls =>
    refine .bind (.token cursor) ?_
    rintro ⟨first, behind⟩ _
    dsimp only
    split
    · exact .pure _
    split
    · exact .pure _
    split
    · exact .bind (.number _) fun _ _ => .pure _
    split
    · exact .pure _
    split
    · refine .bind (.token behind) fun _ _ => ?_
      exact .bind (.negative _) fun _ _ => .pure _
    split
    · refine .bind (.token behind) fun _ _ => ?_
      exact .bind (.number _) fun _ _ => .pure _
    · exact .pure _

theorem sourced_pattern
    (calls : Nat)
    (cursor : Cursor) :
    Sourced delimiters (region.pattern calls cursor) := by
  cases calls with
  | zero => exact .exhausted
  | succ calls =>
    rw [Region.pattern]
    split
    · exact .fail (.of_cited_eq_nil rfl)
    · refine .bind (.token cursor) ?_
      rintro ⟨first, behind⟩ scanned
      dsimp only
      split
      · exact .pure _
      · refine .bind (sourced_literal? calls cursor) ?_
        rintro ⟨found, after⟩ _
        split
        · exact .pure _
        · split
          · exact .bind (sourced_path calls cursor) fun _ _ => .pure _
          · exact .unexpected (.of_cited_eq_nil rfl) scanned

/-- A filter cites its operator, its name and what extends the name; none of them is a
string literal. -/
theorem sourced_filterName
    {symbol : Token}
    (isLine : symbol.value.IsLine)
    (operator : Operator)
    (calls : Nat)
    (cursor : Cursor) :
    Sourced delimiters (region.filterName operator symbol calls cursor) := by
  cases calls with
  | zero => exact .exhausted
  | succ calls =>
    refine .bind (.token cursor) ?_
    rintro ⟨name, behind⟩ scanned
    dsimp only
    split
    · exact .unexpected (List.forall_mem_singleton.2 (.inl isLine)) scanned
    · rename_i isName
      have isIdentifier : name.kind = .identifier := by
        simp only [ne_eq, decide_not, Bool.or_eq_true, not_or] at isName
        simpa using isName.2
      split
      · exact Sourced.reservedWord scanned isIdentifier
      split
      · exact .pure _
      · refine .bind (.token behind) ?_
        rintro ⟨following, after⟩ next
        dsimp only
        split
        · rename_i extended
          have noString : following.kind ≠ .string := by
            intro isString
            simp [isString, bindsTighter] at extended
          refine .fail (.of_isLine (List.forall_mem_cons.2 ⟨?_, ?_⟩))
          · exact (token_eq_ok_iff_scans.1 scanned).isLine_value (by simp [isIdentifier])
          · exact (token_eq_ok_iff_scans.1 next).isLine_cited noString
        · exact .pure _

/-! ## Expressions -/

/-- The loop over operators is sourced if its filters and right operands are. -/
theorem sourced_operatorTail
    {filter : Operator → Token → Cursor → Except Halt (Text × Cursor)}
    {operand : Int → Cursor → Except Halt (Node × Cursor)}
    (filters : ∀ operator {symbol : Token} cursor, symbol.value.IsLine →
      Sourced delimiters (filter operator symbol cursor))
    (operands : ∀ least cursor, Sourced delimiters (operand least cursor))
    (least : Int)
    (turns : Nat)
    (left : Node)
    (cursor : Cursor) :
    Sourced delimiters (region.operatorTail filter operand least turns left cursor) := by
  induction turns generalizing left cursor with
  | zero => exact .exhausted
  | succ turns hypothesis =>
    rw [operatorTail]
    split
    · exact .ok _
    · refine .bind (.token cursor) ?_
      rintro ⟨symbol, behind⟩ scanned
      dsimp only
      split
      · exact .pure _
      · rename_i isOperator
        rw [ne_eq, Decidable.not_not] at isOperator
        have isLine : symbol.value.IsLine :=
          (token_eq_ok_iff_scans.1 scanned).isLine_value (by simp [isOperator])
        have cited : ∀ text ∈ [symbol.value], text.IsLine := List.forall_mem_singleton.2 isLine
        split
        · split
          · exact .fail (.of_isLine cited)
          · exact .fail (.of_isLine cited)
        · split
          · exact .pure _
          · split
            · exact .bind (filters _ _ isLine) fun _ _ => hypothesis _ _
            · exact .bind (operands _ _) fun _ _ => hypothesis _ _

/-- What the diagnostic of an expression cites stands on one line, is a delimiter or is
quoted. -/
theorem sourced_of_rules (delimiters : Delimiters) (region : Region) (calls : Nat) :
    (∀ depth least cursor, Sourced delimiters (region.expression calls depth least cursor)) ∧
    (∀ depth cursor, Sourced delimiters (region.unary calls depth cursor)) ∧
    (∀ depth cursor, Sourced delimiters (region.atom calls depth cursor)) := by
  induction calls with
  | zero => exact ⟨fun _ _ _ => .exhausted, fun _ _ => .exhausted, fun _ _ => .exhausted⟩
  | succ calls hypothesis =>
    obtain ⟨ofExpression, ofUnary, ofAtom⟩ := hypothesis
    refine ⟨?_, ?_, ?_⟩
    · intro depth least cursor
      rw [expression]
      refine .bind (ofUnary depth cursor) ?_
      rintro ⟨left, middle⟩ _
      exact sourced_operatorTail
        (fun operator _ cursor isLine => sourced_filterName isLine operator calls cursor)
        (fun least cursor => ofExpression depth least cursor) _ _ _ _
    · intro depth cursor
      rw [unary]
      split
      · exact ofAtom depth cursor
      · refine .bind (.token cursor) ?_
        rintro ⟨symbol, behind⟩ _
        dsimp only
        split
        · refine .bind (.nest _ _ _) fun deeper _ => ?_
          exact .bind (ofUnary deeper behind) fun _ _ => .pure _
        · exact ofAtom depth cursor
    · intro depth cursor
      rw [atom]
      split
      · exact .fail (.of_cited_eq_nil rfl)
      · refine .bind (.token cursor) ?_
        rintro ⟨first, behind⟩ scanned
        dsimp only
        split
        · refine .bind (.nest _ _ _) fun deeper _ => ?_
          refine .bind (ofExpression deeper 1 behind) fun _ _ => ?_
          exact .bind (.expect (Expectation.isSourced_literal (by decide)) _ _) fun _ _ => .pure _
        · refine .bind (sourced_literal? calls cursor) ?_
          rintro ⟨found, after⟩ _
          split
          · exact .pure _
          · split
            · exact .bind (sourced_path calls cursor) fun _ _ => .pure _
            · exact .unexpected (.of_cited_eq_nil rfl) scanned

end Region

end Stencil
