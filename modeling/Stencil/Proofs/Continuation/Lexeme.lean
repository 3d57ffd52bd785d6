import Stencil.Proofs.Numeral.Grammar
import Stencil.Proofs.Quotation.Acceptance
import Stencil.Proofs.Relocation

/-!
# Tokens in other texts

A token is as long as it can be, so another text behind a source may change its last
token.  It changes no token that something is left behind: words and operators
end at the first character of another class, numerals besides touch no character
that could belong to them, and string literals end with their quote.  The token
is also the same at another place, up to its position.
-/

namespace Stencil

namespace Text

/-- A text and another one are the same but for what they end with. -/
def Swaps (old new text target : Text) : Prop :=
  ∃ shared, text = shared ++ old ∧ target = shared ++ new

variable {old new text target : Text}

theorem Swaps.drop
    (swaps : Swaps old new text target)
    {count : Nat}
    (fits : count + old.length ≤ text.length) :
    Swaps old new (text.drop count) (target.drop count) := by
  obtain ⟨shared, rfl, rfl⟩ := swaps
  have within : count ≤ shared.length := by
    rw [List.length_append] at fits
    omega
  exact ⟨shared.drop count, List.drop_append_of_le_length within,
    List.drop_append_of_le_length within⟩

/-- What stands before the old end stands before the new one. -/
theorem Swaps.exists_append
    {front rest : Text}
    (swaps : Swaps old new (front ++ rest) target)
    (fits : old.length ≤ rest.length) :
    ∃ rest', target = front ++ rest' ∧ Swaps old new rest rest' := by
  obtain ⟨shared, whole, rfl⟩ := swaps
  have shorter : front.length ≤ shared.length := by
    have lengths := congrArg List.length whole
    rw [List.length_append, List.length_append] at lengths
    omega
  obtain ⟨middle, rfl⟩ : front <+: shared :=
    List.prefix_of_prefix_length_le (List.prefix_append _ _) ⟨old, whole.symm⟩ shorter
  rw [List.append_assoc, List.append_cancel_left_eq] at whole
  exact ⟨middle ++ new, List.append_assoc _ _ _, middle, whole, rfl⟩

theorem Swaps.exists_cons
    (swaps : Swaps old new text target)
    (left : old.length < text.length) :
    ∃ point rest rest', text = point :: rest ∧ target = point :: rest' ∧
      Swaps old new rest rest' := by
  obtain ⟨point, rest, rfl⟩ := List.exists_cons_of_length_pos (Nat.zero_lt_of_lt left)
  obtain ⟨rest', same, behind⟩ :=
    @Swaps.exists_append old new target [point] rest swaps (Nat.le_of_lt_succ left)
  exact ⟨point, rest, rest', rfl, same, behind⟩

/-- A literal that is as short as the shared text begins both texts or none. -/
theorem Swaps.prefix_iff
    {literal : Text}
    (swaps : Swaps old new text target)
    (fits : literal.length + old.length ≤ text.length) :
    literal <+: target ↔ literal <+: text := by
  obtain ⟨shared, rfl, rfl⟩ := swaps
  have within : literal.length ≤ shared.length := by
    rw [List.length_append] at fits
    omega
  have shorter {more : Text} (begins : literal <+: shared ++ more) : literal <+: shared :=
    List.prefix_of_prefix_length_le begins (List.prefix_append _ _) within
  exact ⟨fun begins => (shorter begins).trans (List.prefix_append _ _),
    fun begins => (shorter begins).trans (List.prefix_append _ _)⟩

/-- Where a property ends before the old end, it ends there before every other one. -/
theorem Swaps.takeWhile_eq
    {property : CodePoint → Bool}
    (swaps : Swaps old new text target)
    (ends : old.length < (text.dropWhile property).length) :
    target.takeWhile property = text.takeWhile property := by
  obtain ⟨shared, rfl, rfl⟩ := swaps
  induction shared with
  | nil => exact absurd (List.dropWhile_suffix property).length_le (Nat.not_le_of_lt ends)
  | cons point shared hypothesis =>
    rw [List.cons_append, List.cons_append, List.takeWhile_cons, List.takeWhile_cons]
    split
    · rename_i holds
      rw [List.cons_append, List.dropWhile_cons_of_pos holds] at ends
      rw [hypothesis ends]
    · rfl

theorem length_takeWhile_add
    {property : CodePoint → Bool} :
    (text.takeWhile property).length + (text.dropWhile property).length = text.length := by
  rw [← List.length_append, List.takeWhile_append_dropWhile]

theorem Swaps.dropWhile
    {property : CodePoint → Bool}
    (swaps : Swaps old new text target)
    (ends : old.length < (text.dropWhile property).length) :
    Swaps old new (text.dropWhile property) (target.dropWhile property) := by
  have whole := @length_takeWhile_add text property
  rw [← drop_takeWhile_length, ← drop_takeWhile_length, swaps.takeWhile_eq ends]
  exact swaps.drop (by omega)

end Text

namespace Numeral

variable {old new text target : Text}

/-- A numeral ends before the old end of a text, and no character that it must not
touch follows. -/
structure EndsBefore (old rest : Text) : Prop where
  /-- More than the old end is left. -/
  left : old.length < rest.length
  /-- It does not belong to a numeral. -/
  noTail : ∀ point ∈ rest.head?, isTail point = false

theorem EndsBefore.swaps
    {rest rest' : Text}
    (ends : EndsBefore old rest)
    (swaps : Text.Swaps old new rest rest') :
    ∀ point ∈ rest'.head?, isTail point = false := by
  obtain ⟨point, others, others', rfl, rfl, _⟩ := swaps.exists_cons ends.left
  exact ends.noTail

/-- A numeral that ends before the old end of a text ends there before every other
one. -/
theorem lexeme_swaps
    {digit : CodePoint}
    {rest : Text}
    (isDigit : digit.isDigit = true)
    (swaps : Text.Swaps old new (digit :: rest) target)
    (ends : EndsBefore old ((digit :: rest).drop (lexeme (digit :: rest)).length)) :
    lexeme target = lexeme (digit :: rest) := by
  obtain ⟨form, after, found, whole⟩ := exists_form_append isDigit rest
  rw [found, whole, List.drop_left] at ends
  rw [whole] at swaps
  obtain ⟨after', rfl, behind⟩ := swaps.exists_append (Nat.le_of_lt ends.left)
  rw [found]
  exact lexeme_text_append (ends.swaps behind) form

end Numeral

namespace StringLiteral

variable {old new : Text}

/-- A string literal that is closed before the old end of a text is the same before
every other one. -/
theorem read_swaps
    {rest target content : Text}
    {count : Nat}
    (success : read rest = .ok (content, count))
    (swaps : Text.Swaps old new rest target)
    (fits : count + old.length ≤ rest.length) :
    read target = .ok (content, count) := by
  obtain ⟨body, after, ⟨quotes, rfl⟩, rfl⟩ := exists_closes_of_read success
  have whole : body ++ CodePoint.ofChar '"' :: after = (body ++ Text.of "\"") ++ after := by
    rw [List.append_assoc]
    rfl
  rw [whole] at swaps fits
  have closed : (body ++ Text.of "\"").length = body.length + 1 := List.length_append
  obtain ⟨after', rfl, _⟩ := swaps.exists_append (by
    rw [List.length_append, closed] at fits
    omega)
  rw [List.append_assoc]
  exact quotes.read_append after'

end StringLiteral

namespace Cursor

/-- A cursor stands in another source where its unread text follows but for its end,
and the positions up to there are the relocated ones. -/
structure Swaps (relocation : Relocation) (old new : Text) (cursor target : Cursor) : Prop where
  /-- The unread text follows with another end. -/
  rest : Text.Swaps old new cursor.rest target.rest
  /-- The positions are relocated. -/
  position : ∀ count, count + old.length ≤ cursor.rest.length →
    (target.forward count).position = relocation.map (cursor.forward count).position

/-- A cursor stands in another source where its unread text follows, with more text
behind it, and the positions from there on are the relocated ones. -/
structure Moves (relocation : Relocation) (more : Text) (cursor target : Cursor) : Prop where
  /-- The unread text follows. -/
  rest : target.rest = cursor.rest ++ more
  /-- The positions are relocated. -/
  position : ∀ count ≤ cursor.rest.length,
    (target.forward count).position = relocation.map (cursor.forward count).position

variable
  {relocation : Relocation}
  {old new : Text}
  {cursor target : Cursor}

/-- More text behind a source is an end exchanged for nothing. -/
theorem swaps_nil_iff_moves :
    Swaps relocation [] new cursor target ↔ Moves relocation new cursor target := by
  constructor
  · rintro ⟨⟨shared, unread, unread'⟩, position⟩
    rw [List.append_nil] at unread
    exact ⟨unread ▸ unread', position⟩
  · rintro ⟨unread, position⟩
    exact ⟨⟨cursor.rest, (List.append_nil _).symm, unread⟩, position⟩

theorem Swaps.here
    (swaps : Swaps relocation old new cursor target)
    (fits : old.length ≤ cursor.rest.length) :
    target.position = relocation.map cursor.position :=
  swaps.position 0 (by omega)

theorem Swaps.forward
    (swaps : Swaps relocation old new cursor target)
    {count : Nat}
    (fits : count + old.length ≤ cursor.rest.length) :
    Swaps relocation old new (cursor.forward count) (target.forward count) where
  rest := by
    rw [rest_forward, rest_forward]
    exact swaps.rest.drop fits
  position further within := by
    rw [rest_forward, List.length_drop] at within
    rw [← forward_add, ← forward_add]
    exact swaps.position _ (by omega)

theorem Moves.here (moves : Moves relocation new cursor target) :
    target.position = relocation.map cursor.position :=
  moves.position 0 (Nat.zero_le _)

theorem Moves.forward
    (moves : Moves relocation new cursor target)
    {count : Nat}
    (within : count ≤ cursor.rest.length) :
    Moves relocation new (cursor.forward count) (target.forward count) :=
  swaps_nil_iff_moves.1 ((swaps_nil_iff_moves.2 moves).forward within)

theorem Swaps.skipBlanks
    (swaps : Swaps relocation old new cursor target)
    (left : old.length < cursor.skipBlanks.rest.length) :
    Swaps relocation old new cursor.skipBlanks target.skipBlanks := by
  rw [rest_skipBlanks, Text.trimStart] at left
  have whole := @Text.length_takeWhile_add cursor.rest CodePoint.isBlank
  rw [Cursor.skipBlanks, Cursor.skipBlanks, swaps.rest.takeWhile_eq left]
  exact swaps.forward (by omega)

theorem Swaps.consume?
    {literal : Text}
    {behind : Cursor}
    (swaps : Swaps relocation old new cursor target)
    (consumed : cursor.consume? literal = some behind)
    (fits : old.length ≤ behind.rest.length) :
    ∃ behind', target.consume? literal = some behind' ∧
      Swaps relocation old new behind behind' := by
  unfold Cursor.consume? at consumed
  split at consumed
  · rename_i begins
    obtain rfl := Option.some.inj consumed
    rw [startsWith, List.isPrefixOf_iff_prefix] at begins
    have within : literal.length + old.length ≤ cursor.rest.length := by
      have shorter := begins.length_le
      rw [rest_forward, List.length_drop] at fits
      omega
    have there : target.startsWith literal = true := by
      rw [startsWith, List.isPrefixOf_iff_prefix]
      exact (swaps.rest.prefix_iff within).2 begins
    exact ⟨_, if_pos there, swaps.forward within⟩
  · cases consumed

end Cursor

namespace Token

/-- A token is the same at its new position. -/
structure Moves (relocation : Relocation) (token target : Token) : Prop where
  /-- The kind stays. -/
  kind : target.kind = token.kind
  /-- The value stays. -/
  value : target.value = token.value
  /-- The position is relocated. -/
  position : target.position = relocation.map token.position

variable
  {relocation : Relocation}
  {old new : Text}
  {cursor target behind : Cursor}

theorem Moves.isWord_eq
    {token token' : Token}
    (moves : token.Moves relocation token')
    (word : Text) :
    token'.isWord word = token.isWord word := by
  rw [isWord, isWord, moves.kind, moves.value]

theorem Moves.isOperator_eq
    {token token' : Token}
    (moves : token.Moves relocation token')
    (symbol : Text) :
    token'.isOperator symbol = token.isOperator symbol := by
  rw [isOperator, isOperator, moves.kind, moves.value]

theorem Moves.located
    (swaps : Cursor.Swaps relocation old new cursor target)
    (fits : old.length ≤ cursor.rest.length)
    (kind : Kind)
    (value : Text) :
    Moves relocation (located cursor kind value) (located target kind value) :=
  ⟨rfl, rfl, swaps.here fits⟩

theorem fits_of_left
    {count : Nat}
    (left : old.length < (cursor.forward count).rest.length) :
    count + old.length ≤ cursor.rest.length := by
  rw [Cursor.rest_forward, List.length_drop] at left
  omega

theorem lexeme?_swaps
    {style : Style}
    {lexeme : Text}
    (swaps : Cursor.Swaps relocation old new cursor target)
    (found : style.lexeme? cursor.rest = some lexeme)
    (left : old.length < (cursor.forward lexeme.length).rest.length) :
    style.lexeme? target.rest = some lexeme := by
  obtain ⟨point, rest, unread, isStart, rfl⟩ := exists_of_lexeme? found
  have ends : old.length < (rest.dropWhile style.isRest).length := by
    rw [Cursor.rest_forward, unread, List.length_cons, List.drop_succ_cons,
      Text.drop_takeWhile_length] at left
    exact left
  obtain ⟨_, _, rest', same, unread', behind⟩ := swaps.rest.exists_cons (by
    have fits := fits_of_left left
    rw [List.length_cons] at fits
    omega)
  obtain ⟨rfl, rfl⟩ := List.cons.inj (unread.symm.trans same)
  rw [unread']
  simp [Style.lexeme?, isStart, behind.takeWhile_eq ends]

/-- A token that more than the old end is left behind is scanned before every other
end. -/
theorem Scans.swaps
    {token : Token}
    (scans : Scans cursor token behind)
    (swaps : Cursor.Swaps relocation old new cursor target)
    (left : old.length < behind.rest.length) :
    ∃ token' behind', Scans target token' behind' ∧ token.Moves relocation token' ∧
      Cursor.Swaps relocation old new behind behind' := by
  have unreadLeft : old.length < cursor.rest.length :=
    Nat.lt_of_lt_of_le left scans.reaches.length_le
  have located := Moves.located swaps (Nat.le_of_lt unreadLeft)
  obtain ⟨first, others, others', unread, unread', further⟩ := swaps.rest.exists_cons unreadLeft
  cases scans with
  | finish atEnd =>
    rw [unread] at atEnd
    cases atEnd
  | @number digit rest isNumber isDigit ends =>
    obtain ⟨rfl, rfl⟩ := List.cons.inj (unread.symm.trans isNumber)
    have endsBefore : Numeral.EndsBefore old
        (cursor.rest.drop (Numeral.lexeme cursor.rest).length) :=
      ⟨by simpa only [Cursor.rest_forward] using left, ends⟩
    have sameLexeme : Numeral.lexeme target.rest = Numeral.lexeme cursor.rest := by
      have here := swaps.rest
      rw [unread] at endsBefore here ⊢
      exact Numeral.lexeme_swaps isDigit here endsBefore
    have stillEnds : ∀ point ∈ (target.rest.drop (Numeral.lexeme target.rest).length).head?,
        Numeral.isTail point = false := by
      rw [sameLexeme]
      exact endsBefore.swaps (swaps.rest.drop (fits_of_left left))
    have scans : Scans target _ _ := .number unread' isDigit stillEnds
    rw [sameLexeme] at scans
    exact ⟨_, _, scans, located _ _, swaps.forward (fits_of_left left)⟩
  | @string rest text count isQuoted read =>
    obtain ⟨rfl, rfl⟩ := List.cons.inj (unread.symm.trans isQuoted)
    have fits := fits_of_left left
    have again := StringLiteral.read_swaps read further (by
      rw [unread, List.length_cons] at fits
      omega)
    exact ⟨_, _, .string unread' again, located _ _, swaps.forward fits⟩
  | word found =>
    exact ⟨_, _, .word (lexeme?_swaps swaps found left), located _ _,
      swaps.forward (fits_of_left left)⟩
  | operator found =>
    exact ⟨_, _, .operator (lexeme?_swaps swaps found left), located _ _,
      swaps.forward (fits_of_left left)⟩
  | @punctuation point rest isPoint noDigit noQuote noWord noOperator =>
    obtain ⟨rfl, rfl⟩ := List.cons.inj (unread.symm.trans isPoint)
    exact ⟨_, _, .punctuation unread' noDigit noQuote noWord noOperator, located _ _,
      swaps.forward (fits_of_left left)⟩

end Token

/-- The next token, if more than the old end is left behind it, is the next one before
every other end. -/
theorem Reading.token_swaps
    {relocation : Relocation}
    {old new : Text}
    {cursor target behind : Cursor}
    {found : Token}
    (scanned : Reading.token cursor = .ok (found, behind))
    (swaps : Cursor.Swaps relocation old new cursor target)
    (left : old.length < behind.rest.length) :
    ∃ found' behind', Reading.token target = .ok (found', behind') ∧
      found.Moves relocation found' ∧ Cursor.Swaps relocation old new behind behind' := by
  rw [Reading.token_eq_ok_iff_scans] at scanned
  have unread : old.length < cursor.skipBlanks.rest.length :=
    Nat.lt_of_lt_of_le left scanned.reaches.length_le
  obtain ⟨found', behind', scans, sameToken, further⟩ :=
    scanned.swaps (swaps.skipBlanks unread) left
  exact ⟨found', behind', Reading.token_eq_ok_iff_scans.2 scans, sameToken, further⟩

end Stencil
