import Stencil.Proofs.Numeral
import Stencil.Proofs.Quotation

/-!
# Texts between cursors

A cursor spells a text up to another one if the text is what stands between
them.  A text that is put together from parts is spelled part by part, so what
is printed can be followed lexeme by lexeme.  Below, each kind of lexeme is
scanned where it is spelled behind blanks.
-/

namespace Stencil

namespace Text

/-- A text begins with a space. -/
def IsSpaced (text : Text) : Prop :=
  ∃ rest, text = space ++ rest

theorem isSpaced_space (rest : Text) : IsSpaced (space ++ rest) :=
  ⟨rest, rfl⟩

theorem IsSpaced.append
    {text : Text}
    (spaced : text.IsSpaced)
    (rest : Text) :
    IsSpaced (text ++ rest) := by
  obtain ⟨others, rfl⟩ := spaced
  exact ⟨others ++ rest, List.append_assoc _ _ _⟩

end Text

namespace Cursor

/-- A text stands between two cursors. -/
def Spells (cursor : Cursor) (text : Text) (finish : Cursor) : Prop :=
  cursor.rest = text ++ finish.rest ∧ finish = cursor.forward text.length

theorem spells_forward
    {cursor : Cursor}
    {text rest : Text}
    (unread : cursor.rest = text ++ rest) :
    cursor.Spells text (cursor.forward text.length) := by
  refine ⟨?_, rfl⟩
  rw [rest_forward_of_append unread, unread]

theorem Spells.eq_of_nil
    {cursor finish : Cursor}
    (spells : cursor.Spells [] finish) :
    finish = cursor :=
  spells.2

/-- A text in two parts is spelled in two steps. -/
theorem Spells.of_append
    {cursor finish : Cursor}
    {front back : Text}
    (spells : cursor.Spells (front ++ back) finish) :
    ∃ middle, cursor.Spells front middle ∧ middle.Spells back finish := by
  obtain ⟨unread, rfl⟩ := spells
  rw [List.append_assoc] at unread
  refine ⟨cursor.forward front.length, spells_forward unread, ?_, ?_⟩
  · rw [rest_forward_of_append unread]
  · rw [List.length_append, forward_add]

theorem Spells.consume?_eq_some
    {cursor finish : Cursor}
    {text : Text}
    (spells : cursor.Spells text finish) :
    cursor.consume? text = some finish := by
  have begins : cursor.startsWith text = true := by
    rw [startsWith, spells.1, List.isPrefixOf_iff_prefix]
    exact List.prefix_append _ _
  rw [consume?, if_pos begins, spells.2]

/-- A space follows. -/
def IsBeforeSpace (cursor : Cursor) : Prop :=
  cursor.rest.IsSpaced

theorem Spells.isBeforeSpace
    {cursor finish : Cursor}
    {text : Text}
    (spells : cursor.Spells text finish)
    (spaced : text.IsSpaced) :
    cursor.IsBeforeSpace := by
  rw [IsBeforeSpace, spells.1]
  exact spaced.append _

theorem IsBeforeSpace.isWordRest_eq_false
    {cursor : Cursor}
    (before : cursor.IsBeforeSpace) :
    ∀ point ∈ cursor.rest.head?, point.isWordRest = false := by
  obtain ⟨rest, unread⟩ := before
  rw [unread]
  exact Text.isWordRest_of_head?_space rest

theorem IsBeforeSpace.isOperatorRest_eq_false
    {cursor : Cursor}
    (before : cursor.IsBeforeSpace) :
    ∀ point ∈ cursor.rest.head?, Style.isOperatorRest point = false := by
  obtain ⟨rest, unread⟩ := before
  rw [unread]
  exact Text.isOperatorRest_of_head?_space rest

end Cursor

namespace Region

variable
  {region : Region}
  {cursor finish : Cursor}
  {blanks : Text}

/-- A token is spelled behind some blanks. -/
theorem Continues.of_spells
    {lexeme : Text}
    {token : Token}
    (spells : cursor.Spells (blanks ++ lexeme) finish)
    (blank : blanks.isBlank = true)
    (solid : lexeme.IsSolid)
    (notClosed : region.closing.isPrefixOf (lexeme ++ finish.rest) = false)
    (scanned : ∀ {place : Cursor}, place.rest = lexeme ++ finish.rest →
      place = cursor.forward blanks.length →
        Token.scanHere place = .ok (token, place.forward lexeme.length)) :
    region.Continues cursor token finish := by
  obtain ⟨unread, ends⟩ := spells
  rw [List.append_assoc] at unread
  have here := scanned (Cursor.rest_forward_of_append unread) rfl
  have continues := Continues.of_scanHere unread blank (solid.append _) notClosed here
  rwa [← List.length_append, ← ends] at continues

/-- A word is spelled. -/
theorem Continues.of_spelled_word
    {word : Text}
    (apart : region.Apart)
    (spells : cursor.Spells (blanks ++ word) finish)
    (blank : blanks.isBlank = true)
    (whole : Style.identifier.IsLexeme word)
    (ends : ∀ point ∈ finish.rest.head?, point.isWordRest = false) :
    region.Continues cursor (Token.located (cursor.forward blanks.length) .identifier word)
      finish := by
  obtain ⟨unread, behind⟩ := spells
  rw [List.append_assoc] at unread
  rw [behind, List.length_append]
  exact .of_word apart unread blank whole ends

/-- An operator is spelled. -/
theorem Continues.of_spelled_operator
    {symbol : Text}
    (apart : region.Apart)
    (spells : cursor.Spells (blanks ++ symbol) finish)
    (blank : blanks.isBlank = true)
    (whole : Style.operator.IsLexeme symbol)
    (before : finish.IsBeforeSpace) :
    region.Continues cursor (Token.located (cursor.forward blanks.length) .operator symbol)
      finish := by
  obtain ⟨unread, behind⟩ := spells
  rw [List.append_assoc] at unread
  rw [behind, List.length_append]
  exact .of_operator apart unread blank whole before.isOperatorRest_eq_false

/-- A number is spelled. -/
theorem Continues.of_spelled_number
    {decimal : Decimal}
    (apart : region.Apart)
    (spells : cursor.Spells (blanks ++ decimal.toText) finish)
    (blank : blanks.isBlank = true)
    (positive : decimal.negative = false)
    (before : finish.IsBeforeSpace) :
    region.Continues cursor
      (Token.located (cursor.forward blanks.length) .number decimal.toText) finish := by
  obtain ⟨rest, unread⟩ := before
  obtain ⟨digit, digits, written, isDigit⟩ := Decimal.exists_digit_toText positive
  refine .of_spells spells blank ?_ ?_ ?_
  · exact ⟨digit, digits, written, CodePoint.isBlank_of_isDigit isDigit⟩
  · rw [written]
    exact apart.isPrefixOf_eq_false (by simp [isLexemeStart, isDigit]) _
  · rintro place begins rfl
    rw [unread] at begins
    exact Token.scanHere_number begins positive

/-- A string literal is spelled. -/
theorem Continues.of_spelled_string
    {escaping : StringLiteral.Escaping}
    {content : Text}
    (apart : region.Apart)
    (spells : cursor.Spells (blanks ++ escaping.quoted content) finish)
    (blank : blanks.isBlank = true) :
    region.Continues cursor (Token.located (cursor.forward blanks.length) .string content)
      finish := by
  refine .of_spells spells blank ⟨_, _, rfl, by decide⟩ ?_ ?_
  · exact apart.isPrefixOf_eq_false (by decide) _
  · rintro place begins rfl
    exact Token.scanHere_string begins

/-- An opening parenthesis or a full stop is spelled. -/
theorem Continues.of_spelled_punctuation
    {point : CodePoint}
    (apart : region.Apart)
    (spells : cursor.Spells (blanks ++ [point]) finish)
    (blank : blanks.isBlank = true)
    (isPunctuation : point ∈ Text.of "(.") :
    region.Continues cursor
      (Token.located (cursor.forward blanks.length) (.ofPunctuation point) [point]) finish := by
  have isMark : point ∈ Text.of "().," := by
    have checked : (Text.of "(.").all (fun point => (Text.of "().,").contains point) = true := by
      decide
    simpa using List.all_eq_true.1 checked point isPunctuation
  have isStart : isLexemeStart point = true := by
    have checked : (Text.of "(.").all isLexemeStart = true := by
      decide
    exact List.all_eq_true.1 checked point isPunctuation
  obtain ⟨_, _, _, _, noBlank⟩ := Token.not_lexeme_of_punctuation isMark
  refine .of_spells spells blank ⟨point, [], rfl, noBlank⟩ ?_ ?_
  · exact apart.isPrefixOf_eq_false isStart _
  · rintro place begins rfl
    exact Token.scanHere_punctuation begins isMark

/-- A closing parenthesis is spelled before a space. -/
theorem Continues.of_spelled_closing
    (apart : region.Apart)
    (spells : cursor.Spells (blanks ++ Text.of ")") finish)
    (blank : blanks.isBlank = true)
    (before : finish.IsBeforeSpace) :
    region.Continues cursor (Token.located (cursor.forward blanks.length) .closing (Text.of ")"))
      finish := by
  obtain ⟨rest, unread⟩ := before
  refine .of_spells spells blank ⟨_, _, rfl, by decide⟩ ?_ ?_
  · rw [unread]
    exact apart.parenthesis rest
  · rintro place begins rfl
    exact Token.scanHere_punctuation begins (by decide)

/-- The closing delimiter is spelled behind a space. -/
theorem Apart.close_of_spells
    (apart : region.Apart)
    (spells : cursor.Spells (Text.space ++ region.closing) finish) :
    region.isDone cursor = true ∧ region.close cursor = .ok ((), finish) := by
  obtain ⟨unread, ends⟩ := spells
  rw [List.append_assoc] at unread
  refine ⟨apart.isDone_eq_true unread Text.isBlank_space, ?_⟩
  rw [apart.close_eq_ok unread Text.isBlank_space, ends, List.length_append]

/-! ## Where expressions end -/

/-- Nothing follows that could extend a path: the region ends, or another token
than a dot follows. -/
def Halts (region : Region) (cursor : Cursor) : Prop :=
  region.isDone cursor = true ∨
    ∃ token behind, region.Continues cursor token behind ∧ token.kind ≠ .dot

/-- Nothing follows that could extend an expression: the region or a pair of
parentheses ends. -/
def Ends (region : Region) (cursor : Cursor) : Prop :=
  region.isDone cursor = true ∨
    ∃ token behind, region.Continues cursor token behind ∧ token.kind = .closing

theorem Ends.halts (ends : region.Ends cursor) : region.Halts cursor := by
  rcases ends with done | ⟨token, behind, next, isClosing⟩
  · exact .inl done
  · exact .inr ⟨token, behind, next, by simp [isClosing]⟩

theorem Ends.stops (ends : region.Ends cursor) (least : Int) : region.Stops least cursor := by
  rcases ends with done | ⟨token, behind, next, isClosing⟩
  · exact .inl done
  · exact .inr (.inl ⟨token, behind, next, by simp [isClosing]⟩)

end Region

end Stencil
