import Stencil.Proofs.Phrase

/-!
# Where lexemes stand

A lexeme is scanned as it is written if blanks stand before it and a character
that cannot extend it stands behind it.  This holds wherever the lexeme stands in
a source, so the statements are about any cursor whose unread text begins with
some blanks and the lexeme.
-/

namespace Stencil

/-! ## Characters -/

namespace Ranges

theorem exists_of_contains
    {ranges : Ranges}
    {point : CodePoint}
    (contained : ranges.contains point = true) :
    ∃ range ∈ ranges, range.1 ≤ point.val ∧ point.val ≤ range.2 := by
  induction ranges with
  | nil => simp [contains] at contained
  | cons range ranges hypothesis =>
    rw [contains] at contained
    split at contained
    · rename_i below
      exact ⟨range, List.mem_cons_self, by simpa using contained, below⟩
    · obtain ⟨other, member, within⟩ := hypothesis contained
      exact ⟨other, List.mem_cons_of_mem _ member, within⟩

/-- Classes without common ranges have no common code points. -/
theorem contains_eq_false_of_disjoint
    {left right : Ranges}
    {point : CodePoint}
    (disjoint : (left.all fun one => right.all fun other =>
      decide (one.2 < other.1) || decide (other.2 < one.1)) = true)
    (contained : left.contains point = true) :
    right.contains point = false := by
  cases both : right.contains point with
  | false => rfl
  | true =>
    obtain ⟨one, isLeft, oneWithin⟩ := exists_of_contains contained
    obtain ⟨other, isRight, otherWithin⟩ := exists_of_contains both
    have apart := List.all_eq_true.1 (List.all_eq_true.1 disjoint one isLeft) other isRight
    simp only [Bool.or_eq_true, decide_eq_true_eq] at apart
    omega

end Ranges

namespace CodePoint

/-- White space separates words. -/
theorem isWord_of_isBlank
    {point : CodePoint}
    (blank : point.isBlank = true) :
    point.isWord = false := by
  have noLetter : alphanumericRanges.contains point = false :=
    Ranges.contains_eq_false_of_disjoint (by decide +kernel) blank
  have notLowLine : ¬ point = '_' := by
    rintro rfl
    exact absurd blank (by decide)
  simp [isWord, noLetter, notLowLine]

theorem isBlank_of_isWordStart
    {point : CodePoint}
    (start : point.isWordStart = true) :
    point.isBlank = false := by
  cases blank : point.isBlank with
  | false => rfl
  | true => simp [isWordStart, isWord_of_isBlank blank] at start

theorem isBlank_of_isDigit
    {point : CodePoint}
    (digit : point.isDigit = true) :
    point.isBlank = false := by
  simp only [isDigit, Bool.and_eq_true, decide_eq_true_eq] at digit
  have contained : Ranges.contains [(0x30, 0x39)] point = true := by
    simp [Ranges.contains, digit]
  exact Ranges.contains_eq_false_of_disjoint (by decide) contained

theorem isDigit_of_isWordStart
    {point : CodePoint}
    (start : point.isWordStart = true) :
    point.isDigit = false := by
  cases digit : point.isDigit with
  | false => rfl
  | true =>
    simp only [isDigit, Bool.and_eq_true, decide_eq_true_eq] at digit
    simp [isWordStart, decimalDigitRanges, Ranges.contains, digit] at start

end CodePoint

/-! ## Blanks -/

namespace Text

/-- The longest initial part of a property ends where the property does. -/
theorem takeWhile_append_of_head?
    {property : CodePoint → Bool}
    {front rest : Text}
    (inside : front.all property = true)
    (ends : ∀ point ∈ rest.head?, property point = false) :
    (front ++ rest).takeWhile property = front := by
  rw [List.takeWhile_append_of_pos (List.all_eq_true.1 inside)]
  cases rest with
  | nil => simp
  | cons point rest => simp [ends point rfl]

theorem dropWhile_append_of_head?
    {property : CodePoint → Bool}
    {front rest : Text}
    (inside : front.all property = true)
    (ends : ∀ point ∈ rest.head?, property point = false) :
    (front ++ rest).dropWhile property = rest := by
  rw [← drop_takeWhile_length, takeWhile_append_of_head? inside ends, List.drop_left]

end Text

/-- A space. -/
def Text.space : Text :=
  [(' ' : CodePoint)]

theorem Text.isBlank_space : Text.space.isBlank = true := by
  decide

/-- A text begins with a character that is no blank. -/
def Text.IsSolid (text : Text) : Prop :=
  ∃ point rest, text = point :: rest ∧ point.isBlank = false

theorem Text.IsSolid.append
    {text : Text}
    (solid : text.IsSolid)
    (rest : Text) :
    Text.IsSolid (text ++ rest) := by
  obtain ⟨point, others, rfl, noBlank⟩ := solid
  exact ⟨point, others ++ rest, rfl, noBlank⟩

theorem Text.takeWhile_isBlank_append
    {blanks text : Text}
    (blank : blanks.isBlank = true)
    (solid : text.IsSolid) :
    (blanks ++ text).takeWhile CodePoint.isBlank = blanks := by
  obtain ⟨point, rest, rfl, noBlank⟩ := solid
  apply takeWhile_append_of_head? blank
  rintro other ⟨⟩
  exact noBlank

theorem Text.trimStart_append
    {blanks text : Text}
    (blank : blanks.isBlank = true)
    (solid : text.IsSolid) :
    (blanks ++ text).trimStart = text := by
  rw [Text.trimStart, ← Text.drop_takeWhile_length, takeWhile_isBlank_append blank solid,
    List.drop_left]

namespace Cursor

/-- Blanks are skipped up to the next character that is none. -/
theorem skipBlanks_eq
    {cursor : Cursor}
    {blanks text : Text}
    (unread : cursor.rest = blanks ++ text)
    (blank : blanks.isBlank = true)
    (solid : text.IsSolid) :
    cursor.skipBlanks = cursor.forward blanks.length := by
  rw [skipBlanks, unread, Text.takeWhile_isBlank_append blank solid]

/-- What is left behind a text that was passed. -/
theorem rest_forward_of_append
    {cursor : Cursor}
    {front back : Text}
    (unread : cursor.rest = front ++ back) :
    (cursor.forward front.length).rest = back := by
  rw [rest_forward, unread, List.drop_left]

end Cursor

/-! ## Lexemes -/

theorem CodePoint.isWordRest_of_isBlank
    {point : CodePoint}
    (blank : point.isBlank = true) :
    point.isWordRest = false := by
  have noApostrophe : ¬ point = '\'' := by
    rintro rfl
    exact absurd blank (by decide)
  simp [isWordRest, isWord_of_isBlank blank, noApostrophe]

/-- A space cannot follow in a word. -/
theorem Text.isWordRest_of_head?_space
    (rest : Text) :
    ∀ point ∈ (Text.space ++ rest).head?, point.isWordRest = false := by
  rintro point ⟨⟩
  decide

/-- A space cannot follow in an operator. -/
theorem Text.isOperatorRest_of_head?_space
    (rest : Text) :
    ∀ point ∈ (Text.space ++ rest).head?, Style.isOperatorRest point = false := by
  rintro point ⟨⟩
  decide

namespace Style

/-- A text is a lexeme of a style from its first to its last character. -/
def IsLexeme (style : Style) (lexeme : Text) : Prop :=
  style.lexeme? lexeme = some lexeme

instance (style : Style) (lexeme : Text) : Decidable (style.IsLexeme lexeme) :=
  inferInstanceAs (Decidable (style.lexeme? lexeme = some lexeme))

/-- A character that cannot follow in a lexeme ends it. -/
theorem IsLexeme.lexeme?_append
    {style : Style}
    {lexeme rest : Text}
    (whole : style.IsLexeme lexeme)
    (ends : ∀ point ∈ rest.head?, style.isRest point = false) :
    style.lexeme? (lexeme ++ rest) = some lexeme := by
  cases lexeme with
  | nil => simp [IsLexeme, lexeme?] at whole
  | cons point others =>
    simp only [IsLexeme, lexeme?, Option.ite_none_right_eq_some, Option.some.injEq, List.cons.injEq,
      true_and] at whole
    obtain ⟨start, all⟩ := whole
    have inside : others.all style.isRest = true := by
      rw [← all]
      exact List.all_takeWhile
    rw [List.cons_append, lexeme?, if_pos start, Text.takeWhile_append_of_head? inside ends]

theorem IsLexeme.exists_start
    {style : Style}
    {lexeme : Text}
    (whole : style.IsLexeme lexeme) :
    ∃ point rest, lexeme = point :: rest ∧ style.isStart point = true := by
  cases lexeme with
  | nil => simp [IsLexeme, lexeme?] at whole
  | cons point rest =>
    simp only [IsLexeme, lexeme?, Option.ite_none_right_eq_some] at whole
    exact ⟨point, rest, rfl, whole.1⟩

end Style

/-- A text that variables and filters may have as a name. -/
def Text.IsName (name : Text) : Prop :=
  Style.identifier.IsLexeme name ∧ Style.identifier.isReserved name = false

instance (name : Text) : Decidable name.IsName :=
  inferInstanceAs (Decidable (_ ∧ _))

namespace Token

@[simp] theorem kind_located (cursor : Cursor) (kind : Kind) (value : Text) :
    (located cursor kind value).kind = kind :=
  rfl

/-- A word is scanned up to a character that is no part of words. -/
theorem scanHere_word
    {cursor : Cursor}
    {word rest : Text}
    (unread : cursor.rest = word ++ rest)
    (whole : Style.identifier.IsLexeme word)
    (ends : ∀ point ∈ rest.head?, point.isWordRest = false) :
    scanHere cursor = .ok (take cursor .identifier word) := by
  have found := whole.lexeme?_append ends
  obtain ⟨point, others, rfl, start⟩ := whole.exists_start
  have isWordStart : point.isWordStart = true := start
  have noQuote : ¬ point = '"' := by
    rintro rfl
    exact absurd isWordStart (by decide)
  rw [scanHere, unread, List.cons_append]
  simp only [CodePoint.isDigit_of_isWordStart isWordStart, Bool.false_eq_true, if_false, noQuote]
  rw [← List.cons_append, found]

/-- No operator begins like a word, a numeral or a string literal. -/
theorem not_word_of_isOperatorStart
    {point : CodePoint}
    (start : Style.isOperatorStart point = true) :
    point.isDigit = false ∧ point ≠ '"' ∧ point.isWordStart = false ∧ point.isBlank = false := by
  have checked : (Text.of "-+!&|=><*/").all (fun point => !point.isDigit && !(point == '"') &&
      !point.isWordStart && !point.isBlank) = true := by
    decide
  have member : point ∈ Text.of "-+!&|=><*/" := by simpa [Style.isOperatorStart] using start
  simpa [and_assoc] using List.all_eq_true.1 checked point member

/-- An operator is scanned up to a character that is no part of operators. -/
theorem scanHere_operator
    {cursor : Cursor}
    {symbol rest : Text}
    (unread : cursor.rest = symbol ++ rest)
    (whole : Style.operator.IsLexeme symbol)
    (ends : ∀ point ∈ rest.head?, Style.isOperatorRest point = false) :
    scanHere cursor = .ok (take cursor .operator symbol) := by
  have found := whole.lexeme?_append ends
  obtain ⟨point, others, rfl, start⟩ := whole.exists_start
  obtain ⟨noDigit, noQuote, noWord, _⟩ :=
    not_word_of_isOperatorStart start
  have absent : Style.identifier.lexeme? (point :: (others ++ rest)) = none := by
    simp [Style.lexeme?, Style.identifier, Style.renamed, Style.keyword, noWord]
  rw [scanHere, unread, List.cons_append]
  simp only [noDigit, Bool.false_eq_true, if_false, noQuote]
  rw [absent, ← List.cons_append, found]

/-- Parentheses, full stops and commas are tokens of their own. -/
theorem not_lexeme_of_punctuation
    {point : CodePoint}
    (isPunctuation : point ∈ Text.of "().,") :
    point.isDigit = false ∧ point ≠ '"' ∧ point.isWordStart = false ∧
      Style.isOperatorStart point = false ∧ point.isBlank = false := by
  have checked : (Text.of "().,").all (fun point => !point.isDigit && !(point == '"') &&
      !point.isWordStart && !Style.isOperatorStart point && !point.isBlank) = true := by
    decide
  simpa [and_assoc] using List.all_eq_true.1 checked point isPunctuation

theorem scanHere_punctuation
    {cursor : Cursor}
    {point : CodePoint}
    {rest : Text}
    (unread : cursor.rest = point :: rest)
    (isPunctuation : point ∈ Text.of "().,") :
    scanHere cursor = .ok (take cursor (Kind.ofPunctuation point) [point]) := by
  obtain ⟨noDigit, noQuote, noWord, noOperator, _⟩ := not_lexeme_of_punctuation isPunctuation
  simp [scanHere, unread, noDigit, noQuote, Style.lexeme?, Style.identifier, Style.renamed,
    Style.keyword, Style.operator, noWord, noOperator]

end Token

namespace Region

/-- A token stands behind some blanks. -/
theorem Continues.of_scanHere
    {region : Region}
    {cursor : Cursor}
    {blanks text : Text}
    {token : Token}
    {count : Nat}
    (unread : cursor.rest = blanks ++ text)
    (blank : blanks.isBlank = true)
    (solid : text.IsSolid)
    (notClosed : region.closing.isPrefixOf text = false)
    (scanned : Token.scanHere (cursor.forward blanks.length) =
      .ok (token, (cursor.forward blanks.length).forward count)) :
    region.Continues cursor token (cursor.forward (blanks.length + count)) := by
  refine ⟨?_, ?_⟩
  · rw [isDone, Cursor.sees, unread, Text.trimStart_append blank solid, notClosed]
  · rw [Reading.token_eq_ok, Token.scan, Cursor.skipBlanks_eq unread blank solid, scanned,
      Cursor.forward_add]

/-- Characters that begin an operand, an operator or a name behind a dot. -/
def isLexemeStart (point : CodePoint) : Bool :=
  Style.isOperatorStart point || point.isWordStart || point.isDigit || point == '"' ||
    point == '(' || point == '.'

/-- The closing delimiter of a region cannot be taken for a lexeme of an
expression in which every lexeme is followed by a space. -/
structure Apart (region : Region) : Prop where
  /-- Only a closing parenthesis may begin like the closing delimiter. -/
  start : ∃ point rest, region.closing = point :: rest ∧ isLexemeStart point = false ∧
    point.isBlank = false
  /-- A closing parenthesis before a space does not close the region. -/
  parenthesis : ∀ rest, region.closing.isPrefixOf (Text.of ") " ++ rest) = false

theorem Apart.isPrefixOf_eq_false
    {region : Region}
    {point : CodePoint}
    (apart : region.Apart)
    (isStart : isLexemeStart point = true)
    (rest : Text) :
    region.closing.isPrefixOf (point :: rest) = false := by
  obtain ⟨first, others, whole, noStart, _⟩ := apart.start
  rw [whole, List.isPrefixOf_cons_cons]
  have differ : (first == point) = false := by
    rw [beq_eq_false_iff_ne]
    rintro rfl
    simp [noStart] at isStart
  rw [differ, Bool.false_and]

theorem Apart.isSolid_closing
    {region : Region}
    (apart : region.Apart)
    (rest : Text) :
    Text.IsSolid (region.closing ++ rest) := by
  obtain ⟨first, others, whole, _, noBlank⟩ := apart.start
  exact ⟨first, others ++ rest, by rw [whole, List.cons_append], noBlank⟩

/-- The closing delimiter is seen behind blanks. -/
theorem Apart.isDone_eq_true
    {region : Region}
    {cursor : Cursor}
    {blanks rest : Text}
    (apart : region.Apart)
    (unread : cursor.rest = blanks ++ (region.closing ++ rest))
    (blank : blanks.isBlank = true) :
    region.isDone cursor = true := by
  rw [isDone, Cursor.sees, unread, Text.trimStart_append blank (apart.isSolid_closing rest),
    List.isPrefixOf_iff_prefix]
  exact List.prefix_append _ _

/-- The closing delimiter is read behind blanks. -/
theorem Apart.close_eq_ok
    {region : Region}
    {cursor : Cursor}
    {blanks rest : Text}
    (apart : region.Apart)
    (unread : cursor.rest = blanks ++ (region.closing ++ rest))
    (blank : blanks.isBlank = true) :
    region.close cursor =
      .ok ((), cursor.forward (blanks.length + region.closing.length)) := by
  have begins : (cursor.forward blanks.length).startsWith region.closing = true := by
    rw [Cursor.startsWith, Cursor.rest_forward_of_append unread, List.isPrefixOf_iff_prefix]
    exact List.prefix_append _ _
  rw [Region.close_eq_ok, Cursor.skipBlanks_eq unread blank (apart.isSolid_closing rest),
    Cursor.consume?, if_pos begins, Cursor.forward_add]

/-- A word stands in a region. -/
theorem Continues.of_word
    {region : Region}
    {cursor : Cursor}
    {blanks word rest : Text}
    (apart : region.Apart)
    (unread : cursor.rest = blanks ++ (word ++ rest))
    (blank : blanks.isBlank = true)
    (whole : Style.identifier.IsLexeme word)
    (ends : ∀ point ∈ rest.head?, point.isWordRest = false) :
    region.Continues cursor (Token.located (cursor.forward blanks.length) .identifier word)
      (cursor.forward (blanks.length + word.length)) := by
  have scanned := Token.scanHere_word (Cursor.rest_forward_of_append unread) whole ends
  obtain ⟨point, others, rfl, start⟩ := whole.exists_start
  have isWordStart : point.isWordStart = true := start
  exact .of_scanHere unread blank ⟨point, _, rfl, CodePoint.isBlank_of_isWordStart isWordStart⟩
    (apart.isPrefixOf_eq_false (by simp [isLexemeStart, isWordStart]) _) scanned

/-- An operator stands in a region. -/
theorem Continues.of_operator
    {region : Region}
    {cursor : Cursor}
    {blanks symbol rest : Text}
    (apart : region.Apart)
    (unread : cursor.rest = blanks ++ (symbol ++ rest))
    (blank : blanks.isBlank = true)
    (whole : Style.operator.IsLexeme symbol)
    (ends : ∀ point ∈ rest.head?, Style.isOperatorRest point = false) :
    region.Continues cursor (Token.located (cursor.forward blanks.length) .operator symbol)
      (cursor.forward (blanks.length + symbol.length)) := by
  have scanned := Token.scanHere_operator (Cursor.rest_forward_of_append unread) whole ends
  obtain ⟨point, others, rfl, start⟩ := whole.exists_start
  have isStart : Style.isOperatorStart point = true := start
  obtain ⟨_, _, _, noBlank⟩ := Token.not_word_of_isOperatorStart isStart
  exact .of_scanHere unread blank ⟨point, _, rfl, noBlank⟩
    (apart.isPrefixOf_eq_false (by simp [isLexemeStart, isStart]) _) scanned

end Region

end Stencil
