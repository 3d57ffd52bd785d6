import Stencil.Proofs.Continuation.Segment
import Stencil.Proofs.Pragma.Change
import Stencil.Proofs.Spelling

/-!
# Pragmas are read as they are written

A pragma lists kinds of regions, each with two string literals.  Blanks may stand before
every lexeme, and every character of a literal may be escaped.  The main statement is that
a pragma whose closing delimiter begins with an exclamation mark is read to the changes
that were written, in their order.
-/

namespace Stencil

namespace Text

/-- Lexemes stand in a text one after the other, each behind some blanks. -/
inductive Spreads : List Text → Text → Prop
  | nil : Spreads [] []
  | cons
      {blanks lexeme text : Text}
      {lexemes : List Text}
      (blank : blanks.isBlank = true)
      (rest : Spreads lexemes text) :
      Spreads (lexeme :: lexemes) (blanks ++ lexeme ++ text)

theorem Spreads.of_append
    {front back : List Text}
    {text : Text}
    (spreads : Spreads (front ++ back) text) :
    ∃ first second, text = first ++ second ∧ Spreads front first ∧ Spreads back second := by
  induction front generalizing text with
  | nil => exact ⟨[], text, rfl, .nil, spreads⟩
  | cons lexeme front hypothesis =>
    cases spreads with
    | cons blank rest =>
      obtain ⟨first, second, rfl, near, far⟩ := hypothesis rest
      exact ⟨_, second, (List.append_assoc _ _ _).symm, .cons blank near, far⟩

/-- The first of some lexemes is spelled behind blanks, and the others behind it. -/
theorem Spreads.exists_first
    {lexeme text : Text}
    {lexemes : List Text}
    {cursor finish : Cursor}
    (spreads : Spreads (lexeme :: lexemes) text)
    (spells : cursor.Spells text finish) :
    ∃ blanks middle rest, blanks.isBlank = true ∧ cursor.Spells (blanks ++ lexeme) middle ∧
      Spreads lexemes rest ∧ middle.Spells rest finish := by
  cases spreads with
  | cons blank rest =>
    obtain ⟨middle, near, far⟩ := spells.of_append
    exact ⟨_, middle, _, blank, near, rest, far⟩

/-- Before a lexeme stands a blank or its first character. -/
theorem Spreads.isBlank_or_eq
    {lexeme text : Text}
    {lexemes : List Text}
    {cursor finish : Cursor}
    {first : CodePoint}
    (spreads : Spreads (lexeme :: lexemes) text)
    (spells : cursor.Spells text finish)
    (begins : lexeme.head? = some first) :
    ∀ point ∈ cursor.rest.head?, point.isBlank = true ∨ point = first := by
  cases spreads with
  | @cons blanks lexeme text lexemes blank rest =>
    obtain ⟨others, rfl⟩ := List.head?_eq_some_iff.1 begins
    rw [spells.1]
    intro point member
    cases blanks with
    | nil => exact .inr (Option.some.inj member).symm
    | cons other blanks =>
      obtain rfl : other = point := Option.some.inj member
      exact .inl (List.all_eq_true.1 blank other List.mem_cons_self)

end Text

theorem Style.isOperatorRest_of_isBlank
    {point : CodePoint}
    (blank : point.isBlank = true) :
    Style.isOperatorRest point = false := by
  have checked : (Text.of "-+!&|=><").all (fun point => !point.isBlank) = true := by decide
  rw [← Bool.not_eq_true]
  intro isRest
  have noBlank := List.all_eq_true.1 checked point (List.contains_iff_mem.1 isRest)
  rw [blank] at noBlank
  cases noBlank

namespace Document

open StringLiteral (Quotes between)

/-- A field of a pragma: a kind and the texts of its delimiters. -/
structure Field where
  /-- The kind that is changed. -/
  kind : Kind
  /-- What shall begin a region. -/
  opening : Text
  /-- What shall end a region. -/
  closing : Text

namespace Field

/-- The change that a field asks for. -/
def change (field : Field) : Kind × Value :=
  (field.kind, .tuple [.text field.opening, .text field.closing])

/-- Neither delimiter of a field is empty. -/
def IsProper (field : Field) : Prop :=
  field.opening ≠ [] ∧ field.closing ≠ []

/-- The last field of a kind. -/
def last? (fields : List Field) (kind : Kind) : Option Field :=
  fields.reverse.find? fun field => field.kind == kind

theorem change?_map_change (fields : List Field) (kind : Kind) :
    Delimiters.change? (fields.map change) kind =
      (last? fields kind).map fun field => .tuple [.text field.opening, .text field.closing] := by
  rw [Delimiters.change?, last?, ← List.map_reverse, List.find?_map, Option.map_map]
  rfl

/-- The lexemes of a field. -/
inductive Lexemes (field : Field) : List Text → Prop
  | written
      {first second : Text}
      (opening : Quotes field.opening first)
      (closing : Quotes field.closing second) :
      Lexemes field [field.kind.name, Text.of "=", Text.of "(", between first, Text.of ",",
        between second, Text.of ")"]

/-- The lexemes of fields with commas between them. -/
inductive Lists : List Field → List Text → Prop
  | last
      {field : Field}
      {lexemes : List Text}
      (written : field.Lexemes lexemes) :
      Lists [field] lexemes
  | more
      {field : Field}
      {fields : List Field}
      {lexemes others : List Text}
      (written : field.Lexemes lexemes)
      (rest : Lists fields others) :
      Lists (field :: fields) (lexemes ++ Text.of "," :: others)

/-- A pragma with some fields, between two delimiters. -/
def Writes (pair : Pair) (fields : List Field) (text : Text) : Prop :=
  ∃ lexemes body, Lists fields lexemes ∧
    Text.Spreads (lexemes ++ [pair.closing]) body ∧ text = pair.opening ++ body

end Field

/-! ## Lexemes of a pragma -/

variable
  {region : Region}
  {cursor finish : Cursor}

/-- The closing delimiter of a region begins with an exclamation mark. -/
def BeginsWithMark (closing : Text) : Prop :=
  closing.head? = some (CodePoint.ofChar '!')

/-- Another character does not close the region. -/
theorem isDone_eq_false_of_mark
    {blanks rest : Text}
    {point : CodePoint}
    (mark : BeginsWithMark region.closing)
    (unread : cursor.rest = blanks ++ (point :: rest))
    (blank : blanks.isBlank = true)
    (noBlank : point.isBlank = false)
    (other : point ≠ CodePoint.ofChar '!') :
    region.isDone cursor = false := by
  obtain ⟨others, closing⟩ := List.head?_eq_some_iff.1 mark
  rw [Region.isDone, Cursor.sees, unread, Text.trimStart_append blank ⟨point, rest, rfl, noBlank⟩,
    closing, List.isPrefixOf_cons_cons, beq_false_of_ne (Ne.symm other), Bool.false_and]

/-- A lexeme that is spelled behind blanks is the next token. -/
theorem token_of_spells
    {blanks lexeme value : Text}
    {kind : Token.Kind}
    (spells : cursor.Spells (blanks ++ lexeme) finish)
    (blank : blanks.isBlank = true)
    (solid : lexeme.IsSolid)
    (scanned : ∀ {place : Cursor}, place.rest = lexeme ++ finish.rest →
      Token.scanHere place = .ok (Token.located place kind value, place.forward lexeme.length)) :
    Reading.token cursor =
      .ok (Token.located (cursor.forward blanks.length) kind value, finish) := by
  obtain ⟨unread, ends⟩ := spells
  rw [List.append_assoc] at unread
  have here := scanned (Cursor.rest_forward_of_append unread)
  rw [Reading.token_eq_ok, Token.scan, Cursor.skipBlanks_eq unread blank (solid.append _), here,
    ← Cursor.forward_add, ← List.length_append, ends]

theorem expect_of_quotes
    {blanks content body : Text}
    (quotes : Quotes content body)
    (spells : cursor.Spells (blanks ++ between body) finish)
    (blank : blanks.isBlank = true)
    (expected : Expectation) :
    Reading.expect .string expected cursor =
      .ok (Token.located (cursor.forward blanks.length) .string content, finish) :=
  Reading.expect_eq_ok.2 ⟨token_of_spells spells blank ⟨_, _, rfl, by decide⟩
    fun unread => Token.scanHere_quotes quotes unread, rfl⟩

theorem expect_of_punctuation
    {blanks : Text}
    {point : CodePoint}
    (spells : cursor.Spells (blanks ++ [point]) finish)
    (blank : blanks.isBlank = true)
    (isPunctuation : point ∈ Text.of "().,")
    (expected : Expectation) :
    Reading.expect (.ofPunctuation point) expected cursor =
      .ok (Token.located (cursor.forward blanks.length) (.ofPunctuation point) [point],
        finish) := by
  obtain ⟨_, _, _, _, noBlank⟩ := Token.not_lexeme_of_punctuation isPunctuation
  refine Reading.expect_eq_ok.2 ⟨token_of_spells spells blank ⟨point, [], rfl, noBlank⟩ ?_, rfl⟩
  exact fun unread => Token.scanHere_punctuation unread isPunctuation

/-- The sign between a kind and its delimiters. -/
theorem expectOperator_of_sign
    {blanks : Text}
    (spells : cursor.Spells (blanks ++ Text.of "=") finish)
    (blank : blanks.isBlank = true)
    (ends : ∀ point ∈ finish.rest.head?, point.isBlank = true ∨ point = CodePoint.ofChar '(') :
    Reading.expectOperator (Text.of "=") cursor =
      .ok (Token.located (cursor.forward blanks.length) .operator (Text.of "="), finish) := by
  have noOperator : ∀ point ∈ finish.rest.head?, Style.isOperatorRest point = false := by
    intro point member
    rcases ends point member with isBlank | rfl
    · exact Style.isOperatorRest_of_isBlank isBlank
    · decide
  refine Reading.expectOperator_eq_ok.2
    ⟨token_of_spells spells blank ⟨_, _, rfl, by decide⟩ ?_, rfl⟩
  exact fun unread => Token.scanHere_operator unread (by decide) noOperator

/-- The name of a kind is a word that begins with a letter. -/
theorem Kind.name_isLexeme (kind : Kind) :
    Style.identifier.IsLexeme kind.name ∧
      ∃ point rest, kind.name = point :: rest ∧ point.isBlank = false ∧
        point ≠ CodePoint.ofChar '!' := by
  cases kind <;> exact ⟨by decide, _, _, rfl, by decide, by decide⟩

/-- The name of a kind does not close the region. -/
theorem continues_of_kind
    {blanks : Text}
    {kind : Kind}
    (spells : cursor.Spells (blanks ++ kind.name) finish)
    (blank : blanks.isBlank = true)
    (ends : ∀ point ∈ finish.rest.head?, point.isBlank = true ∨ point = CodePoint.ofChar '=')
    (mark : BeginsWithMark region.closing) :
    region.Continues cursor
      (Token.located (cursor.forward blanks.length) .identifier kind.name) finish := by
  obtain ⟨isWord, first, others, name, noBlank, noMark⟩ := Kind.name_isLexeme kind
  have noWord : ∀ point ∈ finish.rest.head?, point.isWordRest = false := by
    intro point member
    rcases ends point member with isBlank | rfl
    · exact CodePoint.isWordRest_of_isBlank isBlank
    · decide
  have unread := spells.1
  rw [List.append_assoc, name] at unread
  refine ⟨isDone_eq_false_of_mark mark unread blank noBlank noMark, ?_⟩
  refine token_of_spells spells blank ⟨first, others, name, noBlank⟩ ?_
  exact fun unread => Token.scanHere_word unread isWord noWord

/-! ## Fields and pragmas -/

/-- A field is read to the change that it asks for. -/
theorem Field.Lexemes.pragmaField_eq_ok
    {field : Field}
    {lexemes : List Text}
    {text : Text}
    (written : field.Lexemes lexemes)
    (spreads : Text.Spreads lexemes text)
    (spells : cursor.Spells text finish)
    (mark : BeginsWithMark region.closing) :
    pragmaField region cursor = .ok (field.change, finish) := by
  obtain ⟨opening, closing⟩ := written
  -- Each lexeme is spelled behind the one before.
  obtain ⟨_, afterName, _, nameBlank, named, behindName, spells⟩ := spreads.exists_first spells
  have nameEnds := behindName.isBlank_or_eq spells rfl
  obtain ⟨_, afterSign, _, signBlank, signed, behindSign, spells⟩ :=
    behindName.exists_first spells
  have signEnds := behindSign.isBlank_or_eq spells rfl
  obtain ⟨_, afterLeft, _, leftBlank, left, behindLeft, spells⟩ := behindSign.exists_first spells
  obtain ⟨_, afterFirst, _, firstBlank, first, behindFirst, spells⟩ :=
    behindLeft.exists_first spells
  obtain ⟨_, afterComma, _, commaBlank, comma, behindComma, spells⟩ :=
    behindFirst.exists_first spells
  obtain ⟨_, afterSecond, _, secondBlank, second, behindSecond, spells⟩ :=
    behindComma.exists_first spells
  obtain ⟨_, afterRight, _, rightBlank, right, behindRight, spells⟩ :=
    behindSecond.exists_first spells
  cases behindRight
  obtain rfl := spells.eq_of_nil
  have continues := continues_of_kind named nameBlank nameEnds mark
  refine Document.pragmaField_eq_ok.2 ⟨_, afterName, _, afterSign, _, afterLeft, _, afterFirst, _,
    afterComma, _, afterSecond, _, continues, rfl, Kind.ofName?_eq_some_iff.2 rfl,
    expectOperator_of_sign signed signBlank signEnds,
    expect_of_punctuation left leftBlank (by decide) _, expect_of_quotes opening first firstBlank _,
    expect_of_punctuation comma commaBlank (by decide) _,
    expect_of_quotes closing second secondBlank _,
    expect_of_punctuation right rightBlank (by decide) _, rfl⟩

/-- Fields are read to the changes that they ask for. -/
theorem Field.Lists.changes
    {fields : List Field}
    {lexemes : List Text}
    {text : Text}
    (lists : Lists fields lexemes)
    (spreads : Text.Spreads lexemes text)
    (spells : cursor.Spells text finish)
    (mark : BeginsWithMark region.closing)
    (done : region.isDone finish = true)
    (changes : List (Kind × Value)) :
    Changes region changes cursor
      ((fields.map change).foldl
        (fun changes change => putChange change.1 change.2 changes) changes) finish := by
  induction lists generalizing cursor text changes with
  | last written => exact .last (written.pragmaField_eq_ok spreads spells mark) done
  | more written rest hypothesis =>
    obtain ⟨near, far, rfl, nearSpreads, farSpreads⟩ := spreads.of_append
    obtain ⟨middle, nearSpells, farSpells⟩ := spells.of_append
    obtain ⟨blanks, behind, _, blank, comma, onward, further⟩ := farSpreads.exists_first farSpells
    have unread := comma.1
    rw [List.append_assoc] at unread
    have notDone := isDone_eq_false_of_mark mark unread blank (by decide) (by decide)
    exact .more (written.pragmaField_eq_ok nearSpreads nearSpells mark) notDone
      (expect_of_punctuation comma blank (by decide) _) (hypothesis onward further _)

/-- A closing delimiter that begins with an exclamation mark is read behind blanks. -/
theorem close_of_spells
    {blanks : Text}
    (spells : cursor.Spells (blanks ++ region.closing) finish)
    (blank : blanks.isBlank = true)
    (mark : BeginsWithMark region.closing) :
    region.isDone cursor = true ∧ region.close cursor = .ok ((), finish) := by
  obtain ⟨others, closing⟩ := List.head?_eq_some_iff.1 mark
  have solid : Text.IsSolid (region.closing ++ finish.rest) := by
    rw [closing]
    exact ⟨_, _, rfl, by decide⟩
  obtain ⟨unread, ends⟩ := spells
  rw [List.append_assoc] at unread
  constructor
  · rw [Region.isDone, Cursor.sees, unread, Text.trimStart_append blank solid,
      List.isPrefixOf_iff_prefix]
    exact List.prefix_append _ _
  · have behind := Cursor.rest_forward_of_append unread
    rw [Region.close_eq_ok, Cursor.skipBlanks_eq unread blank solid,
      (Cursor.spells_forward behind).consume?_eq_some, ← Cursor.forward_add,
      ← List.length_append, ← ends]

/-- A pragma is read to the changes that are written in it. -/
theorem Field.Writes.changes
    {pair : Pair}
    {fields : List Field}
    {text : Text}
    (writes : Writes pair fields text)
    (closing : region.closing = pair.closing)
    (mark : BeginsWithMark pair.closing)
    (spells : cursor.Spells text finish) :
    ∃ last, Changes region [] (cursor.forward pair.opening.length)
      ((fields.map change).foldl
        (fun changes change => putChange change.1 change.2 changes) []) last ∧
      region.close last = .ok ((), finish) := by
  obtain ⟨lexemes, body, lists, spreads, rfl⟩ := writes
  rw [← closing] at mark spreads
  obtain ⟨inside, ⟨_, rfl⟩, spells⟩ := spells.of_append
  obtain ⟨listed, rest, rfl, front, back⟩ := spreads.of_append
  obtain ⟨last, listedSpells, restSpells⟩ := spells.of_append
  obtain ⟨_, behind, _, blank, closes, nothing, ends⟩ := back.exists_first restSpells
  cases nothing
  obtain rfl := ends.eq_of_nil
  obtain ⟨done, closed⟩ := close_of_spells closes blank mark
  exact ⟨last, lists.changes front listedSpells mark done [], closed⟩

end Document

end Stencil
