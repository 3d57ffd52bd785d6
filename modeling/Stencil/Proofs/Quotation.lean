import Stencil.Proofs.Lexeme

/-!
# String literals are read as they are written

A text can be written between quotes in many ways, since most characters may
stand for themselves or be escaped.  The main statement is that whatever way is
chosen for each character, the literal denotes the text that was written.
-/

namespace Stencil

namespace StringLiteral

/-- What may be written in a string literal for a code point. -/
inductive Denotes : CodePoint → Text → Prop
  /-- Most code points stand for themselves. -/
  | verbatim
      {point : CodePoint}
      (noNewline : point ≠ '\n')
      (noQuote : point ≠ '"')
      (noBackslash : point ≠ '\\') :
      Denotes point [point]
  /-- An escape of one character. -/
  | simple
      {mark point : CodePoint}
      (known : simpleEscape mark = some point) :
      Denotes point ['\\', mark]
  /-- An escape with two hexadecimal digits. -/
  | narrow
      {first second : CodePoint}
      (hexadecimal : [first, second].all CodePoint.isHexDigit = true) :
      Denotes (hexPoint [first, second]) ['\\', 'x', first, second]
  /-- An escape with four hexadecimal digits. -/
  | wide
      {first second third fourth : CodePoint}
      (hexadecimal : [first, second, third, fourth].all CodePoint.isHexDigit = true) :
      Denotes (hexPoint [first, second, third, fourth])
        ['\\', 'u', first, second, third, fourth]

/-- One written code point is read. -/
theorem Denotes.read_append
    {point : CodePoint}
    {text : Text}
    (denotes : Denotes point text)
    (rest : Text) :
    StringLiteral.read (text ++ rest) =
      (StringLiteral.read rest).map fun (content, count) =>
        (point :: content, count + text.length) := by
  have noNewline : ¬ (CodePoint.ofChar '\\' = CodePoint.ofChar '\n') := by decide
  have noQuote : ¬ (CodePoint.ofChar '\\' = CodePoint.ofChar '"') := by decide
  cases denotes with
  | verbatim noNewline noQuote noBackslash =>
    rw [List.singleton_append, StringLiteral.read.eq_def]
    simp only [noNewline, noQuote, noBackslash, if_false, List.length_singleton]
  | simple known =>
    rw [List.cons_append, List.singleton_append, StringLiteral.read.eq_def]
    simp only [noNewline, noQuote, if_false, if_true, known]
    rfl
  | narrow hexadecimal =>
    have noSimple : simpleEscape 'x' = none := by decide
    simp only [List.cons_append, List.nil_append, StringLiteral.read, noNewline, noQuote, if_false,
      if_true, noSimple, hexadecimal]
    rfl
  | wide hexadecimal =>
    have noSimple : simpleEscape 'u' = none := by decide
    have noNarrow : ¬ (CodePoint.ofChar 'u' = CodePoint.ofChar 'x') := by decide
    simp only [List.cons_append, List.nil_append, StringLiteral.read, noNewline, noQuote, if_false,
      if_true, noSimple, noNarrow, hexadecimal]
    rfl

/-- A text is written code point by code point. -/
inductive Quotes : Text → Text → Prop
  | nil : Quotes [] []
  | cons
      {point : CodePoint}
      {written content body : Text}
      (denotes : Denotes point written)
      (rest : Quotes content body) :
      Quotes (point :: content) (written ++ body)

/-- What is written up to the closing quote is read. -/
theorem Quotes.read_append
    {content body : Text}
    (quotes : Quotes content body)
    (rest : Text) :
    StringLiteral.read (body ++ (Text.of "\"" ++ rest)) = .ok (content, body.length + 1) := by
  induction quotes with
  | nil =>
    rw [List.nil_append, StringLiteral.read.eq_def]
    rfl
  | cons denotes _ hypothesis =>
    rw [List.append_assoc, denotes.read_append, hypothesis, List.length_append]
    simp only [Except.map]
    congr 2
    omega

/-- What is written, between quotes. -/
def between (body : Text) : Text :=
  '"' :: (body ++ Text.of "\"")

/-- A choice of what to write for each code point. -/
structure Escaping where
  /-- What is written for a code point. -/
  written : CodePoint → Text
  /-- What is written stands for the code point. -/
  denotes : ∀ point, Denotes point (written point)

namespace Escaping

/-- Only what cannot stand for itself is escaped. -/
def sparing : Escaping where
  written point :=
    if point = '\\' then ['\\', '\\']
    else if point = '"' then ['\\', '"']
    else if point = '\n' then ['\\', 'n']
    else [point]
  denotes point := by
    split
    · rename_i isBackslash
      rw [isBackslash]
      exact .simple (by decide)
    · rename_i noBackslash
      split
      · rename_i isQuote
        rw [isQuote]
        exact .simple (by decide)
      · rename_i noQuote
        split
        · rename_i isNewline
          rw [isNewline]
          exact .simple (by decide)
        · rename_i noNewline
          exact .verbatim noNewline noQuote noBackslash

/-- A text as a string literal. -/
def quoted (escaping : Escaping) (content : Text) : Text :=
  '"' :: (content.flatMap escaping.written ++ Text.of "\"")

theorem quotes
    (escaping : Escaping)
    (content : Text) :
    Quotes content (content.flatMap escaping.written) := by
  induction content with
  | nil => exact .nil
  | cons point content hypothesis =>
    rw [List.flatMap_cons]
    exact .cons (escaping.denotes point) hypothesis

end Escaping

end StringLiteral

/-- A string literal is scanned to the text that is written in it. -/
theorem Token.scanHere_quotes
    {cursor : Cursor}
    {content body rest : Text}
    (quotes : StringLiteral.Quotes content body)
    (unread : cursor.rest = StringLiteral.between body ++ rest) :
    scanHere cursor =
      .ok (located cursor .string content,
        cursor.forward (StringLiteral.between body).length) := by
  have opened : cursor.rest = CodePoint.ofChar '"' :: (body ++ (Text.of "\"" ++ rest)) := by
    rw [unread, StringLiteral.between, List.cons_append, List.append_assoc]
  have noDigit : CodePoint.isDigit '"' = false := by decide
  have length : (StringLiteral.between body).length = body.length + 1 + 1 := by
    rw [StringLiteral.between, List.length_cons, List.length_append]
    rfl
  rw [scanHere, opened]
  simp only [noDigit, Bool.false_eq_true, if_false, if_true]
  rw [scanString, opened, List.drop_one, List.tail_cons, quotes.read_append, length]

/-- A text that is written with any choice of escapes is scanned. -/
theorem Token.scanHere_string
    {cursor : Cursor}
    {escaping : StringLiteral.Escaping}
    {content rest : Text}
    (unread : cursor.rest = escaping.quoted content ++ rest) :
    scanHere cursor =
      .ok (located cursor .string content, cursor.forward (escaping.quoted content).length) :=
  scanHere_quotes (escaping.quotes content) unread

end Stencil
