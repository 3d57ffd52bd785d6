import Stencil.Text.Printable

/-!
# The quoted form of a text

Messages that show a value show its texts in quotes: apostrophes, unless the
text holds an apostrophe and no double quote.  The backslash, the quote, line
feed, carriage return and tab are escaped by a backslash, and other code points
that are not printable by their hexadecimal number.
-/

namespace Stencil

namespace Text

/-- A number in lower-case hexadecimal digits, at least as many as given. -/
def hexadecimal (width : Nat) (number : Nat) : Text :=
  let digits := (Nat.toDigits 16 number).map CodePoint.ofChar
  List.replicate (width - digits.length) (CodePoint.ofChar '0') ++ digits

/-- The quote that surrounds the quoted form. -/
def quoteMark (text : Text) : CodePoint :=
  if text.contains (CodePoint.ofChar '\'') && !text.contains (CodePoint.ofChar '"') then '"'
  else '\''

/-- One code point of the quoted form. -/
def quotePoint (mark : CodePoint) (point : CodePoint) : Text :=
  if point = mark || point = '\\' then ['\\', point]
  else if point = '\n' then Text.of "\\n"
  else if point = '\r' then Text.of "\\r"
  else if point = '\t' then Text.of "\\t"
  else if point.isPrintable then [point]
  else if point.val < 0x100 then Text.of "\\x" ++ hexadecimal 2 point.val
  else if point.val < 0x10000 then Text.of "\\u" ++ hexadecimal 4 point.val
  else Text.of "\\U" ++ hexadecimal 8 point.val

/-- The text in quotes, with escapes. -/
def quoted (text : Text) : Text :=
  let mark := text.quoteMark
  mark :: text.flatMap (quotePoint mark) ++ [mark]

end Text

end Stencil
