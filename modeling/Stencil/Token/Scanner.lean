import Stencil.Cursor
import Stencil.Token
import Stencil.Vocabulary

/-!
# Scanning tokens

A token is scanned behind the blanks that precede it.  Words, operators and
numerals are as long as they can be; a numeral must not touch a word character,
a full stop or an apostrophe.  A string literal stands in double quotes on one
line and may hold escapes.
-/

namespace Stencil

namespace Token

/-- Why no token can be scanned. -/
inductive Fault where
  /-- A numeral runs into other characters. -/
  | malformedNumber (lexeme : Text)
  /-- A string literal is not closed on its line. -/
  | unterminatedString
  /-- A backslash is followed by no known escape. -/
  | invalidEscape (escape : Text)
deriving DecidableEq, Repr

/-- The wording of a fault. -/
def Fault.message : Fault → Text
  | .malformedNumber lexeme => Text.of "Malformed number literal '" ++ lexeme ++ Text.of "'"
  | .unterminatedString => Text.of "Unterminated string literal"
  | .invalidEscape escape => Text.of "Invalid escape sequence '\\" ++ escape ++ Text.of "'"

/-- A fault with the position of the token in which it lies. -/
structure Failure where
  /-- The fault. -/
  fault : Fault
  /-- The position of the token's first code point. -/
  position : Position
deriving DecidableEq, Repr

end Token

namespace Numeral

/-- A point and the digits behind it, or nothing. -/
def fraction : Text → Text
  | [] => []
  | point :: rest =>
    let digits := rest.takeWhile CodePoint.isDigit
    if point = '.' && !digits.isEmpty then point :: digits else []

/-- A plus or minus sign, or nothing. -/
def sign : Text → Text
  | [] => []
  | point :: _ => if point = '+' || point = '-' then [point] else []

/-- The mark, the sign and the digits of an exponent, or nothing. -/
def exponent : Text → Text
  | [] => []
  | mark :: rest =>
    if mark = 'e' || mark = 'E' then
      let digits := (rest.drop (sign rest).length).takeWhile CodePoint.isDigit
      if digits.isEmpty then [] else mark :: sign rest ++ digits
    else []

/-- The longest decimal numeral that a text begins with. -/
def decimal (text : Text) : Text :=
  let whole := text.takeWhile CodePoint.isDigit
  let behind := text.drop whole.length
  let places := fraction behind
  whole ++ places ++ exponent (behind.drop places.length)

/-- The longest numeral that a text begins with.  A mark of another base without
a digit of that base belongs to no numeral. -/
def lexeme : Text → Text
  | zero :: mark :: rest =>
    let hexadecimal := rest.takeWhile CodePoint.isHexDigit
    let octal := rest.takeWhile CodePoint.isOctalDigit
    if zero = '0' && (mark = 'x' || mark = 'X') && !hexadecimal.isEmpty then
      zero :: mark :: hexadecimal
    else if zero = '0' && (mark = 'o' || mark = 'O') && !octal.isEmpty then
      zero :: mark :: octal
    else decimal (zero :: mark :: rest)
  | text => decimal text

/-- Characters that a numeral must not touch. -/
def isTail (point : CodePoint) : Bool :=
  point.isWordRest || point = '.'

end Numeral

namespace StringLiteral

/-- What a backslash and one more character denote. -/
def simpleEscape (mark : CodePoint) : Option CodePoint :=
  if mark = '\\' then some '\\'
  else if mark = '"' then some '"'
  else if mark = '\'' then some '\''
  else if mark = 'n' then some '\n'
  else if mark = 't' then some '\t'
  else if mark = 'r' then some '\r'
  else if mark = '0' then some '\x00'
  else if mark = 'a' then some '\x07'
  else if mark = 'b' then some '\x08'
  else if mark = 'f' then some '\x0c'
  else if mark = 'v' then some '\x0b'
  else none

/-- The code point of some hexadecimal digits. -/
def hexPoint (digits : Text) : CodePoint :=
  Fin.ofNat 0x110000 (Text.value 16 digits)

/-- The text that a literal denotes and the number of code points up to and
including the closing quote, read behind the opening quote. -/
def read : Text → Except Token.Fault (Text × Nat)
  | [] => .error .unterminatedString
  | point :: rest =>
    if point = '\n' then .error .unterminatedString
    else if point = '"' then .ok ([], 1)
    else if point = '\\' then
      match rest with
      | [] => .error (.invalidEscape [])
      | mark :: behind =>
        match simpleEscape mark with
        | some denoted => (read behind).map fun (text, count) => (denoted :: text, count + 2)
        | none =>
          if mark = 'x' then
            match behind with
            | first :: second :: more =>
              if [first, second].all CodePoint.isHexDigit then
                (read more).map fun (text, count) =>
                  (hexPoint [first, second] :: text, count + 4)
              else .error (.invalidEscape [mark, first, second])
            | short => .error (.invalidEscape (mark :: short))
          else if mark = 'u' then
            match behind with
            | first :: second :: third :: fourth :: more =>
              if [first, second, third, fourth].all CodePoint.isHexDigit then
                (read more).map fun (text, count) =>
                  (hexPoint [first, second, third, fourth] :: text, count + 6)
              else .error (.invalidEscape [mark, first, second, third, fourth])
            | short => .error (.invalidEscape (mark :: short))
          else .error (.invalidEscape [mark])
    else (read rest).map fun (text, count) => (point :: text, count + 1)

end StringLiteral

namespace Token

/-- The token of a kind and value at a cursor. -/
def located (cursor : Cursor) (kind : Kind) (value : Text) : Token :=
  ⟨kind, value, cursor.position, cursor.index⟩

/-- A token whose value is its lexeme, and the cursor behind it. -/
def take (cursor : Cursor) (kind : Kind) (lexeme : Text) : Token × Cursor :=
  (located cursor kind lexeme, cursor.forward lexeme.length)

/-- Scans a numeral at a digit. -/
def scanNumber (cursor : Cursor) : Except Failure (Token × Cursor) :=
  let lexeme := Numeral.lexeme cursor.rest
  let tail := (cursor.rest.drop lexeme.length).takeWhile Numeral.isTail
  if tail.isEmpty then .ok (take cursor .number lexeme)
  else .error ⟨.malformedNumber (lexeme ++ tail), cursor.position⟩

/-- Scans a string literal at its opening quote. -/
def scanString (cursor : Cursor) : Except Failure (Token × Cursor) :=
  match StringLiteral.read (cursor.rest.drop 1) with
  | .ok (text, count) => .ok (located cursor .string text, cursor.forward (count + 1))
  | .error fault => .error ⟨fault, cursor.position⟩

/-- Scans the token that begins at a cursor. -/
def scanHere (cursor : Cursor) : Except Failure (Token × Cursor) :=
  match cursor.rest with
  | [] => .ok (take cursor .finish [])
  | point :: _ =>
    if point.isDigit then scanNumber cursor
    else if point = '"' then scanString cursor
    else
      match Style.identifier.lexeme? cursor.rest with
      | some word => .ok (take cursor .identifier word)
      | none =>
        match Style.operator.lexeme? cursor.rest with
        | some symbol => .ok (take cursor .operator symbol)
        | none => .ok (take cursor (Kind.ofPunctuation point) [point])

/-- Scans the next token, behind the blanks before it. -/
def scan (cursor : Cursor) : Except Failure (Token × Cursor) :=
  scanHere cursor.skipBlanks

/-- Scans at most a number of tokens, up to the end of the text. -/
def scanAll : Nat → Cursor → Except Failure (List Token)
  | 0, _ => .ok []
  | bound + 1, cursor => do
    let (token, behind) ← scan cursor
    if token.kind = .finish then return [token]
    else
      let others ← scanAll bound behind
      return token :: others

/-- The tokens of an expression text, the end of the text included. -/
def list (name text : Text) : Except Failure (List Token) :=
  scanAll (text.length + 1) (Cursor.start name text)

end Token

end Stencil
