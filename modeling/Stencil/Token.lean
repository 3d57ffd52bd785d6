import Stencil.Position
import Stencil.Text.Quoted

/-!
# Tokens

A token is a lexeme of an expression or a run of document text, with the
position and index of its first code point.
-/

namespace Stencil

namespace Token

/-- The kinds of tokens. -/
inductive Kind where
  /-- Document text. -/
  | text
  /-- A word. -/
  | identifier
  /-- A numeral. -/
  | number
  /-- A string literal. -/
  | string
  /-- An operator. -/
  | operator
  /-- An opening parenthesis. -/
  | opening
  /-- A closing parenthesis. -/
  | closing
  /-- A full stop. -/
  | dot
  /-- A comma. -/
  | comma
  /-- A character that begins no other token. -/
  | unknown
  /-- The end of the text. -/
  | finish
deriving DecidableEq, Repr

/-- The label of a kind. -/
def Kind.label : Kind → Text
  | .text => Text.of "TEXT"
  | .identifier => Text.of "IDENTIFIER"
  | .number => Text.of "NUMBER"
  | .string => Text.of "STRING"
  | .operator => Text.of "OPERATOR"
  | .opening => Text.of "LPAREN"
  | .closing => Text.of "RPAREN"
  | .dot => Text.of "DOT"
  | .comma => Text.of "COMMA"
  | .unknown => Text.of "UNKNOWN"
  | .finish => Text.of "EOF"

/-- The kind of a single character that is no part of a longer lexeme. -/
def Kind.ofPunctuation (point : CodePoint) : Kind :=
  if point = '(' then .opening
  else if point = ')' then .closing
  else if point = '.' then .dot
  else if point = ',' then .comma
  else .unknown

end Token

/-- A lexeme with its place. -/
structure Token where
  /-- The kind. -/
  kind : Token.Kind
  /-- The lexeme, and for a string literal the text it denotes. -/
  value : Text
  /-- The position of the first code point. -/
  position : Position
  /-- The number of code points before the token. -/
  index : Nat
deriving DecidableEq, Repr

namespace Token

/-- How a diagnostic names a token. -/
def described (token : Token) : Text :=
  if token.kind = .finish then Text.of "end of input"
  else Text.of "'" ++ token.value ++ Text.of "'"

/-- The token as a listing shows it. -/
def toText (token : Token) : Text :=
  Text.of "Token(" ++ token.kind.label ++ Text.of ", " ++ token.value.quoted ++ Text.of ", " ++
    Text.ofNat token.position.line ++ Text.of ":" ++ Text.ofNat token.position.column ++
    Text.of ")"

/-- Whether the token is a given word. -/
def isWord (token : Token) (word : Text) : Bool :=
  token.kind = .identifier && token.value == word

/-- Whether the token is a given operator. -/
def isOperator (token : Token) (symbol : Text) : Bool :=
  token.kind = .operator && token.value == symbol

end Token

end Stencil
