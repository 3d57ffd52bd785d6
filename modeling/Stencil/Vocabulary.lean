import Stencil.Text.Word

/-!
# The vocabulary of templates

Which words are reserved, which words open and close blocks, and which
characters the lexemes of each lexical style are made of.
-/

namespace Stencil

/-- The texts of a list of words. -/
def words (list : List String) : List Text :=
  list.map Text.of

/-- Words that are no names of variables. -/
def keywords : List Text :=
  words ["if", "elif", "else", "case", "when", "for", "include", "let", "endif", "endcase",
    "endfor", "endlet", "in", "with", "_", ".", "true", "false"]

/-- The fields of a pragma. -/
def pragmaFields : List Text :=
  words ["pragma", "inline", "comment", "block"]

/-- The operators that expressions may have. -/
def operatorSymbols : List Text :=
  words ["!", "*", "/", "-", "+", "==", "!=", ">", ">=", "<", "<=", "&&", "||", "|"]

/-- Operators that stand before their operand, with their precedence. -/
def prefixOperators : List (Text × Nat) :=
  [(Text.of "!", 7)]

/-- Whether a symbol is an operator that stands before its operand. -/
def isPrefixOperator (symbol : Text) : Bool :=
  prefixOperators.any fun entry => entry.1 == symbol

/-- The blocks that a template may hold. -/
inductive Construct where
  /-- Conditions that are tried in order. -/
  | conditional
  /-- A value compared with patterns in order. -/
  | selection
  /-- A body for each item of a variable. -/
  | loop
  /-- A name for a value. -/
  | binding
  /-- Another template in place of the block. -/
  | inclusion
deriving DecidableEq, Repr

namespace Construct

/-- All constructs. -/
def all : List Construct :=
  [.conditional, .selection, .loop, .binding, .inclusion]

/-- The word that opens a construct. -/
def keyword : Construct → Text
  | .conditional => Text.of "if"
  | .selection => Text.of "case"
  | .loop => Text.of "for"
  | .binding => Text.of "let"
  | .inclusion => Text.of "include"

/-- The construct that a word opens. -/
def ofKeyword? (word : Text) : Option Construct :=
  all.find? fun construct => construct.keyword == word

end Construct

/-- Words that end the body of a block. -/
def terminators : List Text :=
  words ["elif", "else", "when", "endif", "endcase", "endfor", "endlet"]

/-- A lexical style: the characters of a class of lexemes and its reserved words. -/
structure Style where
  /-- What a lexeme of the style is called. -/
  name : Text
  /-- Characters that a lexeme may begin with. -/
  isStart : CodePoint → Bool
  /-- Characters that may follow. -/
  isRest : CodePoint → Bool
  /-- Lexemes with a meaning of their own. -/
  reserved : List Text

namespace Style

/-- The longest lexeme that a text begins with. -/
def lexeme? (style : Style) : Text → Option Text
  | [] => none
  | point :: rest =>
    if style.isStart point then some (point :: rest.takeWhile style.isRest) else none

/-- Whether a lexeme has a meaning of its own. -/
def isReserved (style : Style) (word : Text) : Bool :=
  style.reserved.contains word

/-- The style under another name. -/
def renamed (style : Style) (name : Text) : Style :=
  { style with name := name }

/-- Characters that operators begin with. -/
def isOperatorStart (point : CodePoint) : Bool :=
  (Text.of "-+!&|=><*/").contains point

/-- Characters that may follow in an operator. -/
def isOperatorRest (point : CodePoint) : Bool :=
  (Text.of "-+!&|=><").contains point

/-- Words among which the keywords are reserved. -/
def keyword : Style :=
  ⟨Text.of "keyword", CodePoint.isWordStart, CodePoint.isWordRest, keywords⟩

/-- Names of variables. -/
def identifier : Style :=
  keyword.renamed (Text.of "variable")

/-- Names of pragma fields. -/
def pragma : Style :=
  ⟨Text.of "pragma field", CodePoint.isWordStart, CodePoint.isWordRest, pragmaFields⟩

/-- Operators. -/
def operator : Style :=
  ⟨Text.of "operator", isOperatorStart, isOperatorRest, operatorSymbols⟩

end Style

end Stencil
