import Stencil.Delimiters
import Stencil.Token.Scanner

/-!
# Diagnostics

A template that cannot be read has exactly one diagnostic: the cause that was
met first, with its position.  Causes are data; `Cause.message` has their
wording.
-/

namespace Stencil

/-- What the grammar asks for at a place. -/
inductive Expectation where
  /-- A given word, symbol or delimiter. -/
  | literal (text : Text)
  /-- A delimiter in quotes. -/
  | delimiterString
  /-- The name of a pragma field. -/
  | pragmaField
  /-- The key of an included template. -/
  | templateKey
  /-- The name of a filter behind an operator. -/
  | filterName (symbol : Text)
  /-- The sign between a bound name and its value. -/
  | bindingSign (name : Text)
  /-- An expression. -/
  | expression
  /-- A pattern. -/
  | pattern
  /-- A name. -/
  | identifier
deriving DecidableEq, Repr

namespace Expectation

/-- The text between apostrophes. -/
def inQuotes (text : Text) : Text :=
  Text.of "'" ++ text ++ Text.of "'"

/-- How a diagnostic names what was expected. -/
def described : Expectation → Text
  | .literal text => inQuotes text
  | .delimiterString => Text.of "delimiter string"
  | .pragmaField => Text.of "pragma field"
  | .templateKey => Text.of "template key string after 'include'"
  | .filterName symbol => Text.of "filter name after " ++ inQuotes symbol
  | .bindingSign name => Text.of "'=' after " ++ inQuotes name
  | .expression => Text.of "expression"
  | .pattern => Text.of "pattern"
  | .identifier => Text.of "identifier"

end Expectation

/-- Why a template cannot be read. -/
inductive Cause where
  /-- No token can be scanned. -/
  | lexical (fault : Token.Fault)
  /-- The source is no UTF-8 text. -/
  | invalidEncoding
  /-- A token stands where something else is expected. -/
  | unexpected (expected : Expectation) (found : Token)
  /-- The region ends where something is expected. -/
  | missing (expected : Expectation)
  /-- No word follows the opening delimiter of a tag. -/
  | missingBlockKeyword (opening : Text)
  /-- The word of a tag is unknown. -/
  | unknownBlockKeyword (keyword : Text)
  /-- A tag ends a body outside of any block. -/
  | unmatchedTerminator (block : Pair) (keyword : Option Text)
  /-- A block is not ended by its own tag; what stands there instead is the
  word of another tag, or nothing at the end of the source. -/
  | unterminatedBlock (construct : Construct) (opener : Position) (block : Pair)
      (terminator : Text) (found : Option (Option Text))
  /-- Text stands before the first alternative of a selection. -/
  | textBeforeAlternatives (block : Pair)
  /-- A comment is not closed. -/
  | unterminatedComment (closing : Text)
  /-- A pragma sets an unknown field. -/
  | unknownPragmaField (name : Text)
  /-- A pragma gives delimiters that are none. -/
  | invalidPragma (fault : Delimiters.Fault)
  /-- A known operator stands behind an operand but is not in the table. -/
  | notBinary (symbol : Text)
  /-- An operator is unknown. -/
  | unknownOperator (symbol : Text)
  /-- A filter is more than a name. -/
  | filterNotBare (name : Text) (following : Token)
  /-- A keyword stands where a name is expected. -/
  | reservedWord (word : Text)
  /-- Documents, parentheses and prefix operators are nested too deeply. -/
  | nestedTooDeeply (limit : Int)
deriving Repr

/-- The families of causes. -/
inductive Family where
  /-- The text has no tokens at a place. -/
  | lexical
  /-- The tokens do not follow the grammar. -/
  | grammatical
  /-- A keyword is used as a name. -/
  | reserved (word : Text)
deriving DecidableEq, Repr

namespace Cause

/-- The family of a cause. -/
def family : Cause → Family
  | .lexical _ => .lexical
  | .invalidEncoding => .lexical
  | .reservedWord word => .reserved word
  | _ => .grammatical

/-- A tag as a diagnostic shows it. -/
def tag (block : Pair) (keyword : Option Text) : Text :=
  Expectation.inQuotes
    (block.opening ++ Text.of " " ++ keyword.getD [] ++ Text.of " " ++ block.closing)

/-- The wording of a cause. -/
def message : Cause → Text
  | .lexical fault => fault.message
  | .invalidEncoding => Text.of "Source is not valid UTF-8"
  | .unexpected expected found =>
    Text.of "Expected " ++ expected.described ++ Text.of ", got " ++ found.described
  | .missing expected => Text.of "Expected " ++ expected.described
  | .missingBlockKeyword opening =>
    Text.of "Expected block keyword after " ++ Expectation.inQuotes opening
  | .unknownBlockKeyword keyword =>
    Text.of "Unknown block keyword " ++ Expectation.inQuotes keyword
  | .unmatchedTerminator block keyword =>
    Text.of "Unexpected " ++ tag block keyword ++ Text.of " without a matching opening block"
  | .unterminatedBlock construct opener block terminator found =>
    Text.of "Unterminated " ++ Expectation.inQuotes construct.keyword ++
      Text.of " block opened at " ++ opener.toText ++ Text.of ": expected " ++
      tag block (some terminator) ++ Text.of ", found " ++
      (match found with
        | none => Text.of "end of input"
        | some keyword => tag block keyword)
  | .textBeforeAlternatives block =>
    Text.of "Unexpected text after 'case', expected " ++ tag block (some (Text.of "when"))
  | .unterminatedComment closing =>
    Text.of "Unterminated comment: expected " ++ Expectation.inQuotes closing
  | .unknownPragmaField name =>
    Text.of "Unknown pragma field " ++ Expectation.inQuotes name ++
      Text.of ". Expected one of: " ++ Text.join (Text.of ", ") (Text.sorted pragmaFields)
  | .invalidPragma fault => Text.of "Invalid pragma: " ++ fault.message
  | .notBinary symbol =>
    Text.of "Operator " ++ Expectation.inQuotes symbol ++
      Text.of " cannot be used as an infix operator"
  | .unknownOperator symbol => Text.of "Unknown operator " ++ Expectation.inQuotes symbol
  | .filterNotBare name following =>
    Text.of "Filter " ++ Expectation.inQuotes name ++
      Text.of " must be a bare identifier, got " ++ following.described ++ Text.of " after it"
  | .reservedWord word =>
    Text.of "Reserved keyword " ++ Expectation.inQuotes word ++
      Text.of " cannot be used as an identifier"
  | .nestedTooDeeply limit =>
    Text.of "Template nested too deeply (limit " ++ Text.ofInt limit ++ Text.of ")"

end Cause

/-- A cause with its position. -/
structure Diagnostic where
  /-- Why the template cannot be read. -/
  cause : Cause
  /-- Where that was found. -/
  position : Position
deriving Repr

namespace Diagnostic

/-- The wording without the position. -/
def message (diagnostic : Diagnostic) : Text :=
  diagnostic.cause.message

/-- The wording with the position. -/
def toText (diagnostic : Diagnostic) : Text :=
  diagnostic.message ++ Text.of " at " ++ diagnostic.position.toText

end Diagnostic

/-- Why reading stops without a result. -/
inductive Halt where
  /-- The template is faulty. -/
  | diagnosed (diagnostic : Diagnostic)
  /-- The exponents of a numeral are out of range. -/
  | unheldNumber
  /-- A negated numeral is too large for the working format. -/
  | overflow
  /-- More rules are open, or more steps are taken, than were allowed for. -/
  | exhausted
  /-- What is read is not what was looked at before. -/
  | inconsistent
deriving Repr

end Stencil
