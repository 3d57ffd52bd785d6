import Stencil.Text

/-!
# Operator tables

The operators between operands are given by a table, which may be replaced.
An operator with a greater precedence binds more tightly.  A filter takes the
name of a function on its right instead of an operand.
-/

namespace Stencil

/-- How operators of one precedence group. -/
inductive Associativity where
  /-- From the left. -/
  | left
  /-- From the right. -/
  | right
deriving DecidableEq, Repr

namespace Associativity

/-- The word for an associativity. -/
def label : Associativity → Text
  | .left => Text.of "left"
  | .right => Text.of "right"

end Associativity

/-- What stands on the right of an operator. -/
inductive OperatorRole where
  /-- An operand. -/
  | binary
  /-- The name of a function that is applied to the left operand. -/
  | filter
deriving DecidableEq, Repr

namespace OperatorRole

/-- The word for a role. -/
def label : OperatorRole → Text
  | .binary => Text.of "infix"
  | .filter => Text.of "filter"

end OperatorRole

/-- An operator that stands behind its left operand. -/
structure Operator where
  /-- The lexeme. -/
  symbol : Text
  /-- How tightly it binds. -/
  precedence : Int
  /-- How it groups with operators of the same precedence. -/
  associativity : Associativity
  /-- What stands on its right. -/
  role : OperatorRole
deriving DecidableEq, Repr

namespace Operator

/-- A binary operator that groups from the left. -/
def leftBinary (symbol : String) (precedence : Int) : Operator :=
  ⟨Text.of symbol, precedence, .left, .binary⟩

/-- The least precedence that an operator on the right operand may have. -/
def rightPrecedence (operator : Operator) : Int :=
  match operator.associativity with
  | .left => operator.precedence + 1
  | .right => operator.precedence

end Operator

/-- Operators with different symbols. -/
abbrev OperatorTable := List Operator

namespace OperatorTable

/-- The operator of a symbol. -/
def find? (table : OperatorTable) (symbol : Text) : Option Operator :=
  List.find? (fun operator => operator.symbol == symbol) table

/-- The table with one operator added, or put in the place of the one with its
symbol. -/
def put (operator : Operator) : OperatorTable → OperatorTable
  | [] => [operator]
  | known :: rest =>
    if known.symbol == operator.symbol then operator :: rest else known :: put operator rest

/-- The table with other operators laid over it. -/
def overlay (table others : OperatorTable) : OperatorTable :=
  others.foldl (fun table operator => put operator table) table

/-- The operators that templates have unless a table is given. -/
def standard : OperatorTable :=
  [⟨Text.of "|", 1, .left, .filter⟩, .leftBinary "||" 2, .leftBinary "&&" 3,
    .leftBinary "==" 4, .leftBinary "!=" 4, .leftBinary ">" 4, .leftBinary ">=" 4,
    .leftBinary "<" 4, .leftBinary "<=" 4, .leftBinary "-" 5, .leftBinary "+" 5,
    .leftBinary "*" 6, .leftBinary "/" 6]

end OperatorTable

end Stencil
