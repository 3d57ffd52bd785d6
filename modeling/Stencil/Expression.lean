import Stencil.Decimal.Reader
import Stencil.Decimal.Rounding
import Stencil.Diagnostic
import Stencil.Node
import Stencil.Operator

/-!
# Reading expressions

Expressions stand in regions of a template.  A rule reads from a cursor and
gives a value and the cursor behind it.  Every rule is given the number of rules
that may be open at the same time, itself included, and every loop the number of
turns it may take; both are only there to make the rules total, and reading a
template allows for more of both than it can need.

Before each step that could go on, a rule looks whether the closing delimiter of
the region follows, so that a delimiter made of operator characters ends the
expression.
-/

namespace Stencil

/-- What the grammar is read with. -/
structure Grammar where
  /-- The operators between operands. -/
  operators : OperatorTable
  /-- How deeply documents, parentheses and prefix operators may be nested. -/
  limit : Int
  /-- The order in which the kinds of regions are recognised. -/
  order : List Kind
  /-- How many turns a loop may take. -/
  turns : Nat

/-- A region of a template. -/
structure Region where
  /-- The grammar. -/
  grammar : Grammar
  /-- The closing delimiter. -/
  closing : Text

namespace Reading

/-- Stops with a diagnostic. -/
def fail (cause : Cause) (position : Position) : Except Halt α :=
  .error (.diagnosed ⟨cause, position⟩)

/-- Stops because a token stands where something else is expected. -/
def unexpected (expected : Expectation) (found : Token) : Except Halt α :=
  fail (.unexpected expected found) found.position

/-- The next token. -/
def token (cursor : Cursor) : Except Halt (Token × Cursor) :=
  match Token.scan cursor with
  | .ok scanned => .ok scanned
  | .error failure => fail (.lexical failure.fault) failure.position

/-- The next token, which has to be of a kind. -/
def expect
    (kind : Token.Kind)
    (expected : Expectation)
    (cursor : Cursor) : Except Halt (Token × Cursor) := do
  let (token, behind) ← token cursor
  if token.kind = kind then return (token, behind) else unexpected expected token

/-- The next token, which has to be an operator. -/
def expectOperator (symbol : Text) (cursor : Cursor) : Except Halt (Token × Cursor) := do
  let (token, behind) ← token cursor
  if token.isOperator symbol then return (token, behind)
  else unexpected (.literal symbol) token

/-- The value of a numeral. -/
def number (numeral : Text) : Except Halt Decimal :=
  match Numeral.value? numeral with
  | some value => .ok value
  | none => .error .unheldNumber

/-- The value of a numeral behind a minus sign. -/
def negative (numeral : Text) : Except Halt Decimal := do
  let value ← number numeral
  match value.negate? .working with
  | some negated => .ok negated
  | none => .error .overflow

/-- One more level of nesting at a place, if the limit allows it. -/
def nest (grammar : Grammar) (depth : Nat) (position : Position) : Except Halt Nat :=
  if grammar.limit < depth + 1 then fail (.nestedTooDeeply grammar.limit) position
  else .ok (depth + 1)

end Reading

namespace Region

open Reading

/-- Whether the closing delimiter follows. -/
def isDone (region : Region) (cursor : Cursor) : Bool :=
  cursor.sees region.closing

/-- Reads the closing delimiter. -/
def close (region : Region) (cursor : Cursor) : Except Halt (Unit × Cursor) :=
  let here := cursor.skipBlanks
  match here.consume? region.closing with
  | some behind => .ok ((), behind)
  | none => do
    let (token, _) ← token here
    unexpected (.literal region.closing) token

/-- Reads a given keyword. -/
def keyword (region : Region) (word : Text) (cursor : Cursor) : Except Halt (Token × Cursor) := do
  let (token, behind) ← token cursor
  if region.isDone cursor || !token.isWord word then unexpected (.literal word) token
  else return (token, behind)

/-- Reads a name that is no keyword. -/
def identifier (region : Region) : Nat → Cursor → Except Halt (Identifier × Cursor)
  | 0, _ => .error .exhausted
  | _ + 1, cursor => do
    let (token, behind) ← token cursor
    if token.kind ≠ .identifier || region.isDone cursor then unexpected .identifier token
    else if Style.identifier.isReserved token.value then
      fail (.reservedWord token.value) token.position
    else return (⟨token.position, token.value⟩, behind)

/-- Reads the names of a path behind its first one. -/
def pathRest
    (region : Region)
    (name : Cursor → Except Halt (Identifier × Cursor)) :
    Nat → Cursor → Except Halt ((List Identifier) × Cursor)
  | 0, _ => .error .exhausted
  | turns + 1, cursor =>
    if region.isDone cursor then .ok ([], cursor)
    else do
      let (token, behind) ← token cursor
      if token.kind = .dot then
        let (first, cursor) ← name behind
        let (others, cursor) ← pathRest region name turns cursor
        return (first :: others, cursor)
      else return ([], cursor)

/-- Reads a variable: names with dots between them. -/
def path (region : Region) : Nat → Cursor → Except Halt (Variable × Cursor)
  | 0, _ => .error .exhausted
  | calls + 1, cursor => do
    let (first, cursor) ← region.identifier calls cursor
    let (others, cursor) ←
      region.pathRest (region.identifier calls) region.grammar.turns cursor
    return (⟨first, others⟩, cursor)

/-- Whether a cursor stands before a digit. -/
def isBeforeDigit (cursor : Cursor) : Bool :=
  match cursor.rest with
  | [] => false
  | point :: _ => point.isDigit

/-- Reads a literal, if one follows.  A sign belongs to the number that it
touches. -/
def literal? : Nat → Cursor → Except Halt ((Option (Position × Literal)) × Cursor)
  | 0, _ => .error .exhausted
  | _ + 1, cursor => do
    let (token, behind) ← token cursor
    if token.isWord (Text.of "true") then
      return (some (token.position, .boolean true), behind)
    else if token.isWord (Text.of "false") then
      return (some (token.position, .boolean false), behind)
    else if token.kind = .number then
      let value ← number token.value
      return (some (token.position, .number value), behind)
    else if token.kind = .string then
      return (some (token.position, .text token.value), behind)
    else if token.isOperator (Text.of "-") && isBeforeDigit behind then
      let (numeral, behind) ← Reading.token behind
      let value ← negative numeral.value
      return (some (token.position, .number value), behind)
    else if token.isOperator (Text.of "+") && isBeforeDigit behind then
      let (numeral, behind) ← Reading.token behind
      let value ← number numeral.value
      return (some (token.position, .number value), behind)
    else return (none, cursor)

/-- Reads a pattern: a wildcard, a literal or a variable. -/
def pattern (region : Region) : Nat → Cursor → Except Halt (Pattern × Cursor)
  | 0, _ => .error .exhausted
  | calls + 1, cursor =>
    if region.isDone cursor then fail (.missing .pattern) cursor.position
    else do
      let (token, behind) ← token cursor
      if token.isWord (Text.of "_") then return (.wildcard, behind)
      else
        match ← literal? calls cursor with
        | (some (_, literal), behind) => return (.literal literal, behind)
        | (none, _) =>
          if token.kind = .identifier then
            let (path, behind) ← region.path calls cursor
            return (.path path, behind)
          else unexpected .pattern token

/-- Whether a token is an operator that binds more tightly than another. -/
def bindsTighter (region : Region) (operator : Operator) (token : Token) : Bool :=
  token.kind = .operator &&
    match region.grammar.operators.find? token.value with
    | some following => operator.precedence < following.precedence
    | none => false

/-- Reads the name of a filter behind its operator.  Nothing that would extend
the name to a longer operand may follow. -/
def filterName
    (region : Region)
    (operator : Operator)
    (symbol : Token) : Nat → Cursor → Except Halt (Text × Cursor)
  | 0, _ => .error .exhausted
  | _ + 1, cursor => do
    let (token, behind) ← token cursor
    if region.isDone cursor || token.kind ≠ .identifier then
      unexpected (.filterName symbol.value) token
    else if Style.identifier.isReserved token.value then
      fail (.reservedWord token.value) token.position
    else if region.isDone behind then return (token.value, behind)
    else
      let (following, _) ← Reading.token behind
      if following.kind = .dot || following.kind = .opening ||
          region.bindsTighter operator following then
        fail (.filterNotBare token.value following) following.position
      else return (token.value, behind)

/-- Reads operators of at least a precedence with their right operands, and
applies them to what stands on their left. -/
def operatorTail
    (region : Region)
    (filter : Operator → Token → Cursor → Except Halt (Text × Cursor))
    (operand : Int → Cursor → Except Halt (Node × Cursor))
    (least : Int) : Nat → Node → Cursor → Except Halt (Node × Cursor)
  | 0, _, _ => .error .exhausted
  | turns + 1, left, cursor =>
    if region.isDone cursor then .ok (left, cursor)
    else do
      let (token, behind) ← token cursor
      if token.kind ≠ .operator then return (left, cursor)
      else
        match region.grammar.operators.find? token.value with
        | none =>
          if operatorSymbols.contains token.value then
            fail (.notBinary token.value) token.position
          else fail (.unknownOperator token.value) token.position
        | some operator =>
          if operator.precedence < least then return (left, cursor)
          else
            match operator.role with
            | .filter =>
              let (name, cursor) ← filter operator token behind
              operatorTail region filter operand least turns
                (Node.call token.position name left) cursor
            | .binary =>
              let (right, cursor) ← operand operator.rightPrecedence behind
              operatorTail region filter operand least turns
                (Node.binary token.position operator.symbol left right) cursor

mutual

/-- Reads an expression whose operators have at least a precedence. -/
def expression (region : Region) : Nat → Nat → Int → Cursor → Except Halt (Node × Cursor)
  | 0, _, _, _ => .error .exhausted
  | calls + 1, depth, least, cursor => do
    let (left, cursor) ← unary region calls depth cursor
    region.operatorTail
      (fun operator symbol => region.filterName operator symbol calls)
      (fun least => expression region calls depth least)
      least region.grammar.turns left cursor

/-- Reads an operand with the operators before it. -/
def unary (region : Region) : Nat → Nat → Cursor → Except Halt (Node × Cursor)
  | 0, _, _ => .error .exhausted
  | calls + 1, depth, cursor =>
    if region.isDone cursor then atom region calls depth cursor
    else do
      let (token, behind) ← token cursor
      if token.kind = .operator && isPrefixOperator token.value then
        let depth ← nest region.grammar depth behind.position
        let (operand, cursor) ← unary region calls depth behind
        return (Node.call token.position token.value operand, cursor)
      else atom region calls depth cursor

/-- Reads an operand: an expression in parentheses, a literal or a variable. -/
def atom (region : Region) : Nat → Nat → Cursor → Except Halt (Node × Cursor)
  | 0, _, _ => .error .exhausted
  | calls + 1, depth, cursor =>
    if region.isDone cursor then fail (.missing .expression) cursor.position
    else do
      let (token, behind) ← token cursor
      if token.kind = .opening then
        let depth ← nest region.grammar depth behind.position
        let (inner, cursor) ← expression region calls depth 1 behind
        let (_, cursor) ← expect .closing (.literal (Text.of ")")) cursor
        return (inner, cursor)
      else
        match ← literal? calls cursor with
        | (some (position, literal), cursor) => return (.literal position literal, cursor)
        | (none, _) =>
          if token.kind = .identifier then
            let (path, cursor) ← region.path calls cursor
            return (.reference path.reference, cursor)
          else unexpected .expression token

end

end Region

end Stencil
