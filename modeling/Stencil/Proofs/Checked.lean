import Stencil.Proofs.Filter
import Stencil.Proofs.Session

/-!
# Reading with checks

A second reader of templates, which keeps one state and changes it in place: a session
that remembers the token looked at last, the closing delimiter of the region that is
open, and how deeply it is nested.  Wherever it relies on something that it does not
look at again, it checks it, and stops with the name of the check where it fails.

The rules are those of `Stencil.Expression`, with the same allowances for open rules and
for turns of loops.  This module has the state, the steps on the session and the rules of
expressions.
-/

namespace Stencil

namespace Numeral

/-- A zero, the mark of a base and digits of that base. -/
def based? (isMark isDigit : CodePoint → Bool) : Text → Option Text
  | zero :: mark :: rest =>
    let digits := rest.takeWhile isDigit
    if zero = '0' && isMark mark && !digits.isEmpty then some (zero :: mark :: digits) else none
  | _ => none

/-- A decimal numeral, which begins with a digit. -/
def decimal? (text : Text) : Option Text :=
  if (text.takeWhile CodePoint.isDigit).isEmpty then none else some (decimal text)

/-- The first of the three forms of numerals that a text begins with. -/
def form? (text : Text) : Option Text :=
  (based? (fun mark => mark = 'x' || mark = 'X') CodePoint.isHexDigit text).or
    ((based? (fun mark => mark = 'o' || mark = 'O') CodePoint.isOctalDigit text).or
      (decimal? text))

end Numeral

namespace Checked

/-- What a reader relies on. -/
inductive Assertion where
  /-- A token that is read has been looked at. -/
  | lookahead
  /-- A numeral begins at a digit. -/
  | numeral
  /-- A numeral stands behind a sign that touches a digit. -/
  | signedNumber
  /-- A tag that is opened has the word that was looked at. -/
  | keyword
  /-- A word that opens a block has a rule. -/
  | dispatch
  /-- A region that is closed is open. -/
  | openRegion
  /-- A word that is looked for is a keyword. -/
  | reserved
deriving DecidableEq, Repr

/-- Why a reader stops without a result. -/
inductive Stop where
  /-- It stops as any reader does. -/
  | halted (halt : Halt)
  /-- Something that it relies on does not hold. -/
  | violated (assertion : Assertion)
deriving Repr

/-- The stop at a token that cannot be scanned. -/
def Stop.lexical (failure : Token.Failure) : Stop :=
  .halted (.diagnosed ⟨.lexical failure.fault, failure.position⟩)

/-- The state of a reader. -/
structure State where
  /-- The session, which holds the cursor. -/
  session : Session
  /-- The delimiters that are active. -/
  delimiters : Delimiters
  /-- The includes met so far. -/
  includes : Includes
  /-- The journal, the latest event first. -/
  journal : List Event
  /-- The closing delimiter of the open region. -/
  regionEnd : Option Text
  /-- How many documents, parentheses and prefix operators are open. -/
  depth : Nat

/-- A rule that changes the state of a reader. -/
abbrev Rule (α : Type) := EStateM Stop State α

namespace State

/-- The state at another cursor, with no token known. -/
def moved (state : State) (cursor : Cursor) : State :=
  { state with session := state.session.moved cursor }

/-- The state in which the next token is known. -/
def knowing (state : State) (token : Token) (behind : Cursor) : State :=
  { state with session := { state.session with lookahead := some (token, behind) } }

/-- What a document shows of a state. -/
def view (state : State) : Document.State :=
  ⟨state.session.cursor, state.delimiters, state.includes, state.journal⟩

/-- Whether the closing delimiter of the open region follows. -/
def isAtRegionEnd (state : State) : Bool :=
  match state.regionEnd with
  | some closing => state.session.cursor.sees closing
  | none => false

/-- Whether a digit stands right behind the first character of a token. -/
def touchesDigit (state : State) (token : Token) : Bool :=
  (state.session.pointAt (token.index + 1)).any CodePoint.isDigit

end State

/-! ## Steps -/

/-- Stops because something does not hold that the reader relies on. -/
def violate (assertion : Assertion) : Rule α :=
  throw (.violated assertion)

/-- Checks what the reader relies on. -/
def check (holds : Bool) (assertion : Assertion) : Rule Unit :=
  if holds then pure () else violate assertion

/-- Stops because the allowance is used up. -/
def exhausted : Rule α :=
  throw (.halted .exhausted)

/-- Stops with a diagnostic. -/
def fail (cause : Cause) (position : Position) : Rule α :=
  throw (.halted (.diagnosed ⟨cause, position⟩))

/-- Stops because a token stands where something else is expected. -/
def unexpected (expected : Expectation) (found : Token) : Rule α :=
  fail (.unexpected expected found) found.position

/-- The value of a computation, or its halt. -/
def lift : Except Halt α → Rule α
  | .ok value => pure value
  | .error halt => throw (.halted halt)

/-- Moves the cursor, which makes the session forget the next token. -/
def move (cursor : Cursor) : Rule Unit :=
  modify fun state => state.moved cursor

/-- Scans a numeral at a digit; some form of numerals has to begin there. -/
def scanNumber (cursor : Cursor) : Except Stop (Token × Cursor) :=
  match Numeral.form? cursor.rest with
  | none => .error (.violated .numeral)
  | some lexeme =>
    let tail := (cursor.rest.drop lexeme.length).takeWhile Numeral.isTail
    if tail.isEmpty then .ok (Token.take cursor .number lexeme)
    else .error (.lexical ⟨.malformedNumber (lexeme ++ tail), cursor.position⟩)

/-- Scans the next token, behind the blanks before it. -/
def scan (cursor : Cursor) : Except Stop (Token × Cursor) :=
  let here := cursor.skipBlanks
  if Region.isBeforeDigit here then scanNumber here
  else (Token.scanHere here).mapError .lexical

/-- Looks at the next token.  It is scanned unless the session remembers it. -/
def peek : Rule Token := fun state =>
  match state.session.lookahead with
  | some (token, _) => .ok token state
  | none =>
    match scan state.session.cursor with
    | .ok (token, behind) => .ok token (state.knowing token behind)
    | .error stop => .error stop (state.moved state.session.cursor.skipBlanks)

/-- Reads the next token: looks at it and goes behind it. -/
def advance : Rule Token := do
  let token ← peek
  match (← get).session.lookahead with
  | some (_, behind) =>
    move behind
    return token
  | none => violate .lookahead

/-- Reads a literal if the unread text begins with it, and tells whether it does. -/
def consume (literal : Text) : Rule Bool := do
  match (← get).session.cursor.consume? literal with
  | some behind =>
    move behind
    return true
  | none => return false

/-- Passes the blanks that follow; where there are none, the session still knows the next
token. -/
def skipBlanks : Rule Unit := do
  let cursor := (← get).session.cursor
  if cursor.skipBlanks.index = cursor.index then return else move cursor.skipBlanks

/-- Opens one more level of nesting, if the limit allows it. -/
def enter (grammar : Grammar) : Rule Unit := do
  let state ← get
  if grammar.limit < state.depth + 1 then
    fail (.nestedTooDeeply grammar.limit) state.session.cursor.position
  else set { state with depth := state.depth + 1 }

/-- Runs a rule and leaves the level of nesting behind it, also where it stops. -/
def leaving (rule : Rule α) : Rule α := fun state =>
  match rule state with
  | .ok value after => .ok value { after with depth := after.depth - 1 }
  | .error stop after => .error stop { after with depth := after.depth - 1 }

/-- Runs a rule one level deeper. -/
def nested (grammar : Grammar) (rule : Rule α) : Rule α := do
  enter grammar
  leaving rule

/-! ## Tokens in a region -/

/-- The next token, which has to be of a kind. -/
def expect (kind : Token.Kind) (expected : Expectation) : Rule Token := do
  let token ← peek
  if token.kind = kind then advance else unexpected expected token

/-- The next token, which has to be an operator. -/
def expectOperator (symbol : Text) : Rule Token := do
  let token ← peek
  if token.isOperator symbol then advance else unexpected (.literal symbol) token

/-- Whether the next token is a given keyword. -/
def peekIsKeyword (word : Text) : Rule Bool := do
  check (keywords.contains word) .reserved
  let token ← peek
  return token.isWord word

/-- The next token, which has to be a given keyword. -/
def expectKeyword (word : Text) : Rule Token := do
  let token ← peek
  if (← get).isAtRegionEnd then unexpected (.literal word) token
  else if ← peekIsKeyword word then advance
  else unexpected (.literal word) token

/-- Reads a literal behind blanks. -/
def expectLiteral (literal : Text) (expected : Expectation) : Rule Unit := do
  skipBlanks
  if ← consume literal then return
  else
    let token ← peek
    unexpected expected token

/-- Reads the closing delimiter of the region, which has to be open. -/
def closeRegion : Rule Unit := do
  match (← get).regionEnd with
  | none => violate .openRegion
  | some closing =>
    expectLiteral closing (.literal closing)
    modify fun state => { state with regionEnd := none }

/-! ## Expressions -/

/-- Reads a name that is no keyword. -/
def identifier : Nat → Rule Identifier
  | 0 => exhausted
  | _ + 1 => do
    let token ← peek
    let state ← get
    if token.kind ≠ .identifier || state.isAtRegionEnd then unexpected .identifier token
    else if Style.identifier.isReserved token.value then
      fail (.reservedWord token.value) token.position
    else
      let _ ← advance
      return ⟨token.position, token.value⟩

/-- Reads the names of a path behind its first one. -/
def pathRest (name : Rule Identifier) : Nat → Rule (List Identifier)
  | 0 => exhausted
  | turns + 1 => do
    let state ← get
    if state.isAtRegionEnd then return []
    else
      let token ← peek
      if token.kind = .dot then
        let _ ← advance
        let first ← name
        let others ← pathRest name turns
        return first :: others
      else return []

/-- Reads a variable: names with dots between them. -/
def path (grammar : Grammar) : Nat → Rule Variable
  | 0 => exhausted
  | calls + 1 => do
    let first ← identifier calls
    let others ← pathRest (identifier calls) grammar.turns
    return ⟨first, others⟩

/-- Reads a sign and the numeral that it touches. -/
def signedNumber (value : Text → Except Halt Decimal) : Rule Decimal := do
  let _ ← advance
  let numeral ← advance
  check (numeral.kind = .number) .signedNumber
  lift (value numeral.value)

/-- Reads a literal, if one follows. -/
def literal? : Nat → Rule (Option (Position × Literal))
  | 0 => exhausted
  | _ + 1 => do
    let token ← peek
    let state ← get
    if token.isWord (Text.of "true") then
      let _ ← advance
      return some (token.position, .boolean true)
    else if token.isWord (Text.of "false") then
      let _ ← advance
      return some (token.position, .boolean false)
    else if token.kind = .number then
      let _ ← advance
      let value ← lift (Reading.number token.value)
      return some (token.position, .number value)
    else if token.kind = .string then
      let _ ← advance
      return some (token.position, .text token.value)
    else if token.isOperator (Text.of "-") && state.touchesDigit token then
      let value ← signedNumber Reading.negative
      return some (token.position, .number value)
    else if token.isOperator (Text.of "+") && state.touchesDigit token then
      let value ← signedNumber Reading.number
      return some (token.position, .number value)
    else return none

/-- Reads a pattern: a wildcard, a literal or a variable. -/
def pattern (grammar : Grammar) : Nat → Rule Pattern
  | 0 => exhausted
  | calls + 1 => do
    let state ← get
    if state.isAtRegionEnd then fail (.missing .pattern) state.session.cursor.position
    else
      let token ← peek
      if token.isWord (Text.of "_") then
        let _ ← advance
        return .wildcard
      else
        match ← literal? calls with
        | some (_, literal) => return .literal literal
        | none =>
          if token.kind = .identifier then
            let variable' ← path grammar calls
            return .path variable'
          else unexpected .pattern token

/-- Whether a token is an operator that binds more tightly than another. -/
def bindsTighter (grammar : Grammar) (operator : Operator) (token : Token) : Bool :=
  token.kind = .operator &&
    match grammar.operators.find? token.value with
    | some following => operator.precedence < following.precedence
    | none => false

/-- Reads the name of a filter behind its operator. -/
def filterName (grammar : Grammar) (operator : Operator) (symbol : Token) : Nat → Rule Text
  | 0 => exhausted
  | _ + 1 => do
    let token ← peek
    let state ← get
    if state.isAtRegionEnd || token.kind ≠ .identifier then
      unexpected (.filterName symbol.value) token
    else if Style.identifier.isReserved token.value then
      fail (.reservedWord token.value) token.position
    else
      let _ ← advance
      let state ← get
      if state.isAtRegionEnd then return token.value
      else
        let following ← peek
        if following.kind = .dot || following.kind = .opening ||
            bindsTighter grammar operator following then
          fail (.filterNotBare token.value following) following.position
        else return token.value

/-- Reads operators of at least a precedence with their right operands. -/
def operatorTail
    (grammar : Grammar)
    (filter : Operator → Token → Rule Text)
    (operand : Int → Rule Node)
    (least : Int) : Nat → Node → Rule Node
  | 0, _ => exhausted
  | turns + 1, left => do
    let state ← get
    if state.isAtRegionEnd then return left
    else
      let token ← peek
      if token.kind ≠ .operator then return left
      else
        match grammar.operators.find? token.value with
        | none =>
          if operatorSymbols.contains token.value then
            fail (.notBinary token.value) token.position
          else fail (.unknownOperator token.value) token.position
        | some operator =>
          if operator.precedence < least then return left
          else
            let _ ← advance
            match operator.role with
            | .filter =>
              let name ← filter operator token
              operatorTail grammar filter operand least turns (Node.call token.position name left)
            | .binary =>
              let right ← operand operator.rightPrecedence
              operatorTail grammar filter operand least turns
                (Node.binary token.position operator.symbol left right)

mutual

/-- Reads an expression whose operators have at least a precedence. -/
def expression (grammar : Grammar) : Nat → Int → Rule Node
  | 0, _ => exhausted
  | calls + 1, least => do
    let left ← unary grammar calls
    operatorTail grammar
      (fun operator symbol => filterName grammar operator symbol calls)
      (fun least => expression grammar calls least)
      least grammar.turns left

/-- Reads an operand with the operators before it. -/
def unary (grammar : Grammar) : Nat → Rule Node
  | 0 => exhausted
  | calls + 1 => do
    let state ← get
    if state.isAtRegionEnd then atom grammar calls
    else
      let token ← peek
      if token.kind = .operator && isPrefixOperator token.value then
        let _ ← advance
        let operand ← nested grammar (unary grammar calls)
        return Node.call token.position token.value operand
      else atom grammar calls

/-- Reads an operand: an expression in parentheses, a literal or a variable. -/
def atom (grammar : Grammar) : Nat → Rule Node
  | 0 => exhausted
  | calls + 1 => do
    let state ← get
    if state.isAtRegionEnd then fail (.missing .expression) state.session.cursor.position
    else
      let token ← peek
      if token.kind = .opening then
        let _ ← advance
        let inner ← nested grammar (expression grammar calls 1)
        let _ ← expect .closing (.literal (Text.of ")"))
        return inner
      else
        match ← literal? calls with
        | some (position, literal) => return .literal position literal
        | none =>
          if token.kind = .identifier then
            let variable' ← path grammar calls
            return .reference variable'.reference
          else unexpected .expression token

end

end Checked

end Stencil
