import Stencil.Expression
import Stencil.Journal

/-!
# Reading documents

A document is a sequence of text, inline expressions, comments, pragmas and
blocks.  Rules on documents change a state: where they stand, which delimiters
are active, which includes were met, and what was written to the journal.  When
a rule stops, the state is the one at that moment.
-/

namespace Stencil

/-- The keys of included templates in the order they were first met, each with
the positions of its tags in the order of the source. -/
abbrev Includes := List (Text × List Position)

/-- The includes with one more tag. -/
def Includes.register (key : Text) (position : Position) : Includes → Includes
  | [] => [(key, [position])]
  | (known, positions) :: rest =>
    if known == key then (known, positions ++ [position]) :: rest
    else (known, positions) :: Includes.register key position rest

namespace Document

/-- The state of reading a document. -/
structure State where
  /-- Where reading stands. -/
  cursor : Cursor
  /-- The delimiters that are active there. -/
  delimiters : Delimiters
  /-- The includes met so far. -/
  includes : Includes
  /-- The journal, the latest event first. -/
  journal : List Event

/-- A rule that reads a part of a document. -/
abbrev Rule (α : Type) := EStateM Halt State α

namespace Rule

/-- Stops with a diagnostic. -/
def fail (cause : Cause) (position : Position) : Rule α :=
  throw (.diagnosed ⟨cause, position⟩)

/-- Reads something at the cursor. -/
def reading (rule : Cursor → Except Halt (α × Cursor)) : Rule α := fun state =>
  match rule state.cursor with
  | .ok (value, cursor) => .ok value { state with cursor := cursor }
  | .error halt => .error halt state

/-- Writes an event to the journal. -/
def log (event : Event) : Rule Unit :=
  modify fun state => { state with journal := event :: state.journal }

/-- Moves the cursor. -/
def move (cursor : Cursor) : Rule Unit :=
  modify fun state => { state with cursor := cursor }

end Rule

open Rule

namespace State

/-- The kind of region that opens at the cursor, the first one in an order. -/
def kind? (state : State) (order : List Kind) : Option Kind :=
  order.find? fun kind => state.cursor.startsWith (state.delimiters.pair kind).opening

/-- The word of the tag at the cursor, if a tag with a word stands there. -/
def tagKeyword? (state : State) : Option Text :=
  match state.cursor.consume? state.delimiters.block.opening with
  | none => none
  | some behind =>
    match Token.scan behind with
    | .ok (token, _) => if token.kind = .identifier then some token.value else none
    | .error _ => none

/-- Whether a tag with a given word stands at the cursor. -/
def isAtTag (state : State) (order : List Kind) (keyword : Text) : Bool :=
  state.kind? order = some .block && state.tagKeyword? == some keyword

/-- The text before the next region, and the cursor behind it. -/
def textRun (state : State) (order : List Kind) : Text × Cursor :=
  state.cursor.readBefore (state.delimiters.openings order)

/-- The region of a tag that is open. -/
def tagRegion (state : State) (grammar : Grammar) : Region :=
  ⟨grammar, state.delimiters.block.closing⟩

end State

/-- Reads the opening delimiter and the word of a tag, and gives the position of
the delimiter.  The tag has been looked at before, so it is there. -/
def openTag (keyword : Text) : Rule Position := do
  let state ← get
  let position := state.cursor.position
  match state.cursor.consume? state.delimiters.block.opening with
  | none => throw .inconsistent
  | some behind =>
    move behind
    let token ← reading Reading.token
    if token.isWord keyword then
      log (.opened keyword position)
      return position
    else throw .inconsistent

/-- Reads the closing delimiter of a tag. -/
def closeTag (grammar : Grammar) : Rule Unit := do
  let state ← get
  reading (state.tagRegion grammar).close

/-- Reads an expression and the closing delimiter of its tag. -/
def expressionTag (grammar : Grammar) (calls depth : Nat) : Rule Node := do
  let state ← get
  let node ← reading ((state.tagRegion grammar).expression calls depth 1)
  closeTag grammar
  return node

/-- Reads the tag that ends a block. -/
def expectTerminator
    (grammar : Grammar)
    (terminator : Text)
    (construct : Construct)
    (opener : Position) : Rule Unit := do
  let state ← get
  if state.isAtTag grammar.order terminator then
    let _ ← openTag terminator
    closeTag grammar
  else
    let found := if state.cursor.isAtEnd then none else some state.tagKeyword?
    fail (.unterminatedBlock construct opener state.delimiters.block terminator found)
      state.cursor.position

/-- Reads an inline expression. -/
def insertion (grammar : Grammar) (depth : Nat) : Nat → Rule Node
  | 0 => throw .exhausted
  | calls + 1 => do
    let state ← get
    let pair := state.delimiters.inline
    let region : Region := ⟨grammar, pair.closing⟩
    move (state.cursor.forward pair.opening.length)
    let node ← reading (region.expression calls depth 1)
    reading region.close
    return node

/-- Reads a comment. -/
def comment : Rule Unit := do
  let state ← get
  let pair := state.delimiters.comment
  match (state.cursor.forward pair.opening.length).readThrough? pair.closing with
  | some (_, behind) => move behind
  | none => fail (.unterminatedComment pair.closing) state.cursor.position

/-- Changes of delimiters with one more; a kind that is changed again keeps its
place. -/
def putChange (kind : Kind) (value : Value) : List (Kind × Value) → List (Kind × Value)
  | [] => [(kind, value)]
  | (known, old) :: rest =>
    if known = kind then (kind, value) :: rest else (known, old) :: putChange kind value rest

/-- Reads one field of a pragma: a kind and a pair of delimiters in quotes. -/
def pragmaField (region : Region) (cursor : Cursor) : Except Halt ((Kind × Value) × Cursor) := do
  let (token, behind) ← Reading.token cursor
  if token.kind ≠ .identifier || region.isDone cursor then
    Reading.unexpected .pragmaField token
  else
    match Kind.ofName? token.value with
    | none => Reading.fail (.unknownPragmaField token.value) token.position
    | some kind =>
      let (_, cursor) ← Reading.expectOperator (Text.of "=") behind
      let (_, cursor) ← Reading.expect .opening (.literal (Text.of "(")) cursor
      let (opening, cursor) ← Reading.expect .string .delimiterString cursor
      let (_, cursor) ← Reading.expect .comma (.literal (Text.of ",")) cursor
      let (closing, cursor) ← Reading.expect .string .delimiterString cursor
      let (_, cursor) ← Reading.expect .closing (.literal (Text.of ")")) cursor
      return ((kind, .tuple [.text opening.value, .text closing.value]), cursor)

/-- Reads the fields of a pragma, with commas between them. -/
def pragmaChanges
    (region : Region) :
    Nat → List (Kind × Value) → Cursor → Except Halt ((List (Kind × Value)) × Cursor)
  | 0, _, _ => .error .exhausted
  | turns + 1, changes, cursor => do
    let ((kind, value), cursor) ← pragmaField region cursor
    let changes := putChange kind value changes
    if region.isDone cursor then return (changes, cursor)
    else
      let (_, cursor) ← Reading.expect .comma (.literal (Text.of ",")) cursor
      pragmaChanges region turns changes cursor

/-- Makes other delimiters active. -/
def activate (delimiters : Delimiters) : Rule Unit :=
  modify fun state => { state with
    delimiters := delimiters
    journal := delimiters.warnings.reverse ++ state.journal }

/-- Reads a pragma, which changes the active delimiters or stops. -/
def pragma (grammar : Grammar) : Nat → Rule Unit
  | 0 => throw .exhausted
  | _ + 1 => do
    let state ← get
    let position := state.cursor.position
    let pair := state.delimiters.pragma
    let region : Region := ⟨grammar, pair.closing⟩
    move (state.cursor.forward pair.opening.length)
    let changes ← reading (pragmaChanges region grammar.turns [])
    reading region.close
    match state.delimiters.change changes with
    | .ok delimiters =>
      activate delimiters
      log (.switched position changes)
    | .error fault => fail (.invalidPragma fault) position

/-- Passes blank text and comments between the tag of a selection and its first
alternative. -/
def skipToAlternatives (grammar : Grammar) : Nat → Rule Unit
  | 0 => throw .exhausted
  | turns + 1 => do
    let state ← get
    if state.cursor.isAtEnd then return
    else
      match state.kind? grammar.order with
      | some .comment =>
        comment
        skipToAlternatives grammar turns
      | none =>
        let (run, behind) := state.textRun grammar.order
        if run.isBlank then
          move behind
          skipToAlternatives grammar turns
        else fail (.textBeforeAlternatives state.delimiters.block) state.cursor.position
      | some _ => return

/-- Reads the further conditions of a conditional with their bodies. -/
def furtherBranches
    (grammar : Grammar)
    (condition body : Rule Node) : Nat → Rule (List (Node × Node))
  | 0 => throw .exhausted
  | turns + 1 => do
    let state ← get
    if state.isAtTag grammar.order (Text.of "elif") then
      let _ ← openTag (Text.of "elif")
      let test ← condition
      let result ← body
      let others ← furtherBranches grammar condition body turns
      return (test, result) :: others
    else return []

/-- Reads a conditional. -/
def conditional
    (grammar : Grammar)
    (condition body : Rule Node)
    (otherwise : Rule (Option Node)) : Rule Node := do
  let opener ← openTag (Text.of "if")
  let test ← condition
  let result ← body
  let others ← furtherBranches grammar condition body grammar.turns
  let default ← otherwise
  expectTerminator grammar (Text.of "endif") .conditional opener
  return Node.conditional ((test, result) :: others) default

/-- Reads the alternatives of a selection. -/
def alternatives
    (grammar : Grammar)
    (pattern : Rule Pattern)
    (body : Rule Node) : Nat → Rule (List (Pattern × Node))
  | 0 => throw .exhausted
  | turns + 1 => do
    let state ← get
    if state.isAtTag grammar.order (Text.of "when") then
      let _ ← openTag (Text.of "when")
      let pattern' ← pattern
      let result ← body
      let others ← alternatives grammar pattern body turns
      return (pattern', result) :: others
    else return []

/-- Reads a pattern and the closing delimiter of its tag. -/
def patternTag (grammar : Grammar) (calls : Nat) : Rule Pattern := do
  let state ← get
  let pattern ← reading ((state.tagRegion grammar).pattern calls)
  closeTag grammar
  return pattern

/-- Reads a selection. -/
def selection
    (grammar : Grammar)
    (scrutinee : Rule Node)
    (pattern : Rule Pattern)
    (body : Rule Node)
    (otherwise : Rule (Option Node)) : Rule Node := do
  let opener ← openTag (Text.of "case")
  let subject ← scrutinee
  skipToAlternatives grammar grammar.turns
  let cases ← alternatives grammar pattern body grammar.turns
  let default ← otherwise
  expectTerminator grammar (Text.of "endcase") .selection opener
  return Node.selected subject cases default

/-- Reads a loop. -/
def loop
    (grammar : Grammar)
    (calls : Nat)
    (body : Rule Node)
    (otherwise : Rule (Option Node)) : Rule Node := do
  let opener ← openTag (Text.of "for")
  let region := (← get).tagRegion grammar
  let item ← reading (region.identifier calls)
  let _ ← reading (region.keyword (Text.of "in"))
  let source ← reading (region.path calls)
  closeTag grammar
  let result ← body
  let default ← otherwise
  expectTerminator grammar (Text.of "endfor") .loop opener
  return .loop opener item source.reference result default

/-- Reads the sign between a bound name and its value.  A second such sign right
behind it would make it a comparison. -/
def bindingSign (name : Text) (cursor : Cursor) : Except Halt (Unit × Cursor) :=
  let here := cursor.skipBlanks
  match if here.startsWith (Text.of "==") then none else here.consume? (Text.of "=") with
  | some behind => .ok ((), behind)
  | none => do
    let (token, _) ← Reading.token here
    Reading.unexpected (.bindingSign name) token

/-- Reads the binding of a name. -/
def binding
    (grammar : Grammar)
    (calls : Nat)
    (value body : Rule Node) : Rule Node := do
  let opener ← openTag (Text.of "let")
  let region := (← get).tagRegion grammar
  let name ← reading (region.identifier calls)
  reading (bindingSign name.name)
  let bound ← value
  let result ← body
  expectTerminator grammar (Text.of "endlet") .binding opener
  return .binding opener name bound result

/-- Reads the key of an included template. -/
def inclusionKey (region : Region) (cursor : Cursor) : Except Halt (Text × Cursor) := do
  let (token, behind) ← Reading.token cursor
  if token.kind ≠ .string || region.isDone cursor then
    Reading.unexpected .templateKey token
  else return (token.value, behind)

/-- Reads the word before the context of an included template, if it follows. -/
def withContext (region : Region) (cursor : Cursor) : Except Halt (Bool × Cursor) :=
  if region.isDone cursor then .ok (false, cursor)
  else do
    let (token, behind) ← Reading.token cursor
    if token.isWord (Text.of "with") then return (true, behind) else return (false, cursor)

/-- Registers an include. -/
def register (key : Text) (position : Position) : Rule Unit :=
  modify fun state => { state with
    includes := state.includes.register key position
    journal := .registered key position :: state.journal }

/-- Reads an include. -/
def inclusion (grammar : Grammar) (context : Rule Node) : Rule Node := do
  let opener ← openTag (Text.of "include")
  let region := (← get).tagRegion grammar
  let key ← reading (inclusionKey region)
  register key opener
  if ← reading (withContext region) then
    let value ← context
    return .inclusion opener key (some value)
  else
    closeTag grammar
    return .inclusion opener key none

/-- Parts, the latest first, with more text; text behind text is one part. -/
def appendText (position : Position) (run : Text) : List Node → List Node
  | .text start content :: parts => .text start (content ++ run) :: parts
  | parts => .text position run :: parts

/-- Reads the parts of a document, up to the end of the source or to a tag that
ends the body of a block.  The parts read so far are given with the latest
first. -/
def collectParts
    (grammar : Grammar)
    (inline : Rule Node)
    (switch : Rule Unit)
    (block : Construct → Rule Node) : Nat → List Node → Rule (List Node)
  | 0, _ => throw .exhausted
  | turns + 1, parts => do
    let state ← get
    if state.cursor.isAtEnd then return parts.reverse
    else
      match state.kind? grammar.order with
      | none =>
        let (run, behind) := state.textRun grammar.order
        move behind
        collectParts grammar inline switch block turns (appendText state.cursor.position run parts)
      | some .inline =>
        let part ← inline
        collectParts grammar inline switch block turns (part :: parts)
      | some .comment =>
        comment
        collectParts grammar inline switch block turns parts
      | some .pragma =>
        switch
        collectParts grammar inline switch block turns parts
      | some .block =>
        match state.tagKeyword? with
        | none =>
          fail (.missingBlockKeyword state.delimiters.block.opening) state.cursor.position
        | some keyword =>
          match Construct.ofKeyword? keyword with
          | some construct =>
            let part ← block construct
            collectParts grammar inline switch block turns (part :: parts)
          | none =>
            if terminators.contains keyword then return parts.reverse
            else fail (.unknownBlockKeyword keyword) state.cursor.position

mutual

/-- Reads a document nested at a depth. -/
def document (grammar : Grammar) : Nat → Nat → Rule Node
  | 0, _ => throw .exhausted
  | calls + 1, depth => do
    let position := (← get).cursor.position
    match Reading.nest grammar depth position with
    | .error halt => throw halt
    | .ok depth =>
      let collected ← parts grammar calls depth
      return Node.sequenced position collected

/-- Reads the parts of a document. -/
def parts (grammar : Grammar) : Nat → Nat → Rule (List Node)
  | 0, _ => throw .exhausted
  | calls + 1, depth =>
    collectParts grammar (insertion grammar depth calls) (pragma grammar calls)
      (fun construct => block grammar calls depth construct) grammar.turns []

/-- Reads a block. -/
def block (grammar : Grammar) : Nat → Nat → Construct → Rule Node
  | 0, _, _ => throw .exhausted
  | calls + 1, depth, .conditional =>
    conditional grammar (expressionTag grammar calls depth) (document grammar calls depth)
      (otherwise grammar calls depth)
  | calls + 1, depth, .selection =>
    selection grammar (expressionTag grammar calls depth) (patternTag grammar calls)
      (document grammar calls depth) (otherwise grammar calls depth)
  | calls + 1, depth, .loop =>
    loop grammar calls (document grammar calls depth) (otherwise grammar calls depth)
  | calls + 1, depth, .binding =>
    binding grammar calls (expressionTag grammar calls depth) (document grammar calls depth)
  | calls + 1, depth, .inclusion =>
    inclusion grammar (expressionTag grammar calls depth)

/-- Reads the body for all other cases, if there is one. -/
def otherwise (grammar : Grammar) : Nat → Nat → Rule (Option Node)
  | 0, _ => throw .exhausted
  | calls + 1, depth => do
    let state ← get
    if state.isAtTag grammar.order (Text.of "else") then
      let _ ← openTag (Text.of "else")
      closeTag grammar
      let body ← document grammar calls depth
      return some body
    else return none

end

end Document

end Stencil
