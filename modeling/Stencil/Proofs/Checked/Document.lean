import Stencil.Proofs.Checked

/-!
# Reading documents with checks

The rules of `Stencil.Document` on the one state of a reader.  The word of a tag is
looked at without a trace: the reader goes back to where it stood, also where no token
can be scanned, and opens the tag only afterwards, with a scan of its own.
-/

namespace Stencil

namespace Checked

/-- Words that open blocks. -/
def constructKeywords : List Text :=
  words ["if", "case", "for", "let", "include"]

/-- The constructs that have a rule, by their words. -/
def blockRules : List (Text × Construct) :=
  [(Text.of "if", .conditional), (Text.of "case", .selection), (Text.of "for", .loop),
    (Text.of "let", .binding), (Text.of "include", .inclusion)]

/-! ## Tags -/

/-- Writes an event to the journal. -/
def log (event : Event) : Rule Unit :=
  modify fun state => { state with journal := event :: state.journal }

/-- Runs a rule and goes back to where it began, also where it stops. -/
def returning (rule : Rule α) : Rule α := fun state =>
  match rule state with
  | .ok value after => .ok value (after.moved state.session.cursor)
  | .error stop after => .error stop (after.moved state.session.cursor)

/-- Gives nothing where no token can be scanned. -/
def orNothing (rule : Rule (Option α)) : Rule (Option α) := fun state =>
  match rule state with
  | .error (.halted (.diagnosed ⟨.lexical _, _⟩)) after => .ok none after
  | outcome => outcome

/-- The word of the tag at the cursor, if a tag with a word stands there. -/
def peekBlockKeyword : Rule (Option Text) :=
  returning <| orNothing do
    if ← consume (← get).delimiters.block.opening then
      let token ← peek
      return if token.kind = .identifier then some token.value else none
    else return none

/-- Whether a tag with a given word stands at the cursor. -/
def isAtTag (grammar : Grammar) (keyword : Text) : Rule Bool := do
  if (← get).view.kind? grammar.order = some .block then
    let found ← peekBlockKeyword
    return found == some keyword
  else return false

/-- Reads the opening delimiter and the word of a tag, which opens its region.  Nothing
is looked at but the word, and that only to check it. -/
def openTag (keyword : Text) : Rule Position := do
  let state ← get
  let position := state.session.cursor.position
  let _ ← consume state.delimiters.block.opening
  let token ← advance
  check (token.value == keyword) .keyword
  modify fun after => { after with regionEnd := some after.delimiters.block.closing }
  log (.opened keyword position)
  return position

/-- Reads an expression and the closing delimiter of its tag. -/
def expressionTag (grammar : Grammar) (calls : Nat) : Rule Node := do
  let node ← expression grammar calls 1
  closeRegion
  return node

/-- Reads a pattern and the closing delimiter of its tag. -/
def patternTag (grammar : Grammar) (calls : Nat) : Rule Pattern := do
  let found ← pattern grammar calls
  closeRegion
  return found

/-- The word of the tag that stands where another one is expected, unless the source ends
there. -/
def foundInstead : Rule (Option (Option Text)) := do
  if (← get).session.cursor.isAtEnd then return none
  else
    let found ← peekBlockKeyword
    return some found

/-- Reads the tag that ends a block. -/
def expectTerminator
    (grammar : Grammar)
    (terminator : Text)
    (construct : Construct)
    (opener : Position) : Rule Unit := do
  if ← isAtTag grammar terminator then
    let _ ← openTag terminator
    closeRegion
  else
    let found ← foundInstead
    let state ← get
    fail (.unterminatedBlock construct opener state.delimiters.block terminator found)
      state.session.cursor.position

/-! ## Regions between text -/

/-- Reads an inline expression. -/
def insertion (grammar : Grammar) : Nat → Rule Node
  | 0 => exhausted
  | calls + 1 => do
    let pair := (← get).delimiters.inline
    let _ ← consume pair.opening
    modify fun state => { state with regionEnd := some pair.closing }
    let node ← expression grammar calls 1
    closeRegion
    return node

/-- Reads a comment. -/
def comment : Rule Unit := do
  let state ← get
  let pair := state.delimiters.comment
  let _ ← consume pair.opening
  match (← get).session.cursor.readThrough? pair.closing with
  | some (_, behind) => move behind
  | none => fail (.unterminatedComment pair.closing) state.session.cursor.position

/-- Reads one field of a pragma. -/
def pragmaField : Rule (Kind × Value) := do
  let token ← peek
  let state ← get
  if token.kind ≠ .identifier || state.isAtRegionEnd then unexpected .pragmaField token
  else
    match Kind.ofName? token.value with
    | none => fail (.unknownPragmaField token.value) token.position
    | some kind =>
      let _ ← advance
      let _ ← expectOperator (Text.of "=")
      let _ ← expect .opening (.literal (Text.of "("))
      let opening ← expect .string .delimiterString
      let _ ← expect .comma (.literal (Text.of ","))
      let closing ← expect .string .delimiterString
      let _ ← expect .closing (.literal (Text.of ")"))
      return (kind, .tuple [.text opening.value, .text closing.value])

/-- Reads the fields of a pragma, with commas between them. -/
def pragmaChanges : Nat → List (Kind × Value) → Rule (List (Kind × Value))
  | 0, _ => exhausted
  | turns + 1, changes => do
    let (kind, value) ← pragmaField
    let changes := Document.putChange kind value changes
    let state ← get
    if state.isAtRegionEnd then return changes
    else
      let _ ← expect .comma (.literal (Text.of ","))
      pragmaChanges turns changes

/-- Makes other delimiters active. -/
def activate (delimiters : Delimiters) : Rule Unit :=
  modify fun state => { state with
    delimiters := delimiters
    journal := delimiters.warnings.reverse ++ state.journal }

/-- Reads a pragma, which changes the active delimiters or stops. -/
def pragma (grammar : Grammar) : Nat → Rule Unit
  | 0 => exhausted
  | _ + 1 => do
    let before ← get
    let pair := before.delimiters.pragma
    let _ ← consume pair.opening
    modify fun state => { state with regionEnd := some pair.closing }
    let changes ← pragmaChanges grammar.turns []
    closeRegion
    match before.delimiters.change changes with
    | .ok delimiters =>
      activate delimiters
      log (.switched before.session.cursor.position changes)
    | .error fault => fail (.invalidPragma fault) before.session.cursor.position

/-- Reads the text before the next region. -/
def readText (grammar : Grammar) : Rule Text := do
  let state ← get
  let (run, behind) := state.view.textRun grammar.order
  move behind
  return run

/-- Passes blank text and comments between the tag of a selection and its first
alternative. -/
def skipToAlternatives (grammar : Grammar) : Nat → Rule Unit
  | 0 => exhausted
  | turns + 1 => do
    let state ← get
    if state.session.cursor.isAtEnd then return
    else
      match state.view.kind? grammar.order with
      | some .comment =>
        comment
        skipToAlternatives grammar turns
      | none =>
        let run ← readText grammar
        if run.isBlank then skipToAlternatives grammar turns
        else
          fail (.textBeforeAlternatives state.delimiters.block) state.session.cursor.position
      | some _ => return

/-! ## Blocks -/

/-- Reads the clauses of a block whose tags have a given word: what stands in the tag of
each, and its body. -/
def clauses
    (grammar : Grammar)
    (word : Text)
    (head : Rule α)
    (body : Rule Node) : Nat → Rule (List (α × Node))
  | 0 => exhausted
  | turns + 1 => do
    if ← isAtTag grammar word then
      let _ ← openTag word
      let found ← head
      let result ← body
      let others ← clauses grammar word head body turns
      return (found, result) :: others
    else return []

/-- Reads a conditional. -/
def conditional
    (grammar : Grammar)
    (condition body : Rule Node)
    (otherwise : Rule (Option Node)) : Rule Node := do
  let opener ← openTag (Text.of "if")
  let test ← condition
  let result ← body
  let others ← clauses grammar (Text.of "elif") condition body grammar.turns
  let default ← otherwise
  expectTerminator grammar (Text.of "endif") .conditional opener
  return Node.conditional ((test, result) :: others) default

/-- Reads a selection. -/
def selection
    (grammar : Grammar)
    (scrutinee : Rule Node)
    (pattern : Rule Pattern)
    (body : Rule Node)
    (otherwise : Rule (Option Node)) : Rule Node := do
  let opener ← openTag (Text.of "case")
  let subject ← scrutinee
  skipToAlternatives grammar grammar.turns
  let cases ← clauses grammar (Text.of "when") pattern body grammar.turns
  let default ← otherwise
  expectTerminator grammar (Text.of "endcase") .selection opener
  return Node.selected subject cases default

/-- Reads a loop. -/
def loop
    (grammar : Grammar)
    (calls : Nat)
    (body : Rule Node)
    (otherwise : Rule (Option Node)) : Rule Node := do
  let opener ← openTag (Text.of "for")
  let item ← identifier calls
  let _ ← expectKeyword (Text.of "in")
  let source ← path grammar calls
  closeRegion
  let result ← body
  let default ← otherwise
  expectTerminator grammar (Text.of "endfor") .loop opener
  return .loop opener item source.reference result default

/-- Reads the sign between a bound name and its value. -/
def bindingSign (name : Text) : Rule Unit := do
  skipBlanks
  let doubled := (← get).session.cursor.startsWith (Text.of "==")
  if ← (if doubled then pure false else consume (Text.of "=")) then return
  else
    let token ← peek
    unexpected (.bindingSign name) token

/-- Reads the binding of a name. -/
def binding
    (grammar : Grammar)
    (calls : Nat)
    (value body : Rule Node) : Rule Node := do
  let opener ← openTag (Text.of "let")
  let name ← identifier calls
  bindingSign name.name
  let bound ← value
  let result ← body
  expectTerminator grammar (Text.of "endlet") .binding opener
  return .binding opener name bound result

/-- Reads the key of an included template. -/
def inclusionKey : Rule Text := do
  let token ← peek
  let state ← get
  if token.kind ≠ .string || state.isAtRegionEnd then unexpected .templateKey token
  else
    let _ ← advance
    return token.value

/-- Reads the word before the context of an included template, if it follows. -/
def withContext : Rule Bool := do
  let state ← get
  if state.isAtRegionEnd then return false
  else if ← peekIsKeyword (Text.of "with") then
    let _ ← advance
    return true
  else return false

/-- Registers an include. -/
def register (key : Text) (position : Position) : Rule Unit :=
  modify fun state => { state with
    includes := state.includes.register key position
    journal := .registered key position :: state.journal }

/-- Reads an include. -/
def inclusion (context : Rule Node) : Rule Node := do
  let opener ← openTag (Text.of "include")
  let key ← inclusionKey
  register key opener
  if ← withContext then
    let value ← context
    return .inclusion opener key (some value)
  else
    closeRegion
    return .inclusion opener key none

/-! ## Documents -/

/-- Reads the parts of a document.  A word that opens a block is known by one list, and
its rule is found in another one. -/
def collectParts
    (grammar : Grammar)
    (inline : Rule Node)
    (switch : Rule Unit)
    (block : Construct → Rule Node) : Nat → List Node → Rule (List Node)
  | 0, _ => exhausted
  | turns + 1, parts => do
    let state ← get
    if state.session.cursor.isAtEnd then return parts.reverse
    else
      match state.view.kind? grammar.order with
      | none =>
        let run ← readText grammar
        collectParts grammar inline switch block turns
          (Document.appendText state.session.cursor.position run parts)
      | some .inline =>
        let part ← inline
        collectParts grammar inline switch block turns (part :: parts)
      | some .comment =>
        comment
        collectParts grammar inline switch block turns parts
      | some .pragma =>
        switch
        collectParts grammar inline switch block turns parts
      | some .block =>
        let found ← peekBlockKeyword
        match found with
        | none =>
          fail (.missingBlockKeyword state.delimiters.block.opening)
            state.session.cursor.position
        | some keyword =>
          if constructKeywords.contains keyword then
            match blockRules.lookup keyword with
            | none => violate .dispatch
            | some construct =>
              let part ← block construct
              collectParts grammar inline switch block turns (part :: parts)
          else if terminators.contains keyword then return parts.reverse
          else fail (.unknownBlockKeyword keyword) state.session.cursor.position

mutual

/-- Reads a document. -/
def document (grammar : Grammar) : Nat → Rule Node
  | 0 => exhausted
  | calls + 1 => do
    let position := (← get).session.cursor.position
    let collected ← nested grammar (parts grammar calls)
    return Node.sequenced position collected

/-- Reads the parts of a document. -/
def parts (grammar : Grammar) : Nat → Rule (List Node)
  | 0 => exhausted
  | calls + 1 =>
    collectParts grammar (insertion grammar calls) (pragma grammar calls)
      (fun construct => block grammar calls construct) grammar.turns []

/-- Reads a block. -/
def block (grammar : Grammar) : Nat → Construct → Rule Node
  | 0, _ => exhausted
  | calls + 1, .conditional =>
    conditional grammar (expressionTag grammar calls) (document grammar calls)
      (otherwise grammar calls)
  | calls + 1, .selection =>
    selection grammar (expressionTag grammar calls) (patternTag grammar calls)
      (document grammar calls) (otherwise grammar calls)
  | calls + 1, .loop =>
    loop grammar calls (document grammar calls) (otherwise grammar calls)
  | calls + 1, .binding =>
    binding grammar calls (expressionTag grammar calls) (document grammar calls)
  | calls + 1, .inclusion =>
    inclusion (expressionTag grammar calls)

/-- Reads the body for all other cases, if there is one. -/
def otherwise (grammar : Grammar) : Nat → Rule (Option Node)
  | 0 => exhausted
  | calls + 1 => do
    if ← isAtTag grammar (Text.of "else") then
      let _ ← openTag (Text.of "else")
      closeRegion
      let body ← document grammar calls
      return some body
    else return none

end

/-! ## Templates -/

/-- Reads a whole source. -/
def whole (grammar : Grammar) (calls : Nat) (name : Text) : Rule Template := do
  let root ← document grammar calls
  let state ← get
  if state.session.cursor.isAtEnd then
    log (.parsed name state.includes.length)
    return ⟨root, state.includes⟩
  else
    let found ← peekBlockKeyword
    fail (.unmatchedTerminator state.delimiters.block found) state.session.cursor.position

/-- The state before a source: no token is known, no region is open and nothing is
nested. -/
def State.initial (name : Text) (delimiters : Delimiters) (source : Text) : State :=
  ⟨Session.start name source, delimiters, [], [], none, 0⟩

/-- What reading a template with checks comes to. -/
structure Outcome where
  /-- The template, or why there is none. -/
  result : Except Stop Template
  /-- The delimiters that were active at the end. -/
  delimiters : Delimiters
  /-- The journal. -/
  journal : List Event

/-- The outcome of a reader without checks, as one in which they all hold. -/
def Outcome.of (outcome : Template.Outcome) : Outcome :=
  ⟨outcome.result.mapError .halted, outcome.delimiters, outcome.journal⟩

/-- Reads a source text under a name, starting with some delimiters. -/
def read
    (options : Template.Options)
    (name : Text)
    (delimiters : Delimiters)
    (source : Text) : Outcome :=
  match whole (Template.grammarFor options source) (Template.callsFor source) name
      (State.initial name delimiters source) with
  | .ok template after => ⟨.ok template, after.delimiters, after.journal.reverse⟩
  | .error stop after => ⟨.error stop, after.delimiters, after.journal.reverse⟩

end Checked

end Stencil
