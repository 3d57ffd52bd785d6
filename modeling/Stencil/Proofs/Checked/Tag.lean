import Stencil.Proofs.Checked.Document
import Stencil.Proofs.Checked.Expression
import Stencil.Proofs.Failure.Document

/-!
# Tags read with checks

The word of a tag is scanned twice: once when the reader looks at it and goes back, and
once when the tag is opened.  Both scans begin behind the same delimiter, so they find the
same word, whatever the reader did in between, as long as it stands there again.

`Checked.Accords` says of a rule on a state that it does what the rule of
`Stencil.Document` does on the part of the state that shows.  Where a region is open, the
closing delimiter that the reader keeps is the one of that region; this is what tags and
the regions between text need, and nothing else of the state outlives a tag.
-/

namespace Stencil

namespace Checked

variable {state : State} {region : Region} {grammar : Grammar} {depth : Nat}

/-! ## The word of a tag -/

/-- Looking at the word of a tag leaves no trace but that the session forgets the next
token: whatever the reader finds, it stands where it stood. -/
theorem peekBlockKeyword_eq (state : State) :
    peekBlockKeyword state = .ok state.view.tagKeyword? (state.moved state.session.cursor) := by
  have steps : peekBlockKeyword state =
      returning (orNothing (consume state.delimiters.block.opening >>= fun opens =>
        if opens = true then do
          let token ← peek
          return if token.kind = .identifier then some token.value else none
        else return none)) state := rfl
  have opens := consume_eq state.delimiters.block.opening state
  rw [steps, returning, orNothing, Document.State.tagKeyword?, State.view]
  dsimp only
  cases begins : state.session.cursor.consume? state.delimiters.block.opening with
  | none =>
    rw [begins] at opens
    rw [bind_of_ok opens]
    rfl
  | some behind =>
    rw [begins] at opens
    rw [bind_of_ok opens, if_pos rfl]
    have remembers := Session.remembers_moved state.session behind
    cases scanned : Token.scan behind with
    | ok found =>
      rw [bind_of_ok (peek_of_scan remembers scanned)]
      simp only [scanned]
      rfl
    | error failure =>
      -- A token that cannot be scanned is caught first: it is no word, and no stop.
      rw [bind_of_error (peek_of_failure remembers scanned)]
      simp only [scanned]
      rfl

/-- The state behind the word of a tag. -/
def State.opened (state : State) (keyword : Text) (behind : Cursor) : State :=
  { state with
    session := state.session.moved behind
    regionEnd := some state.delimiters.block.closing
    journal := .opened keyword state.session.cursor.position :: state.journal }

/-- Where the word of a tag was looked at, the tag is opened: the token behind its opening
delimiter is that word, so the check of it holds. -/
theorem openTag_eq_ok
    {keyword : Text}
    (stands : state.view.tagKeyword? = some keyword) :
    ∃ behind, state.session.cursor.Reaches behind ∧
      Document.openTag keyword state.view =
        .ok state.session.cursor.position (state.opened keyword behind).view ∧
      openTag keyword state =
        .ok state.session.cursor.position (state.opened keyword behind) := by
  obtain ⟨entered, enters⟩ := Document.exists_openTag stands
  have reaches := (Document.passes_of_openTag enters).1
  obtain ⟨_, middle, token, behind, consumed, scanned, isWord, rfl⟩ :=
    Document.openTag_eq_ok.1 enters
  simp only [Token.isWord, Bool.and_eq_true, decide_eq_true_eq] at isWord
  rw [Reading.token_eq_ok] at scanned
  refine ⟨behind, reaches, enters, ?_⟩
  have opens := consume_eq state.delimiters.block.opening state
  change state.session.cursor.consume? state.delimiters.block.opening = some middle at consumed
  rw [consumed] at opens
  -- The look has made the session forget its token, so the word is scanned once more.
  have remembers : (state.moved middle).session.Remembers := Session.remembers_moved _ _
  have looks := peek_of_scan remembers scanned
  have reads : advance (state.moved middle) = .ok token ((state.moved middle).moved behind) := by
    rw [← peek_bind_advance, bind_of_ok looks]
    exact advance_of_known rfl
  have steps : openTag keyword state = (do
    let _ ← consume state.delimiters.block.opening
    let token ← advance
    check (token.value == keyword) .keyword
    modify fun after => { after with regionEnd := some after.delimiters.block.closing }
    log (.opened keyword state.session.cursor.position)
    return state.session.cursor.position : Rule Position) state := rfl
  rw [steps, bind_of_ok opens, bind_of_ok reads, isWord.2]
  rfl

/-! ## Agreement of rules on documents -/

/-- A state between two steps on a document, at a depth of nesting. -/
structure State.At (state : State) (depth : Nat) : Prop where
  /-- The session is coherent. -/
  coherent : state.session.Coherent
  /-- So many levels are open. -/
  depth_eq : state.depth = depth

/-- A rule does on a document what the one without checks does on the part of the state
that shows: it comes to the same value and the same state, at the same depth, or it stops
with the same halt and leaves the same delimiters and the same journal. -/
def Accords
    (depth : Nat)
    (state : State)
    (model : Document.Rule α)
    (rule : Rule α) : Prop :=
  match model state.view with
  | .ok value after => ∃ last : State, last.At depth ∧ last.view = after ∧
      rule state = .ok value last
  | .error halt after => ∃ last : State, last.delimiters = after.delimiters ∧
      last.journal = after.journal ∧ rule state = .error (.halted halt) last

namespace Accords

variable {model : Document.Rule α} {rule : Rule α}

theorem of_ok
    {value : α}
    {last : State}
    (there : last.At depth)
    (modelReads : model state.view = .ok value last.view)
    (reads : rule state = .ok value last) :
    Accords depth state model rule := by
  unfold Accords
  rw [modelReads]
  exact ⟨last, there, rfl, reads⟩

theorem of_halt
    {halt : Halt}
    {after : Document.State}
    {last : State}
    (delimiters : last.delimiters = after.delimiters)
    (journal : last.journal = after.journal)
    (halts : model state.view = .error halt after)
    (stops : rule state = .error (.halted halt) last) :
    Accords depth state model rule := by
  unfold Accords
  rw [halts]
  exact ⟨last, delimiters, journal, stops⟩

theorem pure
    (value : α)
    (here : state.At depth) :
    Accords depth state (Pure.pure value) (Pure.pure value) :=
  .of_ok here rfl rfl

theorem throw (halt : Halt) :
    Accords depth state (MonadExcept.throw halt : Document.Rule α)
      (MonadExcept.throw (Stop.halted halt)) :=
  .of_halt rfl rfl rfl rfl

/-- Both rules may begin with steps that lead to states which show the same. -/
theorem of_steps
    {last : State}
    {further : Document.Rule α}
    {next : Rule α}
    (modelSteps : model state.view = further last.view)
    (steps : rule state = next last)
    (accords : Accords depth last further next) :
    Accords depth state model rule := by
  unfold Accords at accords ⊢
  rwa [modelSteps, steps]

/-- The rule without checks reads its state. -/
theorem get_left
    {next : Document.State → Document.Rule α}
    (accords : Accords depth state (next state.view) rule) :
    Accords depth state (get >>= next) rule :=
  .of_steps rfl rfl accords

/-- The rule with checks reads its state. -/
theorem get_right
    {nextRule : State → Rule α}
    (accords : Accords depth state model (nextRule state)) :
    Accords depth state model (get >>= nextRule) :=
  .of_steps rfl rfl accords

/-- The rule without checks moves its cursor. -/
theorem move_bind
    {cursor : Cursor}
    {next : Unit → Document.Rule α}
    {nextRule : Rule α}
    (steps : rule state = nextRule (state.moved cursor))
    (accords : Accords depth (state.moved cursor) (next ()) nextRule) :
    Accords depth state (Document.Rule.move cursor >>= next) rule :=
  .of_steps (Document.Rule.move_bind cursor next state.view) steps accords

/-- Where both rules stop, nothing follows. -/
theorem bind_of_halt
    {next : α → Document.Rule β}
    {nextRule : α → Rule β}
    {halt : Halt}
    {after : Document.State}
    {last : State}
    (delimiters : last.delimiters = after.delimiters)
    (journal : last.journal = after.journal)
    (halts : model state.view = .error halt after)
    (stops : rule state = .error (.halted halt) last) :
    Accords depth state (model >>= next) (rule >>= nextRule) := by
  refine .of_halt delimiters journal ?_ (bind_of_error stops nextRule)
  simp only [Bind.bind, EStateM.bind, halts]

/-- A rule is followed by another one, from the state that the first one leaves. -/
theorem bind
    {next : α → Document.Rule β}
    {nextRule : α → Rule β}
    (first : Accords depth state model rule)
    (rest : ∀ value (last : State), last.At depth →
      Accords depth last (next value) (nextRule value)) :
    Accords depth state (model >>= next) (rule >>= nextRule) := by
  unfold Accords at first
  cases read : model state.view with
  | ok value after =>
    rw [read] at first
    obtain ⟨last, there, rfl, follows⟩ := first
    exact .of_steps (Document.Rule.bind_of_ok read next) (bind_of_ok follows nextRule)
      (rest value last there)
  | error halt after =>
    rw [read] at first
    obtain ⟨last, delimiters, journal, stops⟩ := first
    exact .bind_of_halt delimiters journal read stops

/-- What is read at the cursor is read in a document, and the region stays open. -/
theorem reading_bind
    {read : Cursor → Except Halt (α × Cursor)}
    {next : α → Document.Rule β}
    {nextRule : α → Rule β}
    (agrees : Agrees state (read state.session.cursor) rule)
    (rest : ∀ value (session : Session), session.Coherent →
      Accords depth { state with session := session } (next value) (nextRule value)) :
    Accords depth state (Document.Rule.reading read >>= next) (rule >>= nextRule) := by
  cases outcome : read state.session.cursor with
  | ok found =>
    rw [outcome] at agrees
    obtain ⟨session, coherent, isCursor, follows⟩ := agrees
    have reads : Document.Rule.reading read state.view =
        .ok found.1 (State.view { state with session := session }) :=
      Document.Rule.reading_eq_ok.2 ⟨found.2, outcome, by simp only [State.view, isCursor]⟩
    exact .of_steps (Document.Rule.bind_of_ok reads next) (bind_of_ok follows nextRule)
      (rest found.1 session coherent)
  | error halt =>
    rw [outcome] at agrees
    obtain ⟨last, delimiters, journal, stops⟩ := agrees
    have halts : Document.Rule.reading read state.view = .error halt state.view := by
      simp only [Document.Rule.reading, State.view, outcome]
    exact .bind_of_halt delimiters journal halts stops

theorem ite
    {condition : Prop}
    [Decidable condition]
    {left right : Document.Rule α}
    {leftRule rightRule : Rule α}
    (holds : condition → Accords depth state left leftRule)
    (fails : ¬condition → Accords depth state right rightRule) :
    Accords depth state (if condition then left else right)
      (if condition then leftRule else rightRule) := by
  split
  · rename_i held
    exact holds held
  · rename_i failed
    exact fails failed

end Accords

/-! ## Regions -/

/-- A state in the region of a tag or of another region of a document. -/
structure State.InRegion (state : State) (region : Region) (depth : Nat) : Prop
    extends state.At depth where
  /-- The region is open. -/
  isOpen : state.regionEnd = some region.closing

theorem State.InRegion.within
    (inside : state.InRegion region depth) :
    state.Within region :=
  ⟨inside.coherent, inside.isOpen⟩

theorem State.InRegion.after
    {session : Session}
    (inside : state.InRegion region depth)
    (coherent : session.Coherent) :
    State.InRegion { state with session := session } region depth :=
  ⟨⟨coherent, inside.depth_eq⟩, inside.isOpen⟩

theorem State.InRegion.closed
    (inside : state.InRegion region depth) :
    State.At { state with regionEnd := none } depth :=
  ⟨inside.coherent, inside.depth_eq⟩

/-- An open region is closed; the check that one is open holds. -/
theorem accords_close (inside : state.InRegion region depth) :
    Accords depth state (Document.Rule.reading region.close) closeRegion := by
  rw [closeRegion, ← bind_pure (Document.Rule.reading region.close)]
  refine .get_right ?_
  rw [inside.isOpen]
  refine .reading_bind (agrees_expectLiteral region inside.coherent) fun _ session coherent => ?_
  exact .of_steps rfl rfl (.pure () (inside.after coherent).closed)

theorem accords_closeTag (inside : state.InRegion (state.view.tagRegion grammar) depth) :
    Accords depth state (Document.closeTag grammar) closeRegion :=
  .get_left (accords_close inside)

theorem accords_expressionTag
    (calls : Nat)
    (inside : state.InRegion (state.view.tagRegion grammar) depth) :
    Accords depth state (Document.expressionTag grammar calls depth)
      (expressionTag grammar calls) := by
  refine .get_left ?_
  have agrees := (rulesAgree (state.view.tagRegion grammar) calls).expression 1 state inside.within
  rw [inside.depth_eq] at agrees
  refine .reading_bind agrees fun node session coherent => ?_
  exact .bind (accords_closeTag (inside.after coherent)) fun _ last there => .pure node there

theorem accords_patternTag
    (calls : Nat)
    (inside : state.InRegion (state.view.tagRegion grammar) depth) :
    Accords depth state (Document.patternTag grammar calls) (patternTag grammar calls) := by
  refine .get_left ?_
  refine .reading_bind (agrees_pattern calls inside.within) fun pattern session coherent => ?_
  exact .bind (accords_closeTag (inside.after coherent)) fun _ last there => .pure pattern there

theorem State.At.looked (here : state.At depth) :
    (state.moved state.session.cursor).At depth :=
  ⟨here.coherent.moved (.refl _), here.depth_eq⟩

/-- The reader with checks looks at the word of a tag. -/
theorem Accords.peekBlockKeyword_bind
    {model : Document.Rule α}
    {nextRule : Option Text → Rule α}
    (accords : Accords depth (state.moved state.session.cursor) model
      (nextRule state.view.tagKeyword?)) :
    Accords depth state model (peekBlockKeyword >>= nextRule) := by
  have same : model state.view = model (state.moved state.session.cursor).view := rfl
  exact .of_steps same (bind_of_ok (peekBlockKeyword_eq state) nextRule) accords

/-- A tag whose word was looked at is opened. -/
theorem Accords.openTag_bind
    (grammar : Grammar)
    {keyword : Text}
    {next : Position → Document.Rule α}
    {nextRule : Position → Rule α}
    (here : state.At depth)
    (stands : state.view.tagKeyword? = some keyword)
    (rest : ∀ position (last : State), last.InRegion (last.view.tagRegion grammar) depth →
      Accords depth last (next position) (nextRule position)) :
    Accords depth state (Document.openTag keyword >>= next) (openTag keyword >>= nextRule) := by
  obtain ⟨behind, reaches, modelOpens, opens⟩ := openTag_eq_ok stands
  have inside : (state.opened keyword behind).InRegion
      ((state.opened keyword behind).view.tagRegion grammar) depth :=
    ⟨⟨here.coherent.moved reaches, here.depth_eq⟩, rfl⟩
  exact .of_steps (Document.Rule.bind_of_ok modelOpens next) (bind_of_ok opens nextRule)
    (rest _ _ inside)

/-- Whether a tag stands at the cursor is found out without moving. -/
theorem isAtTag_eq_ok
    (grammar : Grammar)
    (keyword : Text)
    (here : state.At depth) :
    ∃ last : State, last.At depth ∧ last.view = state.view ∧
      isAtTag grammar keyword state = .ok (state.view.isAtTag grammar.order keyword) last := by
  have steps : isAtTag grammar keyword state =
      (if state.view.kind? grammar.order = some .block then
        peekBlockKeyword >>= fun found => pure (found == some keyword)
      else pure false : Rule Bool) state := rfl
  rw [steps, Document.State.isAtTag]
  split
  · rename_i opens
    rw [bind_of_ok (peekBlockKeyword_eq state)]
    simp only [opens, decide_true, Bool.true_and]
    exact ⟨state.moved state.session.cursor, here.looked, rfl, rfl⟩
  · rename_i other
    simp only [other, decide_false, Bool.false_and]
    exact ⟨state, here, rfl, rfl⟩

/-- Both readers look for the same tag.  Where it stands, its word is the one that was
looked for. -/
theorem Accords.isAtTag_ite
    {keyword : Text}
    {left right : Document.Rule α}
    {leftRule rightRule : Rule α}
    (here : state.At depth)
    (there : ∀ last : State, last.At depth → last.view.tagKeyword? = some keyword →
      Accords depth last left leftRule)
    (notThere : ∀ last : State, last.At depth → last.view = state.view →
      Accords depth last right rightRule) :
    Accords depth state
      (if state.view.isAtTag grammar.order keyword = true then left else right)
      (isAtTag grammar keyword >>= fun found => if found = true then leftRule else rightRule) := by
  obtain ⟨last, looked, same, looks⟩ := isAtTag_eq_ok grammar keyword here
  refine .of_steps (congrArg _ same.symm) (bind_of_ok looks _) ?_
  refine .ite (fun stands => there last looked ?_) fun _ => notThere last looked same
  rw [same]
  exact (Document.State.isAtTag_iff.1 stands).2

/-- What stands instead of a tag is told alike. -/
theorem foundInstead_eq_ok (here : state.At depth) :
    ∃ last : State, last.At depth ∧ last.view = state.view ∧
      foundInstead state =
        .ok (if state.view.cursor.isAtEnd then none else some state.view.tagKeyword?) last := by
  have steps : foundInstead state =
      (if state.view.cursor.isAtEnd = true then pure none
      else peekBlockKeyword >>= fun found => pure (some found) :
        Rule (Option (Option Text))) state := rfl
  rw [steps]
  split
  · exact ⟨state, here, rfl, rfl⟩
  · rw [bind_of_ok (peekBlockKeyword_eq state)]
    exact ⟨state.moved state.session.cursor, here.looked, rfl, rfl⟩

theorem accords_expectTerminator
    {terminator : Text}
    {construct : Construct}
    {opener : Position}
    (here : state.At depth) :
    Accords depth state (Document.expectTerminator grammar terminator construct opener)
      (expectTerminator grammar terminator construct opener) := by
  refine .get_left ?_
  refine .isAtTag_ite here (fun last there stands => ?_) fun last there same => ?_
  · exact .openTag_bind grammar there stands fun _ last inside => accords_closeTag inside
  · obtain ⟨final, _, unmoved, finds⟩ := foundInstead_eq_ok there
    rw [← same]
    refine .of_steps (congrArg _ unmoved.symm) (bind_of_ok finds _) (.get_right ?_)
    rw [← unmoved]
    exact .throw _

/-! ## Regions between text -/

/-- Where a region of a kind opens, its opening delimiter stands. -/
theorem startsWith_of_kind
    {kind : Kind}
    (opens : state.view.kind? grammar.order = some kind) :
    state.session.cursor.startsWith (state.delimiters.pair kind).opening = true :=
  List.isPrefixOf_iff_prefix.2 (Document.State.begins_of_kind? opens)

theorem consume_of_startsWith
    {literal : Text}
    (begins : state.session.cursor.startsWith literal = true) :
    consume literal state =
      .ok true (state.moved (state.session.cursor.forward literal.length)) := by
  rw [consume_eq, Cursor.consume?, if_pos begins]

theorem State.At.forward
    (here : state.At depth)
    (count : Nat) :
    (state.moved (state.session.cursor.forward count)).At depth :=
  ⟨here.coherent.moved (Cursor.reaches_forward _ _), here.depth_eq⟩

/-- A region opens behind its opening delimiter. -/
theorem Accords.region_bind
    (grammar : Grammar)
    {opening closing : Text}
    {next : Unit → Document.Rule α}
    {nextRule : Unit → Rule α}
    (here : state.At depth)
    (begins : state.session.cursor.startsWith opening = true)
    (rest : ∀ last : State, last.InRegion ⟨grammar, closing⟩ depth →
      Accords depth last (next ()) (nextRule ())) :
    Accords depth state
      (Document.Rule.move (state.session.cursor.forward opening.length) >>= next)
      (consume opening >>= fun _ =>
        modify (fun state => { state with regionEnd := some closing }) >>= nextRule) := by
  have there := here.forward opening.length
  let last : State := { state.moved (state.session.cursor.forward opening.length) with
    regionEnd := some closing }
  have opens : (consume opening >>= fun _ =>
      modify (fun state => { state with regionEnd := some closing }) >>= nextRule) state =
        nextRule () last := by
    rw [bind_of_ok (consume_of_startsWith begins)]
    rfl
  have moves : (Document.Rule.move (state.session.cursor.forward opening.length) >>= next)
      state.view = next () last.view := rfl
  exact .of_steps moves opens (rest last ⟨⟨there.coherent, there.depth_eq⟩, rfl⟩)

theorem accords_insertion
    (calls : Nat)
    (here : state.At depth)
    (opens : state.view.kind? grammar.order = some .inline) :
    Accords depth state (Document.insertion grammar depth calls) (insertion grammar calls) := by
  cases calls with
  | zero => exact .throw _
  | succ calls =>
    refine .get_left (.get_right ?_)
    dsimp only
    refine .region_bind grammar here (startsWith_of_kind opens) fun last inside => ?_
    have agrees := (rulesAgree _ calls).expression 1 last inside.within
    rw [inside.depth_eq] at agrees
    refine .reading_bind agrees fun node session coherent => ?_
    exact .bind (accords_close (inside.after coherent)) fun _ last there => .pure node there

theorem accords_comment
    (here : state.At depth)
    (opens : state.view.kind? grammar.order = some .comment) :
    Accords depth state Document.comment comment := by
  let pair := state.delimiters.comment
  let opened := state.moved (state.session.cursor.forward pair.opening.length)
  have there : opened.At depth := here.forward pair.opening.length
  have begins : state.session.cursor.startsWith pair.opening = true := startsWith_of_kind opens
  have opensIt : consume pair.opening state = .ok true opened := consume_of_startsWith begins
  cases found : opened.session.cursor.readThrough? pair.closing with
  | none =>
    have unclosed : (state.view.cursor.forward
        state.view.delimiters.comment.opening.length).readThrough?
        state.view.delimiters.comment.closing = none := found
    have halts : Document.comment state.view = Document.Rule.fail
        (.unterminatedComment pair.closing) state.session.cursor.position state.view := by
      simp only [Document.comment, Document.Rule.get_bind, unclosed]
      rfl
    have stops : comment state =
        fail (.unterminatedComment pair.closing) state.session.cursor.position opened := by
      rw [comment, get_bind, bind_of_ok opensIt, get_bind, found]
    -- The cursors differ here, as one reader has passed the opening delimiter; a halt
    -- shows neither of them.
    exact .of_halt rfl rfl halts stops
  | some through =>
    have reads : comment state = move through.2 opened := by
      rw [comment, get_bind, bind_of_ok opensIt, get_bind, found]
    have reaches := Cursor.reaches_of_readThrough? found
    have further : (opened.moved through.2).At depth :=
      ⟨there.coherent.moved reaches, there.depth_eq⟩
    exact .of_ok further (Document.comment_eq_ok.2 ⟨through.1, through.2, found, rfl⟩) reads

theorem agrees_pragmaField (within : state.Within region) :
    Agrees state (Document.pragmaField region state.session.cursor) pragmaField := by
  refine .peek_bind within.coherent fun token behind found => .get_bind ?_
  rw [(within.knowing found).isAtRegionEnd]
  refine .ite (fun _ => .throw _) fun _ => ?_
  cases Kind.ofName? token.value with
  | none => exact .throw _
  | some kind =>
    refine .advance_bind ?_
    refine .bind (agrees_expectOperator _ found.moved) fun _ session coherent => ?_
    refine .bind (agrees_expect _ _ coherent) fun _ session coherent => ?_
    refine .bind (agrees_expect _ _ coherent) fun opening session coherent => ?_
    refine .bind (agrees_expect _ _ coherent) fun _ session coherent => ?_
    refine .bind (agrees_expect _ _ coherent) fun closing session coherent => ?_
    refine .bind (agrees_expect _ _ coherent) fun _ session coherent => ?_
    exact .pure _ coherent

theorem agrees_pragmaChanges
    (turns : Nat)
    (changes : List (Kind × Value))
    (within : state.Within region) :
    Agrees state (Document.pragmaChanges region turns changes state.session.cursor)
      (pragmaChanges turns changes) := by
  induction turns generalizing state changes with
  | zero => exact .throw _
  | succ turns hypothesis =>
    rw [Document.pragmaChanges, pragmaChanges]
    refine .bind (agrees_pragmaField within) fun change session coherent => .get_bind ?_
    have further := within.after coherent
    rw [further.isAtRegionEnd]
    refine .ite (fun _ => .pure _ coherent) fun _ => ?_
    refine .bind (agrees_expect _ _ coherent) fun _ session coherent => ?_
    exact hypothesis _ (further.after coherent)

theorem accords_pragma
    (calls : Nat)
    (here : state.At depth)
    (opens : state.view.kind? grammar.order = some .pragma) :
    Accords depth state (Document.pragma grammar calls) (pragma grammar calls) := by
  cases calls with
  | zero => exact .throw _
  | succ calls =>
    refine .get_left (.get_right ?_)
    dsimp only
    refine .region_bind grammar here (startsWith_of_kind opens) fun last inside => ?_
    refine .reading_bind (agrees_pragmaChanges _ _ inside.within) fun changes session coherent => ?_
    refine .bind (accords_close (inside.after coherent)) fun _ last there => ?_
    have sameDelimiters : state.view.delimiters = state.delimiters := rfl
    rw [sameDelimiters]
    cases state.delimiters.change changes with
    | error fault => exact .throw _
    | ok delimiters =>
      let active : State := { last with
        delimiters := delimiters
        journal := .switched state.session.cursor.position changes ::
          (delimiters.warnings.reverse ++ last.journal) }
      have still : active.At depth := ⟨there.coherent, there.depth_eq⟩
      exact .of_ok still rfl rfl

theorem readText_eq_ok
    (grammar : Grammar)
    (here : state.At depth) :
    (state.moved (state.view.textRun grammar.order).2).At depth ∧
      readText grammar state = .ok (state.view.textRun grammar.order).1
        (state.moved (state.view.textRun grammar.order).2) :=
  ⟨⟨here.coherent.moved (Cursor.reaches_forward _ _), here.depth_eq⟩, rfl⟩

theorem accords_skipToAlternatives
    (turns : Nat)
    (here : state.At depth) :
    Accords depth state (Document.skipToAlternatives grammar turns)
      (skipToAlternatives grammar turns) := by
  induction turns generalizing state with
  | zero => exact .throw _
  | succ turns hypothesis =>
    rw [Document.skipToAlternatives, skipToAlternatives]
    refine .get_left (.get_right ?_)
    refine .ite (fun _ => .pure _ here) fun _ => ?_
    cases opens : state.view.kind? grammar.order with
    | none =>
      obtain ⟨there, reads⟩ := readText_eq_ok grammar here
      have steps := bind_of_ok reads fun run =>
        if run.isBlank then skipToAlternatives grammar turns
        else
          fail (.textBeforeAlternatives state.delimiters.block) state.session.cursor.position
      dsimp only
      by_cases isBlank : (state.view.textRun grammar.order).1.isBlank = true
      · simp only [if_pos isBlank] at steps ⊢
        exact .move_bind steps (hypothesis there)
      · -- The reader with checks stops behind the text, the other one before it.
        simp only [if_neg isBlank] at steps ⊢
        exact .of_halt rfl rfl rfl steps
    | some kind =>
      cases kind with
      | comment =>
        refine .bind (accords_comment here opens) fun _ last there => hypothesis there
      | _ => exact .pure _ here

end Checked

end Stencil
