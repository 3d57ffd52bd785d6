import Stencil.Proofs.Checked

/-!
# Steps of a reader with checks

The reader with checks is compared with the rules that are given a cursor.  It needs one
thing of its state for every step: the session is coherent, so that the token it remembers
is the one that a scan at the cursor gives, and the cursor stands in the text.  Every step
keeps that.

`Checked.Agrees` says of one rule that it comes to what is read at the cursor: the same
value, the same place behind it, the same halt.  The lemmas in its namespace put such
statements together along the steps of a rule.
-/

namespace Stencil

namespace Numeral

/-- At a digit some form of numerals begins, and the first one is the longest. -/
theorem form?_eq_lexeme
    {text rest : Text}
    {digit : CodePoint}
    (unread : text = digit :: rest)
    (isDigit : digit.isDigit = true) :
    form? text = some (lexeme text) := by
  subst unread
  have isDecimal : decimal? (digit :: rest) = some (decimal (digit :: rest)) := by
    simp [decimal?, isDigit]
  cases rest with
  | nil => exact isDecimal
  | cons mark rest =>
    rw [form?, isDecimal, lexeme, based?, based?]
    split
    · rfl
    split <;> rfl

end Numeral

/-- What a session relies on: the token that it remembers is the next one, and its
cursor was moved forward from the beginning of its text. -/
structure Session.Coherent (session : Session) : Prop where
  /-- The remembered token is the next one. -/
  remembers : session.Remembers
  /-- The cursor stands in the text. -/
  stands : ∃ name, (Cursor.start name session.text).Reaches session.cursor

theorem Session.Coherent.moved
    {session : Session}
    {cursor : Cursor}
    (coherent : session.Coherent)
    (reaches : session.cursor.Reaches cursor) :
    (session.moved cursor).Coherent := by
  obtain ⟨name, stands⟩ := coherent.stands
  exact ⟨Session.remembers_moved _ _, name, stands.trans reaches⟩

namespace Checked

variable {state : State} {token : Token} {behind : Cursor}

theorem bind_of_ok
    {rule : Rule α}
    {value : α}
    {after : State}
    (read : rule state = .ok value after)
    (next : α → Rule β) :
    (rule >>= next) state = next value after := by
  simp only [bind, EStateM.bind, read]

theorem bind_of_error
    {rule : Rule α}
    {stop : Stop}
    {after : State}
    (stops : rule state = .error stop after)
    (next : α → Rule β) :
    (rule >>= next) state = .error stop after := by
  simp only [bind, EStateM.bind, stops]

theorem get_bind (next : State → Rule α) (state : State) :
    (get >>= next) state = next state state :=
  rfl

/-! ## Steps that look at no token -/

theorem consume_eq (literal : Text) (state : State) :
    consume literal state =
      match state.session.cursor.consume? literal with
      | some behind => .ok true (state.moved behind)
      | none => .ok false state := by
  have steps : consume literal state =
      (match state.session.cursor.consume? literal with
        | some behind => (do
          move behind
          return true : Rule Bool)
        | none => return false) state := rfl
  rw [steps]
  cases state.session.cursor.consume? literal <;> rfl

/-- Passing blanks leaves a coherent session behind them. -/
theorem skipBlanks_eq_ok (coherent : state.session.Coherent) :
    ∃ session : Session, session.Coherent ∧ session.cursor = state.session.cursor.skipBlanks ∧
      skipBlanks state = .ok () { state with session := session } := by
  have steps : skipBlanks state =
      (if state.session.cursor.skipBlanks.index = state.session.cursor.index then
        (pure () : Rule Unit)
      else move state.session.cursor.skipBlanks) state := rfl
  rw [steps]
  split
  · rename_i stays
    exact ⟨state.session, coherent, (Session.skipBlanks_eq_of_index_eq stays).symm, rfl⟩
  · exact ⟨_, coherent.moved (Cursor.reaches_skipBlanks _), rfl, rfl⟩

/-! ## Scanning -/

/-- The check of numerals never fails. -/
theorem scan_eq (cursor : Cursor) : scan cursor = (Token.scan cursor).mapError .lexical := by
  rw [scan, Token.scan]
  generalize cursor.skipBlanks = here
  cases unread : here.rest with
  | nil => simp [Region.isBeforeDigit, unread]
  | cons point rest =>
    cases isDigit : point.isDigit with
    | false => simp [Region.isBeforeDigit, unread, isDigit]
    | true =>
      have form := Numeral.form?_eq_lexeme unread isDigit
      rw [unread] at form
      simp only [Region.isBeforeDigit, unread, isDigit, if_true, scanNumber, form,
        Token.scanHere, Token.scanNumber]
      split <;> rfl

/-- Looking at a token gives what a scan gives, whether or not it is remembered. -/
theorem peek_of_scan
    (remembers : state.session.Remembers)
    (scanned : Token.scan state.session.cursor = .ok (token, behind)) :
    peek state = .ok token (state.knowing token behind) := by
  obtain ⟨⟨text, cursor, lookahead, marks⟩, _, _, _, _, _⟩ := state
  cases lookahead with
  | none =>
    dsimp only at scanned
    simp only [peek, scan_eq, scanned, Except.mapError]
  | some known =>
    obtain rfl : known = (token, behind) :=
      Except.ok.inj ((remembers known rfl).symm.trans scanned)
    rfl

theorem peek_of_failure
    {failure : Token.Failure}
    (remembers : state.session.Remembers)
    (failed : Token.scan state.session.cursor = .error failure) :
    peek state = .error (.lexical failure) (state.moved state.session.cursor.skipBlanks) := by
  cases known : state.session.lookahead with
  | none => simp only [peek, known, scan_eq, failed, Except.mapError]
  | some pair => cases (remembers pair known).symm.trans failed

/-- Looking at a token makes it known, or no token can be scanned. -/
theorem peek_cases (state : State) :
    (∃ token behind after, peek state = .ok token after ∧
        after.session.lookahead = some (token, behind)) ∨
      ∃ failure after, peek state = .error (.lexical failure) after := by
  unfold peek
  split
  · rename_i token behind known
    exact .inl ⟨token, behind, state, rfl, known⟩
  · rw [scan_eq]
    cases Token.scan state.session.cursor with
    | ok found => exact .inl ⟨found.1, found.2, state.knowing found.1 found.2, rfl, rfl⟩
    | error failure => exact .inr ⟨failure, _, rfl⟩

/-- A token that is known is read without a scan. -/
theorem advance_of_known
    (known : state.session.lookahead = some (token, behind)) :
    advance state = .ok token (state.moved behind) := by
  have looks : peek state = .ok token state := by simp only [peek, known]
  rw [advance, bind_of_ok looks, get_bind, known]
  rfl

/-- Reading a token begins with looking at it. -/
theorem peek_bind_advance : (peek >>= fun _ => advance) = advance := by
  funext state
  rcases peek_cases state with ⟨token, behind, after, looks, known⟩ | ⟨failure, after, looks⟩
  · have looksAgain : peek after = .ok token after := by simp only [peek, known]
    have reads : advance state = _ := bind_of_ok looks _
    rw [bind_of_ok looks, reads]
    exact bind_of_ok looksAgain _
  · have stops : advance state = _ := bind_of_error looks _
    rw [bind_of_error looks, stops]

/-- Wherever a token is read, it has been looked at, and where it begins with a digit, it
is a numeral. -/
theorem advance_ne_violated
    (state after : State)
    (assertion : Assertion) :
    advance state ≠ .error (.violated assertion) after := by
  rw [← peek_bind_advance]
  rcases peek_cases state with ⟨token, behind, known, looks, found⟩ | ⟨failure, known, looks⟩
  · rw [bind_of_ok looks, advance_of_known found]
    exact nofun
  · rw [bind_of_error looks]
    exact nofun

/-- What a scan ahead of a state finds. -/
structure State.Finds (state : State) (token : Token) (behind : Cursor) : Prop where
  /-- The session is coherent. -/
  coherent : state.session.Coherent
  /-- The token is the next one. -/
  scanned : Token.scan state.session.cursor = .ok (token, behind)

theorem State.Finds.knowing
    (found : state.Finds token behind) :
    (state.knowing token behind).session.Coherent := by
  refine ⟨?_, found.coherent.stands⟩
  rintro known ⟨⟩
  exact found.scanned

theorem State.Finds.moved
    (found : state.Finds token behind) :
    (state.moved behind).session.Coherent :=
  found.coherent.moved (Token.reaches_of_scan found.scanned)

/-! ## Agreement of rules -/

/-- A rule comes to what is read at the cursor.  It moves the session and changes nothing
else; where it stops, it leaves the delimiters and the journal as they are. -/
def Agrees (state : State) (outcome : Except Halt (α × Cursor)) (rule : Rule α) : Prop :=
  match outcome with
  | .ok (value, cursor) => ∃ session : Session, session.Coherent ∧ session.cursor = cursor ∧
      rule state = .ok value { state with session := session }
  | .error halt => ∃ after : State, after.delimiters = state.delimiters ∧
      after.journal = state.journal ∧ rule state = .error (.halted halt) after

namespace Agrees

variable {outcome : Except Halt (α × Cursor)} {rule : Rule α}

theorem pure
    (value : α)
    (coherent : state.session.Coherent) :
    Agrees state (Except.ok (value, state.session.cursor)) (Pure.pure value) :=
  ⟨state.session, coherent, rfl, rfl⟩

theorem throw (halt : Halt) :
    Agrees state (Except.error halt : Except Halt (α × Cursor))
      (MonadExcept.throw (Stop.halted halt)) :=
  ⟨state, rfl, rfl, rfl⟩

/-- What a rule does first may move the session. -/
theorem of_step
    (session : Session)
    {next : Rule α}
    (steps : rule state = next { state with session := session })
    (agrees : Agrees { state with session := session } outcome next) :
    Agrees state outcome rule := by
  match outcome, agrees with
  | .ok (value, cursor), ⟨last, coherent, isCursor, read⟩ =>
    exact ⟨last, coherent, isCursor, steps.trans read⟩
  | .error halt, ⟨after, delimiters, journal, stops⟩ =>
    exact ⟨after, delimiters, journal, steps.trans stops⟩

theorem get_bind
    {next : State → Rule α}
    (agrees : Agrees state outcome (next state)) :
    Agrees state outcome (get >>= next) :=
  of_step state.session rfl agrees

/-- A rule is followed by another one, from the session that the first one leaves. -/
theorem bind_of_read
    {further : α × Cursor → Except Halt (β × Cursor)}
    {next : α → Rule β}
    (first : Agrees state outcome rule)
    (rest : ∀ value (session : Session), outcome = .ok (value, session.cursor) →
      session.Coherent →
      Agrees { state with session := session } (further (value, session.cursor)) (next value)) :
    Agrees state (outcome >>= further) (rule >>= next) := by
  match outcome, first with
  | .ok (value, cursor), ⟨session, coherent, isCursor, read⟩ =>
    subst isCursor
    exact of_step session (bind_of_ok read next) (rest value session rfl coherent)
  | .error halt, ⟨after, delimiters, journal, stops⟩ =>
    exact ⟨after, delimiters, journal, bind_of_error stops next⟩

theorem bind
    {further : α × Cursor → Except Halt (β × Cursor)}
    {next : α → Rule β}
    (first : Agrees state outcome rule)
    (rest : ∀ value (session : Session), session.Coherent →
      Agrees { state with session := session } (further (value, session.cursor)) (next value)) :
    Agrees state (outcome >>= further) (rule >>= next) :=
  first.bind_of_read fun value session _ coherent => rest value session coherent

/-- The next token is looked at where it is read. -/
theorem peek_bind
    {further : Token × Cursor → Except Halt (α × Cursor)}
    {next : Token → Rule α}
    (coherent : state.session.Coherent)
    (rest : ∀ token behind, state.Finds token behind →
      Agrees (state.knowing token behind) (further (token, behind)) (next token)) :
    Agrees state (Reading.token state.session.cursor >>= further) (peek >>= next) := by
  cases scanned : Token.scan state.session.cursor with
  | ok found =>
    have looks := peek_of_scan coherent.remembers scanned
    rw [Reading.token_eq_ok.2 scanned, Reading.ok_bind]
    exact of_step _ (bind_of_ok looks next) (rest found.1 found.2 ⟨coherent, scanned⟩)
  | error failure =>
    have looks := peek_of_failure coherent.remembers scanned
    rw [Reading.token, scanned]
    exact ⟨state.moved state.session.cursor.skipBlanks, rfl, rfl, bind_of_error looks next⟩

theorem advance_known (found : state.Finds token behind) :
    Agrees (state.knowing token behind) (Except.ok (token, behind)) advance :=
  ⟨(state.moved behind).session, found.moved, rfl, advance_of_known rfl⟩

/-- The token that was looked at is read. -/
theorem advance_bind
    {next : Token → Rule α}
    (agrees : Agrees (state.moved behind) outcome (next token)) :
    Agrees (state.knowing token behind) outcome (advance >>= next) :=
  of_step (state.session.moved behind) rfl agrees

/-- A token that was looked at is looked at again. -/
theorem peek_known
    {next : Token → Rule α}
    (agrees : Agrees (state.knowing token behind) outcome (next token)) :
    Agrees (state.knowing token behind) outcome (peek >>= next) :=
  of_step (state.knowing token behind).session rfl agrees

/-- A token is read that was not looked at before. -/
theorem token_bind
    {further : Token × Cursor → Except Halt (α × Cursor)}
    {next : Token → Rule α}
    (coherent : state.session.Coherent)
    (rest : ∀ token behind, state.Finds token behind →
      Agrees (state.moved behind) (further (token, behind)) (next token)) :
    Agrees state (Reading.token state.session.cursor >>= further) (advance >>= next) := by
  rw [← peek_bind_advance, bind_assoc]
  exact .peek_bind coherent fun token behind found => .advance_bind (rest token behind found)

/-- A value that does not depend on the state is computed alike. -/
theorem lift_bind
    {further : β → Except Halt (α × Cursor)}
    {next : β → Rule α}
    (result : Except Halt β)
    (rest : ∀ value, Agrees state (further value) (next value)) :
    Agrees state (result >>= further) (lift result >>= next) := by
  cases result with
  | ok value => exact of_step state.session rfl (rest value)
  | error halt => exact ⟨state, rfl, rfl, rfl⟩

/-- A check that holds is passed. -/
theorem check_bind
    {holds : Bool}
    {assertion : Assertion}
    {next : Unit → Rule α}
    (held : holds = true)
    (agrees : Agrees state outcome (next ())) :
    Agrees state outcome (check holds assertion >>= next) := by
  subst held
  exact of_step state.session rfl agrees

theorem ite
    {condition : Prop}
    [Decidable condition]
    {left right : Except Halt (α × Cursor)}
    {leftRule rightRule : Rule α}
    (holds : condition → Agrees state left leftRule)
    (fails : ¬condition → Agrees state right rightRule) :
    Agrees state (if condition then left else right)
      (if condition then leftRule else rightRule) := by
  split
  · rename_i held
    exact holds held
  · rename_i failed
    exact fails failed

end Agrees

end Checked

end Stencil
