import Stencil.Proofs.Checked.Step

/-!
# Expressions read with checks

In an open region the reader with checks comes to what `Stencil.Expression` reads at its
cursor.  It needs one thing more than a coherent session: the closing delimiter that it
keeps is the one that the rules without state are given.

The statements follow the rules one by one; a rule that another one is made of enters its
proof through its own statement only.
-/

namespace Stencil

namespace Checked

variable {state : State} {token : Token} {behind : Cursor}

/-! ## Rules in a region -/

/-- A state in an open region. -/
structure State.Within (state : State) (region : Region) : Prop where
  /-- The session is coherent. -/
  coherent : state.session.Coherent
  /-- The region that is open is the given one. -/
  isOpen : state.regionEnd = some region.closing

variable {region : Region}

theorem State.Within.isAtRegionEnd
    (within : state.Within region) :
    state.isAtRegionEnd = region.isDone state.session.cursor := by
  rw [State.isAtRegionEnd, within.isOpen]
  rfl

theorem State.Within.after
    {session : Session}
    (within : state.Within region)
    (coherent : session.Coherent) :
    State.Within { state with session := session } region :=
  ⟨coherent, within.isOpen⟩

theorem State.Within.deeper
    {depth : Nat}
    (within : state.Within region) :
    State.Within { state with depth := depth } region :=
  ⟨within.coherent, within.isOpen⟩

theorem State.Within.knowing
    (within : state.Within region)
    (found : state.Finds token behind) :
    (state.knowing token behind).Within region :=
  within.after found.knowing

theorem State.Within.moved
    (within : state.Within region)
    (found : state.Finds token behind) :
    (state.moved behind).Within region :=
  within.after found.moved

theorem agrees_identifier
    (calls : Nat)
    (within : state.Within region) :
    Agrees state (region.identifier calls state.session.cursor) (identifier calls) := by
  cases calls with
  | zero => exact .throw _
  | succ calls =>
    refine .peek_bind within.coherent fun token behind found => .get_bind ?_
    rw [(within.knowing found).isAtRegionEnd]
    refine .ite (fun _ => .throw _) fun _ => .ite (fun _ => .throw _) fun _ => ?_
    exact .advance_bind (.pure _ found.moved)

theorem agrees_pathRest
    {name : Cursor → Except Halt (Identifier × Cursor)}
    {nameRule : Rule Identifier}
    (agrees : ∀ state : State, state.Within region →
      Agrees state (name state.session.cursor) nameRule)
    (turns : Nat)
    (within : state.Within region) :
    Agrees state (region.pathRest name turns state.session.cursor) (pathRest nameRule turns) := by
  induction turns generalizing state with
  | zero => exact .throw _
  | succ turns hypothesis =>
    rw [Region.pathRest, pathRest]
    refine .get_bind ?_
    rw [within.isAtRegionEnd]
    refine .ite (fun _ => .pure _ within.coherent) fun _ => ?_
    refine .peek_bind within.coherent fun token behind found => ?_
    refine .ite (fun _ => .advance_bind ?_) fun _ => .pure _ found.knowing
    refine .bind (agrees _ (within.moved found)) fun first session coherent => ?_
    have further := (within.moved found).after coherent
    exact .bind (hypothesis further) fun others session coherent => .pure _ coherent

theorem agrees_path
    (calls : Nat)
    (within : state.Within region) :
    Agrees state (region.path calls state.session.cursor) (path region.grammar calls) := by
  cases calls with
  | zero => exact .throw _
  | succ calls =>
    refine .bind (agrees_identifier calls within) fun first session coherent => ?_
    refine .bind (agrees_pathRest (fun _ => agrees_identifier calls) _ (within.after coherent))
      fun others session coherent => ?_
    exact .pure _ coherent

/-- A sign touches a digit if one stands right behind it. -/
theorem touchesDigit_eq
    {sign : Text}
    (single : sign.length = 1)
    (found : state.Finds token behind) :
    (token.isOperator sign && (state.knowing token behind).touchesDigit token) =
      (token.isOperator sign && Region.isBeforeDigit behind) := by
  cases isSign : token.isOperator sign with
  | false => rfl
  | true =>
    simp only [Token.isOperator, Bool.and_eq_true, decide_eq_true_eq, beq_iff_eq] at isSign
    have scans := Reading.token_eq_ok_iff_scans.1 (Reading.token_eq_ok.2 found.scanned)
    obtain ⟨lexeme, isBehind⟩ := scans.operator_of_kind isSign.1
    obtain ⟨point, rest, unread, -, -⟩ := Token.exists_of_lexeme? lexeme
    have index : behind.index = token.index + 1 := by
      rw [isBehind, isSign.2, single, Cursor.index_forward, unread, scans.index_eq]
      simp
    obtain ⟨name, stands⟩ := found.moved.stands
    obtain ⟨-, -, shown⟩ := stands.eq_ofIndex
    change behind.rest = state.session.text.drop behind.index at shown
    have place : ((token.index : Int) + 1).toNat = behind.index := by omega
    simp only [Bool.true_and, State.touchesDigit, State.knowing, Session.pointAt,
      Region.isBeforeDigit, shown]
    rw [if_neg (by omega), if_neg (by omega), place]
    cases state.session.text.drop behind.index <;> simp

/-- Behind a sign that touches a digit stands a numeral, or no token. -/
theorem agrees_signedNumber
    (value : Text → Except Halt Decimal)
    (position : Position)
    (found : state.Finds token behind)
    (before : Region.isBeforeDigit behind = true) :
    Agrees (state.knowing token behind)
      (do
        let (numeral, behind) ← Reading.token behind
        let number ← value numeral.value
        return (some (position, Literal.number number), behind))
      (do
        let number ← signedNumber value
        return some (position, .number number)) := by
  rw [signedNumber, bind_assoc]
  refine .advance_bind ?_
  rw [bind_assoc]
  refine .token_bind found.moved fun numeral after next => ?_
  have isNumber := Region.kind_of_isBeforeDigit before (Reading.token_eq_ok.2 next.scanned)
  rw [bind_assoc]
  refine .check_bind (by simp [isNumber]) ?_
  exact .lift_bind _ fun number => .pure _ next.moved

theorem agrees_literal
    (calls : Nat)
    (coherent : state.session.Coherent) :
    Agrees state (Region.literal? calls state.session.cursor) (literal? calls) := by
  cases calls with
  | zero => exact .throw _
  | succ calls =>
    refine .peek_bind coherent fun token behind found => .get_bind ?_
    refine .ite (fun _ => .advance_bind (.pure _ found.moved)) fun _ => ?_
    refine .ite (fun _ => .advance_bind (.pure _ found.moved)) fun _ => ?_
    refine .ite (fun _ => .advance_bind (.lift_bind _ fun _ => .pure _ found.moved)) fun _ => ?_
    refine .ite (fun _ => .advance_bind (.pure _ found.moved)) fun _ => ?_
    have minus : (Text.of "-").length = 1 := rfl
    have plus : (Text.of "+").length = 1 := rfl
    rw [touchesDigit_eq minus found, touchesDigit_eq plus found]
    refine .ite (fun touches => ?_) fun _ => ?_
    · exact agrees_signedNumber _ _ found (Bool.and_eq_true_iff.1 touches).2
    refine .ite (fun touches => ?_) fun _ => .pure _ found.knowing
    · exact agrees_signedNumber _ _ found (Bool.and_eq_true_iff.1 touches).2

/-- Where no literal follows, the reader stays. -/
theorem literal_bind
    {further : Option (Position × Literal) × Cursor → Except Halt (α × Cursor)}
    {next : Option (Position × Literal) → Rule α}
    (calls : Nat)
    (coherent : state.session.Coherent)
    (found : ∀ literal (session : Session), session.Coherent →
      Agrees { state with session := session } (further (some literal, session.cursor))
        (next (some literal)))
    (absent : ∀ session : Session, session.Coherent → session.cursor = state.session.cursor →
      Agrees { state with session := session } (further (none, session.cursor)) (next none)) :
    Agrees state (Region.literal? calls state.session.cursor >>= further)
      (literal? calls >>= next) := by
  refine .bind_of_read (agrees_literal calls coherent) fun literal session read still => ?_
  cases literal with
  | some literal => exact found literal session still
  | none =>
    cases calls with
    | zero => cases read
    | succ calls =>
      rcases Region.literal?_passes read with ⟨_, stays⟩ | ⟨isLiteral, _⟩
      · exact absent session still stays
      · cases isLiteral

theorem agrees_pattern
    (calls : Nat)
    (within : state.Within region) :
    Agrees state (region.pattern calls state.session.cursor) (pattern region.grammar calls) := by
  cases calls with
  | zero => exact .throw _
  | succ calls =>
    rw [Region.pattern, pattern]
    refine .get_bind ?_
    rw [within.isAtRegionEnd]
    refine .ite (fun _ => .throw _) fun _ => ?_
    refine .peek_bind within.coherent fun token behind found => ?_
    refine .ite (fun _ => .advance_bind (.pure _ found.moved)) fun _ => ?_
    refine literal_bind calls found.knowing (fun _ _ coherent => .pure _ coherent) ?_
    intro session coherent stays
    refine .ite (fun _ => ?_) fun _ => .throw _
    have here := agrees_path calls ((within.knowing found).after coherent)
    rw [stays] at here
    exact .bind here fun _ _ coherent => .pure _ coherent

theorem agrees_filterName
    (operator : Operator)
    (symbol : Token)
    (calls : Nat)
    (within : state.Within region) :
    Agrees state (region.filterName operator symbol calls state.session.cursor)
      (filterName region.grammar operator symbol calls) := by
  cases calls with
  | zero => exact .throw _
  | succ calls =>
    refine .peek_bind within.coherent fun token behind found => .get_bind ?_
    rw [(within.knowing found).isAtRegionEnd]
    refine .ite (fun _ => .throw _) fun _ => .ite (fun _ => .throw _) fun _ => ?_
    refine .advance_bind (.get_bind ?_)
    rw [(within.moved found).isAtRegionEnd]
    refine .ite (fun _ => .pure _ found.moved) fun _ => ?_
    refine .peek_bind found.moved fun following after next => ?_
    exact .ite (fun _ => .throw _) fun _ => .pure _ next.knowing

theorem agrees_operatorTail
    {filter : Operator → Token → Cursor → Except Halt (Text × Cursor)}
    {operand : Int → Cursor → Except Halt (Node × Cursor)}
    {filterRule : Operator → Token → Rule Text}
    {operandRule : Int → Rule Node}
    {depth : Nat}
    (agreesFilter : ∀ operator symbol (state : State), state.Within region →
      Agrees state (filter operator symbol state.session.cursor) (filterRule operator symbol))
    (agreesOperand : ∀ least (state : State), state.Within region → state.depth = depth →
      Agrees state (operand least state.session.cursor) (operandRule least))
    (least : Int)
    (turns : Nat)
    (left : Node)
    (within : state.Within region)
    (deep : state.depth = depth) :
    Agrees state (region.operatorTail filter operand least turns left state.session.cursor)
      (operatorTail region.grammar filterRule operandRule least turns left) := by
  induction turns generalizing state left with
  | zero => exact .throw _
  | succ turns hypothesis =>
    rw [Region.operatorTail, operatorTail]
    refine .get_bind ?_
    rw [within.isAtRegionEnd]
    refine .ite (fun _ => .pure _ within.coherent) fun _ => ?_
    refine .peek_bind within.coherent fun token behind found => ?_
    refine .ite (fun _ => .pure _ found.knowing) fun _ => ?_
    cases region.grammar.operators.find? token.value with
    | none => exact .ite (fun _ => .throw _) fun _ => .throw _
    | some operator =>
      refine .ite (fun _ => .pure _ found.knowing) fun _ => .advance_bind ?_
      have behindIt := within.moved found
      cases operator.role with
      | filter =>
        refine .bind (agreesFilter operator token _ behindIt) fun name session coherent => ?_
        exact hypothesis _ (behindIt.after coherent) deep
      | binary =>
        refine .bind (agreesOperand _ _ behindIt deep) fun right session coherent => ?_
        exact hypothesis _ (behindIt.after coherent) deep

theorem agrees_expect
    (kind : Token.Kind)
    (expected : Expectation)
    (coherent : state.session.Coherent) :
    Agrees state (Reading.expect kind expected state.session.cursor) (expect kind expected) := by
  refine .peek_bind coherent fun token behind found => ?_
  exact .ite (fun _ => .advance_known found) fun _ => .throw _

theorem agrees_expectOperator
    (symbol : Text)
    (coherent : state.session.Coherent) :
    Agrees state (Reading.expectOperator symbol state.session.cursor) (expectOperator symbol) := by
  refine .peek_bind coherent fun token behind found => ?_
  exact .ite (fun _ => .advance_known found) fun _ => .throw _

/-- The check that a word is a keyword holds of every word that the rules look for. -/
theorem peekIsKeyword_eq
    {word : Text}
    (reserved : keywords.contains word = true) :
    peekIsKeyword word = (do
      let token ← peek
      return token.isWord word) := by
  rw [peekIsKeyword, reserved]
  rfl

theorem agrees_expectKeyword
    {word : Text}
    (reserved : keywords.contains word = true)
    (within : state.Within region) :
    Agrees state (region.keyword word state.session.cursor) (expectKeyword word) := by
  simp only [expectKeyword, peekIsKeyword_eq reserved, bind_assoc, pure_bind]
  refine .peek_bind within.coherent fun token behind found => .get_bind ?_
  have ends : (state.knowing token behind).isAtRegionEnd = region.isDone state.session.cursor :=
    (within.knowing found).isAtRegionEnd
  rw [ends]
  dsimp only
  cases region.isDone state.session.cursor with
  | true => exact .throw _
  | false =>
    refine .peek_known ?_
    cases token.isWord word with
    | true => exact .advance_known found
    | false => exact .throw _

theorem Agrees.skipBlanks_bind
    {outcome : Except Halt (α × Cursor)}
    {next : Unit → Rule α}
    (coherent : state.session.Coherent)
    (rest : ∀ session : Session, session.Coherent →
      session.cursor = state.session.cursor.skipBlanks →
      Agrees { state with session := session } outcome (next ())) :
    Agrees state outcome (skipBlanks >>= next) := by
  obtain ⟨session, still, isCursor, skips⟩ := skipBlanks_eq_ok coherent
  exact .of_step session (bind_of_ok skips next) (rest session still isCursor)

theorem Agrees.consume_bind
    {outcome : Except Halt (α × Cursor)}
    {literal : Text}
    {next : Bool → Rule α}
    (coherent : state.session.Coherent)
    (found : ∀ behind, state.session.cursor.consume? literal = some behind →
      (state.moved behind).session.Coherent → Agrees (state.moved behind) outcome (next true))
    (absent : state.session.cursor.consume? literal = none → Agrees state outcome (next false)) :
    Agrees state outcome (consume literal >>= next) := by
  have consumes := consume_eq literal state
  cases begins : state.session.cursor.consume? literal with
  | none =>
    rw [begins] at consumes
    exact .of_step state.session (bind_of_ok consumes next) (absent begins)
  | some behind =>
    rw [begins] at consumes
    refine .of_step (state.session.moved behind) (bind_of_ok consumes next) (found behind begins ?_)
    exact coherent.moved (Cursor.eq_forward_of_consume? begins ▸ Cursor.reaches_forward _ _)

/-- The closing delimiter of a region is read behind blanks. -/
theorem agrees_expectLiteral
    (region : Region)
    (coherent : state.session.Coherent) :
    Agrees state (region.close state.session.cursor)
      (expectLiteral region.closing (.literal region.closing)) := by
  refine .skipBlanks_bind coherent fun session still isCursor => ?_
  rw [Region.close, ← isCursor]
  refine .consume_bind still (fun behind begins within => ?_) fun begins => ?_
  · simp only [begins]
    exact .pure _ within
  · simp only [begins]
    exact .peek_bind still fun token behind found => .throw _

/-! ## Nesting -/

theorem nested_of_limited
    {grammar : Grammar}
    (rule : Rule α)
    (limited : grammar.limit < state.depth + 1) :
    nested grammar rule state =
      fail (.nestedTooDeeply grammar.limit) state.session.cursor.position state := by
  have stops : enter grammar state =
      fail (.nestedTooDeeply grammar.limit) state.session.cursor.position state := by
    change (if _ then _ else _ : Rule Unit) state = _
    rw [if_pos limited]
  exact bind_of_error stops _

theorem nested_of_allowed
    {grammar : Grammar}
    (rule : Rule α)
    (allowed : ¬ grammar.limit < state.depth + 1) :
    nested grammar rule state = leaving rule { state with depth := state.depth + 1 } := by
  have enters : enter grammar state = .ok () { state with depth := state.depth + 1 } := by
    change (if _ then _ else _ : Rule Unit) state = _
    rw [if_neg allowed]
    rfl
  exact bind_of_ok enters _

theorem leaving_of_ok
    {rule : Rule α}
    {value : α}
    {last : State}
    (reads : rule state = .ok value last) :
    leaving rule state = .ok value { last with depth := last.depth - 1 } := by
  rw [leaving, reads]

theorem leaving_of_error
    {rule : Rule α}
    {stop : Stop}
    {last : State}
    (stops : rule state = .error stop last) :
    leaving rule state = .error stop { last with depth := last.depth - 1 } := by
  rw [leaving, stops]

/-- A rule runs one level deeper, unless that is too deep. -/
theorem Agrees.nested_bind
    {grammar : Grammar}
    {inner : Nat → Except Halt (α × Cursor)}
    {rule : Rule α}
    {further : α × Cursor → Except Halt (β × Cursor)}
    {next : α → Rule β}
    (agrees : Agrees { state with depth := state.depth + 1 } (inner (state.depth + 1)) rule)
    (rest : ∀ value (session : Session), session.Coherent →
      Agrees { state with session := session } (further (value, session.cursor)) (next value)) :
    Agrees state
      (Reading.nest grammar state.depth state.session.cursor.position >>= fun depth =>
        inner depth >>= further)
      (nested grammar rule >>= next) := by
  rw [← bind_assoc, Reading.nest]
  refine .bind ?_ rest
  split
  · rename_i limited
    exact ⟨state, rfl, rfl, nested_of_limited rule limited⟩
  · rename_i allowed
    have runs := nested_of_allowed rule allowed
    rw [Reading.ok_bind]
    match inner (state.depth + 1), agrees with
    | .ok (value, cursor), ⟨session, coherent, isCursor, read⟩ =>
      exact ⟨session, coherent, isCursor, runs.trans (leaving_of_ok read)⟩
    | .error halt, ⟨after, delimiters, journal, stops⟩ =>
      exact ⟨{ after with depth := after.depth - 1 }, delimiters, journal,
        runs.trans (leaving_of_error stops)⟩

/-- The rules of expressions agree, with some number of calls. -/
structure RulesAgree (region : Region) (calls : Nat) : Prop where
  /-- Expressions. -/
  expression : ∀ (least : Int) (state : State), state.Within region →
    Agrees state (region.expression calls state.depth least state.session.cursor)
      (expression region.grammar calls least)
  /-- Operands with the operators before them. -/
  unary : ∀ state : State, state.Within region →
    Agrees state (region.unary calls state.depth state.session.cursor)
      (unary region.grammar calls)
  /-- Operands. -/
  atom : ∀ state : State, state.Within region →
    Agrees state (region.atom calls state.depth state.session.cursor)
      (atom region.grammar calls)

theorem rulesAgree (region : Region) (calls : Nat) : RulesAgree region calls := by
  induction calls with
  | zero => exact ⟨fun _ _ _ => .throw _, fun _ _ => .throw _, fun _ _ => .throw _⟩
  | succ calls hypothesis =>
    refine ⟨fun least state within => ?_, fun state within => ?_, fun state within => ?_⟩
    · refine .bind (hypothesis.unary state within) fun left session coherent => ?_
      refine agrees_operatorTail (fun operator symbol _ => agrees_filterName operator symbol calls)
        (fun least state within deep => ?_) least _ left (within.after coherent) rfl
      exact deep ▸ hypothesis.expression least state within
    · rw [Region.unary, unary]
      refine .get_bind ?_
      rw [within.isAtRegionEnd]
      refine .ite (fun _ => hypothesis.atom state within) fun _ => ?_
      refine .peek_bind within.coherent fun token behind found => ?_
      refine .ite (fun _ => ?_) fun _ => hypothesis.atom _ (within.knowing found)
      refine .advance_bind (.nested_bind ?_ fun _ _ coherent => .pure _ coherent)
      exact hypothesis.unary _ (within.moved found).deeper
    · rw [Region.atom, atom]
      refine .get_bind ?_
      rw [within.isAtRegionEnd]
      refine .ite (fun _ => .throw _) fun _ => ?_
      refine .peek_bind within.coherent fun token behind found => ?_
      refine .ite (fun _ => ?_) fun _ => ?_
      · refine .advance_bind (.nested_bind ?_ fun inner session coherent => ?_)
        · exact hypothesis.expression 1 _ (within.moved found).deeper
        · exact .bind (agrees_expect _ _ coherent) fun _ _ coherent => .pure _ coherent
      · refine literal_bind calls found.knowing (fun _ _ coherent => .pure _ coherent) ?_
        intro session coherent stays
        refine .ite (fun _ => ?_) fun _ => .throw _
        have here := agrees_path calls ((within.knowing found).after coherent)
        rw [stays] at here
        exact .bind here fun _ _ coherent => .pure _ coherent

end Checked
end Stencil
