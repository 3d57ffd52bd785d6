import Stencil.Proofs.Failure.Document

/-!
# Where rules are opened

The rules for expressions and for documents open each other.  Here each of them is
given the rules that it opens, whatever they are.  If it comes to the same with two
families of rules that agree at certain places, then it opens rules at no other
place.  The main statements say which places these are: every rule that opens itself,
through others or not, does so further on in the source, and at one and the same
place an expression opens an operand with its prefix operators, this the operand
alone, a document its parts, and these their blocks.
-/

namespace Stencil

/-! ## Expressions -/

namespace Reading

/-- Two outcomes of reading from a cursor are the same, and where something is read,
it ends at the cursor or behind it. -/
def Alike (cursor : Cursor) (first second : Except Halt (α × Cursor)) : Prop :=
  first = second ∧ ∀ value finish, first = .ok (value, finish) → cursor.Reaches finish

variable {cursor middle : Cursor}

theorem Alike.refl
    {outcome : Except Halt (α × Cursor)}
    (forward : ∀ value finish, outcome = .ok (value, finish) → cursor.Reaches finish) :
    Alike cursor outcome outcome :=
  ⟨rfl, forward⟩

theorem Alike.error (halt : Halt) :
    Alike cursor (.error halt : Except Halt (α × Cursor)) (.error halt) :=
  .refl nofun

theorem Alike.ok (value : α) (reaches : cursor.Reaches middle) :
    Alike cursor (.ok (value, middle)) (.ok (value, middle)) := by
  refine .refl ?_
  rintro _ _ ⟨⟩
  exact reaches

/-- What is read further on is read from here. -/
theorem Alike.from
    {first second : Except Halt (α × Cursor)}
    (reaches : cursor.Reaches middle)
    (alike : Alike middle first second) :
    Alike cursor first second :=
  ⟨alike.1, fun value finish success => reaches.trans (alike.2 value finish success)⟩

/-- A step that reads nothing does not matter. -/
theorem Alike.bind_same
    {outcome : Except Halt β}
    {first second : β → Except Halt (α × Cursor)}
    (far : ∀ value, outcome = .ok value → Alike cursor (first value) (second value)) :
    Alike cursor (outcome >>= first) (outcome >>= second) := by
  cases found : outcome with
  | error halt => exact .error halt
  | ok value => exact far value found

/-- Two steps are alike if each of them is, the second at what the first has read. -/
theorem Alike.bind
    {near near' : Except Halt (β × Cursor)}
    {far far' : β × Cursor → Except Halt (α × Cursor)}
    (first : Alike cursor near near')
    (second : ∀ value middle, near = .ok (value, middle) → cursor.Reaches middle →
      Alike middle (far (value, middle)) (far' (value, middle))) :
    Alike cursor (near >>= far) (near' >>= far') := by
  obtain ⟨rfl, forward⟩ := first
  refine .bind_same ?_
  rintro ⟨value, middle⟩ success
  have reaches := forward value middle success
  exact (second value middle success reaches).from reaches

end Reading

namespace Region

open Reading (Alike)

/-- Rules for expressions, which read at a depth from a cursor. -/
structure Rules where
  /-- An expression whose operators have at least a precedence. -/
  expression : Nat → Int → Cursor → Except Halt (Node × Cursor)
  /-- An operand with the operators before it. -/
  unary : Nat → Cursor → Except Halt (Node × Cursor)
  /-- An operand. -/
  atom : Nat → Cursor → Except Halt (Node × Cursor)

/-- The rules for expressions of a region. -/
def rules (region : Region) (calls : Nat) : Rules :=
  ⟨region.expression calls, region.unary calls, region.atom calls⟩

/-- The rules for expressions of a region, given the rules that they open. -/
def opening (region : Region) (calls : Nat) (inner : Rules) : Rules where
  expression depth least cursor := do
    let (left, cursor) ← inner.unary depth cursor
    region.operatorTail
      (fun operator symbol => region.filterName operator symbol calls)
      (inner.expression depth) least region.grammar.turns left cursor
  unary depth cursor :=
    if region.isDone cursor then inner.atom depth cursor
    else do
      let (token, behind) ← Reading.token cursor
      if token.kind = .operator && isPrefixOperator token.value then
        let depth ← Reading.nest region.grammar depth behind.position
        let (operand, cursor) ← inner.unary depth behind
        return (Node.call token.position token.value operand, cursor)
      else inner.atom depth cursor
  atom depth cursor :=
    if region.isDone cursor then Reading.fail (.missing .expression) cursor.position
    else do
      let (token, behind) ← Reading.token cursor
      if token.kind = .opening then
        let depth ← Reading.nest region.grammar depth behind.position
        let (inner, cursor) ← inner.expression depth 1 behind
        let (_, cursor) ← Reading.expect .closing (.literal (Text.of ")")) cursor
        return (inner, cursor)
      else
        match ← literal? calls cursor with
        | (some (position, literal), cursor) => return (.literal position literal, cursor)
        | (none, _) =>
          if token.kind = .identifier then
            let (path, cursor) ← region.path calls cursor
            return (.reference path.reference, cursor)
          else Reading.unexpected .expression token

theorem rules_succ (region : Region) (calls : Nat) :
    region.rules (calls + 1) = region.opening calls (region.rules calls) := by
  have ofExpression : region.expression (calls + 1) =
      (region.opening calls (region.rules calls)).expression := by
    funext depth least cursor
    rw [expression]
    rfl
  have ofUnary : region.unary (calls + 1) =
      (region.opening calls (region.rules calls)).unary := by
    funext depth cursor
    rw [unary]
    rfl
  have ofAtom : region.atom (calls + 1) = (region.opening calls (region.rules calls)).atom := by
    funext depth cursor
    rw [atom]
    rfl
  rw [rules, ofExpression, ofUnary, ofAtom]

/-- Two families of rules are alike at every place behind a cursor. -/
structure Rules.AlikeBehind (here : Cursor) (first second : Rules) : Prop where
  expression : ∀ depth least cursor, here.Passes cursor →
    Alike cursor (first.expression depth least cursor) (second.expression depth least cursor)
  unary : ∀ depth cursor, here.Passes cursor →
    Alike cursor (first.unary depth cursor) (second.unary depth cursor)
  atom : ∀ depth cursor, here.Passes cursor →
    Alike cursor (first.atom depth cursor) (second.atom depth cursor)

variable {region : Region} {calls : Nat}

theorem identifier_reaches
    {cursor finish : Cursor}
    {name : Identifier}
    (success : region.identifier calls cursor = .ok (name, finish)) :
    cursor.Reaches finish := by
  cases calls with
  | zero => cases success
  | succ calls => exact (identifier_passes success).1

/-- The loop over operators asks for right operands behind the place it begins at. -/
theorem alike_operatorTail
    {here : Cursor}
    {operand operand' : Int → Cursor → Except Halt (Node × Cursor)}
    (operands : ∀ least cursor, here.Passes cursor →
      Alike cursor (operand least cursor) (operand' least cursor))
    (least : Int)
    (turns : Nat)
    (left : Node)
    (cursor : Cursor)
    (reaches : here.Reaches cursor) :
    Alike cursor
      (region.operatorTail (fun operator symbol => region.filterName operator symbol calls)
        operand least turns left cursor)
      (region.operatorTail (fun operator symbol => region.filterName operator symbol calls)
        operand' least turns left cursor) := by
  induction turns generalizing left cursor with
  | zero => exact .error _
  | succ turns hypothesis =>
    rw [operatorTail, operatorTail]
    split
    · exact .ok _ (.refl _)
    · refine .bind_same ?_
      rintro ⟨token, behind⟩ scanned
      dsimp only
      split
      · exact .ok _ (.refl _)
      · rename_i isOperator
        rw [ne_eq, Decidable.not_not] at isOperator
        have passes := Reading.token_passes scanned (by simp [isOperator])
        have behindHere := reaches.trans_passes passes
        cases region.grammar.operators.find? token.value with
        | none =>
          dsimp only
          split
          · exact .error _
          · exact .error _
        | some operator =>
          dsimp only
          split
          · exact .ok _ (.refl _)
          · refine .from passes.1 ?_
            cases operator.role with
            | filter =>
              refine .bind (.refl fun _ _ named => ?_) ?_
              · cases calls with
                | zero => cases named
                | succ calls => exact (filterName_passes named).1
              · intro name middle _ reached
                exact hypothesis _ _ (behindHere.1.trans reached)
            | binary =>
              refine .bind (operands _ _ behindHere) ?_
              intro right middle _ reached
              exact hypothesis _ _ (behindHere.1.trans reached)

/-- An expression opens an operand with its prefix operators where it begins, and
expressions behind that place. -/
theorem Rules.AlikeBehind.expression_opening
    {here : Cursor}
    {first second : Rules}
    (behind : AlikeBehind here first second)
    (depth : Nat)
    (least : Int)
    (sameUnary : Alike here (first.unary depth here) (second.unary depth here)) :
    Alike here ((region.opening calls first).expression depth least here)
      ((region.opening calls second).expression depth least here) := by
  refine .bind sameUnary ?_
  intro left middle _ reaches
  exact alike_operatorTail (behind.expression depth) least _ left middle reaches

/-- An operand with its prefix operators opens the operand where it begins, and else
itself behind that place. -/
theorem Rules.AlikeBehind.unary_opening
    {here : Cursor}
    {first second : Rules}
    (behind : AlikeBehind here first second)
    (depth : Nat)
    (sameAtom : Alike here (first.atom depth here) (second.atom depth here)) :
    Alike here ((region.opening calls first).unary depth here)
      ((region.opening calls second).unary depth here) := by
  simp only [opening]
  split
  · exact sameAtom
  · refine .bind_same ?_
    rintro ⟨token, after⟩ scanned
    dsimp only
    split
    · rename_i before
      rw [Bool.and_eq_true, decide_eq_true_eq] at before
      have passes := Reading.token_passes scanned (by simp [before.1])
      refine .bind_same fun deeper _ => .from passes.1 ?_
      refine .bind (behind.unary deeper after passes) ?_
      intro operand finish _ _
      exact .ok _ (.refl _)
    · exact sameAtom

/-- An operand opens the expression in its parentheses behind the place where it
begins. -/
theorem Rules.AlikeBehind.atom_opening
    {here : Cursor}
    {first second : Rules}
    (behind : AlikeBehind here first second)
    (depth : Nat) :
    Alike here ((region.opening calls first).atom depth here)
      ((region.opening calls second).atom depth here) := by
  simp only [opening]
  split
  · exact .error _
  · refine .bind_same ?_
    rintro ⟨token, after⟩ scanned
    dsimp only
    split
    · rename_i isOpening
      have passes := Reading.token_passes scanned (by simp [isOpening])
      refine .bind_same fun deeper _ => .from passes.1 ?_
      refine .bind (behind.expression deeper 1 after passes) ?_
      intro inner middle _ _
      refine .bind (.refl fun _ _ closed => (Document.expect_passes closed nofun).1) ?_
      intro last finish _ _
      exact .ok _ (.refl _)
    · refine .bind_same ?_
      rintro ⟨found, finish⟩ read
      obtain ⟨calls, rfl⟩ : ∃ fewer, calls = fewer + 1 := by
        cases calls with
        | zero => cases read
        | succ calls => exact ⟨calls, rfl⟩
      rcases literal?_passes read with ⟨rfl, rfl⟩ | ⟨isSome, passes⟩
      · dsimp only
        split
        · refine .bind (.refl fun _ _ found => (Path.of_path found).passes.1) ?_
          intro path finish _ _
          exact .ok _ (.refl _)
        · exact .error _
      · obtain ⟨literal, rfl⟩ := Option.isSome_iff_exists.1 isSome
        exact .ok _ passes.1

end Region

/-! ## Documents -/

namespace Document

/-- Two rules come to the same in a state, and where they have a value, it ends at the
cursor or behind it. -/
def Rule.Alike (state : State) (first second : Rule α) : Prop :=
  first state = second state ∧
    ∀ value after, first state = .ok value after → state.cursor.Reaches after.cursor

open Rule (Alike)

section Alike

variable {state : State}

theorem Rule.Alike.refl
    {rule : Rule α}
    (forward : ∀ value after, rule state = .ok value after →
      state.cursor.Reaches after.cursor) :
    Alike state rule rule :=
  ⟨rfl, forward⟩

theorem Rule.Alike.pure (value : α) : Alike state (pure value) (pure value) := by
  refine .refl ?_
  rintro _ _ ⟨⟩
  exact .refl _

theorem Rule.Alike.fail (cause : Cause) (position : Position) :
    Alike state (fail cause position : Rule α) (fail cause position) :=
  .refl nofun

theorem Rule.Alike.throw (halt : Halt) :
    Alike state (throw halt : Rule α) (throw halt) :=
  .refl nofun

theorem Rule.Alike.get_bind
    {first second : State → Rule α}
    (alike : Alike state (first state) (second state)) :
    Alike state (get >>= first) (get >>= second) :=
  alike

/-- Two rules in sequence are alike if each of them is, the second where the first
ends. -/
theorem Rule.Alike.bind
    {near near' : Rule β}
    {far far' : β → Rule α}
    (first : Alike state near near')
    (second : ∀ value middle, near state = .ok value middle →
      state.cursor.Reaches middle.cursor → Alike middle (far value) (far' value)) :
    Alike state (near >>= far) (near' >>= far') := by
  obtain ⟨same, forward⟩ := first
  simp only [Alike, Bind.bind, EStateM.bind, ← same]
  cases outcome : near state with
  | error halt after => exact ⟨rfl, nofun⟩
  | ok value middle =>
    have reaches := forward value middle outcome
    obtain ⟨sameFar, farForward⟩ := second value middle outcome reaches
    exact ⟨sameFar, fun result after success => reaches.trans (farForward result after success)⟩

theorem Rule.Alike.reading
    {rule : Cursor → Except Halt (α × Cursor)}
    (forward : ∀ value finish, rule state.cursor = .ok (value, finish) →
      state.cursor.Reaches finish) :
    Alike state (reading rule) (reading rule) := by
  refine .refl ?_
  intro value after success
  obtain ⟨finish, read, rfl⟩ := reading_eq_ok.1 success
  exact forward value finish read

/-- A tag is entered, and the rest follows at a place that is further on. -/
theorem Rule.Alike.openTag_bind
    {keyword : Text}
    {far far' : Position → Rule α}
    (second : ∀ opener opened, openTag keyword state = .ok opener opened →
      state.cursor.Passes opened.cursor → Alike opened (far opener) (far' opener)) :
    Alike state (openTag keyword >>= far) (openTag keyword >>= far') := by
  refine .bind (.refl fun _ _ entered => (passes_of_openTag entered).1) ?_
  intro opener opened entered _
  exact second opener opened entered (passes_of_openTag entered)

end Alike

/-! ### Rules that open none of the rules for documents -/

variable {grammar : Grammar} {calls depth : Nat} {state : State}

theorem alike_closeTag : Alike state (closeTag grammar) (closeTag grammar) :=
  .get_bind (.reading fun _ _ closes => (Region.close_passes (Pair.closing_ne_nil _) closes).1)

theorem alike_expressionTag :
    Alike state (expressionTag grammar calls depth) (expressionTag grammar calls depth) := by
  refine .refl fun node after success => ?_
  obtain ⟨finish, behind, read, closes, rfl⟩ := expressionTag_eq_ok.1 success
  have reaches := ((Region.Reads.of_rules _ calls).1 read).progress.1
  exact reaches.trans (Region.close_passes (Pair.closing_ne_nil _) closes).1

theorem alike_patternTag : Alike state (patternTag grammar calls) (patternTag grammar calls) := by
  refine .refl fun pattern after success => ?_
  obtain ⟨finish, behind, read, closes, rfl⟩ := patternTag_eq_ok.1 success
  have reaches := (Region.Matches.of_pattern read).passes.1
  exact reaches.trans (Region.close_passes (Pair.closing_ne_nil _) closes).1

theorem alike_expectTerminator
    {terminator : Text}
    {construct : Construct}
    {opener : Position} :
    Alike state (expectTerminator grammar terminator construct opener)
      (expectTerminator grammar terminator construct opener) := by
  refine .get_bind ?_
  split
  · exact .openTag_bind fun _ _ _ _ => alike_closeTag
  · exact .fail _ _

theorem alike_insertion :
    Alike state (insertion grammar depth calls) (insertion grammar depth calls) := by
  refine .refl fun node after success => ?_
  cases calls with
  | zero => cases success
  | succ calls =>
    obtain ⟨finish, behind, read, closes, rfl⟩ := insertion_eq_ok.1 success
    have reaches := ((Region.Reads.of_rules _ calls).1 read).progress.1
    exact (Cursor.reaches_forward _ _).trans
      (reaches.trans (Region.close_passes (Pair.closing_ne_nil _) closes).1)

theorem alike_comment : Alike state comment comment := by
  refine .refl fun _ after success => ?_
  obtain ⟨before, behind, through, rfl⟩ := comment_eq_ok.1 success
  exact (Cursor.reaches_forward _ _).trans (Cursor.reaches_of_readThrough? through)

theorem alike_pragma : Alike state (pragma grammar calls) (pragma grammar calls) := by
  refine .refl fun _ after success => ?_
  cases calls with
  | zero => cases success
  | succ calls =>
    obtain ⟨changes, finish, behind, delimiters, listed, closes, changed, rfl⟩ :=
      pragma_eq_ok.1 success
    have reaches := (Changes.of_pragmaChanges listed).passes.1
    exact (Cursor.reaches_forward _ _).trans
      (reaches.trans (Region.close_passes (Pair.closing_ne_nil _) closes).1)

theorem alike_skipToAlternatives (turns : Nat) :
    Alike state (skipToAlternatives grammar turns) (skipToAlternatives grammar turns) := by
  refine .refl fun _ after success => ?_
  obtain ⟨gap, steps, _⟩ := Steps.of_skipToAlternatives success
  exact steps.reaches

/-! ### Blocks -/

/-- Rules for documents, which read at a depth. -/
structure Rules where
  /-- A document. -/
  document : Nat → Rule Node
  /-- The parts of a document. -/
  parts : Nat → Rule (List Node)
  /-- A block. -/
  block : Nat → Construct → Rule Node
  /-- The body for all other cases, if there is one. -/
  otherwise : Nat → Rule (Option Node)

/-- The rules for documents. -/
def rules (grammar : Grammar) (calls : Nat) : Rules :=
  ⟨document grammar calls, parts grammar calls, block grammar calls, otherwise grammar calls⟩

/-- The rules for documents, given the rules that they open. -/
def opening (grammar : Grammar) (calls : Nat) (inner : Rules) : Rules where
  document depth := do
    let position := (← get).cursor.position
    match Reading.nest grammar depth position with
    | .error halt => throw halt
    | .ok depth =>
      let collected ← inner.parts depth
      return Node.sequenced position collected
  parts depth :=
    collectParts grammar (insertion grammar depth calls) (pragma grammar calls)
      (inner.block depth) grammar.turns []
  block depth
    | .conditional =>
      conditional grammar (expressionTag grammar calls depth) (inner.document depth)
        (inner.otherwise depth)
    | .selection =>
      selection grammar (expressionTag grammar calls depth) (patternTag grammar calls)
        (inner.document depth) (inner.otherwise depth)
    | .loop => loop grammar calls (inner.document depth) (inner.otherwise depth)
    | .binding => binding grammar calls (expressionTag grammar calls depth) (inner.document depth)
    | .inclusion => inclusion grammar (expressionTag grammar calls depth)
  otherwise depth := do
    let state ← get
    if state.isAtTag grammar.order (Text.of "else") then
      let _ ← openTag (Text.of "else")
      closeTag grammar
      let body ← inner.document depth
      return some body
    else return none

theorem rules_succ (grammar : Grammar) (calls : Nat) :
    rules grammar (calls + 1) = opening grammar calls (rules grammar calls) := by
  have ofDocument : document grammar (calls + 1) =
      (opening grammar calls (rules grammar calls)).document := by
    funext depth
    rw [document]
    rfl
  have ofParts : parts grammar (calls + 1) =
      (opening grammar calls (rules grammar calls)).parts := by
    funext depth
    rw [parts]
    rfl
  have ofBlock : block grammar (calls + 1) =
      (opening grammar calls (rules grammar calls)).block := by
    funext depth construct
    cases construct <;> rw [block] <;> rfl
  have ofOtherwise : otherwise grammar (calls + 1) =
      (opening grammar calls (rules grammar calls)).otherwise := by
    funext depth
    rw [otherwise]
    rfl
  rw [rules, ofDocument, ofParts, ofBlock, ofOtherwise]

/-- Two rules are alike in every state behind a cursor. -/
def Rule.AlikeBehind (here : Cursor) (first second : Rule α) : Prop :=
  ∀ state, here.Passes state.cursor → Alike state first second

open Rule (AlikeBehind)

section Blocks

variable
  {here : Cursor}
  {body body' : Rule Node}
  {default default' : Rule (Option Node)}
  (bodies : AlikeBehind here body body')
  (defaults : AlikeBehind here default default')

include bodies in
theorem alike_furtherBranches
    (turns : Nat)
    (behind : here.Passes state.cursor) :
    Alike state (furtherBranches grammar (expressionTag grammar calls depth) body turns)
      (furtherBranches grammar (expressionTag grammar calls depth) body' turns) := by
  induction turns generalizing state with
  | zero => exact .throw _
  | succ turns hypothesis =>
    refine .get_bind ?_
    split
    · refine .openTag_bind fun _ first _ passes => ?_
      refine .bind alike_expressionTag fun _ second _ reaches => ?_
      have behind := (behind.trans passes).trans_reaches reaches
      refine .bind (bodies second behind) fun _ third _ reaches => ?_
      have behind := behind.trans_reaches reaches
      exact .bind (hypothesis behind) fun _ _ _ _ => .pure _
    · exact .pure _

include bodies in
theorem alike_alternatives
    (turns : Nat)
    (behind : here.Passes state.cursor) :
    Alike state (alternatives grammar (patternTag grammar calls) body turns)
      (alternatives grammar (patternTag grammar calls) body' turns) := by
  induction turns generalizing state with
  | zero => exact .throw _
  | succ turns hypothesis =>
    refine .get_bind ?_
    split
    · refine .openTag_bind fun _ first _ passes => ?_
      refine .bind alike_patternTag fun _ second _ reaches => ?_
      have behind := (behind.trans passes).trans_reaches reaches
      refine .bind (bodies second behind) fun _ third _ reaches => ?_
      have behind := behind.trans_reaches reaches
      exact .bind (hypothesis behind) fun _ _ _ _ => .pure _
    · exact .pure _

include bodies defaults in
theorem alike_conditional (starts : state.cursor = here) :
    Alike state (conditional grammar (expressionTag grammar calls depth) body default)
      (conditional grammar (expressionTag grammar calls depth) body' default') := by
  subst starts
  refine .openTag_bind fun _ first _ passes => ?_
  refine .bind alike_expressionTag fun _ second _ reaches => ?_
  have behind := passes.trans_reaches reaches
  refine .bind (bodies second behind) fun _ third _ reaches => ?_
  have behind := behind.trans_reaches reaches
  refine .bind (alike_furtherBranches bodies _ behind) fun _ fourth _ reaches => ?_
  have behind := behind.trans_reaches reaches
  refine .bind (defaults fourth behind) fun _ _ _ _ => ?_
  exact .bind alike_expectTerminator fun _ _ _ _ => .pure _

include bodies defaults in
theorem alike_selection (starts : state.cursor = here) :
    Alike state
      (selection grammar (expressionTag grammar calls depth) (patternTag grammar calls) body
        default)
      (selection grammar (expressionTag grammar calls depth) (patternTag grammar calls) body'
        default') := by
  subst starts
  refine .openTag_bind fun _ first _ passes => ?_
  refine .bind alike_expressionTag fun _ second _ reaches => ?_
  have behind := passes.trans_reaches reaches
  refine .bind (alike_skipToAlternatives _) fun _ third _ reaches => ?_
  have behind := behind.trans_reaches reaches
  refine .bind (alike_alternatives bodies _ behind) fun _ fourth _ reaches => ?_
  have behind := behind.trans_reaches reaches
  refine .bind (defaults fourth behind) fun _ _ _ _ => ?_
  exact .bind alike_expectTerminator fun _ _ _ _ => .pure _

include bodies defaults in
theorem alike_loop (starts : state.cursor = here) :
    Alike state (loop grammar calls body default) (loop grammar calls body' default') := by
  subst starts
  refine .openTag_bind fun _ first _ passes => .get_bind ?_
  refine .bind (.reading fun _ _ named => (Region.identifier_reaches named)) ?_
  intro _ second _ reaches
  have behind := passes.trans_reaches reaches
  refine .bind (.reading fun _ _ joined => (keyword_passes joined).1) fun _ third _ reaches => ?_
  have behind := behind.trans_reaches reaches
  refine .bind (.reading fun _ _ found => (Region.Path.of_path found).passes.1) ?_
  intro _ fourth _ reaches
  have behind := behind.trans_reaches reaches
  refine .bind alike_closeTag fun _ fifth _ reaches => ?_
  have behind := behind.trans_reaches reaches
  refine .bind (bodies fifth behind) fun _ sixth _ reaches => ?_
  have behind := behind.trans_reaches reaches
  refine .bind (defaults sixth behind) fun _ _ _ _ => ?_
  exact .bind alike_expectTerminator fun _ _ _ _ => .pure _

include bodies in
theorem alike_binding (starts : state.cursor = here) :
    Alike state (binding grammar calls (expressionTag grammar calls depth) body)
      (binding grammar calls (expressionTag grammar calls depth) body') := by
  subst starts
  refine .openTag_bind fun _ first _ passes => .get_bind ?_
  refine .bind (.reading fun _ _ named => (Region.identifier_reaches named)) ?_
  intro _ second _ reaches
  have behind := passes.trans_reaches reaches
  refine .bind (.reading fun _ _ signed => (bindingSign_passes signed).1)
    fun _ third _ reaches => ?_
  have behind := behind.trans_reaches reaches
  refine .bind alike_expressionTag fun _ fourth _ reaches => ?_
  have behind := behind.trans_reaches reaches
  refine .bind (bodies fourth behind) fun _ _ _ _ => ?_
  exact .bind alike_expectTerminator fun _ _ _ _ => .pure _

end Blocks

theorem alike_inclusion :
    Alike state (inclusion grammar (expressionTag grammar calls depth))
      (inclusion grammar (expressionTag grammar calls depth)) := by
  refine .openTag_bind fun _ first _ _ => .get_bind ?_
  refine .bind (.reading fun _ _ keyed => (inclusionKey_passes keyed).1) fun key second _ _ => ?_
  refine .bind (.refl ?_) fun _ third _ _ => ?_
  · rintro _ _ ⟨⟩
    exact .refl _
  refine .bind (.reading fun _ _ looked => withContext_reaches looked) fun follows _ _ _ => ?_
  cases follows with
  | true => exact .bind alike_expressionTag fun _ _ _ _ => .pure _
  | false => exact .bind alike_closeTag fun _ _ _ _ => .pure _

/-! ### Parts -/

/-- The loop over the parts of a document asks for blocks at the place it begins at or
behind it. -/
theorem alike_collectParts
    {here : Cursor}
    {block block' : Construct → Rule Node}
    (blocks : ∀ construct state, here.Reaches state.cursor →
      Alike state (block construct) (block' construct))
    (turns : Nat)
    (collected : List Node)
    (reaches : here.Reaches state.cursor) :
    Alike state
      (collectParts grammar (insertion grammar depth calls) (pragma grammar calls) block turns
        collected)
      (collectParts grammar (insertion grammar depth calls) (pragma grammar calls) block' turns
        collected) := by
  induction turns generalizing state collected with
  | zero => exact .throw _
  | succ turns hypothesis =>
    refine .get_bind ?_
    split
    · exact .pure _
    · cases state.kind? grammar.order with
      | none =>
        refine .bind (.refl ?_) fun _ middle _ further => hypothesis _ (reaches.trans further)
        rintro _ _ ⟨⟩
        exact Cursor.reaches_forward _ _
      | some kind =>
        cases kind with
        | inline =>
          exact .bind alike_insertion fun _ _ _ further => hypothesis _ (reaches.trans further)
        | comment =>
          exact .bind alike_comment fun _ _ _ further => hypothesis _ (reaches.trans further)
        | pragma =>
          exact .bind alike_pragma fun _ _ _ further => hypothesis _ (reaches.trans further)
        | block =>
          dsimp only
          cases state.tagKeyword? with
          | none => exact .fail _ _
          | some keyword =>
            dsimp only
            cases Construct.ofKeyword? keyword with
            | some construct =>
              exact .bind (blocks construct state reaches) fun _ _ _ further =>
                hypothesis _ (reaches.trans further)
            | none =>
              dsimp only
              split
              · exact .pure _
              · exact .fail _ _

/-! ### Documents -/

/-- A document opens its parts where it begins, and nothing else. -/
theorem alike_document_opening
    {first second : Rules}
    (sameParts : ∀ depth, Alike state (first.parts depth) (second.parts depth)) :
    Alike state ((opening grammar calls first).document depth)
      ((opening grammar calls second).document depth) := by
  refine .get_bind ?_
  dsimp only
  split
  · exact .throw _
  · exact .bind (sameParts _) fun _ _ _ _ => .pure _

/-- The parts of a document open blocks where the document begins or behind that
place, and nothing else. -/
theorem alike_parts_opening
    {first second : Rules}
    (sameBlocks : ∀ construct other, state.cursor.Reaches other.cursor →
      Alike other (first.block depth construct) (second.block depth construct)) :
    Alike state ((opening grammar calls first).parts depth)
      ((opening grammar calls second).parts depth) :=
  alike_collectParts sameBlocks _ [] (.refl _)

/-- A block opens documents and other cases behind the place where it begins, and
nothing else. -/
theorem alike_block_opening
    {first second : Rules}
    (bodies : AlikeBehind state.cursor (first.document depth) (second.document depth))
    (defaults : AlikeBehind state.cursor (first.otherwise depth) (second.otherwise depth))
    (construct : Construct) :
    Alike state ((opening grammar calls first).block depth construct)
      ((opening grammar calls second).block depth construct) := by
  cases construct with
  | conditional => exact alike_conditional bodies defaults rfl
  | selection => exact alike_selection bodies defaults rfl
  | loop => exact alike_loop bodies defaults rfl
  | binding => exact alike_binding bodies rfl
  | inclusion => exact alike_inclusion

/-- The body for all other cases is a document behind the place of its tag. -/
theorem alike_otherwise_opening
    {first second : Rules}
    (bodies : AlikeBehind state.cursor (first.document depth) (second.document depth)) :
    Alike state ((opening grammar calls first).otherwise depth)
      ((opening grammar calls second).otherwise depth) := by
  refine .get_bind ?_
  split
  · refine .openTag_bind fun _ opened _ passes => ?_
    refine .bind alike_closeTag fun _ middle _ reaches => ?_
    exact .bind (bodies middle (passes.trans_reaches reaches)) fun _ _ _ _ => .pure _
  · exact .pure _

end Document

end Stencil
