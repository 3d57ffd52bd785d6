import Stencil.Proofs.Checked.Tag
import Stencil.Proofs.Limit

/-!
# Reading with checks reads

Blocks, documents and whole templates, by induction on the number of open rules.  In the
end the reader with checks comes to what `Template.read` comes to, so no check of it ever
fails.
-/

namespace Stencil

namespace Checked

variable {state : State} {grammar : Grammar} {depth : Nat}

/-! ## Blocks -/

section Blocks

variable
  {condition body scrutinee value context : Document.Rule Node}
  {conditionRule bodyRule scrutineeRule valueRule contextRule : Rule Node}
  {pattern : Document.Rule Pattern}
  {patternRule : Rule Pattern}
  {otherwise : Document.Rule (Option Node)}
  {otherwiseRule : Rule (Option Node)}

/-- A rule that reads on in the region of a tag. -/
def AccordsInTag
    (grammar : Grammar)
    (depth : Nat)
    (model : Document.Rule α)
    (rule : Rule α) : Prop :=
  ∀ state : State, state.InRegion (state.view.tagRegion grammar) depth →
    Accords depth state model rule

/-- A rule that reads on between tags. -/
def AccordsBetweenTags
    (depth : Nat)
    (model : Document.Rule α)
    (rule : Rule α) : Prop :=
  ∀ state : State, state.At depth → Accords depth state model rule

/-- One clause of a block, if its tag stands there, and the clauses behind it. -/
theorem accords_clause
    (word : Text)
    {head : Document.Rule α}
    {headRule : Rule α}
    {others : Document.Rule (List (α × Node))}
    {othersRule : Rule (List (α × Node))}
    (accordsHead : AccordsInTag grammar depth head headRule)
    (accordsBody : AccordsBetweenTags depth body bodyRule)
    (accordsOthers : AccordsBetweenTags depth others othersRule) :
    AccordsBetweenTags depth
      (do
        let state ← get
        if state.isAtTag grammar.order word then
          let _ ← Document.openTag word
          let found ← head
          let result ← body
          let rest ← others
          return (found, result) :: rest
        else return [])
      (do
        if ← isAtTag grammar word then
          let _ ← openTag word
          let found ← headRule
          let result ← bodyRule
          let rest ← othersRule
          return (found, result) :: rest
        else return []) := by
  intro state here
  refine .get_left ?_
  refine .isAtTag_ite here (fun last there stands => ?_) fun last there _ => .pure _ there
  refine .openTag_bind grammar there stands fun _ last inside => ?_
  refine .bind (accordsHead last inside) fun found last there => ?_
  refine .bind (accordsBody last there) fun result last there => ?_
  exact .bind (accordsOthers last there) fun rest last there => .pure _ there

theorem accords_furtherBranches
    (accordsCondition : AccordsInTag grammar depth condition conditionRule)
    (accordsBody : AccordsBetweenTags depth body bodyRule)
    (turns : Nat) :
    AccordsBetweenTags depth (Document.furtherBranches grammar condition body turns)
      (clauses grammar (Text.of "elif") conditionRule bodyRule turns) := by
  induction turns with
  | zero => exact fun _ _ => .throw _
  | succ turns hypothesis => exact accords_clause _ accordsCondition accordsBody hypothesis

theorem accords_alternatives
    (accordsPattern : AccordsInTag grammar depth pattern patternRule)
    (accordsBody : AccordsBetweenTags depth body bodyRule)
    (turns : Nat) :
    AccordsBetweenTags depth (Document.alternatives grammar pattern body turns)
      (clauses grammar (Text.of "when") patternRule bodyRule turns) := by
  induction turns with
  | zero => exact fun _ _ => .throw _
  | succ turns hypothesis => exact accords_clause _ accordsPattern accordsBody hypothesis

theorem accords_conditional
    (accordsCondition : AccordsInTag grammar depth condition conditionRule)
    (accordsBody : AccordsBetweenTags depth body bodyRule)
    (accordsOtherwise : AccordsBetweenTags depth otherwise otherwiseRule)
    (here : state.At depth)
    (stands : state.view.tagKeyword? = some (Text.of "if")) :
    Accords depth state (Document.conditional grammar condition body otherwise)
      (conditional grammar conditionRule bodyRule otherwiseRule) := by
  refine .openTag_bind grammar here stands fun _ last inside => ?_
  refine .bind (accordsCondition last inside) fun test last there => ?_
  refine .bind (accordsBody last there) fun result last there => ?_
  refine .bind (accords_furtherBranches accordsCondition accordsBody _ last there)
    fun others last there => ?_
  refine .bind (accordsOtherwise last there) fun default last there => ?_
  exact .bind (accords_expectTerminator there) fun _ last there => .pure _ there

theorem accords_selection
    (accordsScrutinee : AccordsInTag grammar depth scrutinee scrutineeRule)
    (accordsPattern : AccordsInTag grammar depth pattern patternRule)
    (accordsBody : AccordsBetweenTags depth body bodyRule)
    (accordsOtherwise : AccordsBetweenTags depth otherwise otherwiseRule)
    (here : state.At depth)
    (stands : state.view.tagKeyword? = some (Text.of "case")) :
    Accords depth state (Document.selection grammar scrutinee pattern body otherwise)
      (selection grammar scrutineeRule patternRule bodyRule otherwiseRule) := by
  refine .openTag_bind grammar here stands fun _ last inside => ?_
  refine .bind (accordsScrutinee last inside) fun subject last there => ?_
  refine .bind (accords_skipToAlternatives _ there) fun _ last there => ?_
  refine .bind (accords_alternatives accordsPattern accordsBody _ last there)
    fun cases last there => ?_
  refine .bind (accordsOtherwise last there) fun default last there => ?_
  exact .bind (accords_expectTerminator there) fun _ last there => .pure _ there

theorem accords_loop
    (calls : Nat)
    (accordsBody : AccordsBetweenTags depth body bodyRule)
    (accordsOtherwise : AccordsBetweenTags depth otherwise otherwiseRule)
    (here : state.At depth)
    (stands : state.view.tagKeyword? = some (Text.of "for")) :
    Accords depth state (Document.loop grammar calls body otherwise)
      (loop grammar calls bodyRule otherwiseRule) := by
  refine .openTag_bind grammar here stands fun _ last inside => .get_left ?_
  refine .reading_bind (agrees_identifier calls inside.within) fun item session coherent => ?_
  have isKeyword : keywords.contains (Text.of "in") = true := by decide
  have inside := inside.after coherent
  refine .reading_bind (agrees_expectKeyword isKeyword inside.within) fun _ session coherent => ?_
  have inside := inside.after coherent
  refine .reading_bind (agrees_path calls inside.within) fun source session coherent => ?_
  refine .bind (accords_closeTag (inside.after coherent)) fun _ last there => ?_
  refine .bind (accordsBody last there) fun result last there => ?_
  refine .bind (accordsOtherwise last there) fun default last there => ?_
  exact .bind (accords_expectTerminator there) fun _ last there => .pure _ there

theorem agrees_bindingSign
    (name : Text)
    (coherent : state.session.Coherent) :
    Agrees state (Document.bindingSign name state.session.cursor) (bindingSign name) := by
  refine .skipBlanks_bind coherent fun session still isCursor => .get_bind ?_
  rw [Document.bindingSign, ← isCursor]
  dsimp only
  cases session.cursor.startsWith (Text.of "==") with
  | true => exact .of_step session rfl (.peek_bind still fun token behind found => .throw _)
  | false =>
    refine .consume_bind still (fun behind begins within => ?_) fun begins => ?_
    · simp only [begins]
      exact .pure _ within
    · simp only [begins]
      exact .peek_bind still fun token behind found => .throw _

theorem accords_binding
    (calls : Nat)
    (accordsValue : AccordsInTag grammar depth value valueRule)
    (accordsBody : AccordsBetweenTags depth body bodyRule)
    (here : state.At depth)
    (stands : state.view.tagKeyword? = some (Text.of "let")) :
    Accords depth state (Document.binding grammar calls value body)
      (binding grammar calls valueRule bodyRule) := by
  refine .openTag_bind grammar here stands fun _ last inside => .get_left ?_
  refine .reading_bind (agrees_identifier calls inside.within) fun name session coherent => ?_
  have inside := inside.after coherent
  refine .reading_bind (agrees_bindingSign _ coherent) fun _ session coherent => ?_
  refine .bind (accordsValue _ (inside.after coherent)) fun bound last there => ?_
  refine .bind (accordsBody last there) fun result last there => ?_
  exact .bind (accords_expectTerminator there) fun _ last there => .pure _ there

theorem agrees_inclusionKey (within : state.Within region) :
    Agrees state (Document.inclusionKey region state.session.cursor) inclusionKey := by
  refine .peek_bind within.coherent fun token behind found => .get_bind ?_
  rw [(within.knowing found).isAtRegionEnd]
  exact .ite (fun _ => .throw _) fun _ => .advance_bind (.pure _ found.moved)

theorem agrees_withContext (within : state.Within region) :
    Agrees state (Document.withContext region state.session.cursor) withContext := by
  have isKeyword : keywords.contains (Text.of "with") = true := by decide
  simp only [withContext, peekIsKeyword_eq isKeyword, bind_assoc, pure_bind]
  rw [Document.withContext]
  refine .get_bind ?_
  rw [within.isAtRegionEnd]
  refine .ite (fun _ => .pure _ within.coherent) fun _ => ?_
  refine .peek_bind within.coherent fun token behind found => ?_
  exact .ite (fun _ => .advance_bind (.pure _ found.moved)) fun _ => .pure _ found.knowing

theorem accords_inclusion
    (accordsContext : AccordsInTag grammar depth context contextRule)
    (here : state.At depth)
    (stands : state.view.tagKeyword? = some (Text.of "include")) :
    Accords depth state (Document.inclusion grammar context) (inclusion contextRule) := by
  refine .openTag_bind grammar here stands fun opener last inside => .get_left ?_
  refine .reading_bind (agrees_inclusionKey inside.within) fun key session coherent => ?_
  let last : State := { last with session := session }
  let registered : State := { last with
    includes := last.includes.register key opener
    journal := .registered key opener :: last.journal }
  have inside : registered.InRegion (registered.view.tagRegion grammar) depth :=
    ⟨⟨coherent, inside.depth_eq⟩, inside.isOpen⟩
  have modelRegisters : Document.register key opener last.view = .ok () registered.view := rfl
  have registers : register key opener last = .ok () registered := rfl
  refine .of_steps (Document.Rule.bind_of_ok modelRegisters _) (bind_of_ok registers _) ?_
  refine .reading_bind (agrees_withContext inside.within) fun hasContext session coherent => ?_
  have inside := inside.after coherent
  refine .ite (fun _ => ?_) fun _ => ?_
  · exact .bind (accordsContext _ inside) fun value last there => .pure _ there
  · exact .bind (accords_closeTag inside) fun _ last there => .pure _ there

end Blocks

/-! ## Documents -/

/-- A word that opens a block is known, and it has a rule; a word that opens none is not
known. -/
theorem ofKeyword?_cases (keyword : Text) :
    (∃ construct, Construct.ofKeyword? keyword = some construct ∧
        keyword = construct.keyword ∧ constructKeywords.contains keyword = true ∧
        blockRules.lookup keyword = some construct) ∨
      Construct.ofKeyword? keyword = none ∧ constructKeywords.contains keyword = false := by
  cases found : Construct.ofKeyword? keyword with
  | some construct =>
    obtain rfl : construct.keyword = keyword := by
      have isWord := List.find?_some found
      simpa using isWord
    refine .inl ⟨construct, rfl, rfl, ?_⟩
    cases construct <;> decide
  | none =>
    -- The list of words is kept by hand; that it has the words of all constructs and no
    -- others is what makes the two tests agree.
    have same : constructKeywords = Construct.all.map Construct.keyword := rfl
    refine .inr ⟨rfl, Bool.eq_false_iff.2 fun known => ?_⟩
    rw [same, List.contains_iff_mem, List.mem_map] at known
    obtain ⟨construct, member, isWord⟩ := known
    exact List.find?_eq_none.1 found construct member (beq_iff_eq.2 isWord)

theorem accords_collectParts
    {inline : Document.Rule Node}
    {inlineRule : Rule Node}
    {switch : Document.Rule Unit}
    {switchRule : Rule Unit}
    {block : Construct → Document.Rule Node}
    {blockRule : Construct → Rule Node}
    (accordsInline : ∀ state : State, state.At depth →
      state.view.kind? grammar.order = some .inline → Accords depth state inline inlineRule)
    (accordsSwitch : ∀ state : State, state.At depth →
      state.view.kind? grammar.order = some .pragma → Accords depth state switch switchRule)
    (accordsBlock : ∀ (construct : Construct) (state : State), state.At depth →
      state.view.tagKeyword? = some construct.keyword →
      Accords depth state (block construct) (blockRule construct))
    (turns : Nat)
    (parts : List Node)
    (here : state.At depth) :
    Accords depth state (Document.collectParts grammar inline switch block turns parts)
      (collectParts grammar inlineRule switchRule blockRule turns parts) := by
  induction turns generalizing state parts with
  | zero => exact .throw _
  | succ turns hypothesis =>
    rw [Document.collectParts, collectParts]
    refine .get_left (.get_right ?_)
    refine .ite (fun _ => .pure _ here) fun _ => ?_
    cases opens : state.view.kind? grammar.order with
    | none =>
      obtain ⟨there, reads⟩ := readText_eq_ok grammar here
      exact .move_bind (bind_of_ok reads _) (hypothesis _ there)
    | some kind =>
      cases kind with
      | inline => exact .bind (accordsInline state here opens) fun part _ => hypothesis _
      | comment => exact .bind (accords_comment here opens) fun _ _ => hypothesis _
      | pragma => exact .bind (accordsSwitch state here opens) fun _ _ => hypothesis _
      | block =>
        dsimp only
        refine .peekBlockKeyword_bind ?_
        have looked := here.looked
        generalize isKeyword : state.view.tagKeyword? = found
        cases found with
        | none => exact .throw _
        | some keyword =>
          dsimp only
          -- One reader asks for the construct, the other one for the word and then its rule.
          rcases ofKeyword?_cases keyword with
            ⟨construct, isConstruct, rfl, isKnown, hasRule⟩ | ⟨isNone, isUnknown⟩
          · rw [isConstruct, if_pos isKnown, hasRule]
            exact .bind (accordsBlock construct _ looked isKeyword) fun part _ => hypothesis _
          · simp only [isNone, isUnknown, Bool.false_eq_true, if_false]
            exact .ite (fun _ => .pure _ looked) fun _ => .throw _

/-- A rule runs one level deeper, unless that is too deep. -/
theorem accords_nested
    {inner : Document.Rule α}
    {rule : Rule α}
    (allowed : ¬ grammar.limit < depth + 1)
    (here : state.At depth)
    (accords : AccordsBetweenTags (depth + 1) inner rule) :
    Accords depth state inner (nested grammar rule) := by
  let entered : State := { state with depth := state.depth + 1 }
  have deeper := accords entered ⟨here.coherent, congrArg (· + 1) here.depth_eq⟩
  have sameView : entered.view = state.view := rfl
  rw [← here.depth_eq] at allowed
  have runs := nested_of_allowed rule allowed
  rw [Accords, sameView] at deeper
  cases read : inner state.view with
  | ok value after =>
    rw [read] at deeper
    obtain ⟨last, there, rfl, reads⟩ := deeper
    let left : State := { last with depth := last.depth - 1 }
    have back : left.At depth := ⟨there.coherent, Nat.sub_eq_of_eq_add there.depth_eq⟩
    exact .of_ok back read (runs.trans (leaving_of_ok reads))
  | error halt after =>
    rw [read] at deeper
    obtain ⟨last, delimiters, journal, stops⟩ := deeper
    let left : State := { last with depth := last.depth - 1 }
    have sameDelimiters : left.delimiters = after.delimiters := delimiters
    exact .of_halt sameDelimiters journal read (runs.trans (leaving_of_error stops))

/-- The rules of documents do what those without checks do, with some number of calls. -/
structure RulesAccord (grammar : Grammar) (calls : Nat) : Prop where
  /-- Documents. -/
  document : ∀ depth, AccordsBetweenTags depth (Document.document grammar calls depth)
    (document grammar calls)
  /-- The parts of documents. -/
  parts : ∀ depth, AccordsBetweenTags depth (Document.parts grammar calls depth)
    (parts grammar calls)
  /-- Blocks, where their tag stands. -/
  block : ∀ depth (construct : Construct) (state : State), state.At depth →
    state.view.tagKeyword? = some construct.keyword →
    Accords depth state (Document.block grammar calls depth construct)
      (block grammar calls construct)
  /-- The body for all other cases. -/
  otherwise : ∀ depth, AccordsBetweenTags depth (Document.otherwise grammar calls depth)
    (otherwise grammar calls)

theorem rulesAccord (grammar : Grammar) (calls : Nat) : RulesAccord grammar calls := by
  -- By induction on the calls: the rules call each other with one call less, so what each
  -- of them relies on is the hypothesis, and a rule enters only through its statement.
  induction calls with
  | zero =>
    refine ⟨fun depth state _ => ?_, fun depth state _ => ?_, fun depth construct state _ _ => ?_,
      fun depth state _ => ?_⟩
    · rw [Document.document, document]
      exact .throw _
    · rw [Document.parts, parts]
      exact .throw _
    · rw [Document.block, block]
      exact .throw _
    · rw [Document.otherwise, otherwise]
      exact .throw _
  | succ calls hypothesis =>
    have expressions : ∀ depth, AccordsInTag grammar depth
        (Document.expressionTag grammar calls depth) (expressionTag grammar calls) :=
      fun _ _ => accords_expressionTag calls
    have patterns : ∀ depth, AccordsInTag grammar depth
        (Document.patternTag grammar calls) (patternTag grammar calls) :=
      fun _ _ => accords_patternTag calls
    refine ⟨fun depth state here => ?_, fun depth state here => ?_, ?_, fun depth state here => ?_⟩
    · rw [Document.document, document]
      refine .get_left (.get_right ?_)
      dsimp only
      by_cases limited : grammar.limit < depth + 1
      · -- Too deep: the checked reader counts the levels, the other one is told them.
        simp only [Reading.nest, if_pos limited]
        have tooDeep := limited
        rw [← here.depth_eq] at tooDeep
        have stops := nested_of_limited (parts grammar calls) tooDeep
        exact .of_halt rfl rfl rfl (bind_of_error stops _)
      · simp only [Reading.nest, if_neg limited]
        refine .bind (accords_nested limited here (hypothesis.parts (depth + 1))) ?_
        exact fun collected last there => .pure _ there
    · rw [Document.parts, parts]
      exact accords_collectParts (fun _ => accords_insertion calls) (fun _ => accords_pragma calls)
        (hypothesis.block depth) _ _ here
    · intro depth construct state here stands
      cases construct with
      | conditional =>
        rw [Document.block, block]
        exact accords_conditional (expressions depth) (hypothesis.document depth)
          (hypothesis.otherwise depth) here stands
      | selection =>
        rw [Document.block, block]
        exact accords_selection (expressions depth) (patterns depth) (hypothesis.document depth)
          (hypothesis.otherwise depth) here stands
      | loop =>
        rw [Document.block, block]
        exact accords_loop calls (hypothesis.document depth) (hypothesis.otherwise depth) here
          stands
      | binding =>
        rw [Document.block, block]
        exact accords_binding calls (expressions depth) (hypothesis.document depth) here stands
      | inclusion =>
        rw [Document.block, block]
        exact accords_inclusion (expressions depth) here stands
    · rw [Document.otherwise, otherwise]
      refine .get_left ?_
      refine .isAtTag_ite here (fun last there stands => ?_) fun last there _ => .pure _ there
      refine .openTag_bind grammar there stands fun _ last inside => ?_
      refine .bind (accords_closeTag inside) fun _ last there => ?_
      exact .bind (hypothesis.document depth last there) fun body last there => .pure _ there

/-! ## Templates -/

theorem accords_whole
    (calls : Nat)
    (name : Text)
    (here : state.At 0) :
    Accords 0 state (Template.whole grammar calls name) (whole grammar calls name) := by
  refine .bind ((rulesAccord grammar calls).document 0 state here) fun root last there => ?_
  refine .get_left (.get_right (.ite (fun _ => ?_) fun _ => ?_))
  · let logged : State :=
      { last with journal := .parsed name last.includes.length :: last.journal }
    have still : logged.At 0 := ⟨there.coherent, there.depth_eq⟩
    exact .of_ok still rfl rfl
  · exact .peekBlockKeyword_bind (.throw _)

theorem State.At.initial (name : Text) (delimiters : Delimiters) (source : Text) :
    (State.initial name delimiters source).At 0 :=
  ⟨⟨Session.remembers_start name source, name, .refl _⟩, rfl⟩

/-- An outcome in which all checks hold stops as the reader without checks does. -/
theorem Outcome.exists_halt_of_error
    {outcome : Template.Outcome}
    {stop : Stop}
    (stops : (Outcome.of outcome).result = .error stop) :
    ∃ halt, stop = .halted halt ∧ outcome.result = .error halt := by
  rw [Outcome.of] at stops
  cases result : outcome.result with
  | ok template => simp [result, Except.mapError] at stops
  | error halt =>
    simp only [result, Except.mapError, Except.error.injEq] at stops
    exact ⟨halt, stops.symm, rfl⟩

/-- With checks a source is read as it is without them. -/
theorem read_eq
    (options : Template.Options)
    (name : Text)
    (delimiters : Delimiters)
    (source : Text) :
    read options name delimiters source = .of (Template.read options name delimiters source) := by
  have here := State.At.initial name delimiters source
  have accords : Accords 0 _ (Template.whole (Template.grammarFor options source) _ name) _ :=
    accords_whole (Template.callsFor source) name here
  unfold Accords at accords
  have sameStart : (State.initial name delimiters source).view =
      ⟨Cursor.start name source, delimiters, [], []⟩ := rfl
  rw [read, Template.read, ← sameStart]
  cases outcome : Template.whole (Template.grammarFor options source) (Template.callsFor source)
      name (State.initial name delimiters source).view with
  | ok template after =>
    rw [outcome] at accords
    obtain ⟨last, _, rfl, reads⟩ := accords
    rw [reads]
    rfl
  | error halt after =>
    rw [outcome] at accords
    obtain ⟨last, sameDelimiters, sameJournal, stops⟩ := accords
    rw [stops]
    simp only [Outcome.of, sameDelimiters, sameJournal]
    rfl

/-- Nothing that the reader relies on ever fails to hold.  Whatever source is read, with
whatever operators, limit and delimiters, no check stops the reader, and it never uses up
its allowance either: it comes to what `Template.read` comes to.

Two of the checks hold in every state, also in those that reading a template never comes
to.  A token that is read has been looked at, and one that begins with a digit is a
numeral.  And looking at the word of a tag returns to where the reader stood, whatever it
finds there; if it finds a word, the tag of that word can be opened next. -/
theorem read_violates_nothing
    (options : Template.Options)
    (name : Text)
    (delimiters : Delimiters)
    (source : Text) :
    (∀ assertion,
      (read options name delimiters source).result ≠ .error (.violated assertion)) ∧
    (read options name delimiters source).result ≠ .error (.halted .exhausted) ∧
    read options name delimiters source = .of (Template.read options name delimiters source) ∧
    (∀ (state after : State) (assertion : Assertion),
      advance state ≠ .error (.violated assertion) after) ∧
    ∀ state : State,
      let returned := state.moved state.session.cursor
      peekBlockKeyword state = .ok state.view.tagKeyword? returned ∧
        ∀ keyword ∈ state.view.tagKeyword?, ∃ behind,
          openTag keyword returned =
            .ok state.session.cursor.position (returned.opened keyword behind) := by
  have same := read_eq options name delimiters source
  have finished := Template.read_ne_exhausted options name delimiters source
  refine ⟨fun assertion violated => ?_, fun exhausted => ?_, same, advance_ne_violated, ?_⟩
  · rw [same] at violated
    obtain ⟨halt, isHalt, -⟩ := Outcome.exists_halt_of_error violated
    cases isHalt
  · rw [same] at exhausted
    obtain ⟨halt, isHalt, stops⟩ := Outcome.exists_halt_of_error exhausted
    cases isHalt
    exact finished stops
  · intro state returned
    refine ⟨peekBlockKeyword_eq state, fun keyword isKeyword => ?_⟩
    have stands : returned.view.tagKeyword? = some keyword := isKeyword
    obtain ⟨behind, -, -, opens⟩ := openTag_eq_ok stands
    exact ⟨behind, opens⟩

/-- A number with its sign, and a conditional. -/
def signAndTag : Text :=
  Text.of "\x7b\x7b -1 \x7d\x7d\x7b% if a %\x7d\x7b% endif %\x7d"

/-- The word of the conditional is looked at, and then its tag is opened. -/
theorem read_violates_nothing_of_signAndTag :
    let state := (State.initial [] .braces signAndTag).moved
      ((Cursor.start [] signAndTag).forward 8)
    state.view.tagKeyword? = some (Text.of "if") ∧
      ∃ behind, openTag (Text.of "if") (state.moved state.session.cursor) =
        .ok state.session.cursor.position
          ((state.moved state.session.cursor).opened (Text.of "if") behind) := by
  intro state
  have isKeyword : state.view.tagKeyword? = some (Text.of "if") := rfl
  obtain ⟨-, -, -, -, looks⟩ := read_violates_nothing {} [] .braces signAndTag
  exact ⟨isKeyword, (looks state).2 (Text.of "if") isKeyword⟩

end Checked

end Stencil
