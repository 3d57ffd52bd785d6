import Stencil.Proofs.Failure.Document

/-!
# Turns of loops

Each loop of the rules takes its turns one after the other, and a turn is told how
many of them are left.  A turn either ends the loop, with a result or because it
stops, or it leaves everything else to the turns behind it, which begin at a place
further on in the source.
-/

namespace Stencil

open Template (Origin)

/-- What one turn of a loop comes to, as a function of the turns that are left.
Either the turn ends the loop, whatever is left and not for want of turns, or the
loop goes on from a state whose place is further on, and runs out of turns exactly if
it does so from there. -/
inductive Turn
    (exhausted : ρ → Prop)
    (loop : Nat → σ → ρ)
    (place : σ → Cursor)
    (here : Cursor) :
    (Nat → ρ) → Prop
  | ends
      (outcome : ρ)
      (finished : ¬ exhausted outcome) :
      Turn exhausted loop place here fun _ => outcome
  | continues
      (next : σ)
      (complete : ρ → ρ)
      (passes : here.Passes (place next))
      (faithful : ∀ outcome, exhausted (complete outcome) ↔ exhausted outcome) :
      Turn exhausted loop place here fun turns => complete (loop turns next)

/-- The next turn of a loop ends it or goes on from a place further on. -/
def Advances
    (exhausted : ρ → Prop)
    (loop : Nat → σ → ρ)
    (place : σ → Cursor)
    (state : σ) : Prop :=
  Turn exhausted loop place (place state) fun turns => loop (turns + 1) state

/-- A turn that passes everything else on as it is. -/
theorem Turn.repeats
    {exhausted : ρ → Prop}
    {loop : Nat → σ → ρ}
    {place : σ → Cursor}
    {here : Cursor}
    (next : σ)
    (passes : here.Passes (place next)) :
    Turn exhausted loop place here fun turns => loop turns next :=
  .continues next id passes fun _ => .rfl

/-- A turn runs out of turns only if the loop does so further on. -/
theorem Turn.not_exhausted
    {exhausted : ρ → Prop}
    {loop : Nat → σ → ρ}
    {place : σ → Cursor}
    {here : Cursor}
    {outcomes : Nat → ρ}
    {turns : Nat}
    (turn : Turn exhausted loop place here outcomes)
    (later : ∀ next, here.Passes (place next) → ¬ exhausted (loop turns next)) :
    ¬ exhausted (outcomes turns) := by
  cases turn with
  | ends outcome finished => exact finished
  | continues next complete passes faithful =>
    rw [faithful]
    exact later next passes

/-- A loop that always advances needs no more turns than there is text to read, and one
more. -/
theorem Advances.not_exhausted
    {exhausted : ρ → Prop}
    {loop : Nat → σ → ρ}
    {place : σ → Cursor}
    (advances : ∀ state, Advances exhausted loop place state)
    (turns : Nat)
    (state : σ)
    (enough : (place state).rest.length < turns) :
    ¬ exhausted (loop turns state) := by
  induction turns generalizing state with
  | zero => omega
  | succ turns hypothesis =>
    refine Turn.not_exhausted (advances state) fun next passes => hypothesis next ?_
    have shorter := passes.2
    omega

/-! ## Loops over tokens -/

namespace Reading

/-- Something was not read for want of open rules or turns. -/
def IsExhausted (outcome : Except Halt α) : Prop :=
  outcome = .error .exhausted

variable
  {origin : Origin}
  {loop : Nat → σ → Except Halt α}
  {place : σ → Cursor}
  {here : Cursor}

theorem turn_ok (value : α) : Turn IsExhausted loop place here fun _ => .ok value :=
  .ends _ nofun

theorem turn_fail (cause : Cause) (position : Position) :
    Turn IsExhausted loop place here fun _ => fail cause position :=
  .ends _ nofun

/-- A turn stops where its first step stops, and else it is what follows. -/
theorem turn_bind
    {first : Except Halt β}
    {second : Nat → β → Except Halt α}
    (near : Sound origin first)
    (far : ∀ value, first = .ok value →
      Turn IsExhausted loop place here fun turns => second turns value) :
    Turn IsExhausted loop place here fun turns => first >>= second turns := by
  cases outcome : first with
  | error halt =>
    refine .ends (Except.error halt) ?_
    rintro ⟨⟩
    exact near _ outcome
  | ok value => exact far value outcome

/-- The loop goes on, and something is added to its result. -/
theorem turn_map
    {next : σ}
    (passes : here.Passes (place next))
    (complete : α → α) :
    Turn IsExhausted loop place here fun turns =>
      loop turns next >>= fun value => pure (complete value) := by
  refine .continues next (fun outcome => outcome >>= fun value => pure (complete value)) passes ?_
  intro outcome
  cases outcome <;> simp [IsExhausted]

end Reading

namespace Region

open Reading

variable {origin : Origin} {region : Region}

/-- A turn of the loop over the names of a path ends it or passes a dot and a
name. -/
theorem advances_pathRest
    {cursor : Cursor}
    (stands : origin.Has cursor)
    (calls : Nat) :
    Advances IsExhausted (fun turns => region.pathRest (region.identifier (calls + 1)) turns) id
      cursor := by
  simp only [Advances, pathRest]
  split
  · exact turn_ok _
  · refine turn_bind (.token stands) ?_
    rintro ⟨dot, behind⟩ scanned
    dsimp only
    split
    · rename_i isDot
      have passesDot := token_passes scanned (by simp [isDot])
      refine turn_bind (sound_identifier (stands.behind scanned) calls) ?_
      rintro ⟨name, middle⟩ named
      have passes := passesDot.trans (identifier_passes named)
      exact turn_map passes fun found => (name :: found.1, found.2)
    · exact turn_ok _

/-- A turn of the loop over operators ends it or passes an operator and what stands
on its right. -/
theorem advances_tail
    {calls depth : Nat}
    {least : Int}
    {left : Node}
    {cursor : Cursor}
    (stands : origin.Has cursor)
    (enoughTurns : cursor.rest.length < region.grammar.turns)
    (enough : 4 * cursor.rest.length + 1 ≤ calls) :
    Advances IsExhausted (fun turns (state : Node × Cursor) =>
      region.tail calls depth least turns state.1 state.2) Prod.snd (left, cursor) := by
  obtain ⟨calls, rfl⟩ : ∃ fewer, calls = fewer + 1 := ⟨calls - 1, by omega⟩
  simp only [Advances, tail, operatorTail]
  split
  · exact turn_ok _
  · refine turn_bind (.token stands) ?_
    rintro ⟨symbol, behind⟩ scanned
    dsimp only
    split
    · exact turn_ok _
    · rename_i isOperator
      rw [ne_eq, Decidable.not_not] at isOperator
      have passesSymbol := token_passes scanned (by simp [isOperator])
      split
      · split
        · exact turn_fail _ _
        · exact turn_fail _ _
      · split
        · exact turn_ok _
        · split
          · refine turn_bind (sound_filterName (stands.behind scanned) _ _ calls) ?_
            rintro ⟨name, middle⟩ named
            have passes := passesSymbol.trans (filterName_passes named)
            exact .repeats (_, middle) passes
          · have shorter := passesSymbol.2
            refine turn_bind ((sound_of_rules region (calls + 1)).1 (stands.behind scanned)
              (by omega) (by omega)) ?_
            rintro ⟨right, middle⟩ read
            have passes := ((Reads.of_rules region (calls + 1)).1 read).passes rfl
            exact .repeats (_, middle) (passesSymbol.trans passes)

end Region

namespace Token

/-- Scanning ended without a fault before the end of the text was met. -/
def IsCutShort (outcome : Except Failure (List Token)) : Prop :=
  ∃ tokens, outcome = .ok tokens ∧ ∀ last ∈ tokens.getLast?, last.kind ≠ .finish

/-- A turn of the loop over the tokens of a text ends it or passes a token. -/
theorem advances_scanAll (cursor : Cursor) : Advances IsCutShort scanAll id cursor := by
  simp only [Advances, scanAll]
  cases scanned : scan cursor with
  | error failure =>
    refine .ends (Except.error failure) ?_
    rintro ⟨tokens, ⟨⟩, _⟩
  | ok found =>
    obtain ⟨token, behind⟩ := found
    by_cases isFinish : token.kind = .finish
    · simp only [bind, Except.bind, isFinish, if_true]
      refine .ends (Except.ok [token]) ?_
      rintro ⟨tokens, ⟨⟩, before⟩
      exact before token rfl isFinish
    · have passes := Reading.token_passes (Reading.token_eq_ok.2 scanned) isFinish
      simp only [bind, Except.bind, isFinish, if_false]
      refine .continues behind (fun outcome : Except Failure (List Token) =>
        outcome.bind fun others => .ok (token :: others)) passes ?_
      -- The first token is not the last one of the text, so nothing depends on it.
      intro outcome
      cases outcome with
      | error failure => simp [IsCutShort, Except.bind]
      | ok others =>
        cases others with
        | nil => simpa [IsCutShort, Except.bind] using isFinish
        | cons other rest => simp [IsCutShort, Except.bind]

end Token

/-! ## Loops over segments -/

namespace Document

/-- A rule stopped for want of open rules or turns. -/
def Rule.IsExhausted (outcome : EStateM.Result Halt State α) : Prop :=
  ∃ after, outcome = .error .exhausted after

/-- The outcome with something added to the value. -/
def Rule.completed
    (complete : α → β) :
    EStateM.Result Halt State α → EStateM.Result Halt State β
  | .ok value after => .ok (complete value) after
  | .error halt after => .error halt after

theorem Rule.bind_pure_eq_completed
    (rule : Rule α)
    (complete : α → β)
    (state : State) :
    (rule >>= fun value => pure (complete value)) state = completed complete (rule state) := by
  simp only [bind, EStateM.bind]
  cases rule state <;> rfl

open Rule (IsExhausted)

section Turns

variable
  {origin : Origin}
  {loop : Nat → σ → EStateM.Result Halt State α}
  {place : σ → Cursor}
  {here : Cursor}
  {state : State}

theorem turn_pure (value : α) :
    Turn IsExhausted loop place here fun _ => (pure value : Rule α) state :=
  .ends _ nofun

theorem turn_fail (cause : Cause) (position : Position) :
    Turn IsExhausted loop place here fun _ => Rule.fail cause position state :=
  .ends _ nofun

/-- A turn stops where its first rule stops, and else it is what follows. -/
theorem turn_bind
    {first : Rule β}
    {second : Nat → β → Rule α}
    (near : Rule.Sound origin first state)
    (far : ∀ value middle, first state = .ok value middle →
      Turn IsExhausted loop place here fun turns => second turns value middle) :
    Turn IsExhausted loop place here fun turns => (first >>= second turns) state := by
  simp only [Bind.bind, EStateM.bind]
  cases outcome : first state with
  | error halt after =>
    refine .ends (EStateM.Result.error halt after) ?_
    rintro ⟨_, ⟨⟩⟩
    exact near _ _ outcome
  | ok value middle => exact far value middle outcome

/-- The loop goes on, and something is added to its result. -/
theorem turn_map
    {rest : Nat → Rule α}
    (next : σ)
    (passes : here.Passes (place next))
    (goes : ∀ turns, rest turns state = loop turns next)
    (complete : α → α) :
    Turn IsExhausted loop place here fun turns =>
      (rest turns >>= fun value => pure (complete value)) state := by
  simp only [Rule.bind_pure_eq_completed, goes]
  refine .continues next (Rule.completed complete) passes ?_
  intro outcome
  cases outcome <;> simp [IsExhausted, Rule.completed]

end Turns

variable {origin : Origin} {state : State}

/-- A turn of the loop over the fields of a pragma ends it or passes a field and a
comma. -/
theorem advances_pragmaChanges
    {changes : List (Kind × Value)}
    {cursor : Cursor}
    (stands : origin.Has cursor)
    (region : Region) :
    Advances Reading.IsExhausted (fun turns (listed : List (Kind × Value) × Cursor) =>
      pragmaChanges region turns listed.1 listed.2) Prod.snd (changes, cursor) := by
  simp only [Advances, pragmaChanges]
  refine Reading.turn_bind (sound_pragmaField stands region) ?_
  rintro ⟨⟨kind, value⟩, middle⟩ field
  have passesField := pragmaField_passes field
  dsimp only
  split
  · exact Reading.turn_ok _
  · refine Reading.turn_bind (.expect (stands.reaches passesField.1) _ _) ?_
    rintro ⟨comma, behind⟩ separated
    have passes := passesField.trans (expect_passes separated Token.Kind.noConfusion)
    exact .repeats (_, behind) passes

/-- A turn of the loop between a scrutinee and its first alternative ends it or passes
text or a comment. -/
theorem advances_skipToAlternatives (attained : origin.Attains state) :
    Advances IsExhausted (skipToAlternatives origin.grammar) State.cursor state := by
  simp only [Advances, skipToAlternatives, Rule.get_bind]
  cases atEnd : state.cursor.isAtEnd with
  | true => exact turn_pure _
  | false =>
    simp only [Bool.false_eq_true, if_false]
    cases opens : state.kind? origin.grammar.order with
    | none =>
      dsimp only
      split
      · simp only [Rule.move_bind]
        exact .repeats _ (Step.text atEnd opens).passes
      · exact turn_fail _ _
    | some kind =>
      cases kind with
      | comment =>
        refine turn_bind (sound_comment attained opens) ?_
        intro _ middle skipped
        exact .repeats middle (Step.comment opens skipped : Step origin.grammar _ _ _).passes
      | inline => exact turn_pure _
      | block => exact turn_pure _
      | pragma => exact turn_pure _

/-- A turn of the loop over the parts of a document ends it or passes a part, a
comment or a pragma. -/
theorem advances_collect
    {calls depth : Nat}
    {parts : List Node}
    (attained : origin.Attains state)
    (enough : 4 * state.cursor.rest.length + 5 ≤ calls) :
    Advances IsExhausted (fun turns (collected : List Node × State) =>
      collect origin.grammar calls depth turns collected.1 collected.2)
      (fun collected => collected.2.cursor) (parts, state) := by
  simp only [Advances, collect, collectParts, Rule.get_bind]
  cases atEnd : state.cursor.isAtEnd with
  | true => exact turn_pure _
  | false =>
    simp only [Bool.false_eq_true, if_false]
    cases opens : state.kind? origin.grammar.order with
    | none =>
      simp only [Rule.move_bind]
      exact .repeats (_, _) (Step.text atEnd opens).passes
    | some kind =>
      cases kind with
      | inline =>
        refine turn_bind (sound_insertion attained opens enough depth) ?_
        intro node middle read
        exact .repeats (_, middle) (Step.of_insertion opens read).passes
      | comment =>
        refine turn_bind (sound_comment attained opens) ?_
        intro _ middle skipped
        exact .repeats (_, middle) (Step.comment opens skipped : Step origin.grammar _ _ _).passes
      | pragma =>
        refine turn_bind (sound_pragma attained opens (by omega)) ?_
        intro _ middle switched
        exact .repeats (_, middle) (Step.of_pragma opens switched).passes
      | block =>
        dsimp only
        cases seen : state.tagKeyword? with
        | none => exact turn_fail _ _
        | some keyword =>
          dsimp only
          cases known : Construct.ofKeyword? keyword with
          | some construct =>
            have atTag := State.isAtTag_of_ofKeyword? opens seen known
            refine turn_bind ((sound_of_rules calls).2.2.1 attained atTag enough) ?_
            intro node middle read
            obtain ⟨segments, steps, derives, _⟩ := (Explained.of_rules _ calls).2.2.1 opens read
            exact .repeats (_, middle) (derives.passes_of_item steps)
          | none =>
            dsimp only
            split
            · exact turn_pure _
            · exact turn_fail _ _

/-- A tag that was seen is entered, and the rest of a turn follows behind its word. -/
theorem turn_openTag_bind
    {keyword : Text}
    {loop : Nat → σ → EStateM.Result Halt State α}
    {place : σ → Cursor}
    {here : Cursor}
    {rest : Nat → Position → Rule α}
    (atTag : state.isAtTag origin.grammar.order keyword = true)
    (far : ∀ opened, openTag keyword state = .ok state.cursor.position opened →
      Turn IsExhausted loop place here fun turns => rest turns state.cursor.position opened) :
    Turn IsExhausted loop place here fun turns => (openTag keyword >>= rest turns) state := by
  obtain ⟨opened, entered⟩ := exists_openTag (State.isAtTag_iff.1 atTag).2
  simp only [Rule.bind_of_ok entered]
  exact far opened entered

/-- A turn of the loop over further conditions ends it or passes a tag with its
body. -/
theorem advances_furtherBranches
    {calls depth : Nat}
    (attained : origin.Attains state)
    (enough : 4 * state.cursor.rest.length + 4 ≤ calls) :
    Advances IsExhausted (furtherBranches origin.grammar
      (expressionTag origin.grammar calls depth) (document origin.grammar calls depth))
      State.cursor state := by
  simp only [Advances, furtherBranches, Rule.get_bind]
  split
  · rename_i atTag
    refine turn_openTag_bind atTag ?_
    intro opened entered
    have passesWord := passes_of_openTag entered
    have shorter := passesWord.2
    refine turn_bind (sound_expressionTag (attained.has.reaches passesWord.1) (by omega) depth) ?_
    intro test second read
    have step := Step.of_expressionTag .further .further (fun _ _ _ => rfl)
      (State.isAtTag_iff.1 atTag).1 entered read
    have shorter := step.passes.2
    have attained := attained.steps (.single step)
    refine turn_bind ((sound_of_rules calls).1 attained (by omega)) ?_
    intro body third bodyRead
    obtain ⟨segments, steps, _⟩ := (Explained.of_rules _ calls).1 bodyRead
    exact turn_map third (step.passes.trans_reaches steps.reaches) (fun _ => rfl) _
  · exact turn_pure _

/-- A turn of the loop over alternatives ends it or passes a tag with its body. -/
theorem advances_alternatives
    {calls depth : Nat}
    (attained : origin.Attains state)
    (enough : 4 * state.cursor.rest.length + 4 ≤ calls) :
    Advances IsExhausted (alternatives origin.grammar (patternTag origin.grammar calls)
      (document origin.grammar calls depth)) State.cursor state := by
  simp only [Advances, alternatives, Rule.get_bind]
  split
  · rename_i atTag
    refine turn_openTag_bind atTag ?_
    intro opened entered
    have passesWord := passes_of_openTag entered
    refine turn_bind (sound_patternTag (attained.has.reaches passesWord.1) (by omega)) ?_
    intro pattern second read
    have step := Step.of_patternTag (State.isAtTag_iff.1 atTag).1 entered read
    have shorter := step.passes.2
    have attained := attained.steps (.single step)
    refine turn_bind ((sound_of_rules calls).1 attained (by omega)) ?_
    intro body third bodyRead
    obtain ⟨segments, steps, _⟩ := (Explained.of_rules _ calls).1 bodyRead
    exact turn_map third (step.passes.trans_reaches steps.reaches) (fun _ => rfl) _
  · exact turn_pure _

end Document

end Stencil
