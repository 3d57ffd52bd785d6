import Stencil.Proofs.Limit
import Stencil.Proofs.Pragma.Change
import Stencil.Proofs.Termination.Loop
import Stencil.Proofs.Termination.Recursion

/-!
# Reading comes to an end

Whatever the source, the delimiters and the limit on nesting are, every turn of a
loop ends it or goes on further on in the source, and every rule that opens itself
does so further on in the source.  So reading needs no more open rules and turns than
are in proportion to the length of the source: with more of them it comes to the
same.
-/

namespace Stencil

open Template (Origin)

/-- Every turn of every loop that reads a source ends the loop or goes on further on
in the source. -/
structure Template.Origin.LoopsAdvance (origin : Origin) : Prop where
  /-- The loop over the parts of a document. -/
  parts : ∀ {calls depth : Nat} {parts : List Node} {state : Document.State},
    origin.Attains state → 4 * state.cursor.rest.length + 5 ≤ calls →
      Advances Document.Rule.IsExhausted
        (fun turns (collected : List Node × Document.State) =>
          Document.collect origin.grammar calls depth turns collected.1 collected.2)
        (fun collected => collected.2.cursor) (parts, state)
  /-- The loop between a scrutinee and its first alternative. -/
  gap : ∀ {state : Document.State}, origin.Attains state →
    Advances Document.Rule.IsExhausted (Document.skipToAlternatives origin.grammar)
      Document.State.cursor state
  /-- The loop over the further conditions of a conditional. -/
  branches : ∀ {calls depth : Nat} {state : Document.State},
    origin.Attains state → 4 * state.cursor.rest.length + 4 ≤ calls →
      Advances Document.Rule.IsExhausted
        (Document.furtherBranches origin.grammar
          (Document.expressionTag origin.grammar calls depth)
          (Document.document origin.grammar calls depth))
        Document.State.cursor state
  /-- The loop over the alternatives of a selection. -/
  alternatives : ∀ {calls depth : Nat} {state : Document.State},
    origin.Attains state → 4 * state.cursor.rest.length + 4 ≤ calls →
      Advances Document.Rule.IsExhausted
        (Document.alternatives origin.grammar (Document.patternTag origin.grammar calls)
          (Document.document origin.grammar calls depth))
        Document.State.cursor state
  /-- The loop over the fields of a pragma. -/
  fields : ∀ {changes : List (Kind × Value)} {cursor : Cursor} (closing : Text),
    origin.Has cursor →
      Advances Reading.IsExhausted
        (fun turns (listed : List (Kind × Value) × Cursor) =>
          Document.pragmaChanges ⟨origin.grammar, closing⟩ turns listed.1 listed.2)
        Prod.snd (changes, cursor)
  /-- The loop over the operators of an expression. -/
  operators : ∀ {calls depth : Nat} {least : Int} {left : Node} {cursor : Cursor}
    (closing : Text), origin.Has cursor → 4 * cursor.rest.length + 1 ≤ calls →
      Advances Reading.IsExhausted
        (fun turns (read : Node × Cursor) =>
          Region.tail ⟨origin.grammar, closing⟩ calls depth least turns read.1 read.2)
        Prod.snd (left, cursor)
  /-- The loop over the names of a variable. -/
  names : ∀ {calls : Nat} {cursor : Cursor} (closing : Text), origin.Has cursor → 1 ≤ calls →
    Advances Reading.IsExhausted
      (Region.pathRest ⟨origin.grammar, closing⟩
        (Region.identifier ⟨origin.grammar, closing⟩ calls))
      id cursor
  /-- The loop over the tokens of a text. -/
  tokens : ∀ cursor : Cursor, Advances Token.IsCutShort Token.scanAll id cursor

/-- Of the rules for expressions, each opens others of a lower rank where it begins,
and all further ones behind that place. -/
structure Region.RulesAdvance (region : Region) : Prop where
  /-- Each rule opens the rules for one open rule less. -/
  opens : ∀ calls, region.rules (calls + 1) = region.opening calls (region.rules calls)
  /-- An expression opens an operand with its prefix operators where it begins. -/
  expression : ∀ {calls depth least here first second},
    Rules.AlikeBehind here first second →
      Reading.Alike here (first.unary depth here) (second.unary depth here) →
        (region.opening calls first).expression depth least here =
          (region.opening calls second).expression depth least here
  /-- An operand with its prefix operators opens the operand where it begins. -/
  unary : ∀ {calls depth here first second},
    Rules.AlikeBehind here first second →
      Reading.Alike here (first.atom depth here) (second.atom depth here) →
        (region.opening calls first).unary depth here =
          (region.opening calls second).unary depth here
  /-- An operand opens nothing where it begins. -/
  atom : ∀ {calls depth here first second},
    Rules.AlikeBehind here first second →
      (region.opening calls first).atom depth here =
        (region.opening calls second).atom depth here

/-- Of the rules for documents, each opens others of a lower rank where it begins, and
all further ones behind that place. -/
structure Document.RulesAdvance (grammar : Grammar) : Prop where
  /-- Each rule opens the rules for one open rule less. -/
  opens : ∀ calls, rules grammar (calls + 1) = opening grammar calls (rules grammar calls)
  /-- A document opens its parts where it begins. -/
  document : ∀ {calls depth : Nat} {state : State} {first second : Rules},
    (∀ depth, Rule.Alike state (first.parts depth) (second.parts depth)) →
      (opening grammar calls first).document depth state =
        (opening grammar calls second).document depth state
  /-- The parts of a document open blocks where it begins or behind that place. -/
  parts : ∀ {calls depth : Nat} {state : State} {first second : Rules},
    (∀ construct other, state.cursor.Reaches other.cursor →
      Rule.Alike other (first.block depth construct) (second.block depth construct)) →
      (opening grammar calls first).parts depth state =
        (opening grammar calls second).parts depth state
  /-- A block opens nothing where it begins. -/
  block : ∀ {calls depth : Nat} {construct : Construct} {state : State} {first second : Rules},
    Rule.AlikeBehind state.cursor (first.document depth) (second.document depth) →
      Rule.AlikeBehind state.cursor (first.otherwise depth) (second.otherwise depth) →
        (opening grammar calls first).block depth construct state =
          (opening grammar calls second).block depth construct state
  /-- Neither does the body for all other cases. -/
  otherwise : ∀ {calls depth : Nat} {state : State} {first second : Rules},
    Rule.AlikeBehind state.cursor (first.document depth) (second.document depth) →
      (opening grammar calls first).otherwise depth state =
        (opening grammar calls second).otherwise depth state

theorem Template.Origin.loopsAdvance (origin : Origin) : origin.LoopsAdvance where
  parts := Document.advances_collect
  gap := Document.advances_skipToAlternatives
  branches := Document.advances_furtherBranches
  alternatives := Document.advances_alternatives
  fields closing stands := Document.advances_pragmaChanges stands _
  operators closing stands := Region.advances_tail stands (Document.length_lt_turns stands)
  names {calls} cursor closing stands enough := by
    obtain ⟨calls, rfl⟩ : ∃ fewer, calls = fewer + 1 := ⟨calls - 1, by omega⟩
    exact Region.advances_pathRest stands calls
  tokens := Token.advances_scanAll

theorem Region.rulesAdvance (region : Region) : region.RulesAdvance where
  opens := region.rules_succ
  expression behind sameUnary := (behind.expression_opening _ _ sameUnary).1
  unary behind sameAtom := (behind.unary_opening _ sameAtom).1
  atom behind := (behind.atom_opening _).1

theorem Document.rulesAdvance (grammar : Grammar) : RulesAdvance grammar where
  opens := rules_succ grammar
  document sameParts := (alike_document_opening sameParts).1
  parts sameBlocks := (alike_parts_opening sameBlocks).1
  block bodies defaults := (alike_block_opening bodies defaults _).1
  otherwise bodies := (alike_otherwise_opening bodies).1

/-! ## Enough turns -/

namespace Template

/-- The outcome of reading a template. -/
def Outcome.ofResult : EStateM.Result Halt Document.State Template → Outcome
  | .ok template state => ⟨.ok template, state.delimiters, state.journal.reverse⟩
  | .error halt state => ⟨.error halt, state.delimiters, state.journal.reverse⟩

theorem read_eq_ofResult
    (options : Options)
    (name : Text)
    (delimiters : Delimiters)
    (source : Text) :
    read options name delimiters source = .ofResult
      (whole (grammarFor options source) (callsFor source) name
        (initial name delimiters source)) := by
  unfold read initial
  dsimp only
  cases whole (grammarFor options source) (callsFor source) name
    ⟨Cursor.start name source, delimiters, [], []⟩ <;> rfl

/-- Reads a source with given numbers of rules that may be open and of turns that a
loop may take. -/
def readAllowing
    (calls turns : Nat)
    (options : Options)
    (name : Text)
    (delimiters : Delimiters)
    (source : Text) : Outcome :=
  .ofResult (whole ((grammarFor options source).allowing options.limit turns) calls name
    (initial name delimiters source))

/-- More open rules and turns than a source needs change nothing. -/
theorem readAllowing_eq_read
    {options : Options}
    {calls turns : Nat}
    (name : Text)
    (delimiters : Delimiters)
    {source : Text}
    (enoughCalls : callsFor source ≤ calls)
    (enoughTurns : source.length + 1 ≤ turns) :
    readAllowing calls turns options name delimiters source =
      read options name delimiters source := by
  have kept := @kept_whole (grammarFor options source) _ _ _ _ (Int.le_refl _) enoughTurns
    enoughCalls name (initial name delimiters source)
  rw [read_eq_ofResult]
  rcases kept with same | ⟨halt, after, failed, lifted⟩
  · exact congrArg Outcome.ofResult same
  · have exhausted : (read options name delimiters source).result = .error .exhausted := by
      rw [read_eq_ofResult, failed, lifted.eq_exhausted]
      rfl
    exact absurd exhausted (read_ne_exhausted options name delimiters source)

/-- Reading a source comes to an end: the delimiters that become active are never
empty, since they are changed only to texts that are not, every turn of a loop ends it or
goes on further on in the source, every rule that opens itself does so further on in the
source, and open rules and turns in proportion to the length of the source are enough,
whatever the limit is. -/
theorem read_terminates
    (options : Options)
    (name : Text)
    (delimiters : Delimiters)
    (source : Text) :
    (∀ active index, Origin.Active ⟨options, name, delimiters, source⟩ active index →
      ∀ kind, (active.pair kind).opening ≠ [] ∧ (active.pair kind).closing ≠ []) ∧
    (∀ active changed changes kind value, Delimiters.change active changes = .ok changed →
      Delimiters.change? changes kind = some value →
        ∃ opening closing, value = .tuple [.text opening, .text closing] ∧
          opening ≠ [] ∧ closing ≠ [] ∧
          (changed.pair kind).opening = opening ∧ (changed.pair kind).closing = closing) ∧
    Origin.LoopsAdvance ⟨options, name, delimiters, source⟩ ∧
    (∀ closing, Region.RulesAdvance ⟨grammarFor options source, closing⟩) ∧
    Document.RulesAdvance (grammarFor options source) ∧
    (read options name delimiters source).result ≠ .error .exhausted ∧
    (∀ calls turns, 4 * source.length + 16 ≤ calls → source.length + 1 ≤ turns →
      readAllowing calls turns options name delimiters source =
        read options name delimiters source) ∧
    ¬ Token.IsCutShort (Token.list name source) := by
  refine ⟨?_, ?_, Origin.loopsAdvance _, fun closing => Region.rulesAdvance _,
    Document.rulesAdvance _, read_ne_exhausted options name delimiters source, ?_, ?_⟩
  · intro active index _ kind
    exact ⟨(active.pair kind).opening_ne_nil, (active.pair kind).closing_ne_nil⟩
  · intro active changed changes kind value success listed
    exact Delimiters.exists_of_change success listed
  · intro calls turns enoughCalls enoughTurns
    exact readAllowing_eq_read name delimiters enoughCalls enoughTurns
  · exact Advances.not_exhausted Token.advances_scanAll _ _ (Nat.lt_succ_self _)

end Template

end Stencil
