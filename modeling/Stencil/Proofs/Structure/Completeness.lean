import Stencil.Proofs.Structure

/-!
# What can be derived is read by the rules for documents

If the source between two states can be cut into segments with blank gaps that
the grammar of documents derives, then the rules succeed with the same tree.  A
body has to end where its derivation ends, so each form comes with a condition
on the state behind it: a document is followed by the end of the source or by a
tag that ends bodies, and clauses are not followed by one more clause of their
kind.

There is one lemma for each way to derive something, and the induction on the
derivation puts them together.  Every tag passes a code point, which pays for the
rules and for the turn that are spent on it.
-/

namespace Stencil

namespace Document

/-! ## Where bodies end -/

theorem State.isAtTag_of_step
    {grammar : Grammar}
    {state after : State}
    {opener behind : Position}
    {tag : Tag}
    (step : Step grammar state (.tag opener tag behind) after) :
    state.isAtTag grammar.order tag.keyword = true := by
  cases step with
  | tag opens entered => exact State.isAtTag_iff.2 ⟨opens, tagKeyword?_of_openTag entered⟩

/-- Only one tag stands at a cursor. -/
theorem State.isAtTag_eq_false
    {state : State}
    {order : List Kind}
    {keyword other : Text}
    (atTag : state.isAtTag order keyword = true)
    (differ : keyword ≠ other) :
    state.isAtTag order other = false := by
  have seen := (State.isAtTag_iff.1 atTag).2
  simp [State.isAtTag, seen, differ]

/-- A tag follows that ends the body before it. -/
def State.Terminated (grammar : Grammar) (state : State) : Prop :=
  ∃ keyword ∈ terminators, state.isAtTag grammar.order keyword = true

/-- The source or a body ends. -/
def State.Ends (grammar : Grammar) (state : State) : Prop :=
  state.cursor.isAtEnd = true ∨ state.Terminated grammar

theorem State.Terminated.ends
    {grammar : Grammar}
    {state : State}
    (terminated : state.Terminated grammar) :
    state.Ends grammar :=
  .inr terminated

theorem State.Terminated.of_marker
    {grammar : Grammar}
    {state after : State}
    {opener behind : Position}
    {word : Marker}
    (step : Step grammar state (.tag opener (.marker word) behind) after) :
    state.Terminated grammar :=
  ⟨word.keyword, by cases word <;> decide, State.isAtTag_of_step step⟩

/-- Clauses begin with tags that end the body before them. -/
theorem Derives.terminated
    {grammar : Grammar}
    {form : Form}
    {levels : Nat}
    {segments : List Segment}
    {state after : State}
    (derives : Derives form levels segments)
    (isClause : form.isClause = true)
    (steps : Steps grammar state segments after)
    (terminated : after.Terminated grammar) :
    state.Terminated grammar := by
  rcases derives.clause_cases isClause with rfl | ⟨opener, tag, behind, rest, rfl, isTerminator⟩
  · cases steps
    exact terminated
  · obtain ⟨middle, step, _⟩ := steps.of_cons
    exact ⟨tag.keyword, isTerminator, State.isAtTag_of_step step⟩

/-- Before the last clause of a block and its end there is no other clause. -/
theorem Derives.otherwise_isAtTag
    {grammar : Grammar}
    {default : Option Node}
    {levels : Nat}
    {segments : List Segment}
    {state after final : State}
    {opener behind : Position}
    {word : Marker}
    {keyword : Text}
    (derives : Derives (.otherwise default) levels segments)
    (steps : Steps grammar state segments after)
    (last : Step grammar after (.tag opener (.marker word) behind) final)
    (noDefault : Text.of "else" ≠ keyword)
    (notLast : word.keyword ≠ keyword) :
    state.isAtTag grammar.order keyword = false := by
  cases derives with
  | noDefault =>
    cases steps
    exact State.isAtTag_eq_false (State.isAtTag_of_step last) notLast
  | default rest =>
    obtain ⟨middle, step, _⟩ := steps.of_cons
    exact State.isAtTag_eq_false (State.isAtTag_of_step step) noDefault

/-! ## Turns of the loops -/

/-- The loop over the parts of a document, as a document runs it. -/
def collect
    (grammar : Grammar)
    (calls depth turns : Nat)
    (parts : List Node) : Rule (List Node) :=
  collectParts grammar (insertion grammar depth calls) (pragma grammar calls)
    (fun construct => block grammar calls depth construct) turns parts

/-- No word both opens a block and ends a body. -/
theorem ofKeyword?_of_mem_terminators :
    ∀ keyword ∈ terminators, Construct.ofKeyword? keyword = none := by
  decide

/-- The loop ends where a body ends. -/
theorem State.Ends.collect_eq_ok
    {grammar : Grammar}
    {state : State}
    (ends : state.Ends grammar)
    (calls depth turns : Nat)
    (parts : List Node) :
    collect grammar calls depth (turns + 1) parts state = .ok parts.reverse state := by
  simp only [collect, collectParts, Rule.get_bind]
  rcases ends with atEnd | ⟨keyword, isTerminator, atTag⟩
  · simp only [atEnd, if_true]
    rfl
  · obtain ⟨opens, seen⟩ := State.isAtTag_iff.1 atTag
    have contained : terminators.contains keyword = true := by simpa using isTerminator
    simp only [State.isAtEnd_eq_false opens, Bool.false_eq_true, if_false, opens, seen,
      ofKeyword?_of_mem_terminators keyword isTerminator, contained, if_true]
    rfl

/-- A turn of the loop with a block. -/
theorem collect_block
    {grammar : Grammar}
    {calls depth : Nat}
    (construct : Construct)
    {state after : State}
    {node : Node}
    (atTag : state.isAtTag grammar.order construct.keyword = true)
    (read : block grammar calls depth construct state = .ok node after)
    (turns : Nat)
    (parts : List Node) :
    collect grammar calls depth (turns + 1) parts state =
      collect grammar calls depth turns (node :: parts) after := by
  obtain ⟨opens, seen⟩ := State.isAtTag_iff.1 atTag
  have known : Construct.ofKeyword? construct.keyword = some construct := by
    cases construct <;> decide
  simp only [collect, collectParts, Rule.get_bind, State.isAtEnd_eq_false opens,
    Bool.false_eq_true, if_false, opens, seen, known, Rule.bind_of_ok read]

/-- A document is what the loop over its parts collects one level deeper. -/
theorem document_eq_ok_iff_collect
    {grammar : Grammar}
    {calls depth : Nat}
    {state after : State}
    {node : Node} :
    document grammar (calls + 2) depth state = .ok node after ↔
      (depth + 1 : Int) ≤ grammar.limit ∧ ∃ parts,
        collect grammar calls (depth + 1) grammar.turns [] state = .ok parts after ∧
          node = Node.sequenced state.cursor.position parts := by
  simp only [document, Rule.get_bind]
  constructor
  · intro success
    cases nested : Reading.nest grammar depth state.cursor.position with
    | error halt => simp [nested] at success
    | ok deeper =>
      simp only [nested, Rule.bind_eq_ok, Rule.pure_eq_ok] at success
      obtain ⟨collected, _, read, rfl, rfl⟩ := success
      obtain ⟨allowed, rfl⟩ := Reading.nest_eq_ok.1 nested
      rw [parts] at read
      exact ⟨allowed, collected, read, rfl⟩
  · rintro ⟨allowed, collected, read, rfl⟩
    have nested : Reading.nest grammar depth state.cursor.position = .ok (depth + 1) :=
      Reading.nest_eq_ok.2 ⟨allowed, rfl⟩
    have partsRead : parts grammar (calls + 1) (depth + 1) state = .ok collected after := by
      rw [parts]
      exact read
    simp only [nested, Rule.bind_of_ok partsRead]
    rfl

/-- Blank segments are passed before the alternatives of a selection. -/
theorem Steps.skipToAlternatives_eq_ok
    {grammar : Grammar}
    {state after : State}
    {gap : List Segment}
    (steps : Steps grammar state gap after)
    (blank : gap.all Segment.isBlank = true)
    (opens : after.kind? grammar.order = some .block)
    (turns : Nat)
    (enough : state.cursor.rest.length < turns) :
    skipToAlternatives grammar turns state = .ok () after := by
  induction steps generalizing turns with
  | nil =>
    obtain ⟨turns, rfl⟩ : ∃ fewer, turns = fewer + 1 := ⟨turns - 1, by omega⟩
    simp only [skipToAlternatives, Rule.get_bind, State.isAtEnd_eq_false opens,
      Bool.false_eq_true, if_false, opens]
    rfl
  | cons step steps hypothesis =>
    obtain ⟨turns, rfl⟩ : ∃ fewer, turns = fewer + 1 := ⟨turns - 1, by omega⟩
    have shorter := step.passes.2
    simp only [List.all_cons, Bool.and_eq_true] at blank
    have rest := hypothesis blank.2 opens turns (by omega)
    cases step with
    | text unread noRegion =>
      have runBlank : Text.isBlank _ = true := blank.1
      simp only [skipToAlternatives, Rule.get_bind, unread, Bool.false_eq_true, if_false, noRegion,
        runBlank, if_true, Rule.move_bind]
      exact rest
    | comment opens' skipped =>
      simp only [skipToAlternatives, Rule.get_bind, State.isAtEnd_eq_false opens',
        Bool.false_eq_true, if_false, opens', Rule.bind_of_ok skipped]
      exact rest
    | insertion | pragma | tag => simp [Segment.isBlank] at blank

/-! ## Segments -/

/-- A tag says where it ends. -/
theorem Step.behind_eq
    {grammar : Grammar}
    {state after : State}
    {opener behind : Position}
    {tag : Tag}
    (step : Step grammar state (.tag opener tag behind) after) :
    behind = after.cursor.position := by
  cases step with
  | tag => rfl

/-- The tag of a step that holds an expression is read. -/
theorem Step.expressionTag_succeeds
    {grammar : Grammar}
    {depth levels : Nat}
    {state after : State}
    {opener behind : Position}
    {content : Content}
    (tag : Content → Tag)
    (holds : ∀ {region : Region} {cursor finish : Cursor},
      (tag content).Holds region cursor finish →
        region.Reads (.expression 1) content.levels cursor content.node finish)
    (quiet : ∀ (state : State) (opener : Position), state.noted opener (tag content) = state)
    (step : Step grammar state (.tag opener (tag content) behind) after)
    (fits : content.levels ≤ levels)
    (allowed : (depth + levels : Int) ≤ grammar.limit)
    (enoughTurns : state.cursor.rest.length < grammar.turns)
    {calls : Nat}
    (enough : 4 * state.cursor.rest.length + 1 ≤ calls) :
    ∃ opened, openTag (tag content).keyword state = .ok opener opened ∧
      expressionTag grammar calls depth opened = .ok content.node after := by
  generalize named : Segment.tag opener (tag content) behind = segment at step
  cases step with
  | tag opens entered held closes =>
    obtain ⟨rfl, rfl, rfl⟩ := Segment.tag.inj named
    have shorter := (passes_of_openTag entered).2
    have within : (depth + content.levels : Int) ≤ grammar.limit := by omega
    have reads := (holds held).succeeds calls depth within (Nat.lt_trans shorter enoughTurns)
      (by omega)
    refine ⟨_, entered, ?_⟩
    rw [quiet]
    exact Document.expressionTag_eq_ok.2 ⟨_, _, reads, closes, rfl⟩
  | _ => simp at named

section Segments

variable
  {grammar : Grammar}
  {calls depth levels : Nat}
  {state after : State}
  {opener behind : Position}

/-- The tag of an alternative is read. -/
theorem Step.patternTag_succeeds
    {pattern : Pattern}
    (step : Step grammar state (.tag opener (.alternative pattern) behind) after)
    (enoughTurns : state.cursor.rest.length < grammar.turns)
    (enough : 3 ≤ calls) :
    ∃ opened, openTag (Text.of "when") state = .ok opener opened ∧
      patternTag grammar calls opened = .ok pattern after := by
  cases step with
  | tag opens entered holds closes =>
    have shorter := (passes_of_openTag entered).2
    cases holds with
    | alternative matched =>
      have read := matched.pattern_eq_ok calls enough (Nat.lt_trans shorter enoughTurns)
      exact ⟨_, entered, patternTag_eq_ok.2 ⟨_, _, read, closes, rfl⟩⟩

/-- A tag that holds nothing but its word is read. -/
theorem Step.markerTag_succeeds
    {word : Marker}
    (step : Step grammar state (.tag opener (.marker word) behind) after) :
    ∃ opened, openTag word.keyword state = .ok opener opened ∧
      closeTag grammar opened = .ok () after := by
  cases step with
  | tag opens entered holds closes =>
    cases holds
    exact ⟨_, entered, closeTag_eq_ok.2 ⟨_, closes, rfl⟩⟩

theorem expectTerminator_of_step
    {word : Marker}
    (step : Step grammar state (.tag opener (.marker word) behind) after)
    (construct : Construct)
    (beginning : Position) :
    expectTerminator grammar word.keyword construct beginning state = .ok () after := by
  cases step with
  | tag opens entered holds closes =>
    cases holds
    exact expectTerminator_eq_ok.2 ⟨opens, _, _, _, entered, closes, rfl⟩

/-- An inserted expression is read. -/
theorem Step.insertion_succeeds
    {content : Content}
    (step : Step grammar state (.insertion content) after)
    (fits : content.levels ≤ levels)
    (allowed : (depth + levels : Int) ≤ grammar.limit)
    (enoughTurns : state.cursor.rest.length < grammar.turns)
    (enough : 4 * state.cursor.rest.length + 2 ≤ calls) :
    Document.insertion grammar depth calls state = .ok content.node after := by
  cases step with
  | insertion opens reads closes =>
    obtain ⟨calls, rfl⟩ : ∃ fewer, calls = fewer + 1 := ⟨calls - 1, by omega⟩
    have positive := List.length_pos_iff.2 state.delimiters.inline.opening_ne_nil
    have shorter := (Cursor.passes_forward positive (State.rest_ne_nil opens)).2
    have expressionReads := reads.succeeds calls depth (by simp only; omega)
      (Nat.lt_trans shorter enoughTurns) (by omega)
    exact insertion_eq_ok.2 ⟨_, _, expressionReads, closes, rfl⟩

/-- A pragma is read. -/
theorem Step.pragma_succeeds
    (step : Step grammar state .pragma after)
    (enoughTurns : state.cursor.rest.length < grammar.turns)
    (enough : 1 ≤ calls) :
    Document.pragma grammar calls state = .ok () after := by
  cases step with
  | pragma opens listed closes changed =>
    obtain ⟨calls, rfl⟩ : ∃ fewer, calls = fewer + 1 := ⟨calls - 1, by omega⟩
    have positive := List.length_pos_iff.2 state.delimiters.pragma.opening_ne_nil
    have shorter := (Cursor.passes_forward positive (State.rest_ne_nil opens)).2
    have changesRead := listed.pragmaChanges_eq_ok grammar.turns
      (Nat.lt_trans shorter enoughTurns)
    exact pragma_eq_ok.2 ⟨_, _, _, _, changesRead, closes, changed, rfl⟩

/-- An inclusion is one tag, so it is read as soon as the tag stands there. -/
theorem Step.inclusion_succeeds
    {key : Text}
    {context : Option Content}
    (step : Step grammar state (.tag opener (.inclusion key context) behind) after)
    (fits : ∀ content ∈ context, content.levels ≤ levels)
    (allowed : (depth + levels : Int) ≤ grammar.limit)
    (enoughTurns : state.cursor.rest.length < grammar.turns)
    (enough : 4 * state.cursor.rest.length + 1 ≤ calls) :
    Document.inclusion grammar (expressionTag grammar calls depth) state =
      .ok (.inclusion opener key (context.map Content.node)) after := by
  simp only [Document.inclusion, Rule.bind_eq_ok, Rule.get_bind, Rule.reading_eq_ok,
    register_bind]
  cases step with
  | tag opens entered holds closes =>
    have shorter := (passes_of_openTag entered).2
    cases holds with
    | inclusion keyed alone =>
      refine ⟨_, _, entered, _, _, ⟨_, keyed, rfl⟩, false, _, ⟨_, alone, rfl⟩, ?_⟩
      simp only [Bool.false_eq_true, if_false, Rule.bind_eq_ok, Rule.pure_eq_ok]
      exact ⟨(), _, closeTag_eq_ok.2 ⟨_, closes, rfl⟩, rfl, rfl⟩
    | inclusionWith keyed joined reads =>
      have contextShorter :=
        ((inclusionKey_passes keyed).1.trans (withContext_reaches joined)).length_le
      have contextFits := fits _ rfl
      have contextReads := reads.succeeds calls depth (by simp only [State.tagRegion]; omega)
        (by simp only [State.tagRegion]; omega) (by omega)
      refine ⟨_, _, entered, _, _, ⟨_, keyed, rfl⟩, true, _, ⟨_, joined, rfl⟩, ?_⟩
      simp only [if_true, Rule.bind_eq_ok, Rule.pure_eq_ok]
      exact ⟨_, _, Document.expressionTag_eq_ok.2 ⟨_, _, contextReads, closes, rfl⟩, rfl, rfl⟩

end Segments

/-! ## Blocks

The rules for bodies are parameters of the rules for blocks; here they succeed. -/

section Blocks

variable
  {grammar : Grammar}
  {calls depth levels : Nat}
  {body : Rule Node}
  {otherwise : Rule (Option Node)}
  {state second third fourth fifth after : State}
  {opener behind last finish : Position}
  {result : Node}
  {default : Option Node}

theorem Step.conditional_succeeds
    {test : Content}
    {others : List (Node × Node)}
    (step : Step grammar state (.tag opener (.condition test) behind) second)
    (bodyRead : body second = .ok result third)
    (othersRead : furtherBranches grammar (expressionTag grammar calls depth) body grammar.turns
      third = .ok others fourth)
    (defaultRead : otherwise fourth = .ok default fifth)
    (lastStep : Step grammar fifth (.tag last (.marker .endConditional) finish) after)
    (fits : test.levels ≤ levels)
    (allowed : (depth + levels : Int) ≤ grammar.limit)
    (enoughTurns : state.cursor.rest.length < grammar.turns)
    (enough : 4 * state.cursor.rest.length + 1 ≤ calls) :
    Document.conditional grammar (expressionTag grammar calls depth) body otherwise state =
      .ok (Node.conditional ((test.node, result) :: others) default) after := by
  obtain ⟨opened, entered, testRead⟩ :=
    step.expressionTag_succeeds .condition (fun held => by cases held; assumption)
      (fun _ _ => rfl) fits allowed enoughTurns enough
  have ended := expectTerminator_of_step lastStep .conditional opener
  simp only [Document.conditional, Rule.bind_eq_ok, Rule.pure_eq_ok]
  exact ⟨_, _, entered, _, _, testRead, _, _, bodyRead, _, _, othersRead, _, _, defaultRead, (), _,
    ended, rfl, rfl⟩

theorem Step.selection_succeeds
    {subject : Content}
    {cases : List (Pattern × Node)}
    {beginning : State}
    (step : Step grammar state (.tag opener (.scrutinee subject) behind) second)
    (skipped : skipToAlternatives grammar grammar.turns second = .ok () beginning)
    (casesRead : Document.alternatives grammar (patternTag grammar calls) body grammar.turns
      beginning = .ok cases third)
    (defaultRead : otherwise third = .ok default fourth)
    (lastStep : Step grammar fourth (.tag last (.marker .endSelection) finish) after)
    (fits : subject.levels ≤ levels)
    (allowed : (depth + levels : Int) ≤ grammar.limit)
    (enoughTurns : state.cursor.rest.length < grammar.turns)
    (enough : 4 * state.cursor.rest.length + 1 ≤ calls) :
    Document.selection grammar (expressionTag grammar calls depth) (patternTag grammar calls) body
      otherwise state = .ok (Node.selected subject.node cases default) after := by
  obtain ⟨opened, entered, subjectRead⟩ :=
    step.expressionTag_succeeds .scrutinee (fun held => by cases held; assumption)
      (fun _ _ => rfl) fits allowed enoughTurns enough
  have ended := expectTerminator_of_step lastStep .selection opener
  simp only [Document.selection, Rule.bind_eq_ok, Rule.pure_eq_ok]
  exact ⟨_, _, entered, _, _, subjectRead, (), _, skipped, _, _, casesRead, _, _, defaultRead, (),
    _, ended, rfl, rfl⟩

theorem Step.loop_succeeds
    {item : Identifier}
    {source : Variable}
    (step : Step grammar state (.tag opener (.loop item source) behind) second)
    (bodyRead : body second = .ok result third)
    (defaultRead : otherwise third = .ok default fourth)
    (lastStep : Step grammar fourth (.tag last (.marker .endLoop) finish) after)
    (enoughTurns : state.cursor.rest.length < grammar.turns)
    (enough : 2 ≤ calls) :
    Document.loop grammar calls body otherwise state =
      .ok (.loop opener item source.reference result default) after := by
  obtain ⟨calls, rfl⟩ : ∃ fewer, calls = fewer + 1 := ⟨calls - 1, by omega⟩
  have ended := expectTerminator_of_step lastStep .loop opener
  cases step with
  | tag opens entered holds closes =>
    have openedShorter := (passes_of_openTag entered).2
    cases holds with
    | loop named joined iterated =>
      have overShorter := ((Region.identifier_passes named).trans (keyword_passes joined)).2
      have sourceRead := iterated.path_eq_ok (calls + 1) enough
        (by simp only [State.tagRegion]; omega)
      simp only [Document.loop, Rule.bind_eq_ok, Rule.get_bind, Rule.reading_eq_ok,
        Rule.pure_eq_ok]
      exact ⟨_, _, entered, _, _, ⟨_, named, rfl⟩, _, _, ⟨_, joined, rfl⟩, _, _,
        ⟨_, sourceRead, rfl⟩, (), _, closeTag_eq_ok.2 ⟨_, closes, rfl⟩, _, _, bodyRead, _, _,
        defaultRead, (), _, ended, rfl, rfl⟩

theorem Step.binding_succeeds
    {name : Identifier}
    {value : Content}
    (step : Step grammar state (.tag opener (.binding name value) behind) second)
    (bodyRead : body second = .ok result third)
    (lastStep : Step grammar third (.tag last (.marker .endBinding) finish) after)
    (fits : value.levels ≤ levels)
    (allowed : (depth + levels : Int) ≤ grammar.limit)
    (enoughTurns : state.cursor.rest.length < grammar.turns)
    (enough : 4 * state.cursor.rest.length + 1 ≤ calls) :
    Document.binding grammar calls (expressionTag grammar calls depth) body state =
      .ok (.binding opener name value.node result) after := by
  obtain ⟨calls, rfl⟩ : ∃ fewer, calls = fewer + 1 := ⟨calls - 1, by omega⟩
  have ended := expectTerminator_of_step lastStep .binding opener
  cases step with
  | tag opens entered holds closes =>
    have openedShorter := (passes_of_openTag entered).2
    cases holds with
    | binding named signed reads =>
      have valueShorter := ((Region.identifier_passes named).trans (bindingSign_passes signed)).2
      have valueReads := reads.succeeds (calls + 1) depth (by simp only [State.tagRegion]; omega)
        (by simp only [State.tagRegion]; omega) (by omega)
      simp only [Document.binding, Rule.bind_eq_ok, Rule.get_bind, Rule.reading_eq_ok,
        Rule.pure_eq_ok]
      exact ⟨_, _, entered, _, _, ⟨_, named, rfl⟩, (), _, ⟨_, signed, rfl⟩, _, _,
        Document.expressionTag_eq_ok.2 ⟨_, _, valueReads, closes, rfl⟩, _, _, bodyRead, (), _,
        ended, rfl, rfl⟩

end Blocks

/-! ## Derivations are read -/

/-- Every item passes some text. -/
theorem Derives.passes_of_item
    {grammar : Grammar}
    {pieces : List Piece}
    {levels : Nat}
    {segments : List Segment}
    {state after : State}
    (derives : Derives (.item pieces) levels segments)
    (steps : Steps grammar state segments after) :
    state.cursor.Passes after.cursor := by
  obtain ⟨segment, rest, rfl⟩ : ∃ segment rest, segments = segment :: rest := by
    cases derives <;> exact ⟨_, _, rfl⟩
  obtain ⟨middle, step, steps⟩ := steps.of_cons
  exact step.passes.trans_reaches steps.reaches

/-- What a form asks of the rules when something is derived from it: that they
read the same as soon as enough of them may be open. -/
def Form.Succeeds
    (grammar : Grammar)
    (state after : State)
    (calls depth : Nat) : Form → Prop
  | .item pieces =>
    4 * state.cursor.rest.length + 5 ≤ calls →
      ∀ turns parts, collect grammar calls depth (turns + 1) parts state =
        collect grammar calls depth turns (pieces.foldl Piece.added parts) after
  | .items pieces =>
    4 * state.cursor.rest.length + 5 ≤ calls →
      ∃ count, count + after.cursor.rest.length ≤ state.cursor.rest.length ∧
        ∀ turns parts, collect grammar calls depth (turns + count) parts state =
          collect grammar calls depth turns (pieces.foldl Piece.added parts) after
  | .document position node =>
    4 * state.cursor.rest.length + 8 ≤ calls →
      position = state.cursor.position →
      after.Ends grammar →
      Document.document grammar calls depth state = .ok node after
  | .branches tests =>
    4 * state.cursor.rest.length + 4 ≤ calls →
      after.Terminated grammar →
      after.isAtTag grammar.order (Text.of "elif") = false →
      ∀ turns, state.cursor.rest.length < turns →
        furtherBranches grammar (expressionTag grammar calls depth)
          (Document.document grammar calls depth) turns state = .ok tests after
  | .alternatives cases =>
    4 * state.cursor.rest.length + 4 ≤ calls →
      after.Terminated grammar →
      after.isAtTag grammar.order (Text.of "when") = false →
      ∀ turns, state.cursor.rest.length < turns →
        Document.alternatives grammar (patternTag grammar calls)
          (Document.document grammar calls depth) turns state = .ok cases after
  | .otherwise body =>
    4 * state.cursor.rest.length + 5 ≤ calls →
      after.Terminated grammar →
      after.isAtTag grammar.order (Text.of "else") = false →
      Document.otherwise grammar calls depth state = .ok body after

/-- Wherever the source is cut into the segments, with blank gaps and within the
limits, the rules read the form. -/
def Form.IsRead
    (grammar : Grammar)
    (form : Form)
    (levels : Nat)
    (segments : List Segment) : Prop :=
  ∀ {state after : State}, Steps grammar state segments after → gapsAreBlank segments = true →
    ∀ calls depth : Nat, (depth + levels : Int) ≤ grammar.limit →
      state.cursor.rest.length < grammar.turns →
        form.Succeeds grammar state after calls depth

section Forms

variable
  {grammar : Grammar}
  {levels : Nat}
  {opener behind last finish position : Position}
  {body : Node}
  {bodySegments defaultSegments : List Segment}

theorem Form.IsRead.text {run : Text} :
    Form.IsRead grammar (.item [.text position run]) levels [.text position run] := by
  intro state after steps blank calls depth allowed enoughTurns enough turns parts
  obtain ⟨middle, step, done⟩ := steps.of_cons
  cases done
  cases step with
  | text unread noRegion =>
    simp only [collect, collectParts, Rule.get_bind, unread, Bool.false_eq_true, if_false,
      noRegion, Rule.move_bind]
    rfl

theorem Form.IsRead.insertion
    {content : Content}
    (fits : content.levels ≤ levels) :
    Form.IsRead grammar (.item [.part content.node]) levels [.insertion content] := by
  intro state after steps blank calls depth allowed enoughTurns enough turns parts
  obtain ⟨middle, step, done⟩ := steps.of_cons
  cases done
  have enoughForTag : 4 * state.cursor.rest.length + 2 ≤ calls := by omega
  have read := step.insertion_succeeds fits allowed enoughTurns enoughForTag
  cases step with
  | insertion opens =>
    simp only [collect, collectParts, Rule.get_bind, State.isAtEnd_eq_false opens,
      Bool.false_eq_true, if_false, opens, Rule.bind_of_ok read]
    rfl

theorem Form.IsRead.comment : Form.IsRead grammar (.item []) levels [.comment] := by
  intro state after steps blank calls depth allowed enoughTurns enough turns parts
  obtain ⟨middle, step, done⟩ := steps.of_cons
  cases done
  cases step with
  | comment opens skipped =>
    simp only [collect, collectParts, Rule.get_bind, State.isAtEnd_eq_false opens,
      Bool.false_eq_true, if_false, opens, Rule.bind_of_ok skipped]
    rfl

theorem Form.IsRead.pragma : Form.IsRead grammar (.item []) levels [.pragma] := by
  intro state after steps blank calls depth allowed enoughTurns enough turns parts
  obtain ⟨middle, step, done⟩ := steps.of_cons
  cases done
  have enoughForTag : 1 ≤ calls := by omega
  have read := step.pragma_succeeds enoughTurns enoughForTag
  cases step with
  | pragma opens =>
    simp only [collect, collectParts, Rule.get_bind, State.isAtEnd_eq_false opens,
      Bool.false_eq_true, if_false, opens, Rule.bind_of_ok read]
    rfl

theorem Form.IsRead.inclusion
    {key : Text}
    {context : Option Content}
    (fits : ∀ content ∈ context, content.levels ≤ levels) :
    Form.IsRead grammar (.item [.part (.inclusion opener key (context.map Content.node))]) levels
      [.tag opener (.inclusion key context) behind] := by
  intro state after steps blank calls depth allowed enoughTurns enough turns parts
  obtain ⟨calls, rfl⟩ : ∃ fewer, calls = fewer + 1 := ⟨calls - 1, by omega⟩
  obtain ⟨middle, step, done⟩ := steps.of_cons
  cases done
  refine collect_block .inclusion (State.isAtTag_of_step step) ?_ turns parts
  rw [Document.block]
  exact step.inclusion_succeeds fits allowed enoughTurns (by omega)

theorem Form.IsRead.conditional
    {test : Content}
    {branches : List (Node × Node)}
    {default : Option Node}
    {branchSegments : List Segment}
    (fits : test.levels ≤ levels)
    (others : Derives (.branches branches) levels branchSegments)
    (rest : Derives (.otherwise default) levels defaultSegments)
    (firstRead : Form.IsRead grammar (.document behind body) levels bodySegments)
    (othersRead : Form.IsRead grammar (.branches branches) levels branchSegments)
    (restRead : Form.IsRead grammar (.otherwise default) levels defaultSegments) :
    Form.IsRead grammar (.item [.part (Node.conditional ((test.node, body) :: branches) default)])
      levels
      (.tag opener (.condition test) behind :: (bodySegments ++ (branchSegments ++
        (defaultSegments ++ [.tag last (.marker .endConditional) finish])))) := by
  intro state after steps blank calls depth allowed enoughTurns enough turns parts
  obtain ⟨calls, rfl⟩ : ∃ fewer, calls = fewer + 1 := ⟨calls - 1, by omega⟩
  rw [gapsAreBlank_cons_of_not_opens rfl] at blank
  obtain ⟨bodyBlank, blank⟩ := gapsAreBlank_of_append blank
  obtain ⟨branchesBlank, blank⟩ := gapsAreBlank_of_append blank
  obtain ⟨defaultBlank, _⟩ := gapsAreBlank_of_append blank
  obtain ⟨second, step, steps⟩ := steps.of_cons
  obtain ⟨third, bodySteps, steps⟩ := steps.of_append
  obtain ⟨fourth, branchSteps, steps⟩ := steps.of_append
  obtain ⟨fifth, defaultSteps, steps⟩ := steps.of_append
  obtain ⟨sixth, lastStep, done⟩ := steps.of_cons
  cases done
  have shorter := step.passes.2
  have bodyShorter := bodySteps.reaches.length_le
  have branchesShorter := branchSteps.reaches.length_le
  have fifthEnds : fifth.Terminated grammar := .of_marker lastStep
  have fourthEnds := rest.terminated rfl defaultSteps fifthEnds
  have thirdEnds := others.terminated rfl branchSteps fourthEnds
  have bodyReads := firstRead bodySteps bodyBlank calls depth allowed (by omega) (by omega)
    step.behind_eq thirdEnds.ends
  have branchesRead := othersRead branchSteps branchesBlank calls depth allowed (by omega)
    (by omega) fourthEnds (rest.otherwise_isAtTag defaultSteps lastStep (by decide) (by decide))
    grammar.turns (by omega)
  have defaultRead := restRead defaultSteps defaultBlank calls depth allowed (by omega) (by omega)
    fifthEnds (State.isAtTag_eq_false (State.isAtTag_of_step lastStep) (by decide))
  refine collect_block .conditional (State.isAtTag_of_step step) ?_ turns parts
  rw [Document.block]
  exact step.conditional_succeeds bodyReads branchesRead defaultRead lastStep fits allowed
    enoughTurns (by omega)

theorem Form.IsRead.selection
    {subject : Content}
    {alternatives : List (Pattern × Node)}
    {default : Option Node}
    {gap alternativeSegments : List Segment}
    (fits : subject.levels ≤ levels)
    (noTag : ∀ segment ∈ gap, segment.isTag = false)
    (cases : Derives (.alternatives alternatives) levels alternativeSegments)
    (rest : Derives (.otherwise default) levels defaultSegments)
    (casesRead : Form.IsRead grammar (.alternatives alternatives) levels alternativeSegments)
    (restRead : Form.IsRead grammar (.otherwise default) levels defaultSegments) :
    Form.IsRead grammar (.item [.part (Node.selected subject.node alternatives default)]) levels
      (.tag opener (.scrutinee subject) behind :: (gap ++ (alternativeSegments ++
        (defaultSegments ++ [.tag last (.marker .endSelection) finish])))) := by
  intro state after steps blank calls depth allowed enoughTurns enough turns parts
  obtain ⟨calls, rfl⟩ : ∃ fewer, calls = fewer + 1 := ⟨calls - 1, by omega⟩
  -- Behind the gap a clause or the end of the block begins, so the gap is what is skipped.
  rw [gapsAreBlank_scrutinee noTag (cases.clause_append rfl (rest.clause_append rfl .cons)),
    Bool.and_eq_true] at blank
  obtain ⟨gapBlank, blank⟩ := blank
  obtain ⟨casesBlank, blank⟩ := gapsAreBlank_of_append blank
  obtain ⟨defaultBlank, _⟩ := gapsAreBlank_of_append blank
  obtain ⟨second, step, steps⟩ := steps.of_cons
  obtain ⟨third, gapSteps, steps⟩ := steps.of_append
  obtain ⟨fourth, caseSteps, steps⟩ := steps.of_append
  obtain ⟨fifth, defaultSteps, steps⟩ := steps.of_append
  obtain ⟨sixth, lastStep, done⟩ := steps.of_cons
  cases done
  have shorter := step.passes.2
  have gapShorter := gapSteps.reaches.length_le
  have casesShorter := caseSteps.reaches.length_le
  have fifthEnds : fifth.Terminated grammar := .of_marker lastStep
  have fourthEnds := rest.terminated rfl defaultSteps fifthEnds
  obtain ⟨keyword, _, atTag⟩ := cases.terminated rfl caseSteps fourthEnds
  have skipped := gapSteps.skipToAlternatives_eq_ok gapBlank (State.isAtTag_iff.1 atTag).1
    grammar.turns (by omega)
  have alternativesRead := casesRead caseSteps casesBlank calls depth allowed (by omega) (by omega)
    fourthEnds (rest.otherwise_isAtTag defaultSteps lastStep (by decide) (by decide))
    grammar.turns (by omega)
  have defaultRead := restRead defaultSteps defaultBlank calls depth allowed (by omega) (by omega)
    fifthEnds (State.isAtTag_eq_false (State.isAtTag_of_step lastStep) (by decide))
  refine collect_block .selection (State.isAtTag_of_step step) ?_ turns parts
  rw [Document.block]
  exact step.selection_succeeds skipped alternativesRead defaultRead lastStep fits allowed
    enoughTurns (by omega)

theorem Form.IsRead.loop
    {item : Identifier}
    {source : Variable}
    {default : Option Node}
    (rest : Derives (.otherwise default) levels defaultSegments)
    (eachRead : Form.IsRead grammar (.document behind body) levels bodySegments)
    (restRead : Form.IsRead grammar (.otherwise default) levels defaultSegments) :
    Form.IsRead grammar (.item [.part (.loop opener item source.reference body default)]) levels
      (.tag opener (.loop item source) behind :: (bodySegments ++
        (defaultSegments ++ [.tag last (.marker .endLoop) finish]))) := by
  intro state after steps blank calls depth allowed enoughTurns enough turns parts
  obtain ⟨calls, rfl⟩ : ∃ fewer, calls = fewer + 1 := ⟨calls - 1, by omega⟩
  rw [gapsAreBlank_cons_of_not_opens rfl] at blank
  obtain ⟨bodyBlank, blank⟩ := gapsAreBlank_of_append blank
  obtain ⟨defaultBlank, _⟩ := gapsAreBlank_of_append blank
  obtain ⟨second, step, steps⟩ := steps.of_cons
  obtain ⟨third, bodySteps, steps⟩ := steps.of_append
  obtain ⟨fourth, defaultSteps, steps⟩ := steps.of_append
  obtain ⟨fifth, lastStep, done⟩ := steps.of_cons
  cases done
  have shorter := step.passes.2
  have bodyShorter := bodySteps.reaches.length_le
  have fourthEnds : fourth.Terminated grammar := .of_marker lastStep
  have thirdEnds := rest.terminated rfl defaultSteps fourthEnds
  have bodyReads := eachRead bodySteps bodyBlank calls depth allowed (by omega) (by omega)
    step.behind_eq thirdEnds.ends
  have defaultRead := restRead defaultSteps defaultBlank calls depth allowed (by omega) (by omega)
    fourthEnds (State.isAtTag_eq_false (State.isAtTag_of_step lastStep) (by decide))
  refine collect_block .loop (State.isAtTag_of_step step) ?_ turns parts
  rw [Document.block]
  exact step.loop_succeeds bodyReads defaultRead lastStep enoughTurns (by omega)

theorem Form.IsRead.binding
    {name : Identifier}
    {value : Content}
    (fits : value.levels ≤ levels)
    (scopeRead : Form.IsRead grammar (.document behind body) levels bodySegments) :
    Form.IsRead grammar (.item [.part (.binding opener name value.node body)]) levels
      (.tag opener (.binding name value) behind :: (bodySegments ++
        [.tag last (.marker .endBinding) finish])) := by
  intro state after steps blank calls depth allowed enoughTurns enough turns parts
  obtain ⟨calls, rfl⟩ : ∃ fewer, calls = fewer + 1 := ⟨calls - 1, by omega⟩
  rw [gapsAreBlank_cons_of_not_opens rfl] at blank
  obtain ⟨bodyBlank, _⟩ := gapsAreBlank_of_append blank
  obtain ⟨second, step, steps⟩ := steps.of_cons
  obtain ⟨third, bodySteps, steps⟩ := steps.of_append
  obtain ⟨fourth, lastStep, done⟩ := steps.of_cons
  cases done
  have shorter := step.passes.2
  have thirdEnds : third.Terminated grammar := .of_marker lastStep
  have bodyReads := scopeRead bodySteps bodyBlank calls depth allowed (by omega) (by omega)
    step.behind_eq thirdEnds.ends
  refine collect_block .binding (State.isAtTag_of_step step) ?_ turns parts
  rw [Document.block]
  exact step.binding_succeeds bodyReads lastStep fits allowed enoughTurns (by omega)

theorem Form.IsRead.nothing : Form.IsRead grammar (.items []) levels [] := by
  intro state after steps blank calls depth allowed enoughTurns enough
  cases steps
  exact ⟨0, by omega, fun _ _ => rfl⟩

theorem Form.IsRead.next
    {pieces others : List Piece}
    {front back : List Segment}
    (first : Derives (.item pieces) levels front)
    (firstRead : Form.IsRead grammar (.item pieces) levels front)
    (restRead : Form.IsRead grammar (.items others) levels back) :
    Form.IsRead grammar (.items (pieces ++ others)) levels (front ++ back) := by
  intro state after steps blank calls depth allowed enoughTurns enough
  obtain ⟨middle, near, far⟩ := steps.of_append
  obtain ⟨frontBlank, backBlank⟩ := gapsAreBlank_of_append blank
  have shorter := (first.passes_of_item near).2
  have firstCollects := firstRead near frontBlank calls depth allowed enoughTurns enough
  obtain ⟨count, fits, restCollects⟩ :=
    restRead far backBlank calls depth allowed (by omega) (by omega)
  refine ⟨count + 1, by omega, ?_⟩
  intro turns parts
  rw [← Nat.add_assoc, firstCollects, restCollects, List.foldl_append]

theorem Form.IsRead.document
    {pieces : List Piece}
    {segments : List Segment}
    (itemsRead : Form.IsRead grammar (.items pieces) levels segments) :
    Form.IsRead grammar (.document position (Node.sequenced position (Piece.joined pieces)))
      (levels + 1) segments := by
  intro state after steps blank calls depth allowed enoughTurns enough sameStart ends
  obtain ⟨calls, rfl⟩ : ∃ fewer, calls = fewer + 2 := ⟨calls - 2, by omega⟩
  obtain ⟨count, fits, collects⟩ :=
    itemsRead steps blank calls (depth + 1) (by omega) enoughTurns (by omega)
  -- The turns that the loop has left behind the last item are at least one.
  obtain ⟨turns, total⟩ : ∃ turns, grammar.turns = turns + 1 + count :=
    ⟨grammar.turns - count - 1, by omega⟩
  have collected : collect grammar calls (depth + 1) grammar.turns [] state =
      .ok (Piece.joined pieces) after := by
    rw [total]
    exact (collects _ _).trans (ends.collect_eq_ok calls (depth + 1) turns _)
  exact document_eq_ok_iff_collect.2 ⟨by omega, _, collected, by rw [sameStart]⟩

theorem Form.IsRead.noBranch : Form.IsRead grammar (.branches []) levels [] := by
  intro state after steps blank calls depth allowed enoughTurns enough terminated noMore turns
    enoughForLoop
  cases steps
  obtain ⟨turns, rfl⟩ : ∃ fewer, turns = fewer + 1 := ⟨turns - 1, by omega⟩
  simp only [furtherBranches, Rule.get_bind, noMore, Bool.false_eq_true, if_false]
  rfl

theorem Form.IsRead.branch
    {test : Content}
    {branches : List (Node × Node)}
    {branchSegments : List Segment}
    (fits : test.levels ≤ levels)
    (others : Derives (.branches branches) levels branchSegments)
    (firstRead : Form.IsRead grammar (.document behind body) levels bodySegments)
    (othersRead : Form.IsRead grammar (.branches branches) levels branchSegments) :
    Form.IsRead grammar (.branches ((test.node, body) :: branches)) levels
      (.tag opener (.further test) behind :: (bodySegments ++ branchSegments)) := by
  intro state after steps blank calls depth allowed enoughTurns enough terminated noMore turns
    enoughForLoop
  obtain ⟨turns, rfl⟩ : ∃ fewer, turns = fewer + 1 := ⟨turns - 1, by omega⟩
  rw [gapsAreBlank_cons_of_not_opens rfl] at blank
  obtain ⟨bodyBlank, othersBlank⟩ := gapsAreBlank_of_append blank
  obtain ⟨second, step, steps⟩ := steps.of_cons
  obtain ⟨third, bodySteps, otherSteps⟩ := steps.of_append
  have shorter := step.passes.2
  have bodyShorter := bodySteps.reaches.length_le
  have enoughForTag : 4 * state.cursor.rest.length + 1 ≤ calls := by omega
  obtain ⟨opened, entered, testRead⟩ :=
    step.expressionTag_succeeds .further (fun held => by cases held; assumption)
      (fun _ _ => rfl) fits allowed enoughTurns enoughForTag
  have bodyReads := firstRead bodySteps bodyBlank calls depth allowed (by omega) (by omega)
    step.behind_eq (others.terminated rfl otherSteps terminated).ends
  have branchesRead := othersRead otherSteps othersBlank calls depth allowed (by omega) (by omega)
    terminated noMore turns (by omega)
  have atTag : state.isAtTag grammar.order (Text.of "elif") = true := State.isAtTag_of_step step
  simp only [furtherBranches, Rule.get_bind, atTag, if_true, Rule.bind_eq_ok, Rule.pure_eq_ok]
  exact ⟨_, _, entered, _, _, testRead, _, _, bodyReads, _, _, branchesRead, rfl, rfl⟩

theorem Form.IsRead.noAlternative : Form.IsRead grammar (.alternatives []) levels [] := by
  intro state after steps blank calls depth allowed enoughTurns enough terminated noMore turns
    enoughForLoop
  cases steps
  obtain ⟨turns, rfl⟩ : ∃ fewer, turns = fewer + 1 := ⟨turns - 1, by omega⟩
  simp only [Document.alternatives, Rule.get_bind, noMore, Bool.false_eq_true, if_false]
  rfl

theorem Form.IsRead.alternative
    {pattern : Pattern}
    {alternatives : List (Pattern × Node)}
    {alternativeSegments : List Segment}
    (others : Derives (.alternatives alternatives) levels alternativeSegments)
    (firstRead : Form.IsRead grammar (.document behind body) levels bodySegments)
    (othersRead : Form.IsRead grammar (.alternatives alternatives) levels alternativeSegments) :
    Form.IsRead grammar (.alternatives ((pattern, body) :: alternatives)) levels
      (.tag opener (.alternative pattern) behind :: (bodySegments ++ alternativeSegments)) := by
  intro state after steps blank calls depth allowed enoughTurns enough terminated noMore turns
    enoughForLoop
  obtain ⟨turns, rfl⟩ : ∃ fewer, turns = fewer + 1 := ⟨turns - 1, by omega⟩
  rw [gapsAreBlank_cons_of_not_opens rfl] at blank
  obtain ⟨bodyBlank, othersBlank⟩ := gapsAreBlank_of_append blank
  obtain ⟨second, step, steps⟩ := steps.of_cons
  obtain ⟨third, bodySteps, otherSteps⟩ := steps.of_append
  have shorter := step.passes.2
  have bodyShorter := bodySteps.reaches.length_le
  have enoughForTag : 3 ≤ calls := by omega
  obtain ⟨opened, entered, patternRead⟩ := step.patternTag_succeeds enoughTurns enoughForTag
  have bodyReads := firstRead bodySteps bodyBlank calls depth allowed (by omega) (by omega)
    step.behind_eq (others.terminated rfl otherSteps terminated).ends
  have alternativesRead := othersRead otherSteps othersBlank calls depth allowed (by omega)
    (by omega) terminated noMore turns (by omega)
  have atTag : state.isAtTag grammar.order (Text.of "when") = true := State.isAtTag_of_step step
  simp only [Document.alternatives, Rule.get_bind, atTag, if_true, Rule.bind_eq_ok,
    Rule.pure_eq_ok]
  exact ⟨_, _, entered, _, _, patternRead, _, _, bodyReads, _, _, alternativesRead, rfl, rfl⟩

theorem Form.IsRead.noDefault : Form.IsRead grammar (.otherwise none) levels [] := by
  intro state after steps blank calls depth allowed enoughTurns enough terminated noMore
  cases steps
  obtain ⟨calls, rfl⟩ : ∃ fewer, calls = fewer + 1 := ⟨calls - 1, by omega⟩
  simp only [Document.otherwise, Rule.get_bind, noMore, Bool.false_eq_true, if_false]
  rfl

theorem Form.IsRead.default
    (restRead : Form.IsRead grammar (.document behind body) levels bodySegments) :
    Form.IsRead grammar (.otherwise (some body)) levels
      (.tag opener (.marker .otherwise) behind :: bodySegments) := by
  intro state after steps blank calls depth allowed enoughTurns enough terminated noMore
  obtain ⟨calls, rfl⟩ : ∃ fewer, calls = fewer + 1 := ⟨calls - 1, by omega⟩
  rw [gapsAreBlank_cons_of_not_opens rfl] at blank
  obtain ⟨second, step, bodySteps⟩ := steps.of_cons
  have shorter := step.passes.2
  obtain ⟨opened, entered, closed⟩ := step.markerTag_succeeds
  have bodyReads := restRead bodySteps blank calls depth allowed (by omega) (by omega)
    step.behind_eq terminated.ends
  have atTag : state.isAtTag grammar.order (Text.of "else") = true := State.isAtTag_of_step step
  simp only [Document.otherwise, Rule.get_bind, atTag, if_true, Rule.bind_eq_ok, Rule.pure_eq_ok]
  exact ⟨_, _, entered, (), _, closed, _, _, bodyReads, rfl, rfl⟩

end Forms

/-- Whatever is derived is read. -/
theorem Derives.isRead
    {form : Form}
    {levels : Nat}
    {segments : List Segment}
    (derives : Derives form levels segments)
    (grammar : Grammar) :
    form.IsRead grammar levels segments := by
  induction derives with
  | text => exact Form.IsRead.text
  | insertion fits => exact Form.IsRead.insertion fits
  | comment => exact Form.IsRead.comment
  | pragma => exact Form.IsRead.pragma
  | inclusion fits => exact Form.IsRead.inclusion fits
  | conditional fits _ others rest firstRead othersRead restRead =>
    exact Form.IsRead.conditional fits others rest firstRead othersRead restRead
  | selection fits noTag cases rest casesRead restRead =>
    exact Form.IsRead.selection fits noTag cases rest casesRead restRead
  | loop _ rest eachRead restRead => exact Form.IsRead.loop rest eachRead restRead
  | binding fits _ scopeRead => exact Form.IsRead.binding fits scopeRead
  | nothing => exact Form.IsRead.nothing
  | next first _ firstRead restRead => exact Form.IsRead.next first firstRead restRead
  | document _ itemsRead => exact Form.IsRead.document itemsRead
  | noBranch => exact Form.IsRead.noBranch
  | branch fits _ others firstRead othersRead =>
    exact Form.IsRead.branch fits others firstRead othersRead
  | noAlternative => exact Form.IsRead.noAlternative
  | alternative _ others firstRead othersRead =>
    exact Form.IsRead.alternative others firstRead othersRead
  | noDefault => exact Form.IsRead.noDefault
  | default _ restRead => exact Form.IsRead.default restRead

/-- Derivations are successes of the rules. -/
theorem Derives.succeeds
    {grammar : Grammar}
    {form : Form}
    {levels : Nat}
    {segments : List Segment}
    (derives : Derives form levels segments)
    {state after : State}
    (steps : Steps grammar state segments after)
    (blank : gapsAreBlank segments = true)
    (calls depth : Nat)
    (allowed : (depth + levels : Int) ≤ grammar.limit)
    (enoughTurns : state.cursor.rest.length < grammar.turns) :
    form.Succeeds grammar state after calls depth :=
  derives.isRead grammar steps blank calls depth allowed enoughTurns

end Document

end Stencil
