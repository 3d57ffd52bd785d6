import Stencil.Proofs.Segment.Unique
import Stencil.Proofs.Termination

/-!
# Where reading stops

When a rule for documents stops, it stops in one segment of the source: the source can be
cut into segments up to its beginning, and no segment from there ends where reading
stopped or before.  The delimiters are then those that were active at the beginning of
the segment, so a pragma that is not read to its end changes nothing.
-/

namespace Stencil

open Template (Origin)
open Document (State Step Steps)

/-- Reading stopped at a state, in the segment that begins at another one. -/
structure Template.Origin.Stopped (origin : Origin) (last after : State) : Prop where
  /-- The source can be cut into segments up to the beginning. -/
  attained : origin.Attains last
  /-- The same delimiters are active. -/
  delimiters : after.delimiters = last.delimiters
  /-- Reading stopped behind the beginning. -/
  reaches : last.cursor.Reaches after.cursor
  /-- A segment from there would end further on. -/
  inside : ∀ segment next, Step origin.grammar last segment next →
    after.cursor.Passes next.cursor

/-- A state that the source can be cut up to is inside of what follows. -/
theorem Template.Origin.Attains.stopped
    {origin : Origin}
    {state : State}
    (attained : origin.Attains state) :
    origin.Stopped state state :=
  ⟨attained, rfl, .refl _, fun _ _ step => step.passes⟩

namespace Document

variable
  {origin : Origin}
  {last state : State}

namespace Rule

/-- If a rule stops in a state, it stops in a segment of the source. -/
def Stops (origin : Origin) (rule : Rule α) (state : State) : Prop :=
  ∀ halt after, rule state = .error halt after → ∃ last, origin.Stopped last after

theorem Stops.of_ok
    {rule : Rule α}
    {after : State}
    {value : α}
    (success : rule state = .ok value after) :
    Stops origin rule state := by
  intro halt final failure
  rw [success] at failure
  cases failure

theorem Stops.pure (value : α) (state : State) : Stops origin (pure value) state :=
  .of_ok rfl

/-- A rule stops where it is run. -/
theorem Stops.throw
    (stopped : origin.Stopped last state)
    (halt : Halt) :
    Stops origin (throw halt : Rule α) state := by
  intro found after failure
  cases failure
  exact ⟨last, stopped⟩

theorem Stops.bind
    {first : Rule α}
    {second : α → Rule β}
    (near : Stops origin first state)
    (far : ∀ value middle, first state = .ok value middle → Stops origin (second value) middle) :
    Stops origin (first >>= second) state := by
  intro halt final failure
  simp only [Bind.bind, EStateM.bind] at failure
  split at failure
  · exact far _ _ (by assumption) halt final failure
  · rename_i stopped
    cases failure
    exact near halt final stopped

theorem Stops.get_bind
    {next : State → Rule α}
    (stops : Stops origin (next state) state) :
    Stops origin (get >>= next) state :=
  stops

theorem Stops.move_bind
    {cursor : Cursor}
    {next : Unit → Rule α}
    (stops : Stops origin (next ()) { state with cursor := cursor }) :
    Stops origin (move cursor >>= next) state :=
  stops

/-- Where nothing is read, the cursor stays where it was. -/
theorem Stops.reading
    (stopped : origin.Stopped last state)
    (rule : Cursor → Except Halt (α × Cursor)) :
    Stops origin (reading rule) state := by
  intro halt final failure
  simp only [Rule.reading] at failure
  split at failure
  · cases failure
  · cases failure
    exact ⟨last, stopped⟩

theorem Stops.reading_bind
    {rule : Cursor → Except Halt (α × Cursor)}
    {next : α → Rule β}
    (stopped : origin.Stopped last state)
    (far : ∀ value cursor, rule state.cursor = .ok (value, cursor) →
      Stops origin (next value) { state with cursor := cursor }) :
    Stops origin (Rule.reading rule >>= next) state := by
  refine .bind (.reading stopped rule) ?_
  intro value middle success
  obtain ⟨cursor, read, rfl⟩ := reading_eq_ok.1 success
  exact far value cursor read

end Rule

open Rule (Stops)

/-! ## Tags -/

/-- A tag of a form is entered. -/
structure Entered (origin : Origin) (form : Tag.Form) (state opened : State) : Prop where
  /-- The source can be cut into segments up to the tag. -/
  attained : origin.Attains state
  /-- A tag begins there. -/
  opens : state.kind? origin.grammar.order = some .block
  /-- Its word was read. -/
  entered : openTag form.keyword state = .ok state.cursor.position opened

namespace Entered

variable
  {form : Tag.Form}
  {opened inner : State}

theorem delimiters_eq (tag : Entered origin form state opened) :
    opened.delimiters = state.delimiters := by
  obtain ⟨_, _, _, _, _, _, _, rfl⟩ := openTag_eq_ok.1 tag.entered
  rfl

/-- Reading stops inside a tag if nothing that the tag may hold ends before. -/
theorem stopped
    (entered : Entered origin form state opened)
    (same : inner.delimiters = state.delimiters)
    (reaches : opened.cursor.Reaches inner.cursor)
    (inside : ∀ tag finish, Tag.form tag = form →
      tag.Holds (opened.tagRegion origin.grammar) opened.cursor finish →
        inner.cursor.Reaches finish) :
    origin.Stopped state inner where
  attained := entered.attained
  delimiters := same
  reaches := (passes_of_openTag entered.entered).1.trans reaches
  inside segment next step := by
    obtain ⟨tag, _, _, finish, _, entered', holds, closes, rfl⟩ := step.block_inv entered.opens
    obtain ⟨sameWord, _, rfl⟩ := openTag_unique entered' entered.entered
    exact (inside tag finish (Tag.form_eq_of_keyword sameWord) holds).trans_passes
      (Region.close_passes (Pair.closing_ne_nil _) closes)

/-- Reading stops inside a tag right behind its word. -/
theorem stopped_opened (entered : Entered origin form state opened) :
    origin.Stopped state opened :=
  entered.stopped entered.delimiters_eq (.refl _) fun _ _ _ holds => holds.reaches

/-- Reading stops inside a tag behind all that it holds. -/
theorem stopped_behind
    {tag : Tag}
    (entered : Entered origin form state opened)
    (same : inner.delimiters = opened.delimiters)
    (isForm : tag.form = form)
    (holds : tag.Holds (opened.tagRegion origin.grammar) opened.cursor inner.cursor) :
    origin.Stopped state inner := by
  refine entered.stopped (same.trans entered.delimiters_eq) holds.reaches ?_
  intro tag' finish sameForm holds'
  obtain ⟨rfl, _⟩ := holds.unique holds' (isForm.trans sameForm.symm)
  exact .refl _

end Entered

/-- A tag that was seen is entered, and the rest of a rule follows behind its word. -/
theorem stops_openTag_bind
    {form : Tag.Form}
    {next : Position → Rule α}
    (attained : origin.Attains state)
    (atTag : state.isAtTag origin.grammar.order form.keyword = true)
    (far : ∀ opened, Entered origin form state opened →
      Stops origin (next state.cursor.position) opened) :
    Stops origin (openTag form.keyword >>= next) state := by
  obtain ⟨opens, seen⟩ := State.isAtTag_iff.1 atTag
  obtain ⟨opened, entered⟩ := exists_openTag seen
  refine .bind (.of_ok entered) ?_
  intro opener middle success
  rw [entered] at success
  cases success
  exact far opened ⟨attained, opens, entered⟩

theorem stops_closeTag
    (stopped : origin.Stopped last state)
    (grammar : Grammar) :
    Stops origin (closeTag grammar) state :=
  .get_bind (.reading stopped _)

/-- An expression and a closing delimiter are read inside of a tag. -/
theorem stops_expressionTag
    (stopped : origin.Stopped last state)
    (behind : ∀ (content : Content) (finish : Cursor),
      (state.tagRegion origin.grammar).Reads (.expression 1) content.levels state.cursor
        content.node finish →
        origin.Stopped last { state with cursor := finish })
    (calls depth : Nat) :
    Stops origin (expressionTag origin.grammar calls depth) state := by
  refine .get_bind (.reading_bind stopped ?_)
  intro node cursor success
  have reads := (Region.Reads.of_rules _ calls).1 success
  refine .bind (stops_closeTag (behind ⟨node, _⟩ cursor reads) _) ?_
  exact fun _ _ _ => .pure _ _

/-- A tag with nothing but an expression. -/
theorem Entered.stops_expressionTag
    {form : Tag.Form}
    {opened : State}
    (entered : Entered origin form state opened)
    (tag : Content → Tag)
    (isForm : ∀ content, (tag content).form = form)
    (holds : ∀ {region : Region} {content : Content} {cursor finish : Cursor},
      region.Reads (.expression 1) content.levels cursor content.node finish →
        (tag content).Holds region cursor finish)
    (calls depth : Nat) :
    Stops origin (expressionTag origin.grammar calls depth) opened := by
  refine Document.stops_expressionTag entered.stopped_opened ?_ calls depth
  intro content finish reads
  exact entered.stopped_behind rfl (isForm content) (holds reads)

theorem stops_expectTerminator
    (attained : origin.Attains state)
    (word : Marker)
    (construct : Construct)
    (opener : Position) :
    Stops origin (expectTerminator origin.grammar word.keyword construct opener) state := by
  refine .get_bind ?_
  split
  · rename_i atTag
    refine @stops_openTag_bind _ _ _ (.marker word) _ attained atTag ?_
    exact fun opened entered => stops_closeTag entered.stopped_opened _
  · exact .throw attained.stopped _

/-! ## Regions -/

/-- Reading stops inside a region if no segment that begins with it ends before. -/
theorem stopped_of_region
    {cursor : Cursor}
    {kind : Kind}
    (attained : origin.Attains state)
    (opens : state.kind? origin.grammar.order = some kind)
    (reaches : (state.cursor.forward (state.delimiters.pair kind).opening.length).Reaches cursor)
    (inside : ∀ segment next, Step origin.grammar state segment next →
      cursor.Passes next.cursor) :
    origin.Stopped state { state with cursor := cursor } :=
  ⟨attained, rfl, (passes_opening opens).1.trans reaches, inside⟩

theorem stops_insertion
    (attained : origin.Attains state)
    (opens : state.kind? origin.grammar.order = some .inline)
    (depth calls : Nat) :
    Stops origin (insertion origin.grammar depth calls) state := by
  cases calls with
  | zero => exact .throw attained.stopped _
  | succ calls =>
    have atContent : origin.Stopped state { state with
        cursor := state.cursor.forward state.delimiters.inline.opening.length } := by
      refine stopped_of_region attained opens (.refl _) ?_
      intro segment next step
      obtain ⟨_, _, _, reads, closes, rfl⟩ := step.inline_inv opens
      exact (reads.passes rfl).trans (Region.close_passes (Pair.closing_ne_nil _) closes)
    refine .get_bind (.move_bind (.reading_bind atContent ?_))
    intro node cursor success
    have reads := (Region.Reads.of_rules _ calls).1 success
    have behindContent : origin.Stopped state { state with cursor := cursor } := by
      refine stopped_of_region attained opens (reads.passes rfl).1 ?_
      intro segment next step
      obtain ⟨_, _, _, reads', closes, rfl⟩ := step.inline_inv opens
      obtain ⟨_, rfl⟩ := reads.unique reads'
      exact Region.close_passes (Pair.closing_ne_nil _) closes
    exact .bind (.reading behindContent _) fun _ _ _ => .pure _ _

theorem stops_comment (attained : origin.Attains state) : Stops origin comment state := by
  refine .get_bind ?_
  dsimp only
  split
  · exact .of_ok rfl
  · exact .throw attained.stopped _

/-- A pragma that is not read to its end leaves the delimiters as they are. -/
theorem stops_pragma
    (attained : origin.Attains state)
    (opens : state.kind? origin.grammar.order = some .pragma)
    (calls : Nat) :
    Stops origin (pragma origin.grammar calls) state := by
  cases calls with
  | zero => exact .throw attained.stopped _
  | succ calls =>
    have atFields : origin.Stopped state { state with
        cursor := state.cursor.forward state.delimiters.pragma.opening.length } := by
      refine stopped_of_region attained opens (.refl _) ?_
      intro segment next step
      obtain ⟨_, _, _, _, listed, closes, _, rfl⟩ := step.pragma_inv opens
      exact listed.passes.trans (Region.close_passes (Pair.closing_ne_nil _) closes)
    refine .get_bind (.move_bind (.reading_bind atFields ?_))
    intro changes cursor success
    have listed := Changes.of_pragmaChanges success
    have behindFields : origin.Stopped state { state with cursor := cursor } := by
      refine stopped_of_region attained opens listed.passes.1 ?_
      intro segment next step
      obtain ⟨_, _, _, _, listed', closes, _, rfl⟩ := step.pragma_inv opens
      obtain ⟨_, rfl⟩ := listed.unique listed'
      exact Region.close_passes (Pair.closing_ne_nil _) closes
    refine .reading_bind behindFields ?_
    intro _ behind closes
    dsimp only
    split
    · exact .of_ok rfl
    · -- The pragma is read to its end, but what it lists is no change.
      rename_i fault faulty
      have passes := Region.close_passes (Pair.closing_ne_nil _) closes
      have atEnd : origin.Stopped state { state with cursor := behind } := by
        refine stopped_of_region attained opens (listed.passes.trans passes).1 ?_
        intro segment next step
        obtain ⟨_, _, _, _, listed', _, changed, rfl⟩ := step.pragma_inv opens
        obtain ⟨rfl, _⟩ := listed.unique listed'
        rw [faulty] at changed
        cases changed
      exact .throw atEnd _

/-! ## Blocks -/

theorem stops_skipToAlternatives
    (attained : origin.Attains state)
    (turns : Nat) :
    Stops origin (skipToAlternatives origin.grammar turns) state := by
  induction turns generalizing state with
  | zero => exact .throw attained.stopped _
  | succ turns hypothesis =>
    have continued {segment : Segment} {middle : State}
        (step : Step origin.grammar state segment middle) :
        Stops origin (skipToAlternatives origin.grammar turns) middle :=
      hypothesis (attained.steps (.single step))
    refine .get_bind ?_
    cases atEnd : state.cursor.isAtEnd with
    | true => exact .pure _ _
    | false =>
      simp only [Bool.false_eq_true, if_false]
      cases opens : state.kind? origin.grammar.order with
      | none =>
        simp only
        split
        · exact .move_bind (continued (.text atEnd opens))
        · exact .throw attained.stopped _
      | some kind =>
        cases kind with
        | comment =>
          refine .bind (stops_comment attained) ?_
          exact fun _ middle skipped => continued (.comment opens skipped)
        | inline => exact .pure _ _
        | block => exact .pure _ _
        | pragma => exact .pure _ _

section Blocks

variable
  {calls depth : Nat}
  (bodies : ∀ {state : State}, origin.Attains state →
    Stops origin (document origin.grammar calls depth) state)
  (defaults : ∀ {state : State}, origin.Attains state →
    Stops origin (otherwise origin.grammar calls depth) state)

/-- The step behind a tag with nothing but an expression. -/
theorem Entered.attains
    {form : Tag.Form}
    {opened after : State}
    {node : Node}
    (entered : Entered origin form state opened)
    (tag : Content → Tag)
    (isForm : ∀ content, (tag content).form = form)
    (holds : ∀ {region : Region} {content : Content} {cursor finish : Cursor},
      region.Reads (.expression 1) content.levels cursor content.node finish →
        (tag content).Holds region cursor finish)
    (quiet : ∀ (state : State) (opener : Position) (content : Content),
      state.noted opener (tag content) = state)
    (read : expressionTag origin.grammar calls depth opened = .ok node after) :
    origin.Attains after := by
  have word : openTag (tag ⟨node, origin.grammar.levelsBelow depth⟩).keyword state =
      .ok state.cursor.position opened := by
    rw [← Tag.keyword_form, isForm]
    exact entered.entered
  exact entered.attained.steps
    (.single (Step.of_expressionTag tag holds quiet entered.opens word read))

include bodies in
theorem stops_furtherBranches
    (attained : origin.Attains state)
    (turns : Nat) :
    Stops origin (furtherBranches origin.grammar (expressionTag origin.grammar calls depth)
      (document origin.grammar calls depth) turns) state := by
  induction turns generalizing state with
  | zero => exact .throw attained.stopped _
  | succ turns hypothesis =>
    refine .get_bind ?_
    split
    · rename_i atTag
      refine @stops_openTag_bind _ _ _ .further _ attained atTag ?_
      intro opened entered
      refine .bind (entered.stops_expressionTag .further (fun _ => rfl) .further calls depth) ?_
      intro test second read
      have attained := entered.attains .further (fun _ => rfl) .further (fun _ _ _ => rfl) read
      refine .bind (bodies attained) ?_
      intro body third bodyRead
      obtain ⟨attained, _⟩ := ((Explained.of_rules _ calls).1 bodyRead).attains attained
      exact .bind (hypothesis attained) fun _ _ _ => .pure _ _
    · exact .pure _ _

/-- A pattern and a closing delimiter are read inside of a tag. -/
theorem Entered.stops_patternTag
    {opened : State}
    (entered : Entered origin .alternative state opened)
    (calls : Nat) :
    Stops origin (patternTag origin.grammar calls) opened := by
  refine .get_bind (.reading_bind entered.stopped_opened ?_)
  intro pattern cursor success
  have behind : origin.Stopped state { opened with cursor := cursor } :=
    entered.stopped_behind rfl rfl (.alternative (.of_pattern success))
  exact .bind (stops_closeTag behind _) fun _ _ _ => .pure _ _

include bodies in
theorem stops_alternatives
    (attained : origin.Attains state)
    (turns : Nat) :
    Stops origin (alternatives origin.grammar (patternTag origin.grammar calls)
      (document origin.grammar calls depth) turns) state := by
  induction turns generalizing state with
  | zero => exact .throw attained.stopped _
  | succ turns hypothesis =>
    refine .get_bind ?_
    split
    · rename_i atTag
      refine @stops_openTag_bind _ _ _ .alternative _ attained atTag ?_
      intro opened entered
      refine .bind (entered.stops_patternTag calls) ?_
      intro pattern second read
      have step := Step.of_patternTag entered.opens entered.entered read
      refine .bind (bodies (attained.steps (.single step))) ?_
      intro body third bodyRead
      obtain ⟨attained, _⟩ :=
        ((Explained.of_rules _ calls).1 bodyRead).attains (attained.steps (.single step))
      exact .bind (hypothesis attained) fun _ _ _ => .pure _ _
    · exact .pure _ _

include bodies defaults in
theorem stops_conditional
    (attained : origin.Attains state)
    (atTag : state.isAtTag origin.grammar.order (Text.of "if") = true) :
    Stops origin (conditional origin.grammar (expressionTag origin.grammar calls depth)
      (document origin.grammar calls depth) (otherwise origin.grammar calls depth)) state := by
  refine @stops_openTag_bind _ _ _ .condition _ attained atTag ?_
  intro opened entered
  refine .bind (entered.stops_expressionTag .condition (fun _ => rfl) .condition calls depth) ?_
  intro test second read
  have attained := entered.attains .condition (fun _ => rfl) .condition (fun _ _ _ => rfl) read
  refine .bind (bodies attained) ?_
  intro body third bodyRead
  obtain ⟨attained, _⟩ := ((Explained.of_rules _ calls).1 bodyRead).attains attained
  refine .bind (stops_furtherBranches bodies attained _) ?_
  intro others fourth branchesRead
  have explained := Explained.of_furtherBranches (Explained.of_rules _ calls).1 branchesRead
  obtain ⟨attained, _⟩ := explained.attains attained
  refine .bind (defaults attained) ?_
  intro default fifth defaultRead
  obtain ⟨attained, _⟩ := ((Explained.of_rules _ calls).2.2.2 defaultRead).attains attained
  exact .bind (stops_expectTerminator attained .endConditional _ _) fun _ _ _ => .pure _ _

include bodies defaults in
theorem stops_selection
    (attained : origin.Attains state)
    (atTag : state.isAtTag origin.grammar.order (Text.of "case") = true) :
    Stops origin (selection origin.grammar (expressionTag origin.grammar calls depth)
      (patternTag origin.grammar calls) (document origin.grammar calls depth)
      (otherwise origin.grammar calls depth)) state := by
  refine @stops_openTag_bind _ _ _ .scrutinee _ attained atTag ?_
  intro opened entered
  refine .bind (entered.stops_expressionTag .scrutinee (fun _ => rfl) .scrutinee calls depth) ?_
  intro subject second read
  have attained := entered.attains .scrutinee (fun _ => rfl) .scrutinee (fun _ _ _ => rfl) read
  refine .bind (stops_skipToAlternatives attained _) ?_
  intro _ third skipped
  obtain ⟨gap, gapSteps, _⟩ := Steps.of_skipToAlternatives skipped
  have attained := attained.steps gapSteps
  refine .bind (stops_alternatives bodies attained _) ?_
  intro cases fourth casesRead
  have explained := Explained.of_alternatives (Explained.of_rules _ calls).1 casesRead
  obtain ⟨attained, _⟩ := explained.attains attained
  refine .bind (defaults attained) ?_
  intro default fifth defaultRead
  obtain ⟨attained, _⟩ := ((Explained.of_rules _ calls).2.2.2 defaultRead).attains attained
  exact .bind (stops_expectTerminator attained .endSelection _ _) fun _ _ _ => .pure _ _

include bodies defaults in
theorem stops_loop
    (attained : origin.Attains state)
    (atTag : state.isAtTag origin.grammar.order (Text.of "for") = true) :
    Stops origin (loop origin.grammar calls (document origin.grammar calls depth)
      (otherwise origin.grammar calls depth)) state := by
  refine @stops_openTag_bind _ _ _ .loop _ attained atTag ?_
  intro opened entered
  refine .get_bind (.reading_bind entered.stopped_opened ?_)
  intro item middle named
  cases calls with
  | zero => cases named
  | succ calls =>
    -- What is read of the tag so far is the beginning of all that it may hold.
    have behindItem : origin.Stopped state { opened with cursor := middle } := by
      refine entered.stopped entered.delimiters_eq (Region.identifier_passes named).1 ?_
      intro tag finish isLoop holds
      cases holds with
      | loop named' joined' iterated' =>
        obtain ⟨_, rfl⟩ := Prod.mk.inj (Except.ok.inj (named.symm.trans named'))
        exact ((keyword_passes joined').trans iterated'.passes).1
      | _ => cases isLoop
    refine .reading_bind behindItem ?_
    intro word inner joined
    have behindWord : origin.Stopped state { opened with cursor := inner } := by
      refine entered.stopped entered.delimiters_eq
        ((Region.identifier_passes named).trans (keyword_passes joined)).1 ?_
      intro tag finish isLoop holds
      cases holds with
      | loop named' joined' iterated' =>
        obtain ⟨_, rfl⟩ := Prod.mk.inj (Except.ok.inj (named.symm.trans named'))
        obtain ⟨_, rfl⟩ := Prod.mk.inj (Except.ok.inj (joined.symm.trans joined'))
        exact iterated'.passes.1
      | _ => cases isLoop
    refine .reading_bind behindWord ?_
    intro source finish iterated
    have holds : (Tag.loop item source).Holds (opened.tagRegion origin.grammar) opened.cursor
        finish := .loop named joined (.of_path iterated)
    have behindSource : origin.Stopped state { opened with cursor := finish } :=
      entered.stopped_behind rfl rfl holds
    refine .bind (stops_closeTag behindSource _) ?_
    intro _ second closed
    have step := Step.of_loopTag entered.opens entered.entered named joined iterated closed
    have attained := attained.steps (.single step)
    refine .bind (bodies attained) ?_
    intro body third bodyRead
    obtain ⟨attained, _⟩ := ((Explained.of_rules _ (calls + 1)).1 bodyRead).attains attained
    refine .bind (defaults attained) ?_
    intro default fourth defaultRead
    obtain ⟨attained, _⟩ :=
      ((Explained.of_rules _ (calls + 1)).2.2.2 defaultRead).attains attained
    exact .bind (stops_expectTerminator attained .endLoop _ _) fun _ _ _ => .pure _ _

include bodies in
theorem stops_binding
    (attained : origin.Attains state)
    (atTag : state.isAtTag origin.grammar.order (Text.of "let") = true) :
    Stops origin (binding origin.grammar calls (expressionTag origin.grammar calls depth)
      (document origin.grammar calls depth)) state := by
  refine @stops_openTag_bind _ _ _ .binding _ attained atTag ?_
  intro opened entered
  refine .get_bind (.reading_bind entered.stopped_opened ?_)
  intro name middle named
  cases calls with
  | zero => cases named
  | succ calls =>
    have behindName : origin.Stopped state { opened with cursor := middle } := by
      refine entered.stopped entered.delimiters_eq (Region.identifier_passes named).1 ?_
      intro tag finish isBinding holds
      cases holds with
      | binding named' signed' reads' =>
        obtain ⟨_, rfl⟩ := Prod.mk.inj (Except.ok.inj (named.symm.trans named'))
        exact ((bindingSign_passes signed').trans (reads'.passes rfl)).1
      | _ => cases isBinding
    refine .reading_bind behindName ?_
    intro _ inner signed
    have behindSign : origin.Stopped state { opened with cursor := inner } := by
      refine entered.stopped entered.delimiters_eq
        ((Region.identifier_passes named).trans (bindingSign_passes signed)).1 ?_
      intro tag finish isBinding holds
      cases holds with
      | binding named' signed' reads' =>
        obtain ⟨rfl, rfl⟩ := Prod.mk.inj (Except.ok.inj (named.symm.trans named'))
        obtain ⟨_, rfl⟩ := Prod.mk.inj (Except.ok.inj (signed.symm.trans signed'))
        exact (reads'.passes rfl).1
      | _ => cases isBinding
    have behindValue (content : Content) (finish : Cursor)
        (reads : (opened.tagRegion origin.grammar).Reads (.expression 1) content.levels inner
          content.node finish) :
        origin.Stopped state { opened with cursor := finish } :=
      entered.stopped_behind rfl rfl (.binding named signed reads)
    refine .bind (stops_expressionTag behindSign behindValue (calls + 1) depth) ?_
    intro bound second read
    have step := Step.of_bindingTag entered.opens entered.entered named signed read
    have attained := attained.steps (.single step)
    refine .bind (bodies attained) ?_
    intro body third bodyRead
    obtain ⟨attained, _⟩ := ((Explained.of_rules _ (calls + 1)).1 bodyRead).attains attained
    exact .bind (stops_expectTerminator attained .endBinding _ _) fun _ _ _ => .pure _ _

/-- Behind its key an inclusion either ends or goes on with a context. -/
theorem exists_withContext
    {tag : Tag}
    {region : Region}
    {cursor middle finish : Cursor}
    {key : Text}
    (holds : tag.Holds region cursor finish)
    (isInclusion : tag.form = .inclusion)
    (keyed : inclusionKey region cursor = .ok (key, middle)) :
    ∃ follows behind, withContext region middle = .ok (follows, behind) ∧
      behind.Reaches finish := by
  cases holds with
  | inclusion keyed' alone =>
    obtain ⟨_, rfl⟩ := Prod.mk.inj (Except.ok.inj (keyed.symm.trans keyed'))
    exact ⟨_, _, alone, .refl _⟩
  | inclusionWith keyed' joined reads =>
    obtain ⟨_, rfl⟩ := Prod.mk.inj (Except.ok.inj (keyed.symm.trans keyed'))
    exact ⟨_, _, joined, (reads.passes rfl).1⟩
  | _ => cases isInclusion

theorem stops_inclusion
    (attained : origin.Attains state)
    (atTag : state.isAtTag origin.grammar.order (Text.of "include") = true) :
    Stops origin (inclusion origin.grammar (expressionTag origin.grammar calls depth)) state := by
  refine @stops_openTag_bind _ _ _ .inclusion _ attained atTag ?_
  intro opened entered
  refine .get_bind (.reading_bind entered.stopped_opened ?_)
  intro key middle keyed
  refine .bind (.of_ok rfl) ?_
  intro _ registered success
  obtain ⟨sameDelimiters, here⟩ :
      registered.delimiters = opened.delimiters ∧ registered.cursor = middle := by
    cases success
    exact ⟨rfl, rfl⟩
  have behindKey : origin.Stopped state registered := by
    refine entered.stopped (sameDelimiters.trans entered.delimiters_eq) ?_ ?_
    · rw [here]
      exact (inclusionKey_passes keyed).1
    · intro tag finish isInclusion holds
      rw [here]
      obtain ⟨_, _, looked, reaches⟩ := exists_withContext holds isInclusion keyed
      exact (withContext_reaches looked).trans reaches
  refine .reading_bind behindKey ?_
  intro follows inner looked
  rw [here] at looked
  have region : ∀ cursor, State.tagRegion { registered with cursor := cursor } origin.grammar =
      opened.tagRegion origin.grammar := by
    intro cursor
    rw [State.tagRegion, State.tagRegion, sameDelimiters]
  cases follows with
  | false =>
    have behindAll : origin.Stopped state { registered with cursor := inner } :=
      entered.stopped_behind sameDelimiters rfl (.inclusion keyed looked)
    exact .bind (stops_closeTag behindAll _) fun _ _ _ => .pure _ _
  | true =>
    have behindWord : origin.Stopped state { registered with cursor := inner } := by
      refine entered.stopped (sameDelimiters.trans entered.delimiters_eq)
        ((inclusionKey_passes keyed).1.trans (withContext_reaches looked)) ?_
      intro tag finish isInclusion holds
      obtain ⟨_, _, looked', reaches⟩ := exists_withContext holds isInclusion keyed
      obtain ⟨_, rfl⟩ := Prod.mk.inj (Except.ok.inj (looked.symm.trans looked'))
      exact reaches
    refine .bind (stops_expressionTag behindWord ?_ calls depth) fun _ _ _ => .pure _ _
    intro content finish reads
    rw [region] at reads
    exact entered.stopped_behind sameDelimiters rfl (.inclusionWith keyed looked reads)

end Blocks

/-! ## Documents -/

theorem stops_collect
    {calls depth : Nat}
    (blocks : ∀ {construct : Construct} {state : State}, origin.Attains state →
      state.isAtTag origin.grammar.order construct.keyword = true →
        Stops origin (block origin.grammar calls depth construct) state)
    (attained : origin.Attains state)
    (turns : Nat)
    (parts : List Node) :
    Stops origin (collect origin.grammar calls depth turns parts) state := by
  induction turns generalizing state parts with
  | zero => exact .throw attained.stopped _
  | succ turns hypothesis =>
    have continued {segments : List Segment} {middle : State}
        (steps : Steps origin.grammar state segments middle)
        (collected : List Node) :
        Stops origin (collect origin.grammar calls depth turns collected) middle :=
      hypothesis (attained.steps steps) collected
    refine .get_bind ?_
    cases atEnd : state.cursor.isAtEnd with
    | true => exact .pure _ _
    | false =>
      simp only [Bool.false_eq_true, if_false]
      cases opens : state.kind? origin.grammar.order with
      | none => exact .move_bind (continued (.single (.text atEnd opens)) _)
      | some kind =>
        cases kind with
        | inline =>
          refine .bind (stops_insertion attained opens depth calls) ?_
          intro node middle read
          exact continued (.single (.of_insertion opens read)) _
        | comment =>
          refine .bind (stops_comment attained) ?_
          exact fun _ middle skipped => continued (.single (.comment opens skipped)) _
        | pragma =>
          refine .bind (stops_pragma attained opens calls) ?_
          intro _ middle switched
          exact continued (.single (.of_pragma opens switched)) _
        | block =>
          simp only
          cases seen : state.tagKeyword? with
          | none => exact .throw attained.stopped _
          | some keyword =>
            simp only
            cases known : Construct.ofKeyword? keyword with
            | some construct =>
              have atTag := State.isAtTag_of_ofKeyword? opens seen known
              refine .bind (blocks attained atTag) ?_
              intro node middle read
              obtain ⟨segments, steps, _⟩ := (Explained.of_rules _ calls).2.2.1 opens read
              exact continued steps _
            | none =>
              simp only
              split
              · exact .pure _ _
              · exact .throw attained.stopped _

/-- If a document is not read, reading stops in a segment of the source. -/
theorem stops_of_rules (calls : Nat) :
    (∀ {depth : Nat} {state : State}, origin.Attains state →
      Stops origin (document origin.grammar calls depth) state) ∧
    (∀ {depth : Nat} {state : State}, origin.Attains state →
      Stops origin (parts origin.grammar calls depth) state) ∧
    (∀ {depth : Nat} {construct : Construct} {state : State}, origin.Attains state →
      state.isAtTag origin.grammar.order construct.keyword = true →
        Stops origin (block origin.grammar calls depth construct) state) ∧
    (∀ {depth : Nat} {state : State}, origin.Attains state →
      Stops origin (otherwise origin.grammar calls depth) state) := by
  induction calls with
  | zero =>
    refine ⟨?_, ?_, ?_, ?_⟩
    · intro depth state attained
      rw [document]
      exact .throw attained.stopped _
    · intro depth state attained
      rw [parts]
      exact .throw attained.stopped _
    · intro depth construct state attained _
      rw [block]
      exact .throw attained.stopped _
    · intro depth state attained
      rw [otherwise]
      exact .throw attained.stopped _
  | succ calls hypothesis =>
    obtain ⟨ofDocument, ofParts, ofBlock, ofOtherwise⟩ := hypothesis
    refine ⟨?_, ?_, ?_, ?_⟩
    · intro depth state attained
      rw [document]
      refine .get_bind ?_
      dsimp only
      split
      · exact .throw attained.stopped _
      · exact .bind (ofParts attained) fun _ _ _ => .pure _ _
    · intro depth state attained
      rw [parts]
      exact stops_collect ofBlock attained _ []
    · intro depth construct state attained atTag
      cases construct with
      | conditional =>
        rw [block]
        exact stops_conditional ofDocument ofOtherwise attained atTag
      | selection =>
        rw [block]
        exact stops_selection ofDocument ofOtherwise attained atTag
      | loop =>
        rw [block]
        exact stops_loop ofDocument ofOtherwise attained atTag
      | binding =>
        rw [block]
        exact stops_binding ofDocument attained atTag
      | inclusion =>
        rw [block]
        exact stops_inclusion attained atTag
    · intro depth state attained
      rw [otherwise]
      refine .get_bind ?_
      split
      · rename_i atTag
        refine @stops_openTag_bind _ _ _ (.marker .otherwise) _ attained atTag ?_
        intro opened entered
        refine .bind (stops_closeTag entered.stopped_opened _) ?_
        intro _ second closed
        obtain ⟨behind, closes, rfl⟩ := closeTag_eq_ok.1 closed
        have step : Step origin.grammar state
            (.tag state.cursor.position (.marker .otherwise) behind.position)
            { opened with cursor := behind } :=
          .tag entered.opens entered.entered .marker closes
        exact .bind (ofDocument (attained.steps (.single step))) fun _ _ _ => .pure _ _
      · exact .pure _ _

end Document

namespace Template

open Document

/-- Reading a source stops in the segment that begins at a state: it stops there or
further on, and no segment from there ends where it stops or before. -/
def Origin.StopsIn (origin : Origin) (state : State) : Prop :=
  origin.Attains state ∧ ∃ halt after,
    whole origin.grammar (callsFor origin.source) origin.name origin.start = .error halt after ∧
    state.cursor.Reaches after.cursor ∧
    ∀ segment next, Step origin.grammar state segment next →
      ¬ next.cursor.Reaches after.cursor

variable {origin : Origin}

theorem stops_whole (calls : Nat) (name : Text) :
    Rule.Stops origin (whole origin.grammar calls name) origin.start := by
  refine .bind ((stops_of_rules calls).1 origin.attains_start) ?_
  intro root final read
  obtain ⟨attained, _⟩ :=
    ((Explained.of_rules _ calls).1 read).attains origin.attains_start
  refine .get_bind ?_
  split
  · exact .of_ok rfl
  · exact .throw attained.stopped _

/-- A source that is not read stops in one of its segments. -/
theorem Origin.exists_stopsIn
    {halt : Halt}
    (failure : (read origin.options origin.name origin.delimiters origin.source).result =
      .error halt) :
    ∃ state, origin.StopsIn state := by
  rw [read_eq_ofResult] at failure
  cases outcome : whole (grammarFor origin.options origin.source) (callsFor origin.source)
      origin.name (initial origin.name origin.delimiters origin.source) with
  | ok template after =>
    rw [outcome] at failure
    cases failure
  | error found after =>
    obtain ⟨last, stopped⟩ := stops_whole _ _ found after outcome
    refine ⟨last, stopped.attained, found, after, outcome, stopped.reaches, ?_⟩
    intro segment next step back
    have shorter := (stopped.inside segment next step).2
    have longer := back.length_le
    omega

/-- A source that stops in a segment leaves the delimiters as they were before it. -/
theorem Origin.StopsIn.delimiters_eq
    {state : State}
    (stops : origin.StopsIn state) :
    (read origin.options origin.name origin.delimiters origin.source).delimiters =
      state.delimiters := by
  obtain ⟨⟨front, steps⟩, halt, after, outcome, reaches, notBefore⟩ := stops
  obtain ⟨last, stopped⟩ := stops_whole _ _ halt after outcome
  obtain ⟨front', steps'⟩ := stopped.attained
  have same : last = state := by
    -- Both are on the way through the source, and neither is strictly before the other.
    rcases steps.connected steps' with ⟨back, onward⟩ | ⟨back, onward⟩
    · cases onward with
      | nil => rfl
      | cons step further =>
        exact absurd (further.reaches.trans stopped.reaches) (notBefore _ _ step)
    · cases onward with
      | nil => rfl
      | cons step further =>
        have shorter := (stopped.inside _ _ step).2
        have longer := (further.reaches.trans reaches).length_le
        omega
  have outcome' : whole (grammarFor origin.options origin.source) (callsFor origin.source)
      origin.name (initial origin.name origin.delimiters origin.source) =
        .error halt after := outcome
  rw [read_eq_ofResult, outcome', ← same]
  exact stopped.delimiters

end Template

end Stencil
