import Stencil.Proofs.Failure

/-!
# Why reading a document stops

The rules for documents are sound as the rules for expressions are: if one of
them gives no value, the source is to blame.  A rule starts in a state up to
which the source can be cut into segments; where one of its parts succeeds, the
source can be cut further, and the state behind is of the same kind.
-/

namespace Stencil

open Template (Origin)

namespace Document

variable {origin : Origin}

namespace Rule

/-- If a rule gives no value in a state, the source is to blame. -/
def Sound (origin : Origin) (rule : Rule α) (state : State) : Prop :=
  ∀ halt after, rule state = .error halt after → halt.Justified origin

theorem Sound.of_ok
    {rule : Rule α}
    {state after : State}
    {value : α}
    (success : rule state = .ok value after) :
    Sound origin rule state := by
  intro halt final failure
  rw [success] at failure
  cases failure

theorem Sound.pure (value : α) (state : State) : Sound origin (pure value) state :=
  .of_ok rfl

/-- Two rules are sound if the first is, and the second is wherever it is run. -/
theorem Sound.bind
    {first : Rule α}
    {second : α → Rule β}
    {state : State}
    (near : Sound origin first state)
    (far : ∀ value middle, first state = .ok value middle → Sound origin (second value) middle) :
    Sound origin (first >>= second) state := by
  intro halt final failure
  simp only [Bind.bind, EStateM.bind] at failure
  split at failure
  · exact far _ _ (by assumption) halt final failure
  · rename_i stopped
    cases failure
    exact near halt final stopped

theorem Sound.get_bind
    {next : State → Rule α}
    {state : State}
    (sound : Sound origin (next state) state) :
    Sound origin (get >>= next) state :=
  sound

theorem Sound.move_bind
    {cursor : Cursor}
    {next : Unit → Rule α}
    {state : State}
    (sound : Sound origin (next ()) { state with cursor := cursor }) :
    Sound origin (move cursor >>= next) state :=
  sound

theorem Sound.fail
    {cause : Cause}
    {position : Position}
    {state : State}
    (placed : origin.Places position)
    (found : cause.FoundAt origin position) :
    Sound origin (fail cause position : Rule α) state := by
  intro halt final failure
  cases failure
  exact ⟨placed, found⟩

theorem Sound.reading
    {rule : Cursor → Except Halt (α × Cursor)}
    {state : State}
    (sound : Reading.Sound origin (rule state.cursor)) :
    Sound origin (reading rule) state := by
  intro halt final failure
  simp only [Rule.reading] at failure
  split at failure
  · cases failure
  · rename_i stopped
    cases failure
    exact sound halt stopped

/-- What is read is followed by the rest of a rule at the cursor behind it. -/
theorem Sound.reading_bind
    {rule : Cursor → Except Halt (α × Cursor)}
    {next : α → Rule β}
    {state : State}
    (near : Reading.Sound origin (rule state.cursor))
    (far : ∀ value cursor, rule state.cursor = .ok (value, cursor) →
      Sound origin (next value) { state with cursor := cursor }) :
    Sound origin (Rule.reading rule >>= next) state := by
  refine .bind (.reading near) ?_
  intro value middle success
  obtain ⟨cursor, read, rfl⟩ := reading_eq_ok.1 success
  exact far value cursor read

end Rule

/-! ## Bounds -/

/-- A place of the source has less text behind it than a loop may take turns. -/
theorem length_lt_turns
    {cursor : Cursor}
    (stands : origin.Has cursor) :
    cursor.rest.length < origin.grammar.turns :=
  Nat.lt_succ_of_le stands.length_le

theorem sound_expression
    {cursor : Cursor}
    {calls : Nat}
    (stands : origin.Has cursor)
    (enough : 4 * cursor.rest.length + 5 ≤ calls)
    (closing : Text)
    (depth : Nat)
    (least : Int) :
    Reading.Sound origin
      (Region.expression ⟨origin.grammar, closing⟩ calls depth least cursor) :=
  (Region.sound_of_rules _ calls).1 stands (length_lt_turns stands) enough

/-- A region is entered behind its opening delimiter. -/
theorem passes_opening
    {state : State}
    {order : List Kind}
    {kind : Kind}
    (opens : state.kind? order = some kind) :
    state.cursor.Passes
      (state.cursor.forward (state.delimiters.pair kind).opening.length) :=
  Cursor.passes_forward (List.length_pos_iff.2 (Pair.opening_ne_nil _)) (State.rest_ne_nil opens)

/-! ## Tags -/

/-- A tag that was seen can be entered. -/
theorem exists_openTag
    {state : State}
    {keyword : Text}
    (seen : state.tagKeyword? = some keyword) :
    ∃ opened, openTag keyword state = .ok state.cursor.position opened := by
  unfold State.tagKeyword? at seen
  split at seen
  · cases seen
  · rename_i behind consumed
    split at seen
    · rename_i token finish scanned
      simp only [Option.ite_none_right_eq_some, Option.some.injEq] at seen
      have isWord : token.isWord keyword = true := by simp [Token.isWord, seen]
      exact ⟨_, openTag_eq_ok.2
        ⟨rfl, behind, token, finish, consumed, Reading.token_eq_ok.2 scanned, isWord, rfl⟩⟩
    · cases seen

/-- A tag that was seen is entered, and the rest of a rule follows behind its
word. -/
theorem sound_openTag_bind
    {state : State}
    {keyword : Text}
    {next : Position → Rule α}
    (attained : origin.Attains state)
    (atTag : state.isAtTag origin.grammar.order keyword = true)
    (far : ∀ opened, openTag keyword state = .ok state.cursor.position opened →
      origin.ShowsOpening state.cursor.position .block → state.cursor.Passes opened.cursor →
        Rule.Sound origin (next state.cursor.position) opened) :
    Rule.Sound origin (openTag keyword >>= next) state := by
  obtain ⟨opens, seen⟩ := State.isAtTag_iff.1 atTag
  obtain ⟨opened, entered⟩ := exists_openTag seen
  refine .bind (.of_ok entered) ?_
  intro opener middle success
  rw [entered] at success
  cases success
  exact far opened entered (attained.showsOpening opens) (passes_of_openTag entered)

theorem sound_closeTag
    {state : State}
    (stands : origin.Has state.cursor)
    (grammar : Grammar) :
    Rule.Sound origin (closeTag grammar) state :=
  .get_bind (.reading (Region.sound_close stands))

theorem sound_expressionTag
    {state : State}
    {calls : Nat}
    (stands : origin.Has state.cursor)
    (enough : 4 * state.cursor.rest.length + 5 ≤ calls)
    (depth : Nat) :
    Rule.Sound origin (expressionTag origin.grammar calls depth) state := by
  refine .get_bind (.reading_bind (sound_expression stands enough _ depth 1) ?_)
  intro node cursor success
  have passes := ((Region.Reads.of_rules _ calls).1 success).passes rfl
  exact .bind (sound_closeTag (stands.reaches passes.1) _) fun _ _ _ => .pure _ _

theorem sound_patternTag
    {state : State}
    {calls : Nat}
    (stands : origin.Has state.cursor)
    (enough : 3 ≤ calls) :
    Rule.Sound origin (patternTag origin.grammar calls) state := by
  obtain ⟨calls, rfl⟩ : ∃ fewer, calls = fewer + 3 := ⟨calls - 3, by omega⟩
  refine .get_bind (.reading_bind (Region.sound_pattern stands calls (length_lt_turns stands)) ?_)
  intro pattern cursor success
  have passes := (Region.Matches.of_pattern success).passes
  exact .bind (sound_closeTag (stands.reaches passes.1) _) fun _ _ _ => .pure _ _

theorem sound_expectTerminator
    {state : State}
    {opener : Position}
    (attained : origin.Attains state)
    (opened : origin.ShowsOpening opener .block)
    (terminator : Text)
    (construct : Construct) :
    Rule.Sound origin (expectTerminator origin.grammar terminator construct opener) state := by
  refine .get_bind ?_
  split
  · rename_i atTag
    refine sound_openTag_bind attained atTag ?_
    intro inside _ _ passes
    exact sound_closeTag (attained.has.reaches passes.1) _
  · exact .fail attained.has.places opened

/-! ## Regions -/

theorem sound_insertion
    {state : State}
    {calls : Nat}
    (attained : origin.Attains state)
    (opens : state.kind? origin.grammar.order = some .inline)
    (enough : 4 * state.cursor.rest.length + 5 ≤ calls)
    (depth : Nat) :
    Rule.Sound origin (insertion origin.grammar depth calls) state := by
  obtain ⟨calls, rfl⟩ : ∃ fewer, calls = fewer + 1 := ⟨calls - 1, by omega⟩
  have passesOpening := passes_opening opens
  have stands := attained.has.reaches passesOpening.1
  have shorter := passesOpening.2
  have read := sound_expression stands (by omega : _ ≤ calls) state.delimiters.inline.closing
    depth 1
  refine .get_bind (.move_bind (.reading_bind read ?_))
  intro node cursor success
  have passes := ((Region.Reads.of_rules _ calls).1 success).passes rfl
  refine .reading_bind (Region.sound_close (stands.reaches passes.1)) ?_
  exact fun _ _ _ => .pure _ _

theorem sound_comment
    {state : State}
    (attained : origin.Attains state)
    (opens : state.kind? origin.grammar.order = some .comment) :
    Rule.Sound origin comment state := by
  refine .get_bind ?_
  dsimp only
  split
  · exact .of_ok rfl
  · exact .fail attained.has.places (attained.showsOpening opens)

theorem sound_pragmaField
    {cursor : Cursor}
    (stands : origin.Has cursor)
    (region : Region) :
    Reading.Sound origin (pragmaField region cursor) := by
  refine .bind (.token stands) ?_
  rintro ⟨name, behind⟩ scanned
  dsimp only
  split
  · exact .unexpected stands scanned
  · rename_i isName
    split
    · refine .fail (Reading.showsToken_of_token stands scanned).1 ?_
      simp only [ne_eq, decide_not, Bool.or_eq_true, not_or] at isName
      exact stands.showsWord scanned (by simpa using isName.1)
    · -- Each further token is expected behind the one before.
      have behindName := stands.behind scanned
      refine .bind (.expectOperator behindName _) ?_
      rintro ⟨sign, cursor⟩ read
      have stands := behindName.behind (Reading.expectOperator_eq_ok.1 read).1
      refine .bind (.expect stands _ _) ?_
      rintro ⟨left, cursor⟩ read
      have stands := stands.behind (Reading.expect_eq_ok.1 read).1
      refine .bind (.expect stands _ _) ?_
      rintro ⟨opening, cursor⟩ read
      have stands := stands.behind (Reading.expect_eq_ok.1 read).1
      refine .bind (.expect stands _ _) ?_
      rintro ⟨comma, cursor⟩ read
      have stands := stands.behind (Reading.expect_eq_ok.1 read).1
      refine .bind (.expect stands _ _) ?_
      rintro ⟨closing, cursor⟩ read
      have stands := stands.behind (Reading.expect_eq_ok.1 read).1
      exact .bind (.expect stands _ _) fun _ _ => .pure _

theorem sound_pragmaChanges
    {cursor : Cursor}
    (stands : origin.Has cursor)
    (region : Region)
    (turns : Nat)
    (enough : cursor.rest.length < turns)
    (changes : List (Kind × Value)) :
    Reading.Sound origin (pragmaChanges region turns changes cursor) := by
  induction turns generalizing cursor changes with
  | zero => omega
  | succ turns hypothesis =>
    refine .bind (sound_pragmaField stands region) ?_
    rintro ⟨⟨kind, value⟩, middle⟩ field
    have passesField := pragmaField_passes field
    dsimp only
    split
    · exact .pure _
    · refine .bind (.expect (stands.reaches passesField.1) _ _) ?_
      rintro ⟨comma, behind⟩ separated
      have passes := passesField.trans (expect_passes separated Token.Kind.noConfusion)
      have shorter := passes.2
      exact hypothesis (stands.reaches passes.1) (by omega) _

theorem sound_pragma
    {state : State}
    {calls : Nat}
    (attained : origin.Attains state)
    (opens : state.kind? origin.grammar.order = some .pragma)
    (enough : 1 ≤ calls) :
    Rule.Sound origin (pragma origin.grammar calls) state := by
  obtain ⟨calls, rfl⟩ : ∃ fewer, calls = fewer + 1 := ⟨calls - 1, by omega⟩
  have stands := attained.has.reaches (passes_opening opens).1
  refine .get_bind (.move_bind (.reading_bind
    (sound_pragmaChanges stands _ _ (length_lt_turns stands) _) ?_))
  intro changes cursor listed
  have passes := (Changes.of_pragmaChanges listed).passes
  refine .reading_bind (Region.sound_close (stands.reaches passes.1)) ?_
  intro _ behind _
  split
  · exact .of_ok rfl
  · exact .fail attained.has.places (attained.showsOpening opens)

/-! ## Blocks -/

/-- Blank text and comments can be passed, or the text that is not blank is to
blame. -/
theorem sound_skipToAlternatives
    {state : State}
    (attained : origin.Attains state)
    (turns : Nat)
    (enough : state.cursor.rest.length < turns) :
    Rule.Sound origin (skipToAlternatives origin.grammar turns) state := by
  induction turns generalizing state with
  | zero => omega
  | succ turns hypothesis =>
    have continued {segment : Segment} {middle : State}
        (step : Step origin.grammar state segment middle) :
        Rule.Sound origin (skipToAlternatives origin.grammar turns) middle := by
      have shorter := step.passes.2
      exact hypothesis (attained.steps (.single step)) (by omega)
    refine .get_bind ?_
    cases atEnd : state.cursor.isAtEnd with
    | true => exact .pure _ _
    | false =>
      simp only [Bool.false_eq_true, if_false]
      cases opens : state.kind? origin.grammar.order with
      | none =>
        simp only
        split
        · exact .move_bind (continued (.text atEnd opens))
        · exact .fail attained.has.places trivial
      | some kind =>
        cases kind with
        | comment =>
          refine .bind (sound_comment attained opens) ?_
          exact fun _ middle skipped => continued (.comment opens skipped)
        | inline => exact .pure _ _
        | block => exact .pure _ _
        | pragma => exact .pure _ _

section Blocks

variable
  {calls depth : Nat}
  (bodies : ∀ {state : State}, origin.Attains state →
    4 * state.cursor.rest.length + 8 ≤ calls →
      Rule.Sound origin (document origin.grammar calls depth) state)
  (defaults : ∀ {state : State}, origin.Attains state →
    4 * state.cursor.rest.length + 5 ≤ calls →
      Rule.Sound origin (otherwise origin.grammar calls depth) state)

/-- Behind what is derived from a form, the source can be cut further. -/
theorem Explained.attains
    {form : Form}
    {levels : Nat}
    {state after : State}
    (explained : Explained origin.grammar form levels state after)
    (attained : origin.Attains state) :
    origin.Attains after ∧ after.cursor.rest.length ≤ state.cursor.rest.length := by
  obtain ⟨segments, steps, _⟩ := explained
  exact ⟨attained.steps steps, steps.reaches.length_le⟩

include bodies in
theorem sound_furtherBranches
    {state : State}
    (attained : origin.Attains state)
    (enoughCalls : 4 * state.cursor.rest.length + 4 ≤ calls)
    (turns : Nat)
    (enough : state.cursor.rest.length < turns) :
    Rule.Sound origin (furtherBranches origin.grammar (expressionTag origin.grammar calls depth)
      (document origin.grammar calls depth) turns) state := by
  induction turns generalizing state with
  | zero => omega
  | succ turns hypothesis =>
    refine .get_bind ?_
    split
    · rename_i atTag
      refine sound_openTag_bind attained atTag ?_
      intro opened entered _ passesWord
      have shorter := passesWord.2
      refine .bind (sound_expressionTag (attained.has.reaches passesWord.1) (by omega) depth) ?_
      intro test second read
      have step := Step.of_expressionTag .further .further (fun _ _ _ => rfl)
        (State.isAtTag_iff.1 atTag).1 entered read
      have shorter := step.passes.2
      have attained := attained.steps (.single step)
      refine .bind (bodies attained (by omega)) ?_
      intro body third bodyRead
      obtain ⟨attained, within⟩ :=
        ((Explained.of_rules _ calls).1 bodyRead).attains attained
      refine .bind (hypothesis attained (by omega) (by omega)) ?_
      exact fun _ _ _ => .pure _ _
    · exact .pure _ _

include bodies in
theorem sound_alternatives
    {state : State}
    (attained : origin.Attains state)
    (enoughCalls : 4 * state.cursor.rest.length + 4 ≤ calls)
    (turns : Nat)
    (enough : state.cursor.rest.length < turns) :
    Rule.Sound origin (alternatives origin.grammar (patternTag origin.grammar calls)
      (document origin.grammar calls depth) turns) state := by
  induction turns generalizing state with
  | zero => omega
  | succ turns hypothesis =>
    refine .get_bind ?_
    split
    · rename_i atTag
      refine sound_openTag_bind attained atTag ?_
      intro opened entered _ passesWord
      have shorter := passesWord.2
      refine .bind (sound_patternTag (attained.has.reaches passesWord.1) (by omega)) ?_
      intro pattern second read
      have step := Step.of_patternTag (State.isAtTag_iff.1 atTag).1 entered read
      have shorter := step.passes.2
      have attained := attained.steps (.single step)
      refine .bind (bodies attained (by omega)) ?_
      intro body third bodyRead
      obtain ⟨attained, within⟩ :=
        ((Explained.of_rules _ calls).1 bodyRead).attains attained
      refine .bind (hypothesis attained (by omega) (by omega)) ?_
      exact fun _ _ _ => .pure _ _
    · exact .pure _ _

include bodies defaults in
theorem sound_conditional
    {state : State}
    (attained : origin.Attains state)
    (atTag : state.isAtTag origin.grammar.order (Text.of "if") = true)
    (enough : 4 * state.cursor.rest.length + 4 ≤ calls) :
    Rule.Sound origin (conditional origin.grammar (expressionTag origin.grammar calls depth)
      (document origin.grammar calls depth) (otherwise origin.grammar calls depth)) state := by
  refine sound_openTag_bind attained atTag ?_
  intro opened entered shown passesWord
  have shorter := passesWord.2
  refine .bind (sound_expressionTag (attained.has.reaches passesWord.1) (by omega) depth) ?_
  intro test second read
  have step := Step.of_expressionTag .condition .condition (fun _ _ _ => rfl)
    (State.isAtTag_iff.1 atTag).1 entered read
  have shorter := step.passes.2
  have attained := attained.steps (.single step)
  refine .bind (bodies attained (by omega)) ?_
  intro body third bodyRead
  obtain ⟨attained, within⟩ := ((Explained.of_rules _ calls).1 bodyRead).attains attained
  refine .bind (sound_furtherBranches bodies attained (by omega) _
    (length_lt_turns attained.has)) ?_
  intro others fourth branchesRead
  have explained := Explained.of_furtherBranches (Explained.of_rules _ calls).1 branchesRead
  obtain ⟨attained, within⟩ := explained.attains attained
  refine .bind (defaults attained (by omega)) ?_
  intro default fifth defaultRead
  obtain ⟨attained, _⟩ := ((Explained.of_rules _ calls).2.2.2 defaultRead).attains attained
  exact .bind (sound_expectTerminator attained shown _ _) fun _ _ _ => .pure _ _

include bodies defaults in
theorem sound_selection
    {state : State}
    (attained : origin.Attains state)
    (atTag : state.isAtTag origin.grammar.order (Text.of "case") = true)
    (enough : 4 * state.cursor.rest.length + 4 ≤ calls) :
    Rule.Sound origin (selection origin.grammar (expressionTag origin.grammar calls depth)
      (patternTag origin.grammar calls) (document origin.grammar calls depth)
      (otherwise origin.grammar calls depth)) state := by
  refine sound_openTag_bind attained atTag ?_
  intro opened entered shown passesWord
  have shorter := passesWord.2
  refine .bind (sound_expressionTag (attained.has.reaches passesWord.1) (by omega) depth) ?_
  intro subject second read
  have step := Step.of_expressionTag .scrutinee .scrutinee (fun _ _ _ => rfl)
    (State.isAtTag_iff.1 atTag).1 entered read
  have shorter := step.passes.2
  have attained := attained.steps (.single step)
  refine .bind (sound_skipToAlternatives attained _ (length_lt_turns attained.has)) ?_
  intro _ third skipped
  obtain ⟨gap, gapSteps, _⟩ := Steps.of_skipToAlternatives skipped
  have within := gapSteps.reaches.length_le
  have attained := attained.steps gapSteps
  refine .bind (sound_alternatives bodies attained (by omega) _ (length_lt_turns attained.has)) ?_
  intro cases fourth casesRead
  have explained := Explained.of_alternatives (Explained.of_rules _ calls).1 casesRead
  obtain ⟨attained, _⟩ := explained.attains attained
  refine .bind (defaults attained (by omega)) ?_
  intro default fifth defaultRead
  obtain ⟨attained, _⟩ := ((Explained.of_rules _ calls).2.2.2 defaultRead).attains attained
  exact .bind (sound_expectTerminator attained shown _ _) fun _ _ _ => .pure _ _

include bodies defaults in
theorem sound_loop
    {state : State}
    (attained : origin.Attains state)
    (atTag : state.isAtTag origin.grammar.order (Text.of "for") = true)
    (enough : 4 * state.cursor.rest.length + 4 ≤ calls) :
    Rule.Sound origin (loop origin.grammar calls (document origin.grammar calls depth)
      (otherwise origin.grammar calls depth)) state := by
  obtain ⟨calls, rfl⟩ : ∃ fewer, calls = fewer + 2 := ⟨calls - 2, by omega⟩
  refine sound_openTag_bind attained atTag ?_
  intro opened entered shown passesWord
  have stands := attained.has.reaches passesWord.1
  refine .get_bind (.reading_bind (Region.sound_identifier stands (calls + 1)) ?_)
  intro item middle named
  have behindItem := stands.reaches (Region.identifier_passes named).1
  refine .reading_bind (Region.sound_keyword behindItem _) ?_
  intro word inner joined
  have behindWord := behindItem.reaches (keyword_passes joined).1
  refine .reading_bind (Region.sound_path behindWord calls (length_lt_turns behindWord)) ?_
  intro source finish iterated
  have behindSource := behindWord.reaches (Region.Path.of_path iterated).passes.1
  refine .bind (sound_closeTag behindSource _) ?_
  intro _ second closed
  have step :=
    Step.of_loopTag (State.isAtTag_iff.1 atTag).1 entered named joined iterated closed
  have shorter := step.passes.2
  have attained := attained.steps (.single step)
  refine .bind (bodies attained (by omega)) ?_
  intro body third bodyRead
  obtain ⟨attained, within⟩ := ((Explained.of_rules _ (calls + 2)).1 bodyRead).attains attained
  refine .bind (defaults attained (by omega)) ?_
  intro default fourth defaultRead
  obtain ⟨attained, _⟩ := ((Explained.of_rules _ (calls + 2)).2.2.2 defaultRead).attains attained
  exact .bind (sound_expectTerminator attained shown _ _) fun _ _ _ => .pure _ _

theorem sound_bindingSign
    {cursor : Cursor}
    (stands : origin.Has cursor)
    (name : Text) :
    Reading.Sound origin (bindingSign name cursor) := by
  unfold bindingSign
  dsimp only
  split
  · exact .ok _
  · refine .bind (.token stands.skipBlanks) ?_
    rintro ⟨found, behind⟩ scanned
    exact .unexpected stands.skipBlanks scanned

include bodies in
theorem sound_binding
    {state : State}
    (attained : origin.Attains state)
    (atTag : state.isAtTag origin.grammar.order (Text.of "let") = true)
    (enough : 4 * state.cursor.rest.length + 4 ≤ calls) :
    Rule.Sound origin (binding origin.grammar calls (expressionTag origin.grammar calls depth)
      (document origin.grammar calls depth)) state := by
  obtain ⟨calls, rfl⟩ : ∃ fewer, calls = fewer + 1 := ⟨calls - 1, by omega⟩
  refine sound_openTag_bind attained atTag ?_
  intro opened entered shown passesWord
  have stands := attained.has.reaches passesWord.1
  refine .get_bind (.reading_bind (Region.sound_identifier stands calls) ?_)
  intro name middle named
  have passesName := passesWord.trans (Region.identifier_passes named)
  refine .reading_bind (sound_bindingSign (attained.has.reaches passesName.1) _) ?_
  intro _ inner signed
  have passesSign := passesName.trans (bindingSign_passes signed)
  have shorter := passesSign.2
  refine .bind (sound_expressionTag (attained.has.reaches passesSign.1) ?_ depth) ?_
  · simp only
    omega
  intro bound second read
  have step := Step.of_bindingTag (State.isAtTag_iff.1 atTag).1 entered named signed read
  have shorter := step.passes.2
  have attained := attained.steps (.single step)
  refine .bind (bodies attained (by omega)) ?_
  intro body third bodyRead
  obtain ⟨attained, _⟩ := ((Explained.of_rules _ (calls + 1)).1 bodyRead).attains attained
  exact .bind (sound_expectTerminator attained shown _ _) fun _ _ _ => .pure _ _

theorem sound_inclusionKey
    {cursor : Cursor}
    (stands : origin.Has cursor)
    (region : Region) :
    Reading.Sound origin (inclusionKey region cursor) := by
  refine .bind (.token stands) ?_
  rintro ⟨found, behind⟩ scanned
  dsimp only
  split
  · exact .unexpected stands scanned
  · exact .pure _

theorem sound_withContext
    {cursor : Cursor}
    (stands : origin.Has cursor)
    (region : Region) :
    Reading.Sound origin (withContext region cursor) := by
  unfold withContext
  split
  · exact .ok _
  · refine .bind (.token stands) ?_
    rintro ⟨found, behind⟩ scanned
    dsimp only
    split <;> exact .pure _

theorem sound_inclusion
    {state : State}
    (attained : origin.Attains state)
    (atTag : state.isAtTag origin.grammar.order (Text.of "include") = true)
    (enough : 4 * state.cursor.rest.length + 4 ≤ calls) :
    Rule.Sound origin (inclusion origin.grammar (expressionTag origin.grammar calls depth))
      state := by
  refine sound_openTag_bind attained atTag ?_
  intro opened entered _ passesWord
  have stands := attained.has.reaches passesWord.1
  refine .get_bind (.reading_bind (sound_inclusionKey stands _) ?_)
  intro key middle keyed
  have passesKey := passesWord.trans (inclusionKey_passes keyed)
  refine .bind (.of_ok rfl) ?_
  intro _ registered success
  cases success
  refine .reading_bind (sound_withContext (attained.has.reaches passesKey.1) _) ?_
  intro follows inner looked
  have passes := passesKey.trans_reaches (withContext_reaches looked)
  have shorter := passes.2
  cases follows with
  | true =>
    refine .bind (sound_expressionTag (attained.has.reaches passes.1) ?_ depth) ?_
    · simp only
      omega
    · exact fun _ _ _ => .pure _ _
  | false =>
    exact .bind (sound_closeTag (attained.has.reaches passes.1) _) fun _ _ _ => .pure _ _

end Blocks

/-! ## Documents -/

/-- The loop over the parts of a document is sound if its blocks are. -/
theorem sound_collect
    {calls depth : Nat}
    (blocks : ∀ {construct : Construct} {state : State}, origin.Attains state →
      state.isAtTag origin.grammar.order construct.keyword = true →
        4 * state.cursor.rest.length + 5 ≤ calls →
          Rule.Sound origin (block origin.grammar calls depth construct) state)
    {state : State}
    (attained : origin.Attains state)
    (enoughCalls : 4 * state.cursor.rest.length + 5 ≤ calls)
    (turns : Nat)
    (enough : state.cursor.rest.length < turns)
    (parts : List Node) :
    Rule.Sound origin (collect origin.grammar calls depth turns parts) state := by
  induction turns generalizing state parts with
  | zero => omega
  | succ turns hypothesis =>
    have continued {segments : List Segment} {middle : State}
        (steps : Steps origin.grammar state segments middle)
        (passes : state.cursor.Passes middle.cursor)
        (collected : List Node) :
        Rule.Sound origin (collect origin.grammar calls depth turns collected) middle := by
      have shorter := passes.2
      exact hypothesis (attained.steps steps) (by omega) (by omega) collected
    refine .get_bind ?_
    cases atEnd : state.cursor.isAtEnd with
    | true => exact .pure _ _
    | false =>
      simp only [Bool.false_eq_true, if_false]
      cases opens : state.kind? origin.grammar.order with
      | none =>
        have step := Step.text atEnd opens
        exact .move_bind (continued (.single step) step.passes _)
      | some kind =>
        cases kind with
        | inline =>
          refine .bind (sound_insertion attained opens enoughCalls depth) ?_
          intro node middle read
          have step := Step.of_insertion opens read
          exact continued (.single step) step.passes _
        | comment =>
          refine .bind (sound_comment attained opens) ?_
          intro _ middle skipped
          have step : Step origin.grammar state .comment middle := .comment opens skipped
          exact continued (.single step) step.passes _
        | pragma =>
          refine .bind (sound_pragma attained opens (by omega)) ?_
          intro _ middle switched
          have step := Step.of_pragma opens switched
          exact continued (.single step) step.passes _
        | block =>
          have placed := attained.has.places
          have shown := attained.showsOpening opens
          simp only
          cases seen : state.tagKeyword? with
          | none => exact .fail placed shown
          | some keyword =>
            simp only
            cases known : Construct.ofKeyword? keyword with
            | some construct =>
              have atTag := State.isAtTag_of_ofKeyword? opens seen known
              refine .bind (blocks attained atTag enoughCalls) ?_
              intro node middle read
              obtain ⟨segments, steps, derives, _⟩ :=
                (Explained.of_rules _ calls).2.2.1 opens read
              exact continued steps (derives.passes_of_item steps) _
            | none =>
              simp only
              split
              · exact .pure _ _
              · exact .fail placed shown

/-- If a document is not read, the source is to blame. -/
theorem sound_of_rules (calls : Nat) :
    (∀ {depth : Nat} {state : State}, origin.Attains state →
      4 * state.cursor.rest.length + 8 ≤ calls →
        Rule.Sound origin (document origin.grammar calls depth) state) ∧
    (∀ {depth : Nat} {state : State}, origin.Attains state →
      4 * state.cursor.rest.length + 7 ≤ calls →
        Rule.Sound origin (parts origin.grammar calls depth) state) ∧
    (∀ {depth : Nat} {construct : Construct} {state : State}, origin.Attains state →
      state.isAtTag origin.grammar.order construct.keyword = true →
        4 * state.cursor.rest.length + 5 ≤ calls →
          Rule.Sound origin (block origin.grammar calls depth construct) state) ∧
    (∀ {depth : Nat} {state : State}, origin.Attains state →
      4 * state.cursor.rest.length + 5 ≤ calls →
        Rule.Sound origin (otherwise origin.grammar calls depth) state) := by
  induction calls with
  | zero =>
    refine ⟨?_, ?_, ?_, ?_⟩
    all_goals
      intros
      omega
  | succ calls hypothesis =>
    obtain ⟨ofDocument, ofParts, ofBlock, ofOtherwise⟩ := hypothesis
    refine ⟨?_, ?_, ?_, ?_⟩
    · intro depth state attained enough
      rw [document]
      refine .get_bind ?_
      have nested := Reading.Sound.nest origin.grammar depth attained.has.places
      dsimp only
      split
      · rename_i halt failure
        intro found after failed
        cases failed
        exact nested halt failure
      · exact .bind (ofParts attained (by omega)) fun _ _ _ => .pure _ _
    · intro depth state attained enough
      rw [parts]
      exact sound_collect ofBlock attained (by omega) _ (length_lt_turns attained.has) []
    · intro depth construct state attained atTag enough
      cases construct with
      | conditional =>
        rw [block]
        exact sound_conditional ofDocument ofOtherwise attained atTag (by omega)
      | selection =>
        rw [block]
        exact sound_selection ofDocument ofOtherwise attained atTag (by omega)
      | loop =>
        rw [block]
        exact sound_loop ofDocument ofOtherwise attained atTag (by omega)
      | binding =>
        rw [block]
        exact sound_binding ofDocument attained atTag (by omega)
      | inclusion =>
        rw [block]
        exact sound_inclusion attained atTag (by omega)
    · intro depth state attained enough
      rw [otherwise]
      refine .get_bind ?_
      split
      · rename_i atTag
        refine sound_openTag_bind attained atTag ?_
        intro opened entered _ passesWord
        refine .bind (sound_closeTag (attained.has.reaches passesWord.1) _) ?_
        intro _ second closed
        obtain ⟨behind, closes, rfl⟩ := closeTag_eq_ok.1 closed
        have step : Step origin.grammar state
            (.tag state.cursor.position (.marker .otherwise) behind.position)
            { opened with cursor := behind } :=
          .tag (State.isAtTag_iff.1 atTag).1 entered .marker closes
        have shorter := step.passes.2
        refine .bind (ofDocument (attained.steps (.single step)) (by omega)) ?_
        exact fun _ _ _ => .pure _ _
      · exact .pure _ _

end Document

end Stencil
