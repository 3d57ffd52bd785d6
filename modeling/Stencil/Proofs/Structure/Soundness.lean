import Stencil.Proofs.Structure.Explanation

/-!
# What the rules for documents read can be derived

If a rule for a document or a block succeeds, then the source between the two
states can be cut into segments that the grammar of documents derives, with the
same tree and with blank gaps only.  The rules for bodies are parameters of the
rules for blocks, so each kind of block is treated on its own under the
assumption that its bodies are derived; an induction on the rules that may be
open then ties them together.
-/

namespace Stencil

namespace Document

/-- A tag that holds an expression, as the rules read it. -/
theorem Step.of_expressionTag
    {grammar : Grammar}
    {calls depth : Nat}
    {state opened after : State}
    {opener : Position}
    {node : Node}
    (tag : Content → Tag)
    (holds : ∀ {region : Region} {content : Content} {cursor finish : Cursor},
      region.Reads (.expression 1) content.levels cursor content.node finish →
        (tag content).Holds region cursor finish)
    (quiet : ∀ (state : State) (opener : Position) (content : Content),
      state.noted opener (tag content) = state)
    (opens : state.kind? grammar.order = some .block)
    (entered : openTag (tag ⟨node, grammar.levelsBelow depth⟩).keyword state = .ok opener opened)
    (read : expressionTag grammar calls depth opened = .ok node after) :
    Step grammar state (.tag opener (tag ⟨node, grammar.levelsBelow depth⟩) after.cursor.position)
      after := by
  obtain ⟨finish, behind, reads, closes, rfl⟩ := expressionTag_eq_ok.1 read
  have reading := (Region.Reads.of_rules (opened.tagRegion grammar) calls).1 reads
  have content : (tag ⟨node, grammar.levelsBelow depth⟩).Holds (opened.tagRegion grammar)
      opened.cursor finish := holds reading
  have step := Step.tag opens entered content closes
  rwa [quiet] at step

/-- A tag that opens an alternative, as the rules read it. -/
theorem Step.of_patternTag
    {grammar : Grammar}
    {calls : Nat}
    {state opened after : State}
    {opener : Position}
    {pattern : Pattern}
    (opens : state.kind? grammar.order = some .block)
    (entered : openTag (Tag.alternative pattern).keyword state = .ok opener opened)
    (read : patternTag grammar calls opened = .ok pattern after) :
    Step grammar state (.tag opener (.alternative pattern) after.cursor.position) after := by
  obtain ⟨finish, behind, matched, closes, rfl⟩ := patternTag_eq_ok.1 read
  exact .tag opens entered (.alternative (.of_pattern matched)) closes

/-- The tag of a loop, as the rules read it. -/
theorem Step.of_loopTag
    {grammar : Grammar}
    {calls fewer : Nat}
    {state opened after : State}
    {opener : Position}
    {item : Identifier}
    {source : Variable}
    {word : Token}
    {middle inner finish : Cursor}
    (opens : state.kind? grammar.order = some .block)
    (entered : openTag (Tag.loop item source).keyword state = .ok opener opened)
    (named : (opened.tagRegion grammar).identifier (fewer + 1) opened.cursor = .ok (item, middle))
    (joined : (opened.tagRegion grammar).keyword (Text.of "in") middle = .ok (word, inner))
    (iterated : (opened.tagRegion grammar).path calls inner = .ok (source, finish))
    (closed : closeTag grammar { opened with cursor := finish } = .ok () after) :
    Step grammar state (.tag opener (.loop item source) after.cursor.position) after := by
  obtain ⟨behind, closes, rfl⟩ := closeTag_eq_ok.1 closed
  have holds : (Tag.loop item source).Holds (opened.tagRegion grammar) opened.cursor finish :=
    .loop named joined (.of_path iterated)
  exact (Step.tag opens entered holds closes :)

/-- The tag of a binding, as the rules read it. -/
theorem Step.of_bindingTag
    {grammar : Grammar}
    {calls fewer depth : Nat}
    {state opened after : State}
    {opener : Position}
    {name : Identifier}
    {bound : Node}
    {middle inner : Cursor}
    (opens : state.kind? grammar.order = some .block)
    (entered : openTag (Tag.binding name ⟨bound, grammar.levelsBelow depth⟩).keyword state =
      .ok opener opened)
    (named : (opened.tagRegion grammar).identifier (fewer + 1) opened.cursor = .ok (name, middle))
    (signed : bindingSign name.name middle = .ok ((), inner))
    (read : expressionTag grammar calls depth { opened with cursor := inner } = .ok bound after) :
    Step grammar state
      (.tag opener (.binding name ⟨bound, grammar.levelsBelow depth⟩) after.cursor.position)
      after := by
  obtain ⟨finish, behind, reads, closes, rfl⟩ := expressionTag_eq_ok.1 read
  have reading := (Region.Reads.of_rules (opened.tagRegion grammar) calls).1 reads
  have holds : (Tag.binding name ⟨bound, grammar.levelsBelow depth⟩).Holds
      (opened.tagRegion grammar) opened.cursor finish := .binding named signed reading
  exact (Step.tag opens entered holds closes :)

/-- An inserted expression, as the rules read it. -/
theorem Step.of_insertion
    {grammar : Grammar}
    {calls depth : Nat}
    {state after : State}
    {node : Node}
    (opens : state.kind? grammar.order = some .inline)
    (read : Document.insertion grammar depth calls state = .ok node after) :
    Step grammar state (.insertion ⟨node, grammar.levelsBelow depth⟩) after := by
  cases calls with
  | zero => simp [Document.insertion] at read
  | succ calls =>
    obtain ⟨finish, behind, reads, closes, rfl⟩ := insertion_eq_ok.1 read
    exact .insertion opens ((Region.Reads.of_rules _ calls).1 reads) closes

/-- A pragma, as the rules read it. -/
theorem Step.of_pragma
    {grammar : Grammar}
    {calls : Nat}
    {state after : State}
    (opens : state.kind? grammar.order = some .pragma)
    (switched : Document.pragma grammar calls state = .ok () after) :
    Step grammar state .pragma after := by
  cases calls with
  | zero => simp [Document.pragma] at switched
  | succ calls =>
    obtain ⟨changes, finish, behind, delimiters, listed, closes, changed, rfl⟩ :=
      pragma_eq_ok.1 switched
    exact .pragma opens (.of_pragmaChanges listed) closes changed

/-- A tag that ends a block, as the rules read it. -/
theorem Step.of_expectTerminator
    {grammar : Grammar}
    (word : Marker)
    {construct : Construct}
    {opener : Position}
    {state after : State}
    (success : expectTerminator grammar word.keyword construct opener state = .ok () after) :
    ∃ last finish, Step grammar state (.tag last (.marker word) finish) after := by
  obtain ⟨opens, last, opened, behind, entered, closes, rfl⟩ := expectTerminator_eq_ok.1 success
  have step : Step grammar state (.tag last (.marker word) behind.position) _ :=
    .tag opens entered .marker closes
  exact ⟨last, behind.position, step⟩

section Blocks

variable
  {grammar : Grammar}
  {calls depth : Nat}
  {body : Rule Node}
  {otherwise : Rule (Option Node)}
  (ofBody : ∀ {state after : State} {node : Node}, body state = .ok node after →
    Explained grammar (.document state.cursor.position node) (grammar.levelsBelow depth)
      state after)
  (ofOtherwise : ∀ {state after : State} {default : Option Node},
    otherwise state = .ok default after →
      Explained grammar (.otherwise default) (grammar.levelsBelow depth) state after)

include ofBody in
theorem Explained.of_furtherBranches
    {turns : Nat}
    {state after : State}
    {branches : List (Node × Node)}
    (success : furtherBranches grammar (expressionTag grammar calls depth) body turns state =
      .ok branches after) :
    Explained grammar (.branches branches) (grammar.levelsBelow depth) state after := by
  induction turns generalizing state branches with
  | zero => simp [furtherBranches] at success
  | succ turns hypothesis =>
    simp only [furtherBranches, Rule.get_bind] at success
    by_cases atTag : state.isAtTag grammar.order (Text.of "elif") = true
    · simp only [atTag, if_true, Rule.bind_eq_ok, Rule.pure_eq_ok] at success
      obtain ⟨opener, opened, entered, test, second, read, result, third, bodyRead, others, last,
        rest, rfl, rfl⟩ := success
      have step := Step.of_expressionTag .further .further (fun _ _ _ => rfl)
        (State.isAtTag_iff.1 atTag).1 entered read
      exact .branch step (Content.fits test _) (ofBody bodyRead) (hypothesis rest)
    · simp only [atTag, Bool.false_eq_true, if_false, Rule.pure_eq_ok] at success
      obtain ⟨rfl, rfl⟩ := success
      exact .nothing .noBranch

include ofBody in
theorem Explained.of_alternatives
    {turns : Nat}
    {state after : State}
    {cases : List (Pattern × Node)}
    (success : alternatives grammar (patternTag grammar calls) body turns state =
      .ok cases after) :
    Explained grammar (.alternatives cases) (grammar.levelsBelow depth) state after := by
  induction turns generalizing state cases with
  | zero => simp [alternatives] at success
  | succ turns hypothesis =>
    simp only [alternatives, Rule.get_bind] at success
    by_cases atTag : state.isAtTag grammar.order (Text.of "when") = true
    · simp only [atTag, if_true, Rule.bind_eq_ok, Rule.pure_eq_ok] at success
      obtain ⟨opener, opened, entered, pattern, second, read, result, third, bodyRead, others,
        last, rest, rfl, rfl⟩ := success
      have step := Step.of_patternTag (State.isAtTag_iff.1 atTag).1 entered read
      exact .alternative step (ofBody bodyRead) (hypothesis rest)
    · simp only [atTag, Bool.false_eq_true, if_false, Rule.pure_eq_ok] at success
      obtain ⟨rfl, rfl⟩ := success
      exact .nothing .noAlternative

/-- What is passed before the alternatives of a selection is blank. -/
theorem Steps.of_skipToAlternatives
    {turns : Nat}
    {state after : State}
    (success : skipToAlternatives grammar turns state = .ok () after) :
    ∃ gap, Steps grammar state gap after ∧ (∀ segment ∈ gap, segment.isTag = false) ∧
      gap.all Segment.isBlank = true := by
  induction turns generalizing state with
  | zero => simp [skipToAlternatives] at success
  | succ turns hypothesis =>
    simp only [skipToAlternatives, Rule.get_bind] at success
    cases atEnd : state.cursor.isAtEnd with
    | true =>
      simp only [atEnd, if_true, Rule.pure_eq_ok] at success
      obtain ⟨_, rfl⟩ := success
      exact ⟨[], .nil, by simp, rfl⟩
    | false =>
      simp only [atEnd, Bool.false_eq_true, if_false] at success
      cases opens : state.kind? grammar.order with
      | none =>
        simp only [opens] at success
        by_cases blank : (state.textRun grammar.order).1.isBlank = true
        · simp only [blank, if_true, Rule.move_bind] at success
          obtain ⟨gap, steps, noTag, allBlank⟩ := hypothesis success
          refine ⟨_, .cons (.text atEnd opens) steps, ?_, ?_⟩
          · simpa [Segment.isTag] using noTag
          · simpa [Segment.isBlank, blank] using allBlank
        · simp [blank] at success
      | some kind =>
        simp only [opens] at success
        cases kind with
        | comment =>
          simp only [Rule.bind_eq_ok] at success
          obtain ⟨_, middle, skipped, success⟩ := success
          obtain ⟨gap, steps, noTag, allBlank⟩ := hypothesis success
          refine ⟨_, .cons (.comment opens skipped) steps, ?_, ?_⟩
          · simpa [Segment.isTag] using noTag
          · simpa [Segment.isBlank] using allBlank
        | inline | block | pragma =>
          simp only [Rule.pure_eq_ok] at success
          obtain ⟨_, rfl⟩ := success
          exact ⟨[], .nil, by simp, rfl⟩

include ofBody ofOtherwise in
theorem Explained.of_conditional
    {state after : State}
    {node : Node}
    (opens : state.kind? grammar.order = some .block)
    (success : conditional grammar (expressionTag grammar calls depth) body otherwise state =
      .ok node after) :
    Explained grammar (.item [.part node]) (grammar.levelsBelow depth) state after := by
  simp only [conditional, Rule.bind_eq_ok, Rule.pure_eq_ok] at success
  obtain ⟨opener, opened, entered, test, second, read, result, third, bodyRead, others, fourth,
    branchesRead, default, fifth, defaultRead, _, sixth, ended, rfl, rfl⟩ := success
  have step := Step.of_expressionTag .condition .condition (fun _ _ _ => rfl) opens entered read
  obtain ⟨last, finish, lastStep⟩ := Step.of_expectTerminator .endConditional ended
  exact .conditionalItem step (Content.fits test _) (ofBody bodyRead)
    (Explained.of_furtherBranches ofBody branchesRead) (ofOtherwise defaultRead) lastStep

include ofBody ofOtherwise in
theorem Explained.of_selection
    {state after : State}
    {node : Node}
    (opens : state.kind? grammar.order = some .block)
    (success : selection grammar (expressionTag grammar calls depth) (patternTag grammar calls)
      body otherwise state = .ok node after) :
    Explained grammar (.item [.part node]) (grammar.levelsBelow depth) state after := by
  simp only [selection, Rule.bind_eq_ok, Rule.pure_eq_ok] at success
  obtain ⟨opener, opened, entered, subject, second, read, _, third, skipped, cases, fourth,
    casesRead, default, fifth, defaultRead, _, sixth, ended, rfl, rfl⟩ := success
  have step := Step.of_expressionTag .scrutinee .scrutinee (fun _ _ _ => rfl) opens entered read
  obtain ⟨gap, gapSteps, noTag, blank⟩ := Steps.of_skipToAlternatives skipped
  obtain ⟨last, finish, lastStep⟩ := Step.of_expectTerminator .endSelection ended
  exact .selectionItem step (Content.fits subject _) gapSteps noTag blank
    (Explained.of_alternatives ofBody casesRead) (ofOtherwise defaultRead) lastStep

include ofBody ofOtherwise in
theorem Explained.of_loop
    {state after : State}
    {node : Node}
    (opens : state.kind? grammar.order = some .block)
    (success : loop grammar calls body otherwise state = .ok node after) :
    Explained grammar (.item [.part node]) (grammar.levelsBelow depth) state after := by
  simp only [loop, Rule.bind_eq_ok, Rule.get_bind, Rule.reading_eq_ok,
    Rule.pure_eq_ok] at success
  obtain ⟨opener, opened, entered, item, _, ⟨middle, named, rfl⟩, word, _,
    ⟨inner, joined, rfl⟩, source, _, ⟨finish, iterated, rfl⟩, _, second, closed, result, third,
    bodyRead, default, fourth, defaultRead, _, fifth, ended, rfl, rfl⟩ := success
  cases calls with
  | zero => simp [Region.identifier] at named
  | succ calls =>
    have step := Step.of_loopTag opens entered named joined iterated closed
    obtain ⟨last, finish, lastStep⟩ := Step.of_expectTerminator .endLoop ended
    exact .loopItem step (ofBody bodyRead) (ofOtherwise defaultRead) lastStep

include ofBody in
theorem Explained.of_binding
    {state after : State}
    {node : Node}
    (opens : state.kind? grammar.order = some .block)
    (success : binding grammar calls (expressionTag grammar calls depth) body state =
      .ok node after) :
    Explained grammar (.item [.part node]) (grammar.levelsBelow depth) state after := by
  simp only [binding, Rule.bind_eq_ok, Rule.get_bind, Rule.reading_eq_ok,
    Rule.pure_eq_ok] at success
  obtain ⟨opener, opened, entered, name, _, ⟨middle, named, rfl⟩, _, _, ⟨inner, signed, rfl⟩,
    bound, second, read, result, third, bodyRead, _, fourth, ended, rfl, rfl⟩ := success
  cases calls with
  | zero => simp [Region.identifier] at named
  | succ calls =>
    have step := Step.of_bindingTag opens entered named signed read
    obtain ⟨last, finish, lastStep⟩ := Step.of_expectTerminator .endBinding ended
    exact .bindingItem step (Content.fits bound _) (ofBody bodyRead) lastStep

theorem Explained.of_inclusion
    {state after : State}
    {node : Node}
    (opens : state.kind? grammar.order = some .block)
    (success : inclusion grammar (expressionTag grammar calls depth) state = .ok node after) :
    Explained grammar (.item [.part node]) (grammar.levelsBelow depth) state after := by
  simp only [inclusion, Rule.bind_eq_ok, Rule.get_bind, Rule.reading_eq_ok,
    register_bind] at success
  obtain ⟨opener, opened, entered, key, _, ⟨middle, keyed, rfl⟩, follows, _,
    ⟨inner, looked, rfl⟩, success⟩ := success
  cases follows with
  | true =>
    simp only [if_true, Rule.bind_eq_ok, expressionTag_eq_ok, Rule.pure_eq_ok] at success
    obtain ⟨value, _, ⟨finish, behind, reads, closes, rfl⟩, rfl, rfl⟩ := success
    have reading := (Region.Reads.of_rules (opened.tagRegion grammar) calls).1 reads
    have step : Step grammar state
        (.tag opener (.inclusion key (some ⟨value, grammar.levelsBelow depth⟩)) behind.position)
        { opened.noted opener (.inclusion key none) with cursor := behind } :=
      .tag opens entered (.inclusionWith keyed looked reading) closes
    have fits : ∀ content ∈ some (⟨value, grammar.levelsBelow depth⟩ : Content),
        content.levels ≤ grammar.levelsBelow depth := by simp
    exact .single step (.inclusion fits) rfl
  | false =>
    simp only [Bool.false_eq_true, if_false, Rule.bind_eq_ok, Rule.pure_eq_ok] at success
    obtain ⟨_, _, closed, rfl, rfl⟩ := success
    obtain ⟨behind, closes, rfl⟩ := closeTag_eq_ok.1 closed
    have step : Step grammar state (.tag opener (.inclusion key none) behind.position)
        { opened.noted opener (.inclusion key none) with cursor := behind } :=
      .tag opens entered (.inclusion keyed looked) closes
    have fits : ∀ content ∈ (none : Option Content),
        content.levels ≤ grammar.levelsBelow depth := by simp
    exact .single step (.inclusion fits) rfl

end Blocks

/-! ## Documents -/

/-- The parts of a document are those of its items, added to the ones before. -/
theorem Explained.of_collectParts
    {grammar : Grammar}
    {calls depth : Nat}
    (ofBlock : ∀ {construct : Construct} {state after : State} {node : Node},
      state.kind? grammar.order = some .block →
        block grammar calls depth construct state = .ok node after →
          Explained grammar (.item [.part node]) (grammar.levelsBelow depth) state after)
    {turns : Nat}
    {parts result : List Node}
    {state after : State}
    (success : collectParts grammar (insertion grammar depth calls) (pragma grammar calls)
      (fun construct => block grammar calls depth construct) turns parts state =
        .ok result after) :
    ∃ pieces, Explained grammar (.items pieces) (grammar.levelsBelow depth) state after ∧
      result = (pieces.foldl Piece.added parts).reverse := by
  induction turns generalizing parts state with
  | zero => simp [collectParts] at success
  | succ turns hypothesis =>
    have ended : result = parts.reverse → state = after →
        ∃ pieces, Explained grammar (.items pieces) (grammar.levelsBelow depth) state after ∧
          result = (pieces.foldl Piece.added parts).reverse := by
      rintro rfl rfl
      exact ⟨[], .nothing .nothing, rfl⟩
    have continued {pieces : List Piece} {middle : State}
        (item : Explained grammar (.item pieces) (grammar.levelsBelow depth) state middle)
        (rest : collectParts grammar (insertion grammar depth calls) (pragma grammar calls)
          (fun construct => block grammar calls depth construct) turns
          (pieces.foldl Piece.added parts) middle = .ok result after) :
        ∃ pieces, Explained grammar (.items pieces) (grammar.levelsBelow depth) state after ∧
          result = (pieces.foldl Piece.added parts).reverse := by
      obtain ⟨others, items, joined⟩ := hypothesis rest
      refine ⟨pieces ++ others, item.next items, ?_⟩
      rw [joined, List.foldl_append]
    simp only [collectParts, Rule.get_bind] at success
    cases atEnd : state.cursor.isAtEnd with
    | true =>
      simp only [atEnd, if_true, Rule.pure_eq_ok] at success
      exact ended success.1.symm success.2
    | false =>
      simp only [atEnd, Bool.false_eq_true, if_false] at success
      cases opens : state.kind? grammar.order with
      | none =>
        simp only [opens, Rule.move_bind] at success
        exact continued (.single (.text atEnd opens) .text rfl) success
      | some kind =>
        simp only [opens] at success
        cases kind with
        | inline =>
          simp only [Rule.bind_eq_ok] at success
          obtain ⟨node, middle, read, success⟩ := success
          have step := Step.of_insertion opens read
          exact continued (.single step (.insertion (Content.fits node _)) rfl) success
        | comment =>
          simp only [Rule.bind_eq_ok] at success
          obtain ⟨_, middle, skipped, success⟩ := success
          have step : Step grammar state .comment middle := .comment opens skipped
          exact continued (.single step .comment rfl) success
        | pragma =>
          simp only [Rule.bind_eq_ok] at success
          obtain ⟨_, middle, switched, success⟩ := success
          exact continued (.single (.of_pragma opens switched) .pragma rfl) success
        | block =>
          cases seen : state.tagKeyword? with
          | none => simp [seen] at success
          | some keyword =>
            simp only [seen] at success
            cases opened : Construct.ofKeyword? keyword with
            | some construct =>
              simp only [opened, Rule.bind_eq_ok] at success
              obtain ⟨node, middle, read, success⟩ := success
              exact continued (ofBlock opens read) success
            | none =>
              simp only [opened] at success
              by_cases terminates : terminators.contains keyword = true
              · simp only [terminates, if_true, Rule.pure_eq_ok] at success
                exact ended success.1.symm success.2
              · simp only [terminates, Bool.false_eq_true, if_false, Rule.fail_ne_ok] at success

/-- Successes of the rules are derivations, with the levels that are left below
the depth at which the rules are run. -/
theorem Explained.of_rules
    (grammar : Grammar)
    (calls : Nat) :
    (∀ {depth state after node}, document grammar calls depth state = .ok node after →
      Explained grammar (.document state.cursor.position node) (grammar.levelsBelow depth)
        state after) ∧
    (∀ {depth state after collected}, parts grammar calls depth state = .ok collected after →
      ∃ pieces, Explained grammar (.items pieces) (grammar.levelsBelow depth) state after ∧
        collected = Piece.joined pieces) ∧
    (∀ {depth construct state after node}, state.kind? grammar.order = some .block →
      block grammar calls depth construct state = .ok node after →
        Explained grammar (.item [.part node]) (grammar.levelsBelow depth) state after) ∧
    (∀ {depth state after default}, otherwise grammar calls depth state = .ok default after →
      Explained grammar (.otherwise default) (grammar.levelsBelow depth) state after) := by
  induction calls with
  | zero => simp [document, parts, block, otherwise]
  | succ calls hypothesis =>
    obtain ⟨ofDocument, ofParts, ofBlock, ofOtherwise⟩ := hypothesis
    refine ⟨?_, ?_, ?_, ?_⟩
    · intro depth state after node success
      simp only [document, Rule.get_bind] at success
      cases nested : Reading.nest grammar depth state.cursor.position with
      | error halt => simp [nested] at success
      | ok deeper =>
        simp only [nested, Rule.bind_eq_ok, Rule.pure_eq_ok] at success
        obtain ⟨collected, _, read, rfl, rfl⟩ := success
        obtain ⟨allowed, rfl⟩ := Reading.nest_eq_ok.1 nested
        obtain ⟨pieces, items, rfl⟩ := ofParts read
        rw [Grammar.levelsBelow_succ allowed]
        exact items.wholeDocument
    · intro depth state after collected success
      rw [parts] at success
      exact Explained.of_collectParts ofBlock success
    · intro depth construct state after node opens success
      cases construct with
      | conditional =>
        rw [block] at success
        exact Explained.of_conditional ofDocument ofOtherwise opens success
      | selection =>
        rw [block] at success
        exact Explained.of_selection ofDocument ofOtherwise opens success
      | loop =>
        rw [block] at success
        exact Explained.of_loop ofDocument ofOtherwise opens success
      | binding =>
        rw [block] at success
        exact Explained.of_binding ofDocument opens success
      | inclusion =>
        rw [block] at success
        exact Explained.of_inclusion opens success
    · intro depth state after default success
      simp only [otherwise, Rule.get_bind] at success
      by_cases atTag : state.isAtTag grammar.order (Text.of "else") = true
      · simp only [atTag, if_true, Rule.bind_eq_ok, Rule.pure_eq_ok] at success
        obtain ⟨opener, opened, entered, _, _, closed, body, _, bodyRead, rfl, rfl⟩ := success
        obtain ⟨behind, closes, rfl⟩ := closeTag_eq_ok.1 closed
        have step : Step grammar state (.tag opener (.marker .otherwise) behind.position)
            { opened with cursor := behind } :=
          .tag (State.isAtTag_iff.1 atTag).1 entered .marker closes
        exact .default step (ofDocument bodyRead)
      · simp only [atTag, Bool.false_eq_true, if_false, Rule.pure_eq_ok] at success
        obtain ⟨rfl, rfl⟩ := success
        exact .nothing .noDefault

end Document

end Stencil
