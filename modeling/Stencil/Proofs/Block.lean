import Stencil.Proofs.Segment

/-!
# When the rules for blocks succeed

Each rule that reads a whole tag, a region or the frame of a block is taken apart
here, in the same way as the rules for expressions: an equivalence says which of
its parts succeed and which state is left behind.  The rules for nested bodies
stay parameters, as they are in the rules themselves.
-/

namespace Stencil

namespace Document

theorem State.isAtTag_iff
    {state : State}
    {order : List Kind}
    {keyword : Text} :
    state.isAtTag order keyword = true ↔
      state.kind? order = some .block ∧ state.tagKeyword? = some keyword := by
  simp [State.isAtTag]

/-- A tag whose word opens a construct is a tag of that construct. -/
theorem State.isAtTag_of_ofKeyword?
    {state : State}
    {order : List Kind}
    {keyword : Text}
    {construct : Construct}
    (opens : state.kind? order = some .block)
    (seen : state.tagKeyword? = some keyword)
    (known : Construct.ofKeyword? keyword = some construct) :
    state.isAtTag order construct.keyword = true := by
  have sameWord : construct.keyword = keyword := by
    simpa using List.find?_some known
  exact State.isAtTag_iff.2 ⟨opens, sameWord ▸ seen⟩

theorem closeTag_eq_ok
    {grammar : Grammar}
    {state after : State} :
    closeTag grammar state = .ok () after ↔
      ∃ behind, (state.tagRegion grammar).close state.cursor = .ok ((), behind) ∧
        after = { state with cursor := behind } := by
  simp only [closeTag, Rule.get_bind, Rule.reading_eq_ok]

/-- A tag whose content is read by a rule on cursors. -/
theorem contentTag_eq_ok
    {grammar : Grammar}
    (rule : Region → Cursor → Except Halt (α × Cursor))
    {state after : State}
    {value : α} :
    (do
      let state ← get
      let value ← Rule.reading (rule (state.tagRegion grammar))
      closeTag grammar
      return value : Rule α) state = .ok value after ↔
      ∃ finish behind, rule (state.tagRegion grammar) state.cursor = .ok (value, finish) ∧
        (state.tagRegion grammar).close finish = .ok ((), behind) ∧
        after = { state with cursor := behind } := by
  simp only [Rule.get_bind, Rule.bind_eq_ok, Rule.reading_eq_ok, Rule.pure_eq_ok]
  constructor
  · rintro ⟨_, _, ⟨finish, read, rfl⟩, _, _, closed, rfl, rfl⟩
    obtain ⟨behind, closes, rfl⟩ := closeTag_eq_ok.1 closed
    exact ⟨finish, behind, read, closes, rfl⟩
  · rintro ⟨finish, behind, read, closes, rfl⟩
    exact ⟨value, _, ⟨finish, read, rfl⟩, (), _, closeTag_eq_ok.2 ⟨behind, closes, rfl⟩, rfl, rfl⟩

theorem expressionTag_eq_ok
    {grammar : Grammar}
    {calls depth : Nat}
    {state after : State}
    {node : Node} :
    expressionTag grammar calls depth state = .ok node after ↔
      ∃ finish behind,
        (state.tagRegion grammar).expression calls depth 1 state.cursor = .ok (node, finish) ∧
        (state.tagRegion grammar).close finish = .ok ((), behind) ∧
        after = { state with cursor := behind } :=
  contentTag_eq_ok (fun region => region.expression calls depth 1)

theorem patternTag_eq_ok
    {grammar : Grammar}
    {calls : Nat}
    {state after : State}
    {pattern : Pattern} :
    patternTag grammar calls state = .ok pattern after ↔
      ∃ finish behind,
        (state.tagRegion grammar).pattern calls state.cursor = .ok (pattern, finish) ∧
        (state.tagRegion grammar).close finish = .ok ((), behind) ∧
        after = { state with cursor := behind } :=
  contentTag_eq_ok (fun region => region.pattern calls)

@[simp] theorem register_bind
    (key : Text)
    (position : Position)
    (next : Unit → Rule α)
    (state : State) :
    (register key position >>= next) state = next () { state with
      includes := state.includes.register key position
      journal := .registered key position :: state.journal } :=
  rfl

theorem expectTerminator_eq_ok
    {grammar : Grammar}
    {terminator : Text}
    {construct : Construct}
    {opener : Position}
    {state after : State} :
    expectTerminator grammar terminator construct opener state = .ok () after ↔
      state.kind? grammar.order = some .block ∧
        ∃ position opened behind, openTag terminator state = .ok position opened ∧
          (opened.tagRegion grammar).close opened.cursor = .ok ((), behind) ∧
          after = { opened with cursor := behind } := by
  simp only [expectTerminator, Rule.get_bind]
  constructor
  · intro success
    by_cases atTag : state.isAtTag grammar.order terminator = true
    · simp only [atTag, if_true, Rule.bind_eq_ok, closeTag_eq_ok] at success
      obtain ⟨position, opened, entered, behind, closes, rfl⟩ := success
      exact ⟨(State.isAtTag_iff.1 atTag).1, position, opened, behind, entered, closes, rfl⟩
    · simp [atTag] at success
  · rintro ⟨opens, position, opened, behind, entered, closes, rfl⟩
    have atTag : state.isAtTag grammar.order terminator = true :=
      State.isAtTag_iff.2 ⟨opens, tagKeyword?_of_openTag entered⟩
    simp only [atTag, if_true, Rule.bind_eq_ok, closeTag_eq_ok]
    exact ⟨position, opened, entered, behind, closes, rfl⟩

theorem insertion_eq_ok
    {grammar : Grammar}
    {calls depth : Nat}
    {state after : State}
    {node : Node} :
    insertion grammar depth (calls + 1) state = .ok node after ↔
      ∃ finish behind,
        Region.expression ⟨grammar, state.delimiters.inline.closing⟩ calls depth 1
          (state.cursor.forward state.delimiters.inline.opening.length) = .ok (node, finish) ∧
        Region.close ⟨grammar, state.delimiters.inline.closing⟩ finish = .ok ((), behind) ∧
        after = { state with cursor := behind } := by
  simp only [insertion, Rule.get_bind, Rule.move_bind, Rule.bind_eq_ok, Rule.reading_eq_ok,
    Rule.pure_eq_ok]
  constructor
  · rintro ⟨_, _, ⟨finish, read, rfl⟩, _, _, ⟨behind, closes, rfl⟩, rfl, rfl⟩
    exact ⟨finish, behind, read, closes, rfl⟩
  · rintro ⟨finish, behind, read, closes, rfl⟩
    exact ⟨node, _, ⟨finish, read, rfl⟩, (), _, ⟨behind, closes, rfl⟩, rfl, rfl⟩

/-! ## Pragmas -/

theorem Changes.of_pragmaChanges
    {region : Region}
    {turns : Nat}
    {changes result : List (Kind × Value)}
    {cursor finish : Cursor}
    (success : pragmaChanges region turns changes cursor = .ok (result, finish)) :
    Changes region changes cursor result finish := by
  induction turns generalizing changes cursor with
  | zero => simp [pragmaChanges] at success
  | succ turns hypothesis =>
    simp only [pragmaChanges, Reading.bind_eq_ok, Prod.exists] at success
    obtain ⟨kind, value, middle, field, success⟩ := success
    split at success
    · rename_i done
      simp only [Reading.pure_eq_ok, Prod.mk.injEq] at success
      obtain ⟨rfl, rfl⟩ := success
      exact .last field done
    · rename_i notDone
      simp only [Reading.bind_eq_ok, Prod.exists] at success
      obtain ⟨comma, behind, separated, success⟩ := success
      exact .more field (by simpa using notDone) separated (hypothesis success)

theorem Changes.pragmaChanges_eq_ok
    {region : Region}
    {changes result : List (Kind × Value)}
    {cursor finish : Cursor}
    (listed : Changes region changes cursor result finish)
    (turns : Nat)
    (enough : cursor.rest.length < turns) :
    pragmaChanges region turns changes cursor = .ok (result, finish) := by
  induction listed generalizing turns with
  | last field done =>
    obtain ⟨turns, rfl⟩ : ∃ fewer, turns = fewer + 1 := ⟨turns - 1, by omega⟩
    simp [pragmaChanges, field, done]
  | more field notDone separated rest hypothesis =>
    obtain ⟨turns, rfl⟩ : ∃ fewer, turns = fewer + 1 := ⟨turns - 1, by omega⟩
    have shorter := (pragmaField_passes field).trans
      (expect_passes separated Token.Kind.noConfusion)
    have restReads := hypothesis turns (by have := shorter.2; omega)
    simp [pragmaChanges, field, notDone, separated, restReads]

theorem pragma_eq_ok
    {grammar : Grammar}
    {calls : Nat}
    {state after : State} :
    pragma grammar (calls + 1) state = .ok () after ↔
      ∃ changes finish behind delimiters,
        pragmaChanges ⟨grammar, state.delimiters.pragma.closing⟩ grammar.turns []
          (state.cursor.forward state.delimiters.pragma.opening.length) =
            .ok (changes, finish) ∧
        Region.close ⟨grammar, state.delimiters.pragma.closing⟩ finish = .ok ((), behind) ∧
        state.delimiters.change changes = .ok delimiters ∧
        after = { state with
          cursor := behind
          delimiters := delimiters
          journal := .switched state.cursor.position changes ::
            (delimiters.warnings.reverse ++ state.journal) } := by
  simp only [pragma, Rule.get_bind, Rule.move_bind, Rule.bind_eq_ok, Rule.reading_eq_ok]
  constructor
  · rintro ⟨changes, _, ⟨finish, listed, rfl⟩, _, _, ⟨behind, closes, rfl⟩, success⟩
    cases changed : state.delimiters.change changes with
    | error fault => simp [changed] at success
    | ok delimiters =>
      rw [changed] at success
      obtain ⟨_, rfl⟩ := EStateM.Result.ok.inj success
      exact ⟨changes, finish, behind, delimiters, listed, closes, changed, rfl⟩
  · rintro ⟨changes, finish, behind, delimiters, listed, closes, changed, rfl⟩
    refine ⟨changes, _, ⟨finish, listed, rfl⟩, (), _, ⟨behind, closes, rfl⟩, ?_⟩
    rw [changed]
    rfl

end Document

end Stencil
