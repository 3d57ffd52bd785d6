import Stencil.Proofs.Concatenation.Parts
import Stencil.Proofs.Continuation.Segment

/-!
# Up to the boundary

When more text follows a source, the loop over the parts of a document reads the
items of the source as before and comes to the boundary, where the text that
follows begins.  A text at the end of the source is read together with the text
behind it in one turn; since text is joined to text before it, this is the same
as a turn on each side of the boundary.
-/

namespace Stencil

namespace Document

/-- Text behind text is one part, whether it is added at once or not. -/
theorem appendText_appendText
    (position behind : Position)
    (run more : Text)
    (parts : List Node) :
    appendText behind more (appendText position run parts) =
      appendText position (run ++ more) parts := by
  cases parts with
  | nil => rfl
  | cons part parts => cases part <;> simp [appendText]

/-- Where text is read, no region opens. -/
theorem State.kind?_eq_none_of_textRun
    {state : State}
    {order : List Kind}
    (someText : (state.textRun order).1 ≠ []) :
    state.kind? order = none := by
  simp only [State.textRun, Cursor.readBefore] at someText
  cases unread : state.cursor.rest with
  | nil => simp [unread, Text.beforeAny] at someText
  | cons point rest =>
    rw [unread, Text.beforeAny] at someText
    split at someText
    · exact absurd rfl someText
    · rename_i absent
      simpa [State.kind?, Delimiters.openings, Cursor.startsWith, unread] using absent

/-- A turn of the loop with text. -/
theorem collect_text
    {grammar : Grammar}
    {state : State}
    (unread : state.cursor.isAtEnd = false)
    (noRegion : state.kind? grammar.order = none)
    (calls depth turns : Nat)
    (parts : List Node) :
    collect grammar calls depth (turns + 1) parts state =
      collect grammar calls depth turns
        (appendText state.cursor.position (state.textRun grammar.order).1 parts)
        { state with cursor := (state.textRun grammar.order).2 } := by
  simp only [collect, collectParts, Rule.get_bind, unread, Bool.false_eq_true, if_false, noRegion,
    Rule.move_bind]

/-- Some turns of the loop over the parts of a document: it comes to a later state,
adds some pieces and registers some include tags. -/
structure Collects
    (grammar : Grammar)
    (calls depth count : Nat)
    (pieces : List Piece)
    (tags : List (Text × Position))
    (state after : State) : Prop where
  /-- The cursor is moved forward. -/
  reaches : state.cursor.Reaches after.cursor
  /-- Every turn reads a code point. -/
  fits : count + after.cursor.rest.length ≤ state.cursor.rest.length
  /-- The tags are registered. -/
  includes : after.includes = state.includes.registerAll tags
  /-- The loop goes on in the later state, with turns to spare if the last one reads
  more than the pieces. -/
  goesOn : ∃ extra, ∀ turns parts,
    collect grammar calls depth (turns + count) parts state =
      collect grammar calls depth (turns + extra) (pieces.foldl Piece.added parts) after

theorem Collects.nothing
    (grammar : Grammar)
    (calls depth : Nat)
    (state : State) :
    Collects grammar calls depth 0 [] [] state state where
  reaches := .refl _
  fits := Nat.le_of_eq (Nat.zero_add _)
  includes := rfl
  goesOn := ⟨0, fun _ _ => rfl⟩

theorem Collects.trans
    {grammar : Grammar}
    {calls depth first second : Nat}
    {pieces others : List Piece}
    {tags further : List (Text × Position)}
    {state middle after : State}
    (near : Collects grammar calls depth first pieces tags state middle)
    (far : Collects grammar calls depth second others further middle after) :
    Collects grammar calls depth (first + second) (pieces ++ others) (tags ++ further) state
      after where
  reaches := near.reaches.trans far.reaches
  fits := by
    have nearFits := near.fits
    have farFits := far.fits
    omega
  includes := by
    rw [far.includes, near.includes, Includes.registerAll, Includes.registerAll,
      Includes.registerAll, List.foldl_append]
  goesOn := by
    obtain ⟨nearExtra, nearGoesOn⟩ := near.goesOn
    obtain ⟨farExtra, farGoesOn⟩ := far.goesOn
    refine ⟨nearExtra + farExtra, fun turns parts => ?_⟩
    have sorted : turns + (first + second) = turns + second + first := by omega
    have swapped : turns + second + nearExtra = turns + nearExtra + second := by omega
    rw [sorted, nearGoesOn, swapped, farGoesOn, List.foldl_append, Nat.add_assoc]

/-- The items behind a state are collected. -/
theorem Derives.collects
    {grammar : Grammar}
    {levels : Nat}
    {pieces : List Piece}
    {segments : List Segment}
    {state after : State}
    (derives : Derives (.items pieces) levels segments)
    (steps : Steps grammar state segments after)
    (blank : gapsAreBlank segments = true)
    {calls depth : Nat}
    (allowed : (depth + levels : Int) ≤ grammar.limit)
    (enoughTurns : state.cursor.rest.length < grammar.turns)
    (enough : 4 * state.cursor.rest.length + 5 ≤ calls) :
    ∃ count, Collects grammar calls depth count pieces (inclusionTags segments) state after := by
  obtain ⟨count, fits, goesOn⟩ :=
    derives.succeeds steps blank calls depth allowed enoughTurns enough
  exact ⟨count, steps.reaches, fits, steps.includes_eq, 0, goesOn⟩

/-- What is collected up to the end of a body is a document. -/
theorem Collects.document_eq_ok
    {grammar : Grammar}
    {calls depth count : Nat}
    {pieces : List Piece}
    {tags : List (Text × Position)}
    {state after : State}
    (collects : Collects grammar calls (depth + 1) count pieces tags state after)
    (ends : after.Ends grammar)
    (allowed : (depth + 1 : Int) ≤ grammar.limit)
    (enoughTurns : state.cursor.rest.length < grammar.turns) :
    document grammar (calls + 2) depth state =
      .ok (Node.sequenced state.cursor.position (Piece.joined pieces)) after := by
  obtain ⟨extra, goesOn⟩ := collects.goesOn
  have fits := collects.fits
  obtain ⟨turns, total⟩ : ∃ turns, grammar.turns = turns + 1 + count :=
    ⟨grammar.turns - count - 1, by omega⟩
  have oneMore : turns + 1 + extra = turns + extra + 1 := by omega
  refine document_eq_ok_iff_collect.2 ⟨allowed, Piece.joined pieces, ?_, rfl⟩
  rw [total, goesOn, oneMore, ends.collect_eq_ok]
  rfl

/-- Text in which the source goes on at some place is read in one turn, or in one
turn before the place and one behind it. -/
theorem Collects.split_text
    (grammar : Grammar)
    {state : State}
    {run more : Text}
    (unread : state.cursor.isAtEnd = false)
    (noRegion : state.kind? grammar.order = none)
    (someText : run ≠ [])
    (isText : (state.textRun grammar.order).1 = run ++ more)
    (behind : (State.textRun { state with cursor := state.cursor.forward run.length }
      grammar.order).1 = more)
    (calls depth : Nat) :
    Collects grammar calls depth 1 [.text state.cursor.position run] [] state
      { state with cursor := state.cursor.forward run.length } where
  reaches := Cursor.reaches_forward _ _
  fits := by
    have notAtEnd : state.cursor.rest ≠ [] := by simpa [Cursor.isAtEnd] using unread
    have shorter := (Cursor.passes_forward (List.length_pos_iff.2 someText) notAtEnd).2
    rw [Nat.add_comm]
    exact shorter
  includes := rfl
  goesOn := by
    have reached : (state.textRun grammar.order).2 =
        (state.cursor.forward run.length).forward more.length := by
      rw [← Cursor.forward_add, ← List.length_append, ← isText]
      rfl
    cases more with
    | nil =>
      refine ⟨0, fun turns parts => ?_⟩
      rw [collect_text unread noRegion, reached, isText, List.append_nil]
      rfl
    | cons point more =>
      have someTextBehind := ne_of_eq_of_ne behind (List.cons_ne_nil point more)
      have noRegionBehind := State.kind?_eq_none_of_textRun someTextBehind
      have unreadBehind : (state.cursor.forward run.length).isAtEnd = false := by
        rw [Cursor.isAtEnd, List.isEmpty_eq_false_iff]
        intro atEnd
        rw [State.textRun, Cursor.readBefore, atEnd] at someTextBehind
        exact someTextBehind rfl
      have reachedBehind : (State.textRun
          { state with cursor := state.cursor.forward run.length } grammar.order).2 =
            (state.cursor.forward run.length).forward (point :: more).length := by
        rw [← behind]
        rfl
      refine ⟨1, fun turns parts => ?_⟩
      rw [List.foldl_cons, List.foldl_nil, Piece.added, collect_text unread noRegion,
        collect_text unreadBehind noRegionBehind, reached, isText, behind, reachedBehind,
        appendText_appendText]

/-- An item is a text, or its last segment is none. -/
theorem Derives.text_or_ends
    {pieces : List Piece}
    {levels : Nat}
    {segments : List Segment}
    (derives : Derives (.item pieces) levels segments) :
    (∃ position run, pieces = [.text position run] ∧ segments = [.text position run]) ∨
      ∀ front last, segments = front ++ [last] → last.kind? ≠ none := by
  cases derives with
  | text => exact .inl ⟨_, _, rfl, rfl⟩
  | _ =>
    refine .inr fun front last whole => ?_
    have sameLast := congrArg List.getLast? whole
    simp [List.getLast?_cons] at sameLast
    simp [← sameLast, Segment.kind?]

section

variable
  {grammar : Grammar}
  {levels : Nat}
  {state after target : State}
  {more : Text}

/-- A text at the end of a source goes on in the text behind it. -/
theorem State.Moves.collects_text
    (moves : state.Moves .stay more target)
    (apart : state.Apart grammar.order more)
    (unread : state.cursor.isAtEnd = false)
    (noRegion : state.kind? grammar.order = none)
    (atEnd : (state.textRun grammar.order).2.rest = [])
    (calls depth turns : Nat) :
    Collects (grammar.turning turns) calls depth 1
      [.text state.cursor.position (state.textRun grammar.order).1] [] target
      { target with
        cursor := target.cursor.forward (state.textRun grammar.order).1.length } := by
  have allRead : Text.beforeAny (state.delimiters.openings grammar.order) state.cursor.rest =
      state.cursor.rest := by
    have whole := Text.beforeAny_append_drop (state.delimiters.openings grammar.order)
      state.cursor.rest
    simp only [State.textRun, Cursor.readBefore, Cursor.rest_forward] at atEnd
    rwa [atEnd, List.append_nil] at whole
  have notAtEnd : state.cursor.rest ≠ [] := by simpa [Cursor.isAtEnd] using unread
  have unread' : target.cursor.isAtEnd = false := by
    simp [Cursor.isAtEnd, moves.cursor.rest, notAtEnd]
  have noRegion' : target.kind? grammar.order = none :=
    (moves.kind?_eq apart notAtEnd).trans noRegion
  have goesOn : (target.textRun grammar.order).1 = (state.textRun grammar.order).1 ++
      Text.beforeAny (state.delimiters.openings grammar.order) more := by
    simp only [State.textRun, Cursor.readBefore, moves.delimiters, moves.cursor.rest,
      Text.beforeAny_append apart.not_straddles, allRead, if_true]
  have behind : (State.textRun { target with
        cursor := target.cursor.forward (state.textRun grammar.order).1.length }
          grammar.order).1 =
      Text.beforeAny (state.delimiters.openings grammar.order) more := by
    simp only [State.textRun, Cursor.readBefore, moves.delimiters, allRead, Cursor.rest_forward,
      moves.cursor.rest, List.drop_left]
  have here : target.cursor.position = state.cursor.position := moves.cursor.here
  rw [← here]
  exact .split_text (grammar.turning turns) unread' noRegion'
    (State.textRun_ne_nil unread noRegion) goesOn behind calls depth

/-- An item is read when more text follows the source, up to the place where it
ended before. -/
theorem Derives.collects_item
    {pieces : List Piece}
    {segments : List Segment}
    (derives : Derives (.item pieces) levels segments)
    (steps : Steps grammar state segments after)
    (blank : gapsAreBlank segments = true)
    (moves : state.Moves .stay more target)
    (apart : ∀ {front : List Segment} {middle : State}, Steps grammar state front middle →
      middle.Apart grammar.order more)
    {calls depth turns : Nat}
    (allowed : (depth + levels : Int) ≤ grammar.limit)
    (enoughTurns : target.cursor.rest.length < turns)
    (enough : 4 * target.cursor.rest.length + 5 ≤ calls) :
    ∃ behind, after.Moves .stay more behind ∧
      Collects (grammar.turning turns) calls depth 1 pieces (inclusionTags segments) target
        behind := by
  have unlessTextGoesOn (ended : ∀ front last, segments = front ++ [last] → last.kind? = none →
      more = [] ∨ after.cursor.rest ≠ []) :
      ∃ behind, after.Moves .stay more behind ∧
        Collects (grammar.turning turns) calls depth 1 pieces (inclusionTags segments) target
          behind := by
    obtain ⟨behind, steps', onward⟩ := steps.moves moves apart ended turns
    rw [Segment.map_moved_stay] at steps'
    have passes := derives.passes_of_item steps'
    have succeeds := derives.succeeds steps' blank calls depth allowed enoughTurns enough
    exact ⟨behind, onward, passes.1, Nat.add_comm 1 _ ▸ passes.2, steps'.includes_eq, 0, succeeds⟩
  rcases derives.text_or_ends with ⟨position, run, rfl, rfl⟩ | endsOtherwise
  -- Only a text that ends with the source may be read further than before.
  · by_cases atEnd : after.cursor.rest = []
    · obtain ⟨middle, step, done⟩ := steps.of_cons
      cases done
      cases step with
      | text unread noRegion =>
        refine ⟨_, ⟨?_, ?_⟩,
          moves.collects_text (apart .nil) unread noRegion atEnd calls depth turns⟩
        · exact moves.cursor.forward (State.length_textRun_le _ _)
        · exact moves.delimiters
    · exact unlessTextGoesOn fun _ _ _ _ => .inr atEnd
  · exact unlessTextGoesOn fun front last whole isText =>
      absurd isText (endsOtherwise front last whole)

/-- The items of a source are read when more text follows it, up to the boundary. -/
theorem Derives.collects_items
    {pieces : List Piece}
    {segments : List Segment}
    (derives : Derives (.items pieces) levels segments)
    (steps : Steps grammar state segments after)
    (blank : gapsAreBlank segments = true)
    (moves : state.Moves .stay more target)
    (apart : ∀ {front : List Segment} {middle : State}, Steps grammar state front middle →
      middle.Apart grammar.order more)
    {calls depth turns : Nat}
    (allowed : (depth + levels : Int) ≤ grammar.limit)
    (enoughTurns : target.cursor.rest.length < turns)
    (enough : 4 * target.cursor.rest.length + 5 ≤ calls) :
    ∃ boundary count, after.Moves .stay more boundary ∧
      Collects (grammar.turning turns) calls depth count pieces (inclusionTags segments) target
        boundary := by
  induction derives using Derives.items_induction generalizing state target with
  | nothing =>
    cases steps
    exact ⟨target, 0, moves, .nothing _ _ _ _⟩
  | next first rest hypothesis =>
    obtain ⟨middle, near, far⟩ := steps.of_append
    obtain ⟨frontBlank, backBlank⟩ := gapsAreBlank_of_append blank
    obtain ⟨behind, onward, collectsItem⟩ :=
      first.collects_item near frontBlank moves apart allowed enoughTurns enough
    have shorter := collectsItem.fits
    obtain ⟨boundary, count, reached, collectsItems⟩ := hypothesis far backBlank onward
      (fun further => apart (near.append further)) (by omega) (by omega)
    rw [inclusionTags_append]
    exact ⟨boundary, 1 + count, reached, collectsItem.trans collectsItems⟩

end

end Document

end Stencil
