import Stencil.Proofs.Place

/-!
# Slices of a source

Each segment of a source takes a slice of its text: a run in which no active
opening delimiter occurs, or a region that begins with the opening delimiter of
its kind and ends with the closing one.  The slices of all segments, one behind
the other, are the source.
-/

namespace Stencil

namespace Text

/-- No literal of a list occurs in the part before them. -/
theorem not_infix_beforeAny
    {literals : List Text}
    (notEmpty : ∀ literal ∈ literals, literal ≠ [])
    (text : Text) :
    ∀ literal ∈ literals, ¬ literal <:+: beforeAny literals text := by
  induction text with
  | nil =>
    intro literal member occurs
    exact notEmpty literal member (List.infix_nil.1 occurs)
  | cons point rest hypothesis =>
    intro literal member occurs
    rw [beforeAny] at occurs
    split at occurs
    · exact notEmpty literal member (List.infix_nil.1 occurs)
    · rename_i absent
      simp only [List.any_eq_true, not_exists, not_and] at absent
      rcases List.infix_cons_iff.1 occurs with begins | inside
      · -- The part begins the text, so a literal that begins it would end it here.
        have whole := beforeAny_append_drop literals rest
        have longer : literal <+: point :: rest := by
          rw [← whole, ← List.cons_append]
          exact begins.trans (List.prefix_append _ _)
        exact absent literal member (List.isPrefixOf_iff_prefix.2 longer)
      · exact hypothesis literal member inside

/-- A text without any literal of a list is its own part before them. -/
theorem beforeAny_eq_self
    {literals : List Text}
    {text : Text}
    (plain : ∀ literal ∈ literals, ¬ literal <:+: text) :
    beforeAny literals text = text := by
  induction text with
  | nil => rfl
  | cons point rest hypothesis =>
    have absent : ¬ (literals.any fun literal => literal.isPrefixOf (point :: rest)) = true := by
      simp only [List.any_eq_true, not_exists, not_and]
      intro literal member begins
      exact plain literal member (List.isPrefixOf_iff_prefix.1 begins).isInfix
    have further : ∀ literal ∈ literals, ¬ literal <:+: rest := by
      intro literal member occurs
      exact plain literal member (List.infix_cons occurs)
    rw [beforeAny, if_neg absent, hypothesis further]

end Text

namespace Cursor

/-- A cursor ahead has read a first part of the text. -/
theorem Reaches.exists_append
    {origin target : Cursor}
    (reaches : origin.Reaches target) :
    ∃ between, origin.rest = between ++ target.rest := by
  obtain ⟨count, rfl⟩ := reaches
  exact ⟨origin.rest.take count, by rw [rest_forward, List.take_append_drop]⟩

/-- The index counts the code points in between. -/
theorem Reaches.index_eq
    {origin target : Cursor}
    {between : Text}
    (reaches : origin.Reaches target)
    (unread : origin.rest = between ++ target.rest) :
    target.index = origin.index + between.length := by
  obtain ⟨count, rfl⟩ := reaches
  have lengths := congrArg List.length unread
  rw [rest_forward, List.length_append, List.length_drop] at lengths
  rw [index_forward]
  omega

theorem rest_of_consume?
    {cursor behind : Cursor}
    {literal : Text}
    (consumed : cursor.consume? literal = some behind) :
    cursor.rest = literal ++ behind.rest := by
  unfold consume? at consumed
  split at consumed
  · rename_i begins
    obtain ⟨rest, whole⟩ := List.isPrefixOf_iff_prefix.1 begins
    obtain rfl := Option.some.inj consumed
    rw [rest_forward, ← whole, List.drop_left]
  · simp at consumed

theorem eq_forward_of_consume?
    {cursor behind : Cursor}
    {literal : Text}
    (consumed : cursor.consume? literal = some behind) :
    behind = cursor.forward literal.length := by
  unfold consume? at consumed
  split at consumed
  · exact (Option.some.inj consumed).symm
  · simp at consumed

/-- A literal that follows is consumed. -/
theorem consume?_of_begins
    {cursor : Cursor}
    {literal : Text}
    (begins : literal <+: cursor.rest) :
    cursor.consume? literal = some (cursor.forward literal.length) :=
  if_pos (List.isPrefixOf_iff_prefix.2 begins)

/-- Reading through a literal passes what stands before it and the literal. -/
theorem rest_of_readThrough?
    {cursor behind : Cursor}
    {literal before : Text}
    (through : cursor.readThrough? literal = some (before, behind)) :
    cursor.rest = before ++ literal ++ behind.rest := by
  simp only [readThrough?] at through
  split at through
  · simp at through
  · rename_i front back found
    obtain ⟨rfl, rfl⟩ := Prod.mk.inj (Option.some.inj through)
    have split := Text.eq_of_splitFirst found
    rw [rest_forward, ← List.length_append, split, List.drop_left]

end Cursor

/-- The closing delimiter stands before the cursor that closing gives. -/
theorem Region.exists_of_close
    {region : Region}
    {cursor behind : Cursor}
    (closes : region.close cursor = .ok ((), behind)) :
    ∃ blanks, cursor.rest = blanks ++ region.closing ++ behind.rest := by
  obtain ⟨blanks, split⟩ := (Cursor.reaches_skipBlanks cursor).exists_append
  rw [split, Cursor.rest_of_consume? (Region.close_eq_ok.1 closes), ← List.append_assoc]
  exact ⟨blanks, rfl⟩

namespace Document

/-- The kind of a region; text is no region. -/
def Segment.kind? : Segment → Option Kind
  | .text _ _ => none
  | .insertion _ => some .inline
  | .comment => some .comment
  | .pragma => some .pragma
  | .tag _ _ _ => some .block

theorem State.begins_of_kind?
    {state : State}
    {order : List Kind}
    {kind : Kind}
    (opens : state.kind? order = some kind) :
    (state.delimiters.pair kind).opening <+: state.cursor.rest := by
  have begins := List.find?_some opens
  simpa only [Cursor.startsWith, List.isPrefixOf_iff_prefix] using begins

/-- Where a region opens, its opening delimiter is passed first. -/
theorem State.rest_of_kind?
    {state : State}
    {order : List Kind}
    {kind : Kind}
    (opens : state.kind? order = some kind) :
    state.cursor.rest = (state.delimiters.pair kind).opening ++
      (state.cursor.forward (state.delimiters.pair kind).opening.length).rest := by
  obtain ⟨rest, whole⟩ := State.begins_of_kind? opens
  rw [Cursor.rest_forward, ← whole, List.drop_left]

/-- What a region takes of the text: everything from its opening to its closing
delimiter. -/
theorem State.exists_framed
    {grammar : Grammar}
    {state : State}
    {kind : Kind}
    {finish behind : Cursor}
    (opens : state.kind? grammar.order = some kind)
    (reaches : Cursor.Reaches
      (state.cursor.forward (state.delimiters.pair kind).opening.length) finish)
    (closes : Region.close ⟨grammar, (state.delimiters.pair kind).closing⟩ finish =
      .ok ((), behind)) :
    ∃ inner, state.cursor.rest = (state.delimiters.pair kind).opening ++ inner ++
      (state.delimiters.pair kind).closing ++ behind.rest := by
  obtain ⟨content, split⟩ := reaches.exists_append
  obtain ⟨blanks, ended⟩ := Region.exists_of_close closes
  refine ⟨content ++ blanks, ?_⟩
  rw [State.rest_of_kind? opens, split, ended]
  simp only [List.append_assoc]

end Document

/-- A part of a source that one segment takes. -/
structure Slice where
  /-- The delimiters that are active there. -/
  delimiters : Delimiters
  /-- The segment. -/
  segment : Document.Segment
  /-- The text that it takes. -/
  content : Text

namespace Slice

open Document

/-- A slice is what its segment says: text without any opening delimiter of an
order of kinds, or a region between the delimiters of its kind. -/
inductive IsCut (order : List Kind) : Slice → Prop
  | text
      {delimiters : Delimiters}
      {position : Position}
      {run : Text}
      (notEmpty : run ≠ [])
      (plain : ∀ kind ∈ order, ¬ (delimiters.pair kind).opening <:+: run) :
      IsCut order ⟨delimiters, .text position run, run⟩
  | region
      {delimiters : Delimiters}
      {segment : Segment}
      {kind : Kind}
      {inner : Text}
      (known : kind ∈ order)
      (isKind : segment.kind? = some kind) :
      IsCut order ⟨delimiters, segment,
        (delimiters.pair kind).opening ++ inner ++ (delimiters.pair kind).closing⟩

end Slice

namespace Document

/-- A segment takes a slice of the text, and only a pragma changes the
delimiters. -/
theorem Step.exists_content
    {grammar : Grammar}
    {state after : State}
    {segment : Segment}
    (step : Step grammar state segment after) :
    (∃ content, state.cursor.rest = content ++ after.cursor.rest ∧
      Slice.IsCut grammar.order ⟨state.delimiters, segment, content⟩) ∧
    (segment.kind? ≠ some .pragma → after.delimiters = state.delimiters) := by
  cases step with
  | text unread noRegion =>
    refine ⟨⟨_, ?_, .text (State.textRun_ne_nil unread noRegion) ?_⟩, fun _ => rfl⟩
    · rw [State.textRun, Cursor.readBefore, Cursor.rest_forward, Text.beforeAny_append_drop]
    · intro kind member
      refine Text.not_infix_beforeAny ?_ _ _ (List.mem_map_of_mem member)
      intro literal isOpening
      obtain ⟨other, _, rfl⟩ := List.mem_map.1 isOpening
      exact Pair.opening_ne_nil _
  | insertion opens reads closes =>
    obtain ⟨inner, framed⟩ := State.exists_framed opens reads.progress.1 closes
    exact ⟨⟨_, framed, .region (List.mem_of_find?_eq_some opens) rfl⟩, fun _ => rfl⟩
  | comment opens skipped =>
    obtain ⟨before, behind, through, rfl⟩ := comment_eq_ok.1 skipped
    have inside : (state.cursor.forward (state.delimiters.pair .comment).opening.length).rest =
        before ++ (state.delimiters.pair .comment).closing ++ behind.rest :=
      Cursor.rest_of_readThrough? through
    have framed : state.cursor.rest = (state.delimiters.pair .comment).opening ++ before ++
        (state.delimiters.pair .comment).closing ++ behind.rest := by
      rw [State.rest_of_kind? opens, inside]
      simp only [List.append_assoc]
    exact ⟨⟨_, framed, .region (List.mem_of_find?_eq_some opens) rfl⟩, fun _ => rfl⟩
  | pragma opens listed closes changed =>
    obtain ⟨inner, framed⟩ := State.exists_framed opens listed.passes.1 closes
    refine ⟨⟨_, framed, .region (List.mem_of_find?_eq_some opens) rfl⟩, ?_⟩
    exact fun noPragma => absurd rfl noPragma
  | @tag opened opener tag finish behind opens entered holds closes =>
    obtain ⟨_, inside, word, entry, consumed, scanned, isWord, rfl⟩ := openTag_eq_ok.1 entered
    simp only [Token.isWord, Bool.and_eq_true, decide_eq_true_eq] at isWord
    have reachesWord := (Reading.token_passes scanned (by simp [isWord.1])).1
    rw [Cursor.eq_forward_of_consume? consumed] at reachesWord
    obtain ⟨inner, framed⟩ := State.exists_framed opens (reachesWord.trans holds.reaches) closes
    refine ⟨⟨_, framed, .region (List.mem_of_find?_eq_some opens) rfl⟩, fun _ => ?_⟩
    exact State.delimiters_noted _ opener tag

/-- The slices that the steps between two states take.  Each step takes exactly the text
between the cursors of its two states, so a slice can neither hold a second segment nor leave
a part of its own to the next one. -/
inductive Sliced (grammar : Grammar) : State → List Slice → State → Prop
  | nil
      {state : State} :
      Sliced grammar state [] state
  | cons
      {first second third : State}
      {slice : Slice}
      {slices : List Slice}
      (step : Step grammar first slice.segment second)
      (active : slice.delimiters = first.delimiters)
      (taken : first.cursor.rest = slice.content ++ second.cursor.rest)
      (cut : slice.IsCut grammar.order)
      (unchanged : slice.segment.kind? ≠ some .pragma → second.delimiters = first.delimiters)
      (rest : Sliced grammar second slices third) :
      Sliced grammar first (slice :: slices) third

/-- The slices of some steps, one behind the other, are the text between the first and the
last state. -/
theorem Sliced.rest_eq
    {grammar : Grammar}
    {state after : State}
    {slices : List Slice}
    (sliced : Sliced grammar state slices after) :
    state.cursor.rest = slices.flatMap Slice.content ++ after.cursor.rest := by
  induction sliced with
  | nil => rfl
  | cons _ _ taken _ _ _ hypothesis =>
    rw [taken, hypothesis, List.flatMap_cons, List.append_assoc]

/-- Every run of steps takes slices, one for each of its segments. -/
theorem Steps.exists_sliced
    {grammar : Grammar}
    {state after : State}
    {segments : List Segment}
    (steps : Steps grammar state segments after) :
    ∃ slices, segments = slices.map Slice.segment ∧ Sliced grammar state slices after := by
  induction steps with
  | nil => exact ⟨[], rfl, .nil⟩
  | @cons first second third segment rest step steps hypothesis =>
    obtain ⟨slices, listed, sliced⟩ := hypothesis
    obtain ⟨⟨content, taken, cut⟩, unchanged⟩ := step.exists_content
    refine ⟨⟨first.delimiters, segment, content⟩ :: slices, ?_, ?_⟩
    · rw [listed, List.map_cons]
    · exact .cons step rfl taken cut unchanged sliced

end Document

end Stencil
