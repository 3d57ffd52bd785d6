import Stencil.Proofs.Comment.Weaving
import Stencil.Proofs.Concatenation
import Stencil.Proofs.Segment.Unique

/-!
# Comments are transparent

A comment may be written between any two segments of a template and within any of its
texts, at whatever depth.  If the delimiters that are active there are not ambiguous,
and no opening delimiter that is active where it begins reaches into the comment, the
template is read as before: the tree is the same up to positions, so are the includes,
and the same delimiters are active at the end.
-/

namespace Stencil

namespace Text

theorem beforeAny_of_append
    {literals : List Text}
    {run rest more : Text}
    (found : beforeAny literals (run ++ rest) = run ++ more) :
    beforeAny literals rest = more := by
  induction run with
  | nil => exact found
  | cons point run hypothesis =>
    rw [List.cons_append, List.cons_append, beforeAny] at found
    split at found
    · cases found
    · exact hypothesis (List.cons.inj found).2

/-- A part of a run of text is the run before a literal that is written there. -/
theorem beforeAny_append_of_endsRun
    {literals : List Text}
    {run rest : Text}
    (absent : ∀ literal ∈ literals, ∀ front back, run = front ++ back → back ≠ [] →
      ¬ literal <+: back ++ rest)
    (ends : EndsRun literals rest) :
    beforeAny literals (run ++ rest) = run := by
  induction run with
  | nil => exact ends.beforeAny_eq_nil
  | cons point run hypothesis =>
    have notHere : ¬ (literals.any fun literal => literal.isPrefixOf (point :: (run ++ rest))) =
        true := by
      simp only [List.any_eq_true, List.isPrefixOf_iff_prefix, not_exists, not_and]
      intro literal member
      exact absent literal member [] (point :: run) rfl (List.cons_ne_nil _ _)
    rw [List.cons_append, beforeAny, if_neg notHere, hypothesis]
    rintro literal member front back rfl
    exact absent literal member (point :: front) back rfl

end Text

/-- A comment with some content. -/
def Delimiters.commented (delimiters : Delimiters) (content : Text) : Text :=
  delimiters.comment.opening ++ content ++ delimiters.comment.closing

/-- A comment ends the text before it. -/
theorem Delimiters.endsRun_commented
    {delimiters : Delimiters}
    {order : List Kind}
    (listed : Kind.comment ∈ order)
    (content rest : Text) :
    Text.EndsRun (delimiters.openings order) (delimiters.commented content ++ rest) := by
  refine .inr ⟨_, List.mem_map_of_mem listed, ?_⟩
  rw [Delimiters.commented, List.append_assoc, List.append_assoc]
  exact List.prefix_append _ _

theorem Cursor.Moves.trans
    {first second : Relocation}
    {cursor middle target : Cursor}
    (former : Cursor.Moves first [] cursor middle)
    (latter : Cursor.Moves second [] middle target) :
    Cursor.Moves (first.trans second) [] cursor target where
  rest := by rw [latter.rest, former.rest, List.append_nil]
  position count within := by
    rw [latter.position count (by rw [former.rest, List.append_nil]; exact within),
      former.position count within]
    rfl

namespace Document

variable
  {grammar : Grammar}
  {state : State}
  {content rest : Text}

/-- A comment is passed where it is written, if its closing delimiter does not occur
before its end. -/
theorem Step.of_commented
    (listed : Kind.comment ∈ grammar.order)
    (clear : state.delimiters.ambiguities = [])
    (closed : Text.splitFirst state.delimiters.comment.closing
      (content ++ state.delimiters.comment.closing) = some (content, []))
    (unread : state.cursor.rest = state.delimiters.commented content ++ rest) :
    Step grammar state .comment { state with
      cursor := state.cursor.forward (state.delimiters.commented content).length } := by
  have inside : (state.cursor.forward state.delimiters.comment.opening.length).rest =
      content ++ state.delimiters.comment.closing ++ rest := by
    rw [Cursor.rest_forward, unread, Delimiters.commented, List.append_assoc, List.append_assoc,
      List.drop_left, List.append_assoc]
  have swaps : Text.Swaps [] rest (content ++ state.delimiters.comment.closing)
      (content ++ state.delimiters.comment.closing ++ rest) :=
    ⟨_, (List.append_nil _).symm, rfl⟩
  obtain ⟨_, found⟩ :=
    swaps.splitFirst state.delimiters.comment.closing_ne_nil closed (Nat.zero_le _)
  refine .comment (State.kind?_eq_some clear listed ?_) (comment_eq_ok.2 ⟨content, _, ?_, rfl⟩)
  · rw [unread, Delimiters.commented, List.append_assoc, List.append_assoc]
    exact List.prefix_append _ _
  · rw [Cursor.readThrough?, inside, found, Delimiters.commented, List.length_append,
      List.length_append, Nat.add_assoc, Cursor.forward_add]

/-- Text is passed where it is read. -/
theorem Step.of_textRun
    {run : Text}
    {behind : Cursor}
    (isRun : state.textRun grammar.order = (run, behind))
    (runSome : run ≠ []) :
    Step grammar state (.text state.cursor.position run) { state with cursor := behind } := by
  have someText : (state.textRun grammar.order).1 ≠ [] := by rwa [isRun]
  have unread : state.cursor.isAtEnd = false := by
    rw [Cursor.isAtEnd, ← state.textRun_append grammar.order]
    simp [someText]
  have step : Step grammar state _ _ := .text unread (State.kind?_eq_none_of_textRun someText)
  rwa [isRun] at step

/-- Behind a part of a text the rest of it follows. -/
theorem State.textRun_forward
    {order : List Kind}
    {run more : Text}
    (isRun : (state.textRun order).1 = run ++ more) :
    State.textRun { state with cursor := state.cursor.forward run.length } order =
      (more, (state.textRun order).2) := by
  have unread := state.textRun_append order
  rw [isRun, List.append_assoc] at unread
  have isMore : Text.beforeAny (state.delimiters.openings order)
      (state.cursor.forward run.length).rest = more := by
    apply Text.beforeAny_of_append
    rw [Cursor.rest_forward, ← unread, List.drop_left, unread]
    exact isRun
  have isCursor : (state.textRun order).2 = state.cursor.forward (run ++ more).length := by
    rw [← isRun]
    rfl
  rw [State.textRun, Cursor.readBefore]
  dsimp only
  rw [isMore, isCursor, List.length_append, Cursor.forward_add]

/-- A part of a text is read where a comment is written behind it. -/
theorem State.textRun_of_endsRun
    {order : List Kind}
    {text run rest : Text}
    (begins : run <+: Text.beforeAny (state.delimiters.openings order) text)
    (apart : ∀ kind ∈ order, ∀ front back, run = front ++ back → back ≠ [] →
      ¬ Text.Overruns (state.delimiters.pair kind).opening back rest)
    (ends : Text.EndsRun (state.delimiters.openings order) rest)
    (unread : state.cursor.rest = run ++ rest) :
    state.textRun order = (run, state.cursor.forward run.length) := by
  have notEmpty : ∀ literal ∈ state.delimiters.openings order, literal ≠ [] := by
    intro literal member
    obtain ⟨kind, _, rfl⟩ := List.mem_map.1 member
    exact Pair.opening_ne_nil _
  have isRun : Text.beforeAny (state.delimiters.openings order) (run ++ rest) = run := by
    refine Text.beforeAny_append_of_endsRun ?_ ends
    intro literal member front back split backSome opens
    -- What opens in the part does not reach behind it, so it would open in the text too.
    have inside : literal <+: back := by
      obtain ⟨kind, inOrder, rfl⟩ := List.mem_map.1 member
      exact Text.prefix_of_not_overruns (apart kind inOrder front back split backSome) opens
    refine Text.not_infix_beforeAny notEmpty text literal member (.trans ?_ begins.isInfix)
    rw [split]
    exact inside.isInfix.trans (List.suffix_append front back).isInfix
  rw [State.textRun, Cursor.readBefore, unread, isRun]

/-- A comment between segments is woven in. -/
theorem Woven.of_between
    {relocation : Relocation}
    (keeps : relocation.KeepsNames)
    (near far : List Segment) :
    ∃ count target,
      near ++ .comment :: far.map (Segment.moved relocation) = comments count ++ target ∧
        Woven (near ++ far) target := by
  rcases List.eq_nil_or_concat near with rfl | ⟨front, last, rfl⟩
  · exact ⟨1, _, rfl, .of_moved keeps far⟩
  · have before := Woven.of_moved Relocation.keepsNames_stay front
    have here : Woven [last] ([last] ++ comments 1) := by
      have woven := @Woven.cons _ last _ _ Relocation.keepsNames_stay 1 .nil
      rwa [Segment.moved_stay] at woven
    rw [Segment.map_moved_stay] at before
    rw [List.concat_eq_append]
    refine ⟨0, _, ?_, (before.append here).append (.of_moved keeps far)⟩
    simp [comments]

/-- A comment within a text is woven in. -/
theorem Woven.of_within
    {relocation : Relocation}
    (keeps : relocation.KeepsNames)
    (near far : List Segment)
    (position behind : Position)
    (run more : Text) :
    Woven (near ++ .text position (run ++ more) :: far) (near ++ .text position run :: .comment ::
      .text behind more :: far.map (Segment.moved relocation)) := by
  have before := Woven.of_moved Relocation.keepsNames_stay near
  rw [Segment.map_moved_stay] at before
  exact before.append (.cut (.of_moved keeps far))

end Document

namespace Includes

/-- The keys of included templates, each with the number of its tags. -/
def counts (includes : Includes) : List (Text × Nat) :=
  includes.map fun group => (group.1, group.2.length)

theorem counts_moved (relocation : Relocation) (includes : Includes) :
    (includes.moved relocation).counts = includes.counts := by
  simp [counts, moved]

end Includes

namespace Template

open Document

/-- A source is cut up to its end into the segments of another one with comments woven
in. -/
def Weaves
    (options : Options)
    (name : Text)
    (delimiters : Delimiters)
    (source : Text)
    (segments : List Segment)
    (final : State) : Prop :=
  ∃ count target last, Steps (grammarFor options source) (initial name delimiters source)
      (comments count ++ target) last ∧
    Woven segments target ∧ last.cursor.isAtEnd = true ∧ last.delimiters = final.delimiters

/-- With comments woven in, a source is read to the same tree, includes and last
delimiters, up to positions. -/
theorem Arises.read_of_weaves
    {options : Options}
    {name source other : Text}
    {delimiters : Delimiters}
    {template : Template}
    {segments : List Segment}
    {levels : Nat}
    {final : State}
    (arises : Arises options name delimiters source template segments levels final)
    (weaves : Weaves options name delimiters other segments final) :
    ∃ template', (read options name delimiters other).result = .ok template' ∧
      template'.root.same template.root = true ∧
      template'.includes.counts = template.includes.counts ∧
      (read options name delimiters other).delimiters =
        (read options name delimiters source).delimiters := by
  obtain ⟨count, target, last, steps, woven, ended, sameDelimiters⟩ := weaves
  obtain ⟨root, derives, sameRoot⟩ :=
    arises.derives.becomes woven (Cursor.start name other).position count rfl
  have gaps : gapsAreBlank (comments count ++ target) = true := by
    rw [Woven.gapsAreBlank_comments]
    exact woven.gapsAreBlank arises.gaps
  have arises' : Arises options name delimiters other ⟨root, last.includes⟩
      (comments count ++ target) levels last :=
    ⟨steps, ended, derives, gaps, arises.nested, rfl⟩
  refine ⟨_, arises'.read_eq_ok, Node.same_of_moved_eq _ _ sameRoot, ?_, ?_⟩
  · obtain ⟨_, _, _, _, _, _, includes⟩ := arises.exists_items
    obtain ⟨_, _, _, _, _, _, includes'⟩ := arises'.exists_items
    dsimp only at includes'
    have erased : template.includes.moved .erase = last.includes.moved .erase := by
      rw [includes, includes', ← Includes.grouped_moved, ← Includes.grouped_moved,
        Woven.inclusionTags_comments, woven.inclusionTags_erase]
    rw [← Includes.counts_moved .erase template.includes, erased, Includes.counts_moved]
  · rw [delimiters_of_document arises'.document_eq_ok ended,
      delimiters_of_document arises.document_eq_ok arises.ended, sameDelimiters]

/-! ## The place of the comment -/

variable
  {options : Options}
  {name : Text}
  {delimiters : Delimiters}
  {before after content : Text}
  {place final : State}

/-- An index of a source stands between two segments or within a text, and some
delimiters are active there. -/
def Origin.IsOpen (origin : Origin) (delimiters : Delimiters) (index : Nat) : Prop :=
  ∃ state run, origin.Attains state ∧ state.delimiters = delimiters ∧
    run <+: (state.textRun origin.options.order).1 ∧ index = state.cursor.index + run.length

/-- No opening delimiter that is active where it begins, before an index, reaches into a
text that is written behind the index. -/
def Origin.ApartAt
    (origin : Origin)
    (index : Nat)
    (behind : Text) : Prop :=
  ∀ active start, origin.IsOpen active start → start < index →
    ∀ kind ∈ origin.options.order,
      ¬ Text.Overruns (active.pair kind).opening ((origin.source.take index).drop start) behind

/-- A part of a text stands in the source before the index behind it. -/
theorem Origin.Attains.rest_eq_append
    {origin : Origin}
    {run : Text}
    (attained : origin.Attains place)
    (begins : run <+: (place.textRun origin.options.order).1) :
    place.cursor.index + run.length ≤ origin.source.length ∧
      place.cursor.rest = run ++ origin.source.drop (place.cursor.index + run.length) := by
  obtain ⟨inside, _, unread⟩ := attained.has.eq_ofIndex
  obtain ⟨rest, split⟩ : run <+: place.cursor.rest :=
    begins.trans ⟨_, place.textRun_append origin.options.order⟩
  have lengths := congrArg List.length unread
  rw [← split, List.length_append, List.length_drop] at lengths
  refine ⟨by omega, ?_⟩
  rw [← List.drop_drop, ← unread, ← split, List.drop_left]

theorem Origin.ApartAt.apartBefore
    {new : Text}
    {front : List Segment}
    {middle : State}
    (apart : Origin.ApartAt ⟨options, name, delimiters, before ++ after⟩ before.length new)
    (steps : Steps (grammarFor options (before ++ after))
      (initial name delimiters (before ++ after)) front middle) :
    middle.ApartBefore options.order after new := by
  intro kind inOrder run shared begins unread notEmpty
  have attained : Origin.Attains ⟨options, name, delimiters, before ++ after⟩ middle :=
    ⟨front, steps⟩
  obtain ⟨inside, rest⟩ := attained.rest_eq_append begins
  rw [unread, List.append_cancel_left_eq] at rest
  have positive := List.length_pos_iff.2 notEmpty
  have within : middle.cursor.index + run.length < before.length := by
    have lengths := congrArg List.length rest
    rw [List.length_append, List.length_drop, List.length_append] at lengths
    omega
  rw [List.drop_append_of_le_length (Nat.le_of_lt within), List.append_cancel_right_eq] at rest
  have apartHere := apart _ _ ⟨middle, run, attained, rfl, begins, rfl⟩ within kind inOrder
  rw [List.take_left, ← rest] at apartHere
  exact apartHere

/-- Where a comment is written behind a part of a text, segments up to the text are as
before. -/
theorem exists_spot
    {front : List Segment}
    {run : Text}
    (listed : Kind.comment ∈ options.order)
    (near : Steps (grammarFor options (before ++ after))
      (initial name delimiters (before ++ after)) front place)
    (begins : run <+: (place.textRun options.order).1)
    (unread : place.cursor.rest = run ++ after)
    (apart : Origin.ApartAt ⟨options, name, delimiters, before ++ after⟩ before.length
      (place.delimiters.commented content ++ after)) :
    ∃ cursor includes journal,
      Steps (grammarFor options (before ++ (place.delimiters.commented content ++ after)))
        (initial name delimiters (before ++ (place.delimiters.commented content ++ after)))
        front ⟨cursor, place.delimiters, includes, journal⟩ ∧
      cursor.rest = run ++ (place.delimiters.commented content ++ after) ∧
      cursor.position = place.cursor.position := by
  have within : after.length ≤ place.cursor.rest.length := by
    rw [unread, List.length_append]
    omega
  -- A text before the place goes on only in the comment, which opens there.
  have ended : ∀ front' last, front = front' ++ [last] → last.kind? = none →
      place.EndsBefore options.order after (place.delimiters.commented content ++ after) := by
    rintro front' last rfl isText rest ⟨shared, rest', rfl⟩
    have noText : (place.textRun options.order).1 = [] := (near.endsRun isText).beforeAny_eq_nil
    rw [noText, List.prefix_nil] at begins
    rw [unread, begins, List.nil_append, List.self_eq_append_left] at rest'
    rw [rest', List.nil_append]
    exact Delimiters.endsRun_commented listed content after
  obtain ⟨spot, steps, swaps⟩ := near.swaps (swaps_initial _) (fun steps => apart.apartBefore steps)
    within ended ((before ++ (place.delimiters.commented content ++ after)).length + 1)
  rw [Segment.map_moved_stay] at steps
  obtain ⟨cursor, _, includes, journal⟩ := spot
  obtain rfl := swaps.delimiters
  obtain ⟨shared, rest, rest'⟩ := swaps.cursor.rest
  rw [unread, List.append_cancel_right_eq] at rest
  exact ⟨cursor, includes, journal, steps, rest ▸ rest', swaps.cursor.here within⟩

/-- Behind a comment the segments are as before. -/
theorem exists_resumed
    {comment : Text}
    {front back : List Segment}
    {middle spot : State}
    (arrives : Steps (grammarFor options (before ++ (comment ++ after)))
      (initial name delimiters (before ++ (comment ++ after))) front spot)
    (passes : Step (grammarFor options (before ++ (comment ++ after))) spot .comment
      { spot with cursor := spot.cursor.forward comment.length })
    (unread : spot.cursor.rest = comment ++ after)
    (stands : Origin.Has ⟨options, name, delimiters, before ++ after⟩ middle.cursor)
    (unread' : middle.cursor.rest = after)
    (far : Steps (grammarFor options (before ++ after)) middle back final)
    (ended : final.cursor.isAtEnd = true)
    (sameDelimiters : spot.delimiters = middle.delimiters) :
    ∃ relocation last, Relocation.KeepsNames relocation ∧
      Steps (grammarFor options (before ++ (comment ++ after)))
        (initial name delimiters (before ++ (comment ++ after)))
        (front ++ .comment :: back.map (Segment.moved relocation)) last ∧
      last.cursor.isAtEnd = true ∧ last.delimiters = final.delimiters := by
  have behind : (spot.cursor.forward comment.length).rest = after := by
    rw [Cursor.rest_forward, unread, List.drop_left]
  have stands' : Origin.Has ⟨options, name, delimiters, (before ++ comment) ++ after⟩
      (spot.cursor.forward comment.length) := by
    rw [List.append_assoc]
    exact arrives.reaches.trans (Cursor.reaches_forward _ _)
  have moves : State.Moves ((Relocation.ahead before).trans (.behind (before ++ comment))) []
      middle { spot with cursor := spot.cursor.forward comment.length } :=
    ⟨(stands.moves_ahead unread').trans (stands'.moves_behind behind), sameDelimiters⟩
  obtain ⟨last, steps, ends⟩ : ∃ last, Steps (grammarFor options (before ++ (comment ++ after)))
      { spot with cursor := spot.cursor.forward comment.length } (back.map (Segment.moved _)) last ∧
      final.Moves ((Relocation.ahead before).trans (.behind (before ++ comment))) [] last :=
    far.relocated moves ((before ++ (comment ++ after)).length + 1)
  exact ⟨_, last, (Relocation.keepsNames_ahead _).trans (Relocation.keepsNames_behind _),
    arrives.append (.cons passes steps), ends.isAtEnd ended, ends.delimiters⟩

section Places

variable
  {template : Template}
  {segments : List Segment}
  {levels : Nat}
  (listed : Kind.comment ∈ options.order)
  (arises : Arises options name delimiters (before ++ after) template segments levels final)
  (attained : Origin.Attains ⟨options, name, delimiters, before ++ after⟩ place)
  (clear : place.delimiters.ambiguities = [])
  (closed : Text.splitFirst place.delimiters.comment.closing
    (content ++ place.delimiters.comment.closing) = some (content, []))
  (apart : Origin.ApartAt ⟨options, name, delimiters, before ++ after⟩ before.length
    (place.delimiters.commented content ++ after))

include listed arises attained clear closed apart

/-- A comment between two segments. -/
theorem weaves_between (unread : place.cursor.rest = after) :
    Weaves options name delimiters (before ++ (place.delimiters.commented content ++ after))
      segments final := by
  obtain ⟨_, reached⟩ := id attained
  obtain ⟨near, far, rfl, nearSteps, farSteps⟩ := arises.steps.exists_split arises.ended reached
  obtain ⟨cursor, includes, journal, arrives, spotUnread, _⟩ :=
    exists_spot listed nearSteps List.nil_prefix unread apart
  obtain ⟨relocation, last, keeps, steps, ended, sameDelimiters⟩ := exists_resumed arrives
    (.of_commented listed clear closed spotUnread) spotUnread attained.has unread farSteps
    arises.ended rfl
  obtain ⟨count, target, whole, woven⟩ := Woven.of_between keeps near far
  rw [whole] at steps
  exact ⟨count, target, last, steps, woven, ended, sameDelimiters⟩

/-- A comment within a text. -/
theorem weaves_within
    {run more : Text}
    (isRun : (place.textRun options.order).1 = run ++ more)
    (runSome : run ≠ [])
    (moreSome : more ≠ [])
    (unread : place.cursor.rest = run ++ after) :
    Weaves options name delimiters (before ++ (place.delimiters.commented content ++ after))
      segments final := by
  have begins : run <+: (place.textRun options.order).1 := ⟨more, isRun.symm⟩
  have noRegion : place.kind? options.order = none := by
    apply State.kind?_eq_none_of_textRun
    rw [isRun]
    exact List.append_ne_nil_of_left_ne_nil runSome more
  obtain ⟨_, reached⟩ := id attained
  obtain ⟨near, far, rfl, nearSteps, farSteps⟩ := arises.steps.exists_split arises.ended reached
  obtain ⟨cursor, includes, journal, arrives, spotUnread, samePosition⟩ :=
    exists_spot listed nearSteps begins unread apart
  have behindUnread : (cursor.forward run.length).rest =
      place.delimiters.commented content ++ after := by
    rw [Cursor.rest_forward, spotUnread, List.drop_left]
  -- The first half of the text is read up to the comment.
  have apartRun : ∀ kind ∈ options.order, ∀ front back, run = front ++ back → back ≠ [] →
      ¬ Text.Overruns (place.delimiters.pair kind).opening back
        (place.delimiters.commented content ++ after) := by
    rintro kind inOrder front back rfl
    refine apart.apartBefore nearSteps kind inOrder front back ?_ ?_
    · exact (List.prefix_append front back).trans begins
    · rw [unread, List.append_assoc]
  have firstRun := @State.textRun_of_endsRun ⟨cursor, place.delimiters, includes, journal⟩ _ _ _ _
    begins apartRun
    (Delimiters.endsRun_commented listed content after) spotUnread
  have first : Step (grammarFor options (before ++ (place.delimiters.commented content ++ after)))
      ⟨cursor, place.delimiters, includes, journal⟩ (.text place.cursor.position run)
      ⟨cursor.forward run.length, place.delimiters, includes, journal⟩ := by
    rw [← samePosition]
    exact .of_textRun firstRun runSome
  -- The second half stands behind the comment, as if it were a text of its own.
  have second : Step (grammarFor options (before ++ after))
      { place with cursor := place.cursor.forward run.length }
      (.text (place.cursor.forward run.length).position more)
      { place with cursor := (place.textRun options.order).2 } :=
    .of_textRun (State.textRun_forward isRun) moreSome
  have placeUnread : (place.cursor.forward run.length).rest = after := by
    rw [Cursor.rest_forward, unread, List.drop_left]
  cases farSteps with
  | nil =>
    have nothing := arises.ended
    rw [Cursor.isAtEnd, unread] at nothing
    simp [runSome] at nothing
  | cons step rest =>
    obtain ⟨rfl, rfl⟩ := step.text_inv noRegion
    obtain ⟨relocation, last, keeps, steps, ended, sameDelimiters⟩ :=
      exists_resumed (arrives.append (.single first))
        (.of_commented listed clear closed behindUnread) behindUnread
        (attained.has.reaches (Cursor.reaches_forward _ _)) placeUnread (.cons second rest)
        arises.ended rfl
    rw [List.append_assoc] at steps
    refine ⟨0, _, last, steps, ?_, ended, sameDelimiters⟩
    have order : (grammarFor options (before ++ after)).order = options.order := rfl
    rw [order, isRun]
    exact .of_within keeps near _ _ _ run more

end Places

/-- An open index stands between two segments, or a part of a text is read before it and
another one behind it. -/
theorem Origin.IsOpen.cases
    {origin : Origin}
    {active : Delimiters}
    {index : Nat}
    (isOpen : origin.IsOpen active index) :
    (∃ place, origin.Attains place ∧ place.delimiters = active ∧ place.cursor.index = index) ∨
      ∃ place run more, origin.Attains place ∧ place.delimiters = active ∧
        (place.textRun origin.options.order).1 = run ++ more ∧ run ≠ [] ∧ more ≠ [] ∧
        place.cursor.index + run.length = index := by
  obtain ⟨place, run, attained, rfl, ⟨more, isRun⟩, rfl⟩ := isOpen
  by_cases runNone : run = []
  · subst runNone
    exact .inl ⟨place, attained, rfl, rfl⟩
  by_cases moreNone : more = []
  · subst moreNone
    rw [List.append_nil] at isRun
    have step : Step origin.grammar place _ _ := .of_textRun (Prod.ext isRun.symm rfl) runNone
    refine .inl ⟨_, attained.steps (.single step), rfl, ?_⟩
    have within := place.length_textRun_le origin.options.order
    have isCursor : (place.textRun origin.options.order).2 = place.cursor.forward run.length := by
      rw [isRun]
      rfl
    rw [← isRun] at within
    change (place.textRun origin.options.order).2.index = _
    rw [isCursor, Cursor.index_forward, Nat.min_eq_left within]
  · exact .inr ⟨place, run, more, attained, rfl, isRun.symm, runNone, moreNone, rfl⟩

/-- Comments are transparent.  Let a source be read, and let a comment be written between
two of its segments or within one of its texts, with the delimiters that are active
there.  If they are not ambiguous, the closing delimiter does not occur in the comment
before its end, and no opening delimiter that is active where it begins reaches from
before the comment into it, then the new source is read to the same tree and the same
includes, up to positions, and the same delimiters are active at its end. -/
theorem read_comment
    (options : Options)
    (name : Text)
    (delimiters active : Delimiters)
    (source content : Text)
    (index : Nat)
    (template : Template)
    (listed : Kind.comment ∈ options.order)
    (success : (read options name delimiters source).result = .ok template)
    (isOpen : Origin.IsOpen ⟨options, name, delimiters, source⟩ active index)
    (clear : active.ambiguities = [])
    (closed : Text.splitFirst active.comment.closing (content ++ active.comment.closing) =
      some (content, []))
    (apart : Origin.ApartAt ⟨options, name, delimiters, source⟩ index
      (active.commented content ++ source.drop index)) :
    let whole := read options name delimiters
      (source.take index ++ (active.commented content ++ source.drop index))
    ∃ template', whole.result = .ok template' ∧
      template'.root.same template.root = true ∧
      template'.includes.counts = template.includes.counts ∧
      whole.delimiters = (read options name delimiters source).delimiters := by
  obtain ⟨segments, levels, final, arises⟩ := arises_of_read success
  have within : index ≤ source.length := by
    obtain ⟨place, run, attained, _, begins, rfl⟩ := isOpen
    exact (attained.rest_eq_append begins).1
  obtain ⟨before, after, rfl, rfl⟩ : ∃ before after, source = before ++ after ∧
      index = before.length :=
    ⟨source.take index, source.drop index, (List.take_append_drop _ _).symm,
      (List.length_take_of_le within).symm⟩
  rw [List.drop_left] at apart
  rw [List.take_left, List.drop_left]
  have weaves : Weaves options name delimiters (before ++ (active.commented content ++ after))
      segments final := by
    rcases isOpen.cases with ⟨place, attained, rfl, here⟩ |
      ⟨place, run, more, attained, rfl, isRun, runSome, moreSome, here⟩
    · refine weaves_between listed arises attained clear closed apart ?_
      rw [attained.has.eq_ofIndex.2.2, here, List.drop_left]
    · refine weaves_within listed arises attained clear closed apart isRun runSome moreSome ?_
      have unread := (attained.rest_eq_append ⟨more, isRun.symm⟩).2
      rwa [here, List.drop_left] at unread
  exact arises.read_of_weaves weaves

/-- The end of a source that is read is open. -/
theorem Origin.isOpen_length
    {source : Text}
    {template : Template}
    (success : (read options name delimiters source).result = .ok template) :
    Origin.IsOpen ⟨options, name, delimiters, source⟩
      (read options name delimiters source).delimiters source.length := by
  obtain ⟨segments, levels, final, arises⟩ := arises_of_read success
  have attained : Origin.Attains ⟨options, name, delimiters, source⟩ final :=
    ⟨segments, arises.steps⟩
  obtain ⟨inside, _, unread⟩ := attained.has.eq_ofIndex
  have ended := arises.ended
  rw [Cursor.isAtEnd, unread, List.isEmpty_iff, List.drop_eq_nil_iff] at ended
  refine ⟨final, [], attained, ?_, List.nil_prefix, Nat.le_antisymm ended inside⟩
  rw [delimiters_of_document arises.document_eq_ok arises.ended]

/-- A text before a selection and an include. -/
def textBeforeSelection : Text :=
  Text.of "ab\x7b% case x %\x7d\x7b% when 1 %\x7dc\x7b% endcase %\x7d\x7b% include \"k\" %\x7d"

/-- A comment that holds delimiters cuts the text in two. -/
theorem read_comment_of_textBeforeSelection :
    ∃ template template',
      (read {} [] .braces textBeforeSelection).result = .ok template ∧
      (read {} [] .braces (Text.of "a" ++ (Delimiters.braces.commented (Text.of "\x7b% if \x7b#") ++
        textBeforeSelection.drop 1))).result = .ok template' ∧
      template'.root.same template.root = true ∧
      template'.includes.counts = [(Text.of "k", 1)] := by
  have success : (read {} [] .braces textBeforeSelection).result.toOption.map
      (fun template => template.includes.counts) = some [(Text.of "k", 1)] := by
    decide +kernel
  obtain ⟨template, found, counts⟩ := Option.map_eq_some_iff.1 success
  rw [Reading.toOption_eq_some] at found
  have isOpen : Origin.IsOpen ⟨{}, [], .braces, textBeforeSelection⟩ .braces 1 :=
    ⟨_, Text.of "a", Origin.attains_start _, rfl, by decide +kernel, rfl⟩
  have noPragma : ¬ Delimiters.braces.pragma.opening <:+: textBeforeSelection := by
    decide +kernel
  have apart : ∀ kind ∈ Kind.all, ¬ Text.Overruns (Delimiters.braces.pair kind).opening
      (textBeforeSelection.take 1) (Delimiters.braces.commented (Text.of "\x7b% if \x7b#") ++
        textBeforeSelection.drop 1) := by
    decide +kernel
  obtain ⟨template', found', same, sameCounts, _⟩ := read_comment {} [] .braces .braces
    textBeforeSelection (Text.of "\x7b% if \x7b#") 1 template (by decide) found isOpen (by decide)
    (by decide +kernel) (by
      intro active start isOpen before kind inOrder
      obtain rfl : start = 0 := by omega
      obtain ⟨state, _, attained, rfl, _, _⟩ := isOpen
      rw [Origin.Active.eq_of_noPragma ⟨state, attained, rfl, rfl⟩ noPragma]
      exact apart kind inOrder)
  exact ⟨template, template', found, found', same, sameCounts.trans counts⟩

/-- An opening delimiter for expressions that begins with a text and a pragma. -/
def pragmaInOpening : Delimiters :=
  { Delimiters.braces with
    inline :=
      ⟨Text.of "a\x7b!inline=(\"<<\",\">>\")!\x7d\x7b#", Text.of "x", by decide, by decide⟩ }

/-- The text and the pragma. -/
def textAndPragma : Text :=
  Text.of "a\x7b!inline=(\"<<\",\">>\")!\x7d"

/-- The delimiters behind the pragma. -/
def anglesBehindPragma : Delimiters :=
  { Delimiters.braces with inline := ⟨Text.of "<<", Text.of ">>", by decide, by decide⟩ }

/-- It does not suffice that no delimiter that is active at a comment reaches into it: one
that was active before may do so. -/
theorem not_read_comment_of_textAndPragma :
    ∃ template, (read {} [] pragmaInOpening textAndPragma).result = .ok template ∧
      Origin.IsOpen ⟨{}, [], pragmaInOpening, textAndPragma⟩ anglesBehindPragma
        textAndPragma.length ∧
      anglesBehindPragma.ambiguities = [] ∧
      Text.splitFirst anglesBehindPragma.comment.closing
        (Text.of "c" ++ anglesBehindPragma.comment.closing) = some (Text.of "c", []) ∧
      (∀ kind ∈ Kind.all, ¬ Text.Straddles (anglesBehindPragma.pair kind).opening textAndPragma
        (anglesBehindPragma.commented (Text.of "c"))) ∧
      ∀ template', (read {} [] pragmaInOpening
        (textAndPragma ++ anglesBehindPragma.commented (Text.of "c"))).result ≠ .ok template' := by
  have success : (read {} [] pragmaInOpening textAndPragma).result.toOption.isSome = true := by
    decide +kernel
  have isActive : (read {} [] pragmaInOpening textAndPragma).delimiters = anglesBehindPragma := by
    decide +kernel
  have fails : (read {} [] pragmaInOpening
      (textAndPragma ++ anglesBehindPragma.commented (Text.of "c"))).result.toOption.isNone =
        true := by
    decide +kernel
  obtain ⟨template, found⟩ := Option.isSome_iff_exists.1 success
  rw [Reading.toOption_eq_some] at found
  have isOpen := Origin.isOpen_length found
  rw [isActive] at isOpen
  refine ⟨template, found, isOpen, by decide +kernel, by decide +kernel, by decide +kernel, ?_⟩
  intro template' found'
  rw [found'] at fails
  cases fails

end Template

end Stencil
