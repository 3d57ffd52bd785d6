import Stencil.Proofs.Ambiguity
import Stencil.Proofs.Respacing.Covering

/-!
# Templates with other blanks

Outside of regions every character is kept, so the same segments follow.  The region of
an expression or a tag is read alongside the one with other blanks and closes before the
same text.  So a source with other blanks in its regions is a template if the source is
one, with the same tree up to positions and the same includes.
-/

namespace Stencil

open Stretch

/-- Where a literal first occurs does not depend on what is behind it. -/
theorem Text.splitFirst_of_append
    {literal front back more : Text}
    (notEmpty : literal ≠ [])
    (found : splitFirst literal (front ++ literal ++ more) = some (front, back)) :
    splitFirst literal (front ++ literal) = some (front, []) := by
  have swaps : Swaps more [] (front ++ literal ++ more) (front ++ literal) :=
    ⟨front ++ literal, rfl, (List.append_nil _).symm⟩
  have fits : more.length ≤ back.length :=
    Nat.le_of_eq (congrArg List.length (List.append_cancel_left (eq_of_splitFirst found)))
  obtain ⟨after, found'⟩ := swaps.splitFirst notEmpty found fits
  have nothing := eq_of_splitFirst found'
  rw [List.self_eq_append_right] at nothing
  rw [found', nothing]

namespace Delimiters

variable
  {delimiters : Delimiters}
  {stretches : List Stretch}
  {order : List Kind}

theorem IsPreset.ambiguities_eq_nil (preset : delimiters.IsPreset) :
    delimiters.ambiguities = [] := by
  rcases preset with rfl | rfl <;> decide

theorem IsPreset.length_opening_eq
    (preset : delimiters.IsPreset)
    (kind : Kind) :
    (delimiters.pair kind).opening.length = 2 := by
  rcases preset with rfl | rfl <;> cases kind <;> rfl

/-- What comes first outside of regions is kept. -/
theorem Respaces.settled (respaces : delimiters.Respaces stretches) : Settled stretches := by
  cases respaces <;> trivial

/-- The sources begin alike, at least for the length of an opening delimiter. -/
theorem Respaces.take_eq
    (preset : delimiters.IsPreset)
    (respaces : delimiters.Respaces stretches)
    (count : Nat)
    (few : count ≤ 2) :
    (after stretches).take count = (before stretches).take count := by
  have keeps {text : Text} {count : Nat} (few : count ≤ 2) (enough : 2 ≤ text.length)
      (one other : Text) : (text ++ one).take count = (text ++ other).take count := by
    rw [List.take_append_of_le_length (few.trans enough),
      List.take_append_of_le_length (few.trans enough)]
  induction respaces generalizing count with
  | nothing => rfl
  | text outside further hypothesis =>
    cases count with
    | zero => rfl
    | succ count =>
      exact congrArg (_ :: ·) (hypothesis count (Nat.le_of_succ_le few))
  | comment =>
    refine keeps few ?_ _ _
    rw [commented, List.append_assoc, List.length_append]
    exact Nat.le_trans (preset.length_opening_eq .comment).ge (Nat.le_add_right _ _)
  | @region kind => exact keeps few (preset.length_opening_eq kind).ge _ _

/-- The same opening delimiters begin in both sources. -/
theorem Respaces.begins_iff
    (preset : delimiters.IsPreset)
    (respaces : delimiters.Respaces stretches)
    (kind : Kind) :
    (delimiters.pair kind).opening <+: after stretches ↔
      (delimiters.pair kind).opening <+: before stretches := by
  rw [List.prefix_iff_eq_take, List.prefix_iff_eq_take, preset.length_opening_eq,
    respaces.take_eq preset 2 (Nat.le_refl 2)]

/-- Text up to the next region is kept. -/
theorem Respaces.exists_run
    (preset : delimiters.IsPreset)
    (complete : ∀ kind, kind ∈ order)
    (respaces : delimiters.Respaces stretches) :
    ∃ rest, delimiters.Respaces rest ∧
      stretches = points ((before stretches).beforeAny (delimiters.openings order)) ++ rest ∧
      (after stretches).beforeAny (delimiters.openings order) =
        (before stretches).beforeAny (delimiters.openings order) := by
  have ended (kind : Kind) {stretches : List Stretch} (here : delimiters.Respaces stretches)
      (begins : (delimiters.pair kind).opening <+: before stretches) :
      ∃ rest, delimiters.Respaces rest ∧
        stretches = points ((before stretches).beforeAny (delimiters.openings order)) ++ rest ∧
        (after stretches).beforeAny (delimiters.openings order) =
          (before stretches).beforeAny (delimiters.openings order) := by
    have listed := List.mem_map_of_mem (f := fun kind => (delimiters.pair kind).opening)
      (complete kind)
    have ends : Text.EndsRun (delimiters.openings order) (before stretches) :=
      .inr ⟨_, listed, begins⟩
    have ends' : Text.EndsRun (delimiters.openings order) (after stretches) :=
      .inr ⟨_, listed, (here.begins_iff preset kind).2 begins⟩
    rw [ends.beforeAny_eq_nil, ends'.beforeAny_eq_nil]
    exact ⟨stretches, here, rfl, rfl⟩
  induction respaces with
  | nothing => exact ⟨[], .nothing, rfl, rfl⟩
  | @text point rest outside further hypothesis =>
    obtain ⟨more, respaces, split, same⟩ := hypothesis
    have absent : ¬ ((delimiters.openings order).any fun literal =>
        literal.isPrefixOf (point :: before rest)) = true := by
      simp only [openings, List.any_map, List.any_eq_true, Function.comp_apply,
        List.isPrefixOf_iff_prefix, not_exists, not_and]
      exact fun kind _ => outside kind
    have absent' : ¬ ((delimiters.openings order).any fun literal =>
        literal.isPrefixOf (point :: after rest)) = true := by
      simp only [openings, List.any_map, List.any_eq_true, Function.comp_apply,
        List.isPrefixOf_iff_prefix, not_exists, not_and]
      exact fun kind _ begins =>
        outside kind (((Respaces.text outside further).begins_iff preset kind).1 begins)
    have run : (before (.kept [point] :: rest)).beforeAny (delimiters.openings order) =
        point :: (before rest).beforeAny (delimiters.openings order) := if_neg absent
    have run' : (after (.kept [point] :: rest)).beforeAny (delimiters.openings order) =
        point :: (after rest).beforeAny (delimiters.openings order) := if_neg absent'
    refine ⟨more, respaces, ?_, ?_⟩
    · rw [run]
      exact congrArg (.kept [point] :: ·) split
    · rw [run, run', same]
  | comment closed further =>
    refine ended .comment (.comment closed further) ?_
    exact ((List.prefix_append _ _).trans (List.prefix_append _ _)).trans (List.prefix_append _ _)
  | @region kind _ _ _ _ isRegion oldBlank newBlank settled inside further =>
    exact ended kind (.region isRegion oldBlank newBlank settled inside further)
      (List.prefix_append _ _)

/-- A run of text may be kept before other stretches. -/
theorem Respaces.of_run
    {text : Text}
    (complete : ∀ kind, kind ∈ order)
    (respaces : delimiters.Respaces stretches)
    (unread : text.drop (text.beforeAny (delimiters.openings order)).length = before stretches) :
    delimiters.Respaces (points (text.beforeAny (delimiters.openings order)) ++ stretches) := by
  induction text with
  | nil => exact respaces
  | cons point text hypothesis =>
    rw [Text.beforeAny] at unread ⊢
    split at unread
    · rename_i found
      rw [if_pos found]
      exact respaces
    · rename_i absent
      rw [if_neg absent]
      have split := Text.beforeAny_append_drop (delimiters.openings order) text
      rw [List.length_cons, List.drop_succ_cons] at unread
      have further := hypothesis unread
      refine .text (fun kind begins => absent ?_) further
      change (delimiters.pair kind).opening <+:
        point :: before (points (Text.beforeAny (delimiters.openings order) text) ++ stretches)
        at begins
      rw [before_append, before_points, ← unread, split] at begins
      exact List.any_eq_true.2
        ⟨_, List.mem_map_of_mem (complete kind), List.isPrefixOf_iff_prefix.2 begins⟩

/-- Where an opening delimiter begins, there is a comment or a region with other
blanks. -/
theorem Respaces.of_begins
    {kind : Kind}
    (preset : delimiters.IsPreset)
    (respaces : delimiters.Respaces stretches)
    (begins : (delimiters.pair kind).opening <+: before stretches) :
    (kind = .comment ∧ ∃ content rest, stretches = .kept (delimiters.commented content) :: rest ∧
      Text.splitFirst delimiters.comment.closing (content ++ delimiters.comment.closing) =
        some (content, []) ∧ delimiters.Respaces rest) ∨
    ((kind = .inline ∨ kind = .block) ∧ ∃ old new inner rest,
      stretches = .kept (delimiters.pair kind).opening :: .gap old new :: (inner ++ rest) ∧
      old.isBlank = true ∧ new.isBlank = true ∧
      Inside (delimiters.pair kind).closing inner ∧ delimiters.Respaces rest) := by
  have unique {other : Kind} (here : (delimiters.pair other).opening <+: before stretches) :
      kind = other :=
    ambiguities_eq_nil_iff.1 preset.ambiguities_eq_nil _ 0 kind other begins here
  cases respaces with
  | nothing => exact absurd (List.prefix_nil.1 begins) (delimiters.pair kind).opening_ne_nil
  | text outside => exact absurd begins (outside kind)
  | @comment content rest closed further =>
    obtain rfl : kind = .comment := unique
      (((List.prefix_append _ _).trans (List.prefix_append _ _)).trans (List.prefix_append _ _))
    exact .inl ⟨rfl, content, rest, rfl, closed, further⟩
  | @region other old new inner rest isRegion oldBlank newBlank settled inside further =>
    obtain rfl : kind = other := unique (List.prefix_append _ _)
    exact .inr ⟨isRegion, old, new, inner, rest, rfl, oldBlank, newBlank, inside, further⟩

end Delimiters

namespace Cursor

/-- Behind the blanks behind an opening delimiter the same follows. -/
theorem Aligned.faces
    {relocation : Relocation}
    {cursor target : Cursor}
    {first second : CodePoint}
    {old new : Text}
    {inner tail : List Stretch}
    (closer : Closer first second)
    (aligned : Aligned relocation (.gap old new :: (inner ++ tail)) cursor target)
    (oldBlank : old.isBlank = true)
    (newBlank : new.isBlank = true)
    (inside : Inside [first, second] inner) :
    Faces relocation [first, second] tail cursor.skipBlanks target.skipBlanks := by
  have respaced : Respaced relocation [first, second] tail _ _ :=
    ⟨inner, inside, aligned.forward_gap⟩
  have faces := respaced.faces closer
  rwa [skipBlanks_forward aligned.before oldBlank, skipBlanks_forward aligned.after newBlank]
    at faces

end Cursor

namespace Document

variable
  {relocation : Relocation}
  {delimiters : Delimiters}
  {stretches : List Stretch}
  {grammar : Grammar}
  {state target after : State}
  {segment : Segment}

/-- Two states stand in a source and in the one with other blanks. -/
structure State.Respaced
    (relocation : Relocation)
    (delimiters : Delimiters)
    (stretches : List Stretch)
    (state target : State) : Prop where
  /-- The same stretches lie ahead. -/
  aligned : Cursor.Aligned relocation stretches state.cursor target.cursor
  /-- Only blanks in regions are exchanged. -/
  respaces : delimiters.Respaces stretches
  /-- The delimiters are active in the source. -/
  active : state.delimiters = delimiters
  /-- They are active in the other source. -/
  active' : target.delimiters = delimiters

/-- The same kind of region follows. -/
theorem State.Respaced.kind?_eq
    (preset : delimiters.IsPreset)
    (respaced : State.Respaced relocation delimiters stretches state target)
    (order : List Kind) :
    target.kind? order = state.kind? order := by
  refine List.find?_congr fun kind _ => ?_
  rw [respaced.active, respaced.active', Bool.eq_iff_iff, Cursor.startsWith, Cursor.startsWith,
    List.isPrefixOf_iff_prefix, List.isPrefixOf_iff_prefix, respaced.aligned.before,
    respaced.aligned.after]
  exact respaced.respaces.begins_iff preset kind

theorem State.Respaced.begins_of_kind?
    {kind : Kind}
    {order : List Kind}
    (respaced : State.Respaced relocation delimiters stretches state target)
    (opens : state.kind? order = some kind) :
    (delimiters.pair kind).opening <+: before stretches := by
  have begins := State.begins_of_kind? opens
  rwa [respaced.active, respaced.aligned.before] at begins

/-- Where the region of an expression or a tag follows, it is the inside of a region with
other blanks. -/
theorem State.Respaced.exists_region
    {kind : Kind}
    {order : List Kind}
    (preset : delimiters.IsPreset)
    (respaced : State.Respaced relocation delimiters stretches state target)
    (opens : state.kind? order = some kind)
    (noComment : kind ≠ .comment) :
    ∃ first second tail, Closer first second ∧
      (delimiters.pair kind).closing = [first, second] ∧ delimiters.Respaces tail ∧
      Cursor.Faces relocation [first, second] tail
        (state.cursor.forward (delimiters.pair kind).opening.length).skipBlanks
        (target.cursor.forward (delimiters.pair kind).opening.length).skipBlanks := by
  rcases respaced.respaces.of_begins preset (respaced.begins_of_kind? opens) with
    ⟨isComment, _⟩ | ⟨isRegion, old, new, inner, tail, rfl, oldBlank, newBlank, inside, further⟩
  · exact absurd isComment noComment
  · obtain ⟨first, second, isClosing, closer⟩ := preset.exists_closer kind isRegion
    rw [isClosing] at inside
    exact ⟨first, second, tail, closer, isClosing, further,
      respaced.aligned.forward_kept.faces closer oldBlank newBlank inside⟩

/-- Text is the same. -/
theorem State.Respaced.textRun_eq
    {order : List Kind}
    (preset : delimiters.IsPreset)
    (complete : ∀ kind, kind ∈ order)
    (respaced : State.Respaced relocation delimiters stretches state target) :
    (target.textRun order).1 = (state.textRun order).1 ∧
      ∃ rest, delimiters.Respaces rest ∧
        Cursor.Aligned relocation rest (state.textRun order).2 (target.textRun order).2 := by
  obtain ⟨rest, further, split, same⟩ := respaced.respaces.exists_run preset complete
  have aligned := respaced.aligned
  rw [split] at aligned
  have onward := aligned.forward_points
  simp only [State.textRun, Cursor.readBefore, respaced.active, respaced.active',
    respaced.aligned.before, respaced.aligned.after, same]
  exact ⟨trivial, rest, further, onward⟩

/-- A segment is the same between other blanks, up to positions. -/
theorem Step.respaced
    (preset : delimiters.IsPreset)
    (complete : ∀ kind, kind ∈ grammar.order)
    (step : Step grammar state segment after)
    (respaced : State.Respaced relocation delimiters stretches state target)
    (turns : Nat) :
    ∃ rest after', Step (grammar.turning turns) target (segment.moved relocation) after' ∧
      State.Respaced relocation delimiters rest after after' := by
  obtain ⟨cursor', delimiters', includes', journal'⟩ := target
  obtain ⟨aligned, respaces, active, active'⟩ := id respaced
  dsimp only at active'
  subst active active'
  have sameKind := respaced.kind?_eq preset grammar.order
  have here := aligned.here respaces.settled
  cases step with
  | text unread noRegion =>
    obtain ⟨sameRun, rest, further, onward⟩ := respaced.textRun_eq preset complete
    have unread' : cursor'.isAtEnd = false := by
      rw [Cursor.isAtEnd, List.isEmpty_eq_false_iff, aligned.before] at unread
      rw [Cursor.isAtEnd, List.isEmpty_eq_false_iff, aligned.after]
      rintro atEnd
      have same := respaces.take_eq preset 1 (by decide)
      rw [atEnd, List.take_nil, eq_comm, List.take_eq_nil_iff] at same
      exact same.elim (by decide) unread
    have step' : Step (grammar.turning turns) _ _ _ := .text unread' (sameKind.trans noRegion)
    have order : (grammar.turning turns).order = grammar.order := rfl
    rw [order, sameRun, here] at step'
    exact ⟨rest, _, step', onward, further, rfl, rfl⟩
  | insertion opens reads closes =>
    obtain ⟨first, second, tail, closer, isClosing, further, faces⟩ :=
      respaced.exists_region preset opens (by decide)
    obtain ⟨finish', reads', last⟩ :=
      (Region.respacing ⟨grammar, _⟩ closer isClosing relocation tail turns).reads reads faces
        (.inl (Region.isDone_of_close closes))
    obtain ⟨behind', closes', onward⟩ := Region.close_respaced closer isClosing closes last turns
    exact ⟨tail, _, .insertion (sameKind.trans opens) reads' closes', onward, further, rfl, rfl⟩
  | comment opens skipped =>
    rcases respaces.of_begins preset (respaced.begins_of_kind? opens) with
      ⟨_, content, rest, rfl, closed, further⟩ | ⟨isInline | isBlock, _⟩
    · have clear := preset.ambiguities_eq_nil
      obtain rfl := Step.unique (.comment opens skipped)
        (.of_commented (complete .comment) clear closed aligned.before)
      exact ⟨rest, _, .of_commented (complete .comment) clear closed aligned.after,
        aligned.forward_kept, further, rfl, rfl⟩
    · cases isInline
    · cases isBlock
  | pragma opens =>
    rcases respaces.of_begins preset (respaced.begins_of_kind? opens) with
      ⟨isComment, _⟩ | ⟨isInline | isBlock, _⟩
    · cases isComment
    · cases isInline
    · cases isBlock
  | @tag opened opener tag finish behind opens entered holds closes =>
    obtain ⟨first, second, tail, closer, isClosing, further, faces⟩ :=
      respaced.exists_region preset opens (by decide)
    obtain ⟨rfl, inside, word, entry, consumed, scanned, isWord, rfl⟩ := openTag_eq_ok.1 entered
    obtain rfl := Cursor.eq_forward_of_consume? consumed
    have consumed' : cursor'.consume? state.delimiters.block.opening =
        some (cursor'.forward state.delimiters.block.opening.length) :=
      Cursor.consume?_of_begins (State.begins_of_kind? (sameKind.trans opens))
    obtain ⟨word', entry', scanned', sameWord, onward⟩ := Region.token_respaced closer scanned faces
      (Region.not_closing_of_isWord closer scanned isWord)
    obtain ⟨finish', holds', last⟩ :=
      (Region.respacing ⟨grammar, _⟩ closer isClosing relocation tail turns).holds holds
        (onward.faces closer) (.inl (Region.isDone_of_close closes))
    obtain ⟨behind', closes', ahead⟩ := Region.close_respaced closer isClosing closes last turns
    have isWord' : word'.isWord (tag.moved relocation).keyword = true := by
      rw [sameWord.isWord_eq, Tag.keyword_moved]
      exact isWord
    have entered' : openTag (tag.moved relocation).keyword
        ⟨cursor', state.delimiters, includes', journal'⟩ = .ok cursor'.position _ :=
      openTag_eq_ok.2 ⟨rfl, _, word', entry', consumed', scanned', isWord', rfl⟩
    have step' : Step (grammar.turning turns) _ _ _ :=
      .tag (sameKind.trans opens) entered' holds' closes'
    rw [here, ahead.here further.settled] at step'
    refine ⟨tail, _, step', ahead, further, ?_, ?_⟩
    · simp only [State.delimiters_noted]
    · simp only [State.delimiters_noted]

/-- Segments are the same between other blanks, up to positions. -/
theorem Steps.respaced
    {segments : List Segment}
    (preset : delimiters.IsPreset)
    (complete : ∀ kind, kind ∈ grammar.order)
    (steps : Steps grammar state segments after)
    (respaced : State.Respaced relocation delimiters stretches state target)
    (turns : Nat) :
    ∃ rest after', Steps (grammar.turning turns) target
        (segments.map (Segment.moved relocation)) after' ∧
      State.Respaced relocation delimiters rest after after' := by
  induction steps generalizing stretches target with
  | nil => exact ⟨stretches, target, .nil, respaced⟩
  | cons step _ hypothesis =>
    obtain ⟨_, middle, step', onward⟩ := step.respaced preset complete respaced turns
    obtain ⟨rest, after', steps', last⟩ := hypothesis onward
    exact ⟨rest, after', .cons step' steps', last⟩

/-! ## Every source is cut into stretches -/

/-- A comment that is passed is written between its delimiters. -/
theorem exists_commented
    {order : List Kind}
    (opens : state.kind? order = some .comment)
    (skipped : comment state = .ok () after) :
    ∃ content, state.cursor.rest = state.delimiters.commented content ++ after.cursor.rest ∧
      Text.splitFirst state.delimiters.comment.closing
        (content ++ state.delimiters.comment.closing) = some (content, []) := by
  obtain ⟨content, behind, through, rfl⟩ := comment_eq_ok.1 skipped
  have inside := Cursor.rest_of_readThrough? through
  refine ⟨content, ?_, ?_⟩
  · rw [State.rest_of_kind? opens, Delimiters.commented, List.append_assoc, List.append_assoc,
      ← List.append_assoc content]
    exact congrArg (_ ++ ·) inside
  · rw [Cursor.readThrough?, inside] at through
    split at through
    · cases through
    · rename_i front back found
      obtain ⟨rfl, _⟩ := Prod.mk.inj (Option.some.inj through)
      exact Text.splitFirst_of_append state.delimiters.comment.closing_ne_nil found

/-- A region is cut into stretches if its inside is, from the first lexeme on. -/
theorem State.exists_stretches_of_inside
    {kind : Kind}
    {order : List Kind}
    {inner : List Stretch}
    (opens : state.kind? order = some kind)
    (isRegion : kind = .inline ∨ kind = .block)
    (settled : Settled inner)
    (inside : Inside (state.delimiters.pair kind).closing inner)
    (respaces : state.delimiters.Respaces stretches)
    (whole : (state.cursor.forward (state.delimiters.pair kind).opening.length).skipBlanks.rest =
      before inner ++ before stretches) :
    ∃ whole, state.delimiters.Respaces whole ∧ state.cursor.rest = before whole := by
  obtain ⟨gap, blank, split⟩ :=
    (state.cursor.forward (state.delimiters.pair kind).opening.length).exists_blanks
  refine ⟨_, .region isRegion blank blank settled inside respaces, ?_⟩
  rw [State.rest_of_kind? opens, split, whole]
  simp only [before, before_append]

/-- What a segment takes is cut into stretches. -/
theorem Step.exists_stretches
    (preset : state.delimiters.IsPreset)
    (complete : ∀ kind, kind ∈ grammar.order)
    (step : Step grammar state segment after)
    (noPragma : segment.kind? ≠ some .pragma)
    (respaces : state.delimiters.Respaces stretches)
    (unread : after.cursor.rest = before stretches) :
    ∃ whole, state.delimiters.Respaces whole ∧ state.cursor.rest = before whole := by
  cases step with
  | text =>
    have split := state.textRun_append grammar.order
    dsimp only at unread
    rw [State.textRun, Cursor.readBefore, Cursor.rest_forward] at unread split
    refine ⟨_, respaces.of_run complete unread, ?_⟩
    rw [before_append, before_points, ← unread]
    exact split.symm
  | insertion opens reads closes =>
    obtain ⟨first, second, isClosing, closer⟩ := preset.exists_closer .inline (.inl rfl)
    obtain ⟨_, _, rfl, covers⟩ := (Region.covering ⟨grammar, _⟩ closer isClosing _).reads reads
      ⟨rfl, .start _⟩ (.inl (Region.isDone_of_close closes))
    have notDone := reads.isDone_eq_false rfl
    rw [Bool.eq_false_iff, Ne, Region.isDone_iff] at notDone
    obtain ⟨inner, settled, inside, whole⟩ :=
      Region.exists_inside isClosing (isClosing ▸ notDone) covers closes
    exact State.exists_stretches_of_inside opens (.inl rfl) settled (isClosing ▸ inside) respaces
      (whole.trans (congrArg (_ ++ ·) unread))
  | comment opens skipped =>
    obtain ⟨content, whole, closed⟩ := exists_commented opens skipped
    refine ⟨_, .comment closed respaces, ?_⟩
    rw [whole, unread]
    rfl
  | pragma => exact absurd rfl noPragma
  | @tag opened opener tag finish behind opens entered holds closes =>
    obtain ⟨first, second, isClosing, closer⟩ := preset.exists_closer .block (.inr rfl)
    obtain ⟨rfl, start, word, entry, consumed, scanned, isWord, rfl⟩ := openTag_eq_ok.1 entered
    obtain rfl := Cursor.eq_forward_of_consume? consumed
    have notDone := Region.not_closing_of_isWord closer scanned isWord
    have onward := (Cursor.Covers.start _).token closer scanned notDone
    obtain ⟨_, _, rfl, covers⟩ := (Region.covering ⟨grammar, _⟩ closer isClosing _).holds holds
      ⟨rfl, onward⟩ (.inl (Region.isDone_of_close closes))
    obtain ⟨inner, settled, inside, whole⟩ :=
      Region.exists_inside isClosing notDone covers closes
    exact State.exists_stretches_of_inside opens (.inr rfl) settled (isClosing ▸ inside) respaces
      (whole.trans (congrArg (_ ++ ·) unread))

/-- A source in which no pragma opens is cut into stretches. -/
theorem Steps.exists_stretches
    {segments : List Segment}
    (preset : state.delimiters.IsPreset)
    (complete : ∀ kind, kind ∈ grammar.order)
    (steps : Steps grammar state segments after)
    (noPragma : ∀ segment ∈ segments, segment.kind? ≠ some .pragma)
    (ended : after.cursor.rest = []) :
    ∃ whole, state.delimiters.Respaces whole ∧ state.cursor.rest = before whole := by
  induction steps with
  | nil => exact ⟨[], .nothing, ended⟩
  | cons step _ hypothesis =>
    obtain ⟨here, others⟩ := List.forall_mem_cons.1 noPragma
    have same := step.exists_content.2 here
    obtain ⟨stretches, respaces, unread⟩ := hypothesis (same ▸ preset) others ended
    exact step.exists_stretches preset complete here (same ▸ respaces) unread

end Document

namespace Template

open Document

variable
  {options : Options}
  {name source : Text}
  {delimiters : Delimiters}

/-- No pragma opens where a source is read. -/
def Origin.IsPragmaFree (origin : Origin) : Prop :=
  ∀ state, origin.Attains state → state.kind? origin.options.order ≠ some .pragma

theorem Origin.IsPragmaFree.kind?_ne_pragma
    {origin : Origin}
    {state after : State}
    {segments : List Segment}
    (pragmaFree : origin.IsPragmaFree)
    (attained : origin.Attains state)
    (steps : Steps origin.grammar state segments after) :
    ∀ segment ∈ segments, segment.kind? ≠ some .pragma := by
  induction steps with
  | nil => exact fun _ none => absurd none List.not_mem_nil
  | cons step _ hypothesis =>
    refine List.forall_mem_cons.2 ⟨?_, hypothesis (attained.steps (.single step))⟩
    cases step with
    | pragma opens => exact absurd opens (pragmaFree _ attained)
    | _ => simp [Segment.kind?]

/-- A source without the opening delimiter of pragmas has no pragma. -/
theorem Origin.isPragmaFree_of_not_infix
    {origin : Origin}
    (absent : ¬ origin.delimiters.pragma.opening <:+: origin.source) :
    origin.IsPragmaFree := by
  intro state attained opens
  have begins := State.begins_of_kind? opens
  have active : state.delimiters = origin.delimiters :=
    Origin.Active.eq_of_noPragma ⟨state, attained, rfl, rfl⟩ absent
  rw [active, attained.has.eq_ofIndex.2.2] at begins
  exact absent (begins.isInfix.trans (List.drop_suffix _ _).isInfix)

/-- With other blanks in its regions, a source is cut into the segments at their new
positions. -/
theorem weaves_respaced
    {template : Template}
    {segments : List Segment}
    {levels : Nat}
    {final : State}
    {stretches : List Stretch}
    (preset : delimiters.IsPreset)
    (complete : ∀ kind, kind ∈ options.order)
    (respaces : delimiters.Respaces stretches)
    (arises : Arises options name delimiters (before stretches) template segments levels final) :
    Weaves options name delimiters (after stretches) segments final := by
  obtain ⟨relocation, keeps, aligned⟩ := Cursor.exists_aligned name respaces.whole
  have respaced : State.Respaced relocation delimiters stretches
      (initial name delimiters (before stretches)) (initial name delimiters (after stretches)) :=
    ⟨aligned, respaces, rfl, rfl⟩
  obtain ⟨rest, last, steps, lastRespaced⟩ :=
    arises.steps.respaced preset complete respaced ((after stretches).length + 1)
  refine ⟨0, _, last, steps, .of_moved keeps segments, ?_, ?_⟩
  · have ended := arises.ended
    have same := lastRespaced.respaces.take_eq preset 1 (by decide)
    rw [Cursor.isAtEnd, List.isEmpty_iff, lastRespaced.aligned.before] at ended
    rw [ended, List.take_nil, List.take_eq_nil_iff] at same
    rw [Cursor.isAtEnd, List.isEmpty_iff, lastRespaced.aligned.after]
    exact same.resolve_left (by decide)
  · rw [lastRespaced.active, lastRespaced.active']

/-- The layout within regions does not matter.  Let a source without pragmas be read with
named delimiters.  It can be cut into stretches of which only blanks in the regions of
expressions and tags may be exchanged; and however it is cut and the blanks are
exchanged, the new source is read to the same tree, up to positions, and with the same
includes. -/
theorem read_respaced
    (options : Options)
    (name : Text)
    (delimiters : Delimiters)
    (source : Text)
    (template : Template)
    (preset : delimiters.IsPreset)
    (complete : ∀ kind, kind ∈ options.order)
    (pragmaFree : Origin.IsPragmaFree ⟨options, name, delimiters, source⟩)
    (success : (read options name delimiters source).result = .ok template) :
    (∃ stretches, delimiters.Respaces stretches ∧ before stretches = source) ∧
      ∀ stretches, delimiters.Respaces stretches → before stretches = source →
        ∃ template', (read options name delimiters (after stretches)).result = .ok template' ∧
          template'.root.same template.root = true ∧
          template'.includes.counts = template.includes.counts := by
  obtain ⟨segments, levels, final, arises⟩ := arises_of_read success
  constructor
  · obtain ⟨stretches, respaces, unread⟩ := Steps.exists_stretches preset complete arises.steps
      (pragmaFree.kind?_ne_pragma (Origin.attains_start _) arises.steps)
      (List.isEmpty_iff.1 arises.ended)
    exact ⟨stretches, respaces, unread.symm⟩
  · rintro stretches respaces rfl
    obtain ⟨template', success', same, counts, _⟩ :=
      arises.read_of_weaves (weaves_respaced preset complete respaces arises)
    exact ⟨template', success', same, counts⟩

/-- The tag of an include with other blanks, from its word on. -/
def inclusionInside : List Stretch :=
  points (Text.of "include") ++ .gap (Text.of " ") (Text.of "\n\t") ::
    .kept (StringLiteral.between (Text.of "k")) :: .gap (Text.of "  ") (Text.of " ") ::
    (points (Text.of "with") ++ .gap (Text.of " ") (Text.of "\n") ::
      (points (Text.of "b+1") ++ [.gap [] (Text.of " "), .kept (Text.of "%\x7d")]))

/-- A text and an include with other blanks. -/
def inclusionStretches : List Stretch :=
  points (Text.of "a") ++ .kept (Text.of "\x7b%") :: .gap (Text.of " ") [] ::
    (inclusionInside ++ [])

theorem respaces_inclusionStretches : Delimiters.braces.Respaces inclusionStretches := by
  have closer : Closer '%' '\x7d' :=
    .of_stray ⟨by decide, by decide, by decide +kernel, by decide⟩
  have quotes : StringLiteral.Quotes (Text.of "k") (Text.of "k") :=
    .cons (.verbatim (by decide) (by decide) (by decide)) .nil
  have blanks {old new : Text} {rest : List Stretch}
      (sound : old ≠ [] ∧ new ≠ [] ∧ old.isBlank = true ∧ new.isBlank = true)
      (settled : Settled rest) (further : Inside (Text.of "%\x7d") rest) :
      Inside (Text.of "%\x7d") (.gap old new :: rest) :=
    .blanks sound.1 sound.2.1 sound.2.2.1 sound.2.2.2 settled further
  have inside : Inside (Text.of "%\x7d") inclusionInside := by
    refine .points closer _ (blanks (by decide) trivial ?_) (by decide +kernel)
    refine .literal quotes (blanks (by decide) trivial ?_)
    refine .points closer _ (blanks (by decide) trivial ?_) (by decide +kernel)
    exact .points closer _ (.closed (by decide) (by decide)) (by decide +kernel)
  have tag : Delimiters.braces.Respaces (.kept (Delimiters.braces.pair .block).opening ::
      .gap (Text.of " ") [] :: (inclusionInside ++ [])) :=
    .region (.inr rfl) (by decide) rfl trivial inside .nothing
  refine .text (fun kind => ?_) tag
  cases kind <;> decide

/-- Blanks in the tag of an include are exchanged, added and left out. -/
theorem read_respaced_of_inclusion :
    before inclusionStretches = Text.of "a\x7b% include \"k\"  with b+1%\x7d" ∧
      after inclusionStretches = Text.of "a\x7b%include\n\t\"k\" with\nb+1 %\x7d" ∧
      ∃ template template',
        (read {} [] .braces (before inclusionStretches)).result = .ok template ∧
        (read {} [] .braces (after inclusionStretches)).result = .ok template' ∧
        template'.root.same template.root = true ∧
        template'.includes.counts = [(Text.of "k", 1)] := by
  refine ⟨by decide, by decide, ?_⟩
  have success : (read {} [] .braces (before inclusionStretches)).result.toOption.map
      (fun template => template.includes.counts) = some [(Text.of "k", 1)] := by
    decide +kernel
  obtain ⟨template, found, counts⟩ := Option.map_eq_some_iff.1 success
  rw [Reading.toOption_eq_some] at found
  have noPragma : ¬ Delimiters.braces.pragma.opening <:+: before inclusionStretches := by
    decide +kernel
  have complete : ∀ kind, kind ∈ Kind.all := fun kind => by cases kind <;> decide
  obtain ⟨template', found', same, sameCounts⟩ := (read_respaced {} [] .braces _ template (.inl rfl)
    complete (Origin.isPragmaFree_of_not_infix noPragma) found).2 _ respaces_inclusionStretches rfl
  exact ⟨template, template', found, found', same, sameCounts.trans counts⟩

end Template

end Stencil
