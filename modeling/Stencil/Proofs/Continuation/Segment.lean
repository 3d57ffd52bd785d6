import Mathlib.Data.List.Find
import Stencil.Proofs.Continuation.Expression
import Stencil.Proofs.Slice

/-!
# Segments in other texts

The segments of a source are the same when another text follows, and the same at
another place up to positions, if no opening delimiter reaches from them into the
text behind.  Only a text at the very end may go on in what follows.
-/

namespace Stencil

namespace Text

/-- A literal begins in a text and ends in the text behind it. -/
def Straddles (literal left right : Text) : Prop :=
  ∃ front back, front ≠ [] ∧ back ≠ [] ∧ literal = front ++ back ∧ front <:+ left ∧ back <+: right

theorem straddles_iff_exists_take (literal left right : Text) :
    Straddles literal left right ↔
      ∃ count < literal.length, 0 < count ∧ literal.take count <:+ left ∧
        literal.drop count <+: right := by
  constructor
  · rintro ⟨front, back, frontSome, backSome, rfl, ends, begins⟩
    refine ⟨front.length, ?_, List.length_pos_iff.2 frontSome, ?_, ?_⟩
    · rw [List.length_append]
      exact Nat.lt_add_of_pos_right (List.length_pos_iff.2 backSome)
    · rwa [List.take_left]
    · rwa [List.drop_left]
  · rintro ⟨count, within, positive, ends, begins⟩
    refine ⟨_, _, ?_, ?_, (List.take_append_drop count literal).symm, ends, begins⟩
    · exact List.ne_nil_of_length_pos (by rw [List.length_take]; omega)
    · exact List.ne_nil_of_length_pos (by rw [List.length_drop]; omega)

instance (literal left right : Text) : Decidable (Straddles literal left right) :=
  decidable_of_iff _ (straddles_iff_exists_take literal left right).symm

theorem Straddles.of_suffix
    {literal left shorter right : Text}
    (straddles : Straddles literal shorter right)
    (suffix : shorter <:+ left) :
    Straddles literal left right := by
  obtain ⟨front, back, frontSome, backSome, whole, ends, begins⟩ := straddles
  exact ⟨front, back, frontSome, backSome, whole, ends.trans suffix, begins⟩

/-- Where a literal does not reach into the text behind, it begins a text exactly
if it begins the longer one. -/
theorem prefix_append_iff_of_not_straddles
    {literal left right : Text}
    (apart : ¬ Straddles literal left right)
    (notEmpty : left ≠ []) :
    literal <+: left ++ right ↔ literal <+: left := by
  constructor
  · intro begins
    rcases Nat.le_total literal.length left.length with fits | longer
    · exact List.prefix_of_prefix_length_le begins (List.prefix_append _ _) fits
    · obtain ⟨back, rfl⟩ :=
        List.prefix_of_prefix_length_le (List.prefix_append left right) begins longer
      by_cases backSome : back = []
      · simp [backSome]
      · refine absurd ⟨left, back, notEmpty, backSome, rfl, List.suffix_refl _, ?_⟩ apart
        exact (List.prefix_append_right_inj left).1 begins
  · intro begins
    exact begins.trans (List.prefix_append _ _)

/-- The part of a longer text before some literals: the same part, or all of the
text and the part of what follows. -/
theorem beforeAny_append
    {literals : List Text}
    {text more : Text}
    (apart : ∀ literal ∈ literals, ¬ Straddles literal text more) :
    beforeAny literals (text ++ more) =
      if beforeAny literals text = text then text ++ beforeAny literals more
      else beforeAny literals text := by
  induction text with
  | nil => rfl
  | cons point rest hypothesis =>
    have sameHere : (literals.any fun literal => literal.isPrefixOf (point :: (rest ++ more))) =
        literals.any fun literal => literal.isPrefixOf (point :: rest) := by
      rw [Bool.eq_iff_iff]
      simp only [List.any_eq_true, List.isPrefixOf_iff_prefix]
      refine exists_congr fun literal => and_congr_right fun member => ?_
      exact prefix_append_iff_of_not_straddles (apart literal member) (List.cons_ne_nil _ _)
    have apartRest : ∀ literal ∈ literals, ¬ Straddles literal rest more := by
      intro literal member straddles
      exact apart literal member (straddles.of_suffix (List.suffix_cons point rest))
    rw [List.cons_append, beforeAny, beforeAny, sameHere]
    cases literals.any fun literal => literal.isPrefixOf (point :: rest) with
    | true => simp
    | false =>
      simp only [Bool.false_eq_true, if_false, hypothesis apartRest, List.cons.injEq, true_and]
      split <;> rfl

/-- A run of text ends: nothing is left, or one of some literals follows. -/
def EndsRun (literals : List Text) (rest : Text) : Prop :=
  rest = [] ∨ ∃ literal ∈ literals, literal <+: rest

theorem EndsRun.beforeAny_eq_nil
    {literals : List Text}
    {rest : Text}
    (ends : EndsRun literals rest) :
    beforeAny literals rest = [] := by
  rcases ends with rfl | ⟨literal, member, begins⟩
  · rfl
  · cases rest with
    | nil => rfl
    | cons point rest =>
      have found : (literals.any fun literal => literal.isPrefixOf (point :: rest)) = true :=
        List.any_eq_true.2 ⟨literal, member, List.isPrefixOf_iff_prefix.2 begins⟩
      rw [beforeAny, if_pos found]

/-- The part before some literals is a run of text. -/
theorem endsRun_beforeAny (literals : List Text) (text : Text) :
    EndsRun literals (text.drop (beforeAny literals text).length) := by
  induction text with
  | nil => exact .inl rfl
  | cons point rest hypothesis =>
    rw [beforeAny]
    split
    · rename_i found
      obtain ⟨literal, member, begins⟩ := List.any_eq_true.1 found
      exact .inr ⟨literal, member, List.isPrefixOf_iff_prefix.1 begins⟩
    · exact hypothesis

/-- A literal begins a text and ends in the text behind it. -/
def Overruns (literal left right : Text) : Prop :=
  literal <+: left ++ right ∧ left.length < literal.length

instance (literal left right : Text) : Decidable (Overruns literal left right) :=
  inferInstanceAs (Decidable (_ ∧ _))

theorem Overruns.straddles
    {literal left right : Text}
    (overruns : Overruns literal left right)
    (notEmpty : left ≠ []) :
    Straddles literal left right := by
  obtain ⟨begins, longer⟩ := overruns
  obtain ⟨back, rfl⟩ :=
    List.prefix_of_prefix_length_le (List.prefix_append left right) begins (Nat.le_of_lt longer)
  have backSome : back ≠ [] := by
    rintro rfl
    rw [List.append_nil] at longer
    exact Nat.lt_irrefl _ longer
  exact ⟨left, back, notEmpty, backSome, rfl, List.suffix_refl _,
    (List.prefix_append_right_inj left).1 begins⟩

theorem prefix_of_not_overruns
    {literal left right : Text}
    (apart : ¬ Overruns literal left right)
    (begins : literal <+: left ++ right) :
    literal <+: left :=
  List.prefix_of_prefix_length_le begins (List.prefix_append _ _)
    (Nat.le_of_not_lt fun longer => apart ⟨begins, longer⟩)

/-- A run of text that ends before the old end of a text and before the new one is the
same in both, if no literal begins in it and ends in the new end. -/
theorem beforeAny_swaps
    {literals : List Text}
    {shared old new : Text}
    (apart : ∀ literal ∈ literals, ∀ front back, shared = front ++ back → back ≠ [] →
      front <+: beforeAny literals (shared ++ old) → ¬ Overruns literal back new)
    (within : (beforeAny literals (shared ++ old)).length ≤ shared.length)
    (ends : EndsRun literals ((shared ++ new).drop
      (beforeAny literals (shared ++ old)).length)) :
    beforeAny literals (shared ++ new) = beforeAny literals (shared ++ old) := by
  induction shared with
  | nil =>
    rw [List.length_nil, Nat.le_zero, List.length_eq_zero_iff] at within
    rw [within] at ends ⊢
    exact ends.beforeAny_eq_nil
  | cons point shared hypothesis =>
    by_cases found : (literals.any fun literal =>
        literal.isPrefixOf (point :: (shared ++ old))) = true
    · have nothing : beforeAny literals (point :: shared ++ old) = [] := by
        rw [List.cons_append, beforeAny, if_pos found]
      rw [nothing] at ends ⊢
      exact ends.beforeAny_eq_nil
    · -- A literal that began here with the new end would begin here with the old one.
      have absent : ¬ (literals.any fun literal =>
          literal.isPrefixOf (point :: (shared ++ new))) = true := by
        simp only [List.any_eq_true, List.isPrefixOf_iff_prefix, not_exists, not_and] at found ⊢
        intro literal member begins
        have apartHere := apart literal member [] (point :: shared) rfl (List.cons_ne_nil _ _)
          List.nil_prefix
        exact found literal member
          ((prefix_of_not_overruns apartHere begins).trans (List.prefix_append _ _))
      have run : beforeAny literals (point :: shared ++ old) =
          point :: beforeAny literals (shared ++ old) := by
        rw [List.cons_append, beforeAny, if_neg found]
      rw [run] at within ends apart ⊢
      rw [List.cons_append, beforeAny, if_neg absent,
        hypothesis ?_ (Nat.le_of_succ_le_succ within) ends]
      rintro literal member front back rfl backSome begins
      exact apart literal member (point :: front) back rfl backSome
        ((List.prefix_cons_inj point).2 begins)

/-- The first occurrence of a literal before the old end of a text is the first one
before every other end. -/
theorem Swaps.splitFirst
    {literal old new text target before after : Text}
    (swaps : Swaps old new text target)
    (notEmpty : literal ≠ [])
    (found : splitFirst literal text = some (before, after))
    (fits : old.length ≤ after.length) :
    ∃ after', Text.splitFirst literal target = some (before, after') := by
  induction text generalizing before after target with
  | nil => simp [Text.splitFirst, notEmpty] at found
  | cons point rest hypothesis =>
    have lengths := congrArg List.length (eq_of_splitFirst found)
    rw [List.length_append, List.length_append] at lengths
    have sameHere : literal.isPrefixOf target = literal.isPrefixOf (point :: rest) := by
      rw [Bool.eq_iff_iff, List.isPrefixOf_iff_prefix, List.isPrefixOf_iff_prefix]
      exact swaps.prefix_iff (by omega)
    have positive := List.length_pos_iff.2 notEmpty
    obtain ⟨_, _, rest', same, rfl, behind⟩ := swaps.exists_cons (by omega)
    obtain ⟨rfl, rfl⟩ := List.cons.inj same
    rw [Text.splitFirst] at found
    rw [Text.splitFirst, sameHere]
    split at found
    · rename_i begins
      obtain ⟨rfl, rfl⟩ := Prod.mk.inj (Option.some.inj found)
      rw [if_pos begins]
      exact ⟨_, rfl⟩
    · rename_i absent
      simp only [Option.map_eq_some_iff, Prod.exists, Prod.mk.injEq] at found
      obtain ⟨front, back, split, rfl, rfl⟩ := found
      obtain ⟨after', split'⟩ := hypothesis behind split fits
      rw [if_neg absent, split']
      exact ⟨after', rfl⟩

end Text

variable
  {relocation : Relocation}
  {old new more : Text}

namespace Cursor

variable {cursor target behind : Cursor}

theorem Swaps.startsWith_eq
    {literal : Text}
    (swaps : Swaps relocation old new cursor target)
    (fits : literal.length + old.length ≤ cursor.rest.length) :
    target.startsWith literal = cursor.startsWith literal := by
  rw [Bool.eq_iff_iff, startsWith, startsWith, List.isPrefixOf_iff_prefix,
    List.isPrefixOf_iff_prefix]
  exact swaps.rest.prefix_iff fits

theorem Swaps.readThrough?
    {literal before : Text}
    (swaps : Swaps relocation old new cursor target)
    (notEmpty : literal ≠ [])
    (through : cursor.readThrough? literal = some (before, behind))
    (within : old.length ≤ behind.rest.length) :
    ∃ behind', target.readThrough? literal = some (before, behind') ∧
      Swaps relocation old new behind behind' := by
  have unread := rest_of_readThrough? through
  simp only [Cursor.readThrough?] at through
  split at through
  · cases through
  · rename_i front back found
    obtain ⟨rfl, rfl⟩ := Prod.mk.inj (Option.some.inj through)
    have isBack : back = (cursor.forward (front.length + literal.length)).rest := by
      rw [rest_forward, Text.eq_of_splitFirst found, ← List.length_append, List.drop_left]
    obtain ⟨back', found'⟩ := swaps.rest.splitFirst notEmpty found (isBack ▸ within)
    refine ⟨target.forward (front.length + literal.length), ?_, swaps.forward ?_⟩
    · rw [Cursor.readThrough?, found']
    · rw [unread, List.length_append, List.length_append]
      omega

end Cursor

namespace Document

/-! ## What regions hold -/

theorem bindingSign_swaps
    {cursor target behind : Cursor}
    {name : Text}
    (success : bindingSign name cursor = .ok ((), behind))
    (swaps : Cursor.Swaps relocation old new cursor target)
    (left : old.length < behind.rest.length) :
    ∃ behind', bindingSign name target = .ok ((), behind') ∧
      Cursor.Swaps relocation old new behind behind' := by
  obtain ⟨single, consumed⟩ := bindingSign_eq_ok.1 success
  have unread := Cursor.rest_of_consume? consumed
  have fits : (Text.of "==").length + old.length ≤ cursor.skipBlanks.rest.length := by
    have oneSign : (Text.of "=").length = 1 := by decide
    have twoSigns : (Text.of "==").length = 2 := by decide
    rw [unread, List.length_append]
    omega
  have onward := swaps.skipBlanks (Nat.lt_of_lt_of_le (Nat.lt_add_of_pos_left (by decide)) fits)
  obtain ⟨behind', consumed', further⟩ := onward.consume? consumed (Nat.le_of_lt left)
  exact ⟨behind', bindingSign_eq_ok.2 ⟨(onward.startsWith_eq fits).trans single, consumed'⟩,
    further⟩

end Document

/-- A region is read alongside itself before another end and at another place, with
another number of turns. -/
def Region.swapping
    (region : Region)
    (relocation : Relocation)
    (old new : Text)
    (turns : Nat) :
    region.Alongside (region.turning turns) relocation where
  related := Cursor.Swaps relocation old new
  room := region.HasRoom old
  known := region.Decided old
  operators := region.operators_turning turns
  room_of_known decided := decided.room
  room_of_reaches room reaches := room.of_reaches reaches
  known_of_token scanned _ room := .of_token scanned room
  isDone_eq swaps decided := decided.room.isDone_eq swaps
  continues swaps decided next := next.swaps swaps decided
  tokens swaps scanned _ decided := Reading.token_swaps scanned swaps decided.room.left
  touches swaps scanned _ decided touches scanned' := by
    obtain ⟨_, _, again, _, further⟩ := Reading.token_swaps scanned swaps decided.room.left
    rw [scanned'] at again
    obtain ⟨rfl, rfl⟩ := Prod.mk.inj (Except.ok.inj again)
    exact isBeforeDigit_swaps touches further decided.room.left
  bindingSign swaps signed room := Document.bindingSign_swaps signed swaps room.left

namespace Document

variable
  {region : Region}
  {cursor target behind finish : Cursor}

/-! ## Pragmas -/

/-- A field of a pragma is a kind, a sign and a pair of string literals. -/
theorem pragmaField_eq_ok
    {kind : Kind}
    {value : Value} :
    pragmaField region cursor = .ok ((kind, value), finish) ↔
      ∃ name afterName sign afterSign left afterLeft opening afterOpening comma afterComma closing
          afterClosing right,
        region.Continues cursor name afterName ∧ name.kind = .identifier ∧
        Kind.ofName? name.value = some kind ∧
        Reading.expectOperator (Text.of "=") afterName = .ok (sign, afterSign) ∧
        Reading.expect .opening (.literal (Text.of "(")) afterSign = .ok (left, afterLeft) ∧
        Reading.expect .string .delimiterString afterLeft = .ok (opening, afterOpening) ∧
        Reading.expect .comma (.literal (Text.of ",")) afterOpening = .ok (comma, afterComma) ∧
        Reading.expect .string .delimiterString afterComma = .ok (closing, afterClosing) ∧
        Reading.expect .closing (.literal (Text.of ")")) afterClosing = .ok (right, finish) ∧
        value = .tuple [.text opening.value, .text closing.value] := by
  simp only [pragmaField, Reading.bind_eq_ok, Prod.exists]
  constructor
  · rintro ⟨name, afterName, scanned, outcome⟩
    split at outcome
    · simp at outcome
    · rename_i isName
      simp only [ne_eq, decide_not, Bool.or_eq_true, Bool.not_eq_eq_eq_not, Bool.not_true,
        decide_eq_false_iff_not, not_or, Decidable.not_not, Bool.not_eq_true] at isName
      split at outcome
      · simp at outcome
      · rename_i found known
        simp only [Reading.bind_eq_ok, Prod.exists, Reading.pure_eq_ok, Prod.mk.injEq] at outcome
        obtain ⟨sign, afterSign, signed, left, afterLeft, opened, opening, afterOpening, first,
          comma, afterComma, separated, closing, afterClosing, second, right, after, closed,
          ⟨rfl, rfl⟩, rfl⟩ := outcome
        exact ⟨name, afterName, sign, afterSign, left, afterLeft, opening, afterOpening, comma,
          afterComma, closing, afterClosing, right, ⟨isName.2, scanned⟩, isName.1, known, signed,
          opened, first, separated, second, closed, rfl⟩
  · rintro ⟨name, afterName, sign, afterSign, left, afterLeft, opening, afterOpening, comma,
      afterComma, closing, afterClosing, right, ⟨notDone, scanned⟩, isName, known, signed, opened,
      first, separated, second, closed, rfl⟩
    refine ⟨name, afterName, scanned, ?_⟩
    simp [isName, notDone, known, signed, opened, first, separated, second, closed]

theorem expectOperator_swaps
    {symbol : Text}
    {token : Token}
    (success : Reading.expectOperator symbol cursor = .ok (token, behind))
    (swaps : Cursor.Swaps relocation old new cursor target)
    (left : old.length < behind.rest.length) :
    ∃ token' behind', Reading.expectOperator symbol target = .ok (token', behind') ∧
      Cursor.Swaps relocation old new behind behind' := by
  obtain ⟨scanned, isOperator⟩ := Reading.expectOperator_eq_ok.1 success
  obtain ⟨token', behind', scanned', sameToken, further⟩ :=
    Reading.token_swaps scanned swaps left
  exact ⟨token', behind', Reading.expectOperator_eq_ok.2
    ⟨scanned', by rwa [sameToken.isOperator_eq]⟩, further⟩

theorem pragmaField_swaps
    {kind : Kind}
    {value : Value}
    (success : pragmaField region cursor = .ok ((kind, value), finish))
    (swaps : Cursor.Swaps relocation old new cursor target)
    (room : region.HasRoom old finish) :
    ∃ finish', pragmaField region target = .ok ((kind, value), finish') ∧
      Cursor.Swaps relocation old new finish finish' := by
  obtain ⟨name, afterName, sign, afterSign, left, afterLeft, opening, afterOpening, comma,
    afterComma, closing, afterClosing, right, next, isName, known, signed, opened, first,
    separated, second, closed, rfl⟩ := pragmaField_eq_ok.1 success
  -- There is room behind each token, since the last one has room behind it.
  have roomClosing := room.of_reaches (expect_passes closed Token.Kind.noConfusion).1
  have roomComma := roomClosing.of_reaches (expect_passes second Token.Kind.noConfusion).1
  have roomOpening := roomComma.of_reaches (expect_passes separated Token.Kind.noConfusion).1
  have roomLeft := roomOpening.of_reaches (expect_passes first Token.Kind.noConfusion).1
  have roomSign := roomLeft.of_reaches (expect_passes opened Token.Kind.noConfusion).1
  have roomName := roomSign.of_reaches
    (Region.token_reaches (Reading.expectOperator_eq_ok.1 signed).1)
  obtain ⟨name', _, next', sameName, swaps⟩ := next.swaps swaps (.of_token next.2 roomName)
  obtain ⟨sign', _, signed', swaps⟩ := expectOperator_swaps signed swaps roomSign.left
  obtain ⟨left', _, opened', _, swaps⟩ := Region.expect_swaps opened swaps roomLeft.left
  obtain ⟨opening', _, first', sameOpening, swaps⟩ :=
    Region.expect_swaps first swaps roomOpening.left
  obtain ⟨comma', _, separated', _, swaps⟩ := Region.expect_swaps separated swaps roomComma.left
  obtain ⟨closing', _, second', sameClosing, swaps⟩ :=
    Region.expect_swaps second swaps roomClosing.left
  obtain ⟨right', finish', closed', _, swaps⟩ := Region.expect_swaps closed swaps room.left
  refine ⟨finish', pragmaField_eq_ok.2 ⟨_, _, _, _, _, _, _, _, _, _, _, _, _, next',
    sameName.kind.trans isName, ?_, signed', opened', first', separated', second', closed', ?_⟩,
    swaps⟩
  · rw [sameName.value, known]
  · rw [sameOpening.value, sameClosing.value]

theorem Changes.swaps
    {changes result : List (Kind × Value)}
    (listed : Changes region changes cursor result finish)
    (swaps : Cursor.Swaps relocation old new cursor target)
    (decided : region.Decided old finish)
    (turns : Nat) :
    ∃ finish', Changes (region.turning turns) changes target result finish' ∧
      Cursor.Swaps relocation old new finish finish' := by
  induction listed generalizing target with
  | last field done =>
    obtain ⟨finish', field', last⟩ := pragmaField_swaps field swaps decided.room
    exact ⟨finish', .last field' ((decided.room.isDone_eq last).trans done), last⟩
  | more field notDone separated rest hypothesis =>
    have commaRoom := decided.room.of_reaches rest.passes.1
    have fieldRoom := commaRoom.of_reaches (expect_passes separated Token.Kind.noConfusion).1
    obtain ⟨middle', field', onward⟩ := pragmaField_swaps field swaps fieldRoom
    obtain ⟨comma', behind', separated', _, further⟩ :=
      Region.expect_swaps separated onward commaRoom.left
    obtain ⟨finish', rest', last⟩ := hypothesis further decided
    exact ⟨finish', .more field' ((fieldRoom.isDone_eq onward).trans notDone) separated' rest',
      last⟩

/-! ## Segments -/

/-- A state stands in another source where its unread text follows but for its end,
with the same delimiters. -/
structure State.Swaps
    (relocation : Relocation)
    (old new : Text)
    (state target : State) : Prop where
  /-- The cursor stands there. -/
  cursor : Cursor.Swaps relocation old new state.cursor target.cursor
  /-- The same delimiters are active. -/
  delimiters : target.delimiters = state.delimiters

/-- A state stands in another source where its unread text follows, with the same
delimiters. -/
structure State.Moves
    (relocation : Relocation)
    (more : Text)
    (state target : State) : Prop where
  /-- The cursor stands there. -/
  cursor : Cursor.Moves relocation more state.cursor target.cursor
  /-- The same delimiters are active. -/
  delimiters : target.delimiters = state.delimiters

/-- No opening delimiter reaches from the unread text into the text behind it. -/
def State.Apart (order : List Kind) (more : Text) (state : State) : Prop :=
  ∀ kind ∈ order, ¬ Text.Straddles (state.delimiters.pair kind).opening state.cursor.rest more

/-- No opening delimiter that begins at a state or in the text there, before the old end,
reaches into the new end. -/
def State.ApartBefore (order : List Kind) (old new : Text) (state : State) : Prop :=
  ∀ kind ∈ order, ∀ run shared, run <+: (state.textRun order).1 →
    state.cursor.rest = run ++ (shared ++ old) → shared ≠ [] →
      ¬ Text.Overruns (state.delimiters.pair kind).opening shared new

/-- A run of text ends at a state before the new end. -/
def State.EndsBefore (order : List Kind) (old new : Text) (state : State) : Prop :=
  ∀ rest, Text.Swaps old new state.cursor.rest rest →
    Text.EndsRun (state.delimiters.openings order) rest

variable
  {grammar : Grammar}
  {order : List Kind}
  {kind : Kind}
  {state after destination : State}

theorem State.Apart.not_straddles
    (apart : state.Apart order more) :
    ∀ literal ∈ state.delimiters.openings order,
      ¬ Text.Straddles literal state.cursor.rest more := by
  intro literal member
  obtain ⟨kind, inOrder, rfl⟩ := List.mem_map.1 member
  exact apart kind inOrder

theorem State.Apart.apartBefore
    (apart : state.Apart order more) :
    state.ApartBefore order [] more := by
  intro kind inOrder run shared _ unread notEmpty overruns
  rw [List.append_nil] at unread
  refine apart kind inOrder ((overruns.straddles notEmpty).of_suffix ?_)
  rw [unread]
  exact List.suffix_append run shared

/-- Text is read from what is unread. -/
theorem State.textRun_append (state : State) (order : List Kind) :
    (state.textRun order).1 ++ (state.textRun order).2.rest = state.cursor.rest := by
  rw [State.textRun, Cursor.readBefore, Cursor.rest_forward]
  exact Text.beforeAny_append_drop _ _

theorem State.length_textRun_le (state : State) (order : List Kind) :
    (state.textRun order).1.length ≤ state.cursor.rest.length :=
  List.IsPrefix.length_le ⟨_, state.textRun_append order⟩

theorem State.textRun_fits
    (within : old.length ≤ (state.textRun order).2.rest.length) :
    (state.textRun order).1.length + old.length ≤ state.cursor.rest.length := by
  rw [← state.textRun_append order, List.length_append]
  exact Nat.add_le_add_left within _

theorem State.endsRun_textRun (state : State) (order : List Kind) :
    Text.EndsRun (state.delimiters.openings order) (state.textRun order).2.rest := by
  rw [State.textRun, Cursor.readBefore, Cursor.rest_forward]
  exact Text.endsRun_beforeAny _ _

/-- The same kind of region opens in a longer text. -/
theorem State.Moves.kind?_eq
    (moves : state.Moves relocation more destination)
    (apart : state.Apart order more)
    (unread : state.cursor.rest ≠ []) :
    destination.kind? order = state.kind? order := by
  have same : ∀ kind ∈ order,
      destination.cursor.startsWith (destination.delimiters.pair kind).opening =
        state.cursor.startsWith (state.delimiters.pair kind).opening := by
    intro kind member
    rw [moves.delimiters, Bool.eq_iff_iff, Cursor.startsWith, Cursor.startsWith,
      List.isPrefixOf_iff_prefix, List.isPrefixOf_iff_prefix, moves.cursor.rest]
    exact Text.prefix_append_iff_of_not_straddles (apart kind member) unread
  exact List.find?_congr same

/-- What opens before the new end opens before the old one. -/
theorem State.Swaps.startsWith_of_startsWith
    (swaps : state.Swaps relocation old new destination)
    (apart : state.ApartBefore order old new)
    (left : old.length < state.cursor.rest.length)
    (inOrder : kind ∈ order)
    (begins : destination.cursor.startsWith (destination.delimiters.pair kind).opening = true) :
    state.cursor.startsWith (state.delimiters.pair kind).opening = true := by
  obtain ⟨shared, unread, unread'⟩ := swaps.cursor.rest
  have notEmpty : shared ≠ [] := by
    rintro rfl
    rw [unread, List.nil_append] at left
    exact Nat.lt_irrefl _ left
  rw [swaps.delimiters, Cursor.startsWith, List.isPrefixOf_iff_prefix, unread'] at begins
  have apartHere := apart kind inOrder [] shared List.nil_prefix unread notEmpty
  rw [Cursor.startsWith, List.isPrefixOf_iff_prefix, unread]
  exact (Text.prefix_of_not_overruns apartHere begins).trans (List.prefix_append _ _)

theorem State.Swaps.kind?_eq_none
    (swaps : state.Swaps relocation old new destination)
    (apart : state.ApartBefore order old new)
    (left : old.length < state.cursor.rest.length)
    (noRegion : state.kind? order = none) :
    destination.kind? order = none := by
  rw [State.kind?, List.find?_eq_none] at noRegion ⊢
  intro kind inOrder begins
  exact noRegion kind inOrder (swaps.startsWith_of_startsWith apart left inOrder begins)

theorem State.Swaps.kind?_eq_some
    (swaps : state.Swaps relocation old new destination)
    (apart : state.ApartBefore order old new)
    (opens : state.kind? order = some kind)
    (fits : (state.delimiters.pair kind).opening.length + old.length ≤ state.cursor.rest.length) :
    destination.kind? order = some kind := by
  have positive := List.length_pos_iff.2 (state.delimiters.pair kind).opening_ne_nil
  rw [State.kind?, List.find?_eq_some_iff_append] at opens ⊢
  obtain ⟨begins, front, back, isOrder, before⟩ := opens
  refine ⟨?_, front, back, isOrder, ?_⟩
  · rw [swaps.delimiters, swaps.cursor.startsWith_eq fits]
    exact begins
  · intro other inFront
    have absent := before other inFront
    have inOrder : other ∈ order := isOrder ▸ List.mem_append_left _ inFront
    rw [Bool.not_eq_true'] at absent ⊢
    rw [Bool.eq_false_iff] at absent ⊢
    exact fun begins => absent (swaps.startsWith_of_startsWith apart (by omega) inOrder begins)

/-- Text that ends before both ends is the same. -/
theorem State.Swaps.textRun_eq
    (swaps : state.Swaps relocation old new destination)
    (apart : state.ApartBefore order old new)
    (within : old.length ≤ (state.textRun order).2.rest.length)
    (ended : State.EndsBefore order old new { state with cursor := (state.textRun order).2 }) :
    destination.textRun order = ((state.textRun order).1,
      destination.cursor.forward (state.textRun order).1.length) := by
  obtain ⟨shared, unread, unread'⟩ := swaps.cursor.rest
  have fits := State.textRun_fits within
  have behind : Text.Swaps old new (state.textRun order).2.rest _ :=
    (swaps.cursor.forward fits).rest
  have sameRun : Text.beforeAny (state.delimiters.openings order) destination.cursor.rest =
      Text.beforeAny (state.delimiters.openings order) state.cursor.rest := by
    rw [unread, unread']
    refine Text.beforeAny_swaps ?_ ?_ ?_
    · rintro literal member front back rfl backSome begins
      obtain ⟨kind, inOrder, rfl⟩ := List.mem_map.1 member
      rw [← unread] at begins
      exact apart kind inOrder front back begins (unread.trans (List.append_assoc _ _ _)) backSome
    · rw [unread, List.length_append] at fits
      rw [← unread]
      exact Nat.le_of_add_le_add_right fits
    · rw [← unread, ← unread', ← Cursor.rest_forward]
      exact ended _ behind
  simp only [State.textRun, Cursor.readBefore, swaps.delimiters, sameRun]

/-- A region takes at least its opening delimiter. -/
theorem Step.length_opening_le
    {segment : Segment}
    (step : Step grammar state segment after)
    (isKind : segment.kind? = some kind) :
    (state.delimiters.pair kind).opening.length + after.cursor.rest.length ≤
      state.cursor.rest.length := by
  obtain ⟨content, split, cut⟩ := step.exists_content.1
  cases cut with
  | text => cases isKind
  | @region _ _ other inner known isOther =>
    obtain rfl : kind = other := Option.some.inj (isKind.symm.trans isOther)
    simp only [split, List.length_append]
    omega

/-- A segment is the same before another end and at another place, up to positions. -/
theorem Step.swaps
    {segment : Segment}
    (step : Step grammar state segment after)
    (swaps : state.Swaps relocation old new destination)
    (apart : state.ApartBefore grammar.order old new)
    (within : old.length ≤ after.cursor.rest.length)
    (ended : segment.kind? = none → after.EndsBefore grammar.order old new)
    (turns : Nat) :
    ∃ after', Step (grammar.turning turns) destination (segment.moved relocation) after' ∧
      after.Swaps relocation old new after' := by
  obtain ⟨cursor', delimiters', includes', journal'⟩ := destination
  obtain ⟨cursorSwaps, sameDelimiters⟩ := id swaps
  dsimp only at cursorSwaps sameDelimiters
  subst sameDelimiters
  have passed := step.passes
  have left : old.length < state.cursor.rest.length := Nat.lt_of_le_of_lt within passed.2
  have fits {kind : Kind} (isKind : segment.kind? = some kind) :
      (state.delimiters.pair kind).opening.length + old.length ≤ state.cursor.rest.length :=
    Nat.le_trans (Nat.add_le_add_left within _) (step.length_opening_le isKind)
  cases step with
  | text unread noRegion =>
    have sameRun := swaps.textRun_eq apart within (ended rfl)
    have noRegion' := swaps.kind?_eq_none apart left noRegion
    have unread' : cursor'.isAtEnd = false := by
      obtain ⟨point, rest, rest', _, there, _⟩ := cursorSwaps.rest.exists_cons left
      simp [Cursor.isAtEnd, there]
    have step' : Step (grammar.turning turns) _ _ _ := .text unread' noRegion'
    have order : (grammar.turning turns).order = grammar.order := rfl
    rw [order, sameRun, cursorSwaps.here (Nat.le_of_lt left)] at step'
    exact ⟨_, step', cursorSwaps.forward (State.textRun_fits within), rfl⟩
  | insertion opens reads closes =>
    have opens' := swaps.kind?_eq_some apart opens (fits rfl)
    have notEmpty := state.delimiters.inline.closing_ne_nil
    obtain ⟨finish', reads', onward⟩ := (Region.swapping _ relocation old new turns).reads reads
      (cursorSwaps.forward (fits rfl)) (.of_close notEmpty closes within)
    obtain ⟨behind', closes', further⟩ := Region.close_swaps notEmpty closes onward within
    exact ⟨_, .insertion opens' reads' closes', further, rfl⟩
  | comment opens skipped =>
    have opens' := swaps.kind?_eq_some apart opens (fits rfl)
    obtain ⟨before, behind, through, rfl⟩ := comment_eq_ok.1 skipped
    obtain ⟨behind', through', further⟩ := (cursorSwaps.forward (fits rfl)).readThrough?
      state.delimiters.comment.closing_ne_nil through within
    exact ⟨_, .comment opens' (comment_eq_ok.2 ⟨before, behind', through', rfl⟩), further, rfl⟩
  | pragma opens listed closes changed =>
    have opens' := swaps.kind?_eq_some apart opens (fits rfl)
    have notEmpty := state.delimiters.pragma.closing_ne_nil
    obtain ⟨finish', listed', onward⟩ := listed.swaps (cursorSwaps.forward (fits rfl))
      (.of_close notEmpty closes within) turns
    obtain ⟨behind', closes', further⟩ := Region.close_swaps notEmpty closes onward within
    exact ⟨_, .pragma opens' listed' closes' changed, further, rfl⟩
  | @tag opened opener tag finish behind opens entered holds closes =>
    have opens' := swaps.kind?_eq_some apart opens (fits rfl)
    obtain ⟨rfl, inside, word, entry, consumed, scanned, isWord, rfl⟩ := openTag_eq_ok.1 entered
    have notEmpty := state.delimiters.block.closing_ne_nil
    have decided := Region.Decided.of_close notEmpty closes within
    have entryLeft := (decided.room.of_reaches holds.reaches).left
    have insideLeft := Nat.lt_of_lt_of_le entryLeft (Region.token_reaches scanned).length_le
    obtain ⟨inside', consumed', inward⟩ := cursorSwaps.consume? consumed (Nat.le_of_lt insideLeft)
    obtain ⟨word', entry', scanned', sameWord, onward⟩ :=
      Reading.token_swaps scanned inward entryLeft
    obtain ⟨finish', holds', further⟩ :=
      (Region.swapping _ relocation old new turns).holds holds onward decided
    obtain ⟨behind', closes', last⟩ := Region.close_swaps notEmpty closes further within
    have isWord' : word'.isWord (tag.moved relocation).keyword = true := by
      rw [sameWord.isWord_eq, Tag.keyword_moved]
      exact isWord
    have entered' : openTag (tag.moved relocation).keyword
        ⟨cursor', state.delimiters, includes', journal'⟩ = .ok cursor'.position _ :=
      openTag_eq_ok.2 ⟨rfl, inside', word', entry', consumed', scanned', isWord', rfl⟩
    have step' : Step (grammar.turning turns) _ _ _ := .tag opens' entered' holds' closes'
    rw [cursorSwaps.here (Nat.le_of_lt left), last.here within] at step'
    refine ⟨_, step', last, ?_⟩
    simp only [State.delimiters_noted]

/-- A run of text ends behind a segment of text. -/
theorem Step.endsRun
    {segment : Segment}
    (step : Step grammar state segment after)
    (isText : segment.kind? = none) :
    Text.EndsRun (after.delimiters.openings grammar.order) after.cursor.rest := by
  cases step with
  | text => exact state.endsRun_textRun grammar.order
  | _ => cases isText

theorem Steps.endsRun
    {front : List Segment}
    {last : Segment}
    (steps : Steps grammar state (front ++ [last]) after)
    (isText : last.kind? = none) :
    Text.EndsRun (after.delimiters.openings grammar.order) after.cursor.rest := by
  obtain ⟨_, _, final⟩ := steps.of_append
  obtain ⟨_, step, nothing⟩ := final.of_cons
  cases nothing
  exact step.endsRun isText

/-- A region follows where a run of text ends. -/
theorem Step.exists_kind
    {segment : Segment}
    (step : Step grammar state segment after)
    (ends : Text.EndsRun (state.delimiters.openings grammar.order) state.cursor.rest) :
    ∃ kind, segment.kind? = some kind ∧ state.kind? grammar.order = some kind := by
  cases step with
  | text unread noRegion =>
    rcases ends with nothing | ⟨literal, member, begins⟩
    · simp [Cursor.isAtEnd, nothing] at unread
    · obtain ⟨kind, inOrder, rfl⟩ := List.mem_map.1 member
      rw [State.kind?, List.find?_eq_none] at noRegion
      exact absurd (List.isPrefixOf_iff_prefix.2 begins) (noRegion kind inOrder)
  | insertion opens => exact ⟨.inline, rfl, opens⟩
  | comment opens => exact ⟨.comment, rfl, opens⟩
  | pragma opens => exact ⟨.pragma, rfl, opens⟩
  | tag opens => exact ⟨.block, rfl, opens⟩

/-- A run of text ends before the new end if the next region ends before the old
one. -/
theorem Step.endsBefore
    {segment : Segment}
    (step : Step grammar state segment after)
    (ends : Text.EndsRun (state.delimiters.openings grammar.order) state.cursor.rest)
    (within : old.length ≤ after.cursor.rest.length) :
    state.EndsBefore grammar.order old new := by
  obtain ⟨kind, isKind, opens⟩ := step.exists_kind ends
  have fits := step.length_opening_le isKind
  intro rest swaps
  refine .inr ⟨_, List.mem_map_of_mem (List.mem_of_find?_eq_some opens), ?_⟩
  exact (swaps.prefix_iff (by omega)).2 (State.begins_of_kind? opens)

/-- The segments of a source are the same before another end and at another place, up
to positions, unless a text at the end goes on. -/
theorem Steps.swaps
    {segments : List Segment}
    (steps : Steps grammar state segments after)
    (swaps : state.Swaps relocation old new destination)
    (apart : ∀ {front : List Segment} {middle : State}, Steps grammar state front middle →
      middle.ApartBefore grammar.order old new)
    (within : old.length ≤ after.cursor.rest.length)
    (ended : ∀ front last, segments = front ++ [last] → last.kind? = none →
      after.EndsBefore grammar.order old new)
    (turns : Nat) :
    ∃ after', Steps (grammar.turning turns) destination
      (segments.map (Segment.moved relocation)) after' ∧ after.Swaps relocation old new after' := by
  induction steps generalizing destination with
  | nil => exact ⟨destination, .nil, swaps⟩
  | @cons first second third segment rest step steps hypothesis =>
    have endedHere : segment.kind? = none → second.EndsBefore grammar.order old new := by
      intro isText
      cases steps with
      | nil => exact ended [] segment rfl isText
      | cons next others =>
        exact next.endsBefore (step.endsRun isText)
          (Nat.le_trans within others.reaches.length_le)
    obtain ⟨second', step', onward⟩ := step.swaps swaps (apart .nil)
      (Nat.le_trans within steps.reaches.length_le) endedHere turns
    obtain ⟨third', steps', last⟩ := hypothesis onward (fun further => apart (.cons step further))
      within (fun front last whole => ended (segment :: front) last (by rw [whole]; rfl))
    exact ⟨third', .cons step' steps', last⟩

/-- The segments of a source are the same in a longer text and at another place, up
to positions, unless a text at the end of the source goes on. -/
theorem Steps.moves
    {segments : List Segment}
    (steps : Steps grammar state segments after)
    (moves : state.Moves relocation more destination)
    (apart : ∀ {front : List Segment} {middle : State}, Steps grammar state front middle →
      middle.Apart grammar.order more)
    (ended : ∀ front last, segments = front ++ [last] → last.kind? = none →
      more = [] ∨ after.cursor.rest ≠ [])
    (turns : Nat) :
    ∃ after', Steps (grammar.turning turns) destination
      (segments.map (Segment.moved relocation)) after' ∧ after.Moves relocation more after' := by
  have endsBefore : ∀ front last, segments = front ++ [last] → last.kind? = none →
      after.EndsBefore grammar.order [] more := by
    rintro front last rfl isText rest ⟨shared, unread, rfl⟩
    rw [List.append_nil] at unread
    subst unread
    rcases ended front last rfl isText with rfl | left
    · rw [List.append_nil]
      exact steps.endsRun isText
    · rcases steps.endsRun isText with nothing | ⟨literal, member, begins⟩
      · exact absurd nothing left
      · exact .inr ⟨literal, member, begins.trans (List.prefix_append _ _)⟩
  have swaps : state.Swaps relocation [] more destination :=
    ⟨Cursor.swaps_nil_iff_moves.2 moves.cursor, moves.delimiters⟩
  obtain ⟨after', steps', last⟩ := steps.swaps swaps (fun front => (apart front).apartBefore)
    (Nat.zero_le _) endsBefore turns
  exact ⟨after', steps', Cursor.swaps_nil_iff_moves.1 last.cursor, last.delimiters⟩

end Document

end Stencil
