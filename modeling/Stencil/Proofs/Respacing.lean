import Stencil.Proofs.Comment
import Stencil.Proofs.Excerpt

/-!
# Sources with other blanks

A source and the same source with other blanks are cut into stretches: most are kept,
and some blanks are exchanged for others.  Blanks may be exchanged within the regions of
expressions and tags, where they separate what stands there, and may be added or left
out directly behind the opening delimiter and directly before the closing one.  Text,
comments and string literals are kept.

A cursor in the one source is aligned with a cursor in the other if the same stretches
lie ahead of both.  One relocation takes the positions where kept stretches begin to the
new ones.
-/

namespace Stencil

/-- A part of a source and of the one with other blanks. -/
inductive Stretch where
  /-- A text that stands in both. -/
  | kept (text : Text)
  /-- A text of the one and a text of the other in its place. -/
  | gap (old new : Text)

namespace Stretch

/-- The source that is cut into stretches. -/
def before : List Stretch → Text
  | [] => []
  | .kept text :: rest => text ++ before rest
  | .gap old _ :: rest => old ++ before rest

/-- The source with the gaps exchanged. -/
def after : List Stretch → Text
  | [] => []
  | .kept text :: rest => text ++ after rest
  | .gap _ new :: rest => new ++ after rest

@[simp] theorem before_append (front back : List Stretch) :
    before (front ++ back) = before front ++ before back := by
  induction front with
  | nil => rfl
  | cons stretch front hypothesis => cases stretch <;> simp [before, hypothesis]

@[simp] theorem after_append (front back : List Stretch) :
    after (front ++ back) = after front ++ after back := by
  induction front with
  | nil => rfl
  | cons stretch front hypothesis => cases stretch <;> simp [after, hypothesis]

/-- A text that is kept character by character. -/
def points (text : Text) : List Stretch :=
  text.map fun point => .kept [point]

@[simp] theorem before_points (text : Text) : before (points text) = text := by
  induction text with
  | nil => rfl
  | cons point text hypothesis => exact congrArg (point :: ·) hypothesis

@[simp] theorem after_points (text : Text) : after (points text) = text := by
  induction text with
  | nil => rfl
  | cons point text hypothesis => exact congrArg (point :: ·) hypothesis

/-- No gap comes first. -/
def Settled : List Stretch → Prop
  | .gap _ _ :: _ => False
  | _ => True

/-- The inside of a region, up to its closing delimiter. -/
inductive Inside (closing : Text) : List Stretch → Prop
  /-- Before the closing delimiter any blanks are exchanged for any others. -/
  | closed
      {old new : Text}
      (oldBlank : old.isBlank = true)
      (newBlank : new.isBlank = true) :
      Inside closing [.gap old new, .kept closing]
  /-- Some blanks are exchanged for some others. -/
  | blanks
      {old new : Text}
      {rest : List Stretch}
      (oldSome : old ≠ [])
      (newSome : new ≠ [])
      (oldBlank : old.isBlank = true)
      (newBlank : new.isBlank = true)
      (settled : Settled rest)
      (further : Inside closing rest) :
      Inside closing (.gap old new :: rest)
  /-- A string literal is kept as it is written. -/
  | literal
      {body content : Text}
      {rest : List Stretch}
      (quotes : StringLiteral.Quotes content body)
      (further : Inside closing rest) :
      Inside closing (.kept (StringLiteral.between body) :: rest)
  /-- Any other character is kept, unless the closing delimiter begins here. -/
  | point
      {point : CodePoint}
      {rest : List Stretch}
      (noBlank : point.isBlank = false)
      (noQuote : point ≠ '"')
      (noEnd : ¬ closing <+: point :: before rest)
      (further : Inside closing rest) :
      Inside closing (.kept [point] :: rest)

end Stretch

open Stretch

/-- Only blanks in the regions of expressions and tags are exchanged.  No pragma begins
outside of regions. -/
inductive Delimiters.Respaces (delimiters : Delimiters) : List Stretch → Prop
  /-- Nothing is left. -/
  | nothing : Respaces delimiters []
  /-- A character outside of regions is kept. -/
  | text
      {point : CodePoint}
      {rest : List Stretch}
      (outside : ∀ kind, ¬ (delimiters.pair kind).opening <+: point :: before rest)
      (further : Respaces delimiters rest) :
      Respaces delimiters (.kept [point] :: rest)
  /-- A comment is kept. -/
  | comment
      {content : Text}
      {rest : List Stretch}
      (closed : Text.splitFirst delimiters.comment.closing
        (content ++ delimiters.comment.closing) = some (content, []))
      (further : Respaces delimiters rest) :
      Respaces delimiters (.kept (delimiters.commented content) :: rest)
  /-- Behind an opening delimiter any blanks are exchanged for any others, and those in the
  region behind. -/
  | region
      {kind : Kind}
      {old new : Text}
      {inner rest : List Stretch}
      (isRegion : kind = .inline ∨ kind = .block)
      (oldBlank : old.isBlank = true)
      (newBlank : new.isBlank = true)
      (settled : Settled inner)
      (inside : Inside (delimiters.pair kind).closing inner)
      (further : Respaces delimiters rest) :
      Respaces delimiters (.kept (delimiters.pair kind).opening :: .gap old new :: (inner ++ rest))

/-! ## Aligned cursors -/

namespace Stretch

/-- The position in the other source of what is kept, or of the end. -/
def relocated : List Stretch → Cursor → Cursor → Position → Position
  | [], cursor, target, position =>
    if position = cursor.position then target.position else position
  | .kept text :: rest, cursor, target, position =>
    if position = cursor.position then target.position
    else relocated rest (cursor.forward text.length) (target.forward text.length) position
  | .gap old new :: rest, cursor, target, position =>
    relocated rest (cursor.forward old.length) (target.forward new.length) position

/-- No kept stretch is empty. -/
def Whole (stretches : List Stretch) : Prop :=
  ∀ text, .kept text ∈ stretches → text ≠ []

theorem Inside.whole
    {closing : Text}
    {inner : List Stretch}
    (inside : Inside closing inner)
    (notEmpty : closing ≠ []) :
    Whole inner := by
  intro text member
  induction inside with
  | closed =>
    obtain rfl : text = closing := by simpa using member
    exact notEmpty
  | blanks _ _ _ _ _ _ hypothesis => exact hypothesis (by simpa using member)
  | literal _ _ hypothesis =>
    rcases List.mem_cons.1 member with same | member
    · obtain rfl := Stretch.kept.inj same
      exact List.cons_ne_nil _ _
    · exact hypothesis member
  | point _ _ _ _ hypothesis =>
    rcases List.mem_cons.1 member with same | member
    · obtain rfl := Stretch.kept.inj same
      exact List.cons_ne_nil _ _
    · exact hypothesis member

end Stretch

theorem Delimiters.Respaces.whole
    {delimiters : Delimiters}
    {stretches : List Stretch}
    (respaces : delimiters.Respaces stretches) :
    Whole stretches := by
  intro text member
  induction respaces with
  | nothing => cases member
  | text _ _ hypothesis =>
    rcases List.mem_cons.1 member with same | member
    · obtain rfl := Stretch.kept.inj same
      exact List.cons_ne_nil _ _
    · exact hypothesis member
  | comment _ _ hypothesis =>
    rcases List.mem_cons.1 member with same | member
    · obtain rfl := Stretch.kept.inj same
      exact List.append_ne_nil_of_right_ne_nil _ delimiters.comment.closing_ne_nil
    · exact hypothesis member
  | region _ _ _ _ inside _ hypothesis =>
    simp only [List.mem_cons, reduceCtorEq, false_or, List.mem_append] at member
    rcases member with same | member | member
    · obtain rfl := Stretch.kept.inj same
      exact Pair.opening_ne_nil _
    · exact inside.whole (Pair.closing_ne_nil _) text member
    · exact hypothesis member

namespace Cursor

/-- The same stretches lie ahead of two cursors, and the positions where kept ones begin,
and those of the end, are relocated. -/
structure Aligned
    (relocation : Relocation)
    (stretches : List Stretch)
    (cursor target : Cursor) : Prop where
  /-- The stretches lie ahead in the source. -/
  before : cursor.rest = Stretch.before stretches
  /-- They lie ahead in the other source. -/
  after : target.rest = Stretch.after stretches
  /-- The positions are relocated. -/
  position : ∀ front back, stretches = front ++ back → Settled back →
    (target.forward (Stretch.after front).length).position =
      relocation.map (cursor.forward (Stretch.before front).length).position

variable
  {relocation : Relocation}
  {stretches front back : List Stretch}
  {cursor target : Cursor}

theorem Aligned.here
    (aligned : Aligned relocation stretches cursor target)
    (settled : Settled stretches) :
    target.position = relocation.map cursor.position :=
  aligned.position [] stretches rfl settled

theorem Aligned.forward
    (aligned : Aligned relocation (front ++ back) cursor target) :
    Aligned relocation back (cursor.forward (Stretch.before front).length)
      (target.forward (Stretch.after front).length) where
  before := rest_forward_of_append (aligned.before.trans (before_append front back))
  after := rest_forward_of_append (aligned.after.trans (after_append front back))
  position more rest whole settled := by
    have there := aligned.position (front ++ more) rest (by rw [whole, List.append_assoc]) settled
    rwa [before_append, after_append, List.length_append, List.length_append, forward_add,
      forward_add] at there

/-- Behind a text that is kept. -/
theorem Aligned.forward_kept
    {text : Text}
    (aligned : Aligned relocation (.kept text :: back) cursor target) :
    Aligned relocation back (cursor.forward text.length) (target.forward text.length) := by
  have further := @Aligned.forward _ [.kept text] _ _ _ aligned
  simpa only [Stretch.before, Stretch.after, List.append_nil] using further

/-- Behind a text that is kept character by character. -/
theorem Aligned.forward_points
    {text : Text}
    (aligned : Aligned relocation (points text ++ back) cursor target) :
    Aligned relocation back (cursor.forward text.length) (target.forward text.length) := by
  have further := aligned.forward
  rwa [before_points, after_points] at further

/-- Behind a gap. -/
theorem Aligned.forward_gap
    {old new : Text}
    (aligned : Aligned relocation (.gap old new :: back) cursor target) :
    Aligned relocation back (cursor.forward old.length) (target.forward new.length) := by
  have further := @Aligned.forward _ [.gap old new] _ _ _ aligned
  simpa only [Stretch.before, Stretch.after, List.append_nil] using further

/-- The position where a kept stretch begins is relocated: it is no position of a kept
stretch before it. -/
theorem relocated_position
    (whole : Whole stretches)
    (unread : cursor.rest = Stretch.before stretches) :
    ∀ front back, stretches = front ++ back → Settled back →
      (target.forward (Stretch.after front).length).position =
        relocated stretches cursor target
          (cursor.forward (Stretch.before front).length).position := by
  intro front back
  induction front generalizing stretches cursor target with
  | nil =>
    rintro rfl settled
    cases stretches with
    | nil => exact (if_pos rfl).symm
    | cons stretch rest =>
      cases stretch with
      | kept text => exact (if_pos rfl).symm
      | gap old new => exact settled.elim
  | cons stretch front hypothesis =>
    rintro rfl settled
    have wholeRest : Whole (front ++ back) := fun other member =>
      whole other (List.mem_cons_of_mem _ member)
    cases stretch with
    | gap old new =>
      have further := @hypothesis _ _ (target.forward new.length) wholeRest
        (rest_forward_of_append unread) rfl settled
      simpa only [List.cons_append, relocated, Stretch.before, Stretch.after, List.length_append,
        forward_add] using further
    | kept first =>
      have further := @hypothesis _ _ (target.forward first.length) wholeRest
        (rest_forward_of_append unread) rfl settled
      have firstSome := whole first List.mem_cons_self
      have unreadSome : cursor.rest ≠ [] := by
        rw [unread]
        exact List.append_ne_nil_of_left_ne_nil firstSome _
      have passes := (passes_forward (List.length_pos_iff.2 firstSome) unreadSome).trans_reaches
        (reaches_forward (Stretch.before front).length _)
      have apart : ((cursor.forward first.length).forward
          (Stretch.before front).length).position ≠ cursor.position := fun same =>
        Nat.ne_of_gt passes.offset_lt (congrArg Position.offset same)
      simp only [List.cons_append, relocated, Stretch.before, Stretch.after, List.length_append,
        forward_add]
      rw [if_neg apart]
      exact further

theorem line_forward_pos
    (positive : 0 < cursor.line)
    (count : Nat) :
    0 < (cursor.forward count).line := by
  induction count generalizing cursor with
  | zero => exact positive
  | succ count hypothesis =>
    rw [forward]
    cases unread : cursor.rest with
    | nil => exact positive
    | cons point rest =>
      apply hypothesis
      rw [past]
      dsimp only
      split
      · exact Nat.succ_pos _
      · exact positive

theorem relocated_synthetic
    (positive : 0 < cursor.line)
    (label : Text) :
    relocated stretches cursor target (.synthetic label) = .synthetic label := by
  have apart {cursor : Cursor} (positive : 0 < cursor.line) :
      Position.synthetic label ≠ cursor.position := fun same =>
    Nat.ne_of_lt positive (congrArg Position.line same)
  induction stretches generalizing cursor target with
  | nil => exact if_neg (apart positive)
  | cons stretch stretches hypothesis =>
    cases stretch with
    | kept text =>
      rw [relocated, if_neg (apart positive)]
      exact hypothesis (line_forward_pos positive _)
    | gap old new => exact hypothesis (line_forward_pos positive _)

theorem name_relocated
    (sameName : target.name = cursor.name)
    (position : Position) :
    (relocated stretches cursor target position).name = position.name := by
  have kept {cursor target : Cursor} {other : Position} (sameName : target.name = cursor.name)
      (sameOther : other.name = position.name) :
      (if position = cursor.position then target.position else other).name = position.name := by
    split
    · rename_i here
      rw [here]
      exact sameName
    · exact sameOther
  induction stretches generalizing cursor target with
  | nil => exact kept sameName rfl
  | cons stretch stretches hypothesis =>
    cases stretch with
    | kept text => exact kept sameName (hypothesis (by simpa using sameName))
    | gap old new => exact hypothesis (by simpa using sameName)

/-- The beginnings of two sources are aligned. -/
theorem exists_aligned
    (name : Text)
    (whole : Whole stretches) :
    ∃ relocation : Relocation, relocation.KeepsNames ∧
      Aligned relocation stretches (start name (Stretch.before stretches))
        (start name (Stretch.after stretches)) := by
  let cursor := start name (Stretch.before stretches)
  let target := start name (Stretch.after stretches)
  have sameName : target.name = cursor.name := rfl
  exact ⟨⟨relocated stretches cursor target, relocated_synthetic Nat.one_pos⟩,
    name_relocated sameName, rfl, rfl, relocated_position whole rfl⟩

end Cursor

end Stencil
