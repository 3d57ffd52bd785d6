import Stencil.Proofs.Acceptance
import Stencil.Proofs.Scanning

/-!
# Places in a source

A cursor that was moved forward from the beginning of a source has the position
of its index: the line counts the line feeds before it, the column the code
points behind the last of them, and the offset the bytes.  An origin is a source
with what it is read with; it says which positions are places of the source,
which text they show, and which delimiters are active there.
-/

namespace Stencil

namespace Text

theorem newlines_concat (text : Text) (point : CodePoint) :
    newlines (text ++ [point]) = newlines text + if point = '\n' then 1 else 0 := by
  simp [newlines, List.count_append, List.count_singleton, beq_iff_eq]

theorem lastLine_concat (text : Text) (point : CodePoint) :
    lastLine (text ++ [point]) = if point = '\n' then [] else lastLine text ++ [point] := by
  unfold lastLine
  rw [List.reverse_append, List.reverse_singleton, List.singleton_append, List.takeWhile_cons]
  split <;> simp_all

theorem utf8Width_concat (text : Text) (point : CodePoint) :
    utf8Width (text ++ [point]) = utf8Width text + point.utf8Width := by
  induction text with
  | nil => simp [utf8Width]
  | cons first text hypothesis =>
    simp only [utf8Width, List.cons_append, List.foldr_cons] at hypothesis ⊢
    omega

end Text

/-- The position of an index of a source: one more than the line feeds before it,
one more than the code points behind the last of them, and the bytes before it. -/
def Position.ofIndex (name source : Text) (index : Nat) : Position where
  name := name
  line := 1 + Text.newlines (source.take index)
  column := (Text.lastLine (source.take index)).length + 1
  offset := Text.utf8Width (source.take index)

namespace Cursor

/-- A cursor that was moved forward from the beginning of a source has the
position of the index that it was moved to. -/
theorem position_forward_start (name source : Text) (count : Nat) :
    (forward count (start name source)).position = .ofIndex name source count := by
  induction count with
  | zero => rfl
  | succ count hypothesis =>
    have oneMore := forward_add count 1 (start name source)
    have unread : (forward count (start name source)).rest = source.drop count :=
      rest_forward count (start name source)
    rw [oneMore, forward, unread]
    cases behind : source.drop count with
    | nil =>
      have all : source.take (count + 1) = source.take count := by
        rw [List.take_of_length_le (List.drop_eq_nil_iff.1 behind),
          List.take_of_length_le (Nat.le_succ_of_le (List.drop_eq_nil_iff.1 behind))]
      simp only [hypothesis, Position.ofIndex, all]
    | cons point rest =>
      have more : source.take (count + 1) = source.take count ++ [point] := by
        rw [List.take_add, behind]
        rfl
      simp only [position, Position.ofIndex, Position.mk.injEq] at hypothesis
      obtain ⟨sameName, sameLine, sameColumn, sameOffset⟩ := hypothesis
      simp only [forward_zero, position, past, Position.ofIndex, more, Text.newlines_concat,
        Text.lastLine_concat, Text.utf8Width_concat, sameName, sameLine, sameColumn, sameOffset]
      split <;> simp
      omega

/-- A cursor that is reached from the beginning of a source stands at its index, and
has not read what is behind it. -/
theorem Reaches.eq_ofIndex
    {name source : Text}
    {cursor : Cursor}
    (reached : (start name source).Reaches cursor) :
    cursor.index ≤ source.length ∧
      cursor.position = .ofIndex name source cursor.index ∧
      cursor.rest = source.drop cursor.index := by
  obtain ⟨count, rfl⟩ := reached
  have index : (forward count (start name source)).index = min count source.length := by
    rw [index_forward]
    exact Nat.zero_add _
  rw [index, position_forward_start, rest_forward]
  refine ⟨Nat.min_le_right _ _, ?_, ?_⟩
  · simp only [Position.ofIndex, ← List.take_eq_take_min]
  · change source.drop count = _
    rcases Nat.le_total count source.length with within | beyond
    · rw [Nat.min_eq_left within]
    · rw [Nat.min_eq_right beyond, List.drop_length, List.drop_eq_nil_of_le beyond]

end Cursor

namespace Template

open Document

/-- A source and what it is read with. -/
structure Origin where
  /-- How it is read. -/
  options : Options
  /-- Its name. -/
  name : Text
  /-- The delimiters that are active at its beginning. -/
  delimiters : Delimiters
  /-- Its text. -/
  source : Text

namespace Origin

/-- The grammar that the source is read with. -/
def grammar (origin : Origin) : Grammar :=
  grammarFor origin.options origin.source

/-- The state before the source. -/
def start (origin : Origin) : State :=
  initial origin.name origin.delimiters origin.source

/-- The source can be cut into segments up to a state. -/
def Attains (origin : Origin) (state : State) : Prop :=
  ∃ segments, Steps origin.grammar origin.start segments state

/-- Delimiters are active at an index of the source, behind the pragmas before
it. -/
def Active (origin : Origin) (delimiters : Delimiters) (index : Nat) : Prop :=
  ∃ state, origin.Attains state ∧ state.delimiters = delimiters ∧ state.cursor.index = index

/-- A position is the one of an index of the source, and something holds of the
index and of the text from there on. -/
def Shows
    (origin : Origin)
    (position : Position)
    (property : Nat → Text → Prop) : Prop :=
  ∃ index ≤ origin.source.length,
    position = .ofIndex origin.name origin.source index ∧
      property index (origin.source.drop index)

/-- A position is the one of an index of the source. -/
def Places (origin : Origin) (position : Position) : Prop :=
  origin.Shows position fun _ _ => True

/-- The text from a position on begins with the opening delimiter of a kind that
is active there. -/
def ShowsOpening (origin : Origin) (position : Position) (kind : Kind) : Prop :=
  origin.Shows position fun index rest =>
    ∃ delimiters, origin.Active delimiters index ∧ (delimiters.pair kind).opening <+: rest

/-- A cursor stands in the source. -/
def Has (origin : Origin) (cursor : Cursor) : Prop :=
  origin.start.cursor.Reaches cursor

theorem Has.reaches
    {origin : Origin}
    {cursor further : Cursor}
    (stands : origin.Has cursor)
    (reaches : cursor.Reaches further) :
    origin.Has further :=
  stands.trans reaches

theorem attains_start (origin : Origin) : origin.Attains origin.start :=
  ⟨[], .nil⟩

theorem Attains.has
    {origin : Origin}
    {state : State}
    (attained : origin.Attains state) :
    origin.Has state.cursor := by
  obtain ⟨segments, steps⟩ := attained
  exact steps.reaches

theorem Attains.steps
    {origin : Origin}
    {state after : State}
    {segments : List Segment}
    (attained : origin.Attains state)
    (steps : Steps origin.grammar state segments after) :
    origin.Attains after := by
  obtain ⟨front, near⟩ := attained
  exact ⟨front ++ segments, near.append steps⟩

/-- A cursor in the source shows the text that it has not read. -/
theorem Has.eq_ofIndex
    {origin : Origin}
    {cursor : Cursor}
    (stands : origin.Has cursor) :
    cursor.index ≤ origin.source.length ∧
      cursor.position = .ofIndex origin.name origin.source cursor.index ∧
      cursor.rest = origin.source.drop cursor.index :=
  Cursor.Reaches.eq_ofIndex stands

theorem Has.shows
    {origin : Origin}
    {cursor : Cursor}
    {property : Nat → Text → Prop}
    (stands : origin.Has cursor)
    (holds : property cursor.index cursor.rest) :
    origin.Shows cursor.position property := by
  obtain ⟨within, position, unread⟩ := stands.eq_ofIndex
  exact ⟨cursor.index, within, position, unread ▸ holds⟩

theorem Has.places
    {origin : Origin}
    {cursor : Cursor}
    (stands : origin.Has cursor) :
    origin.Places cursor.position :=
  stands.shows trivial

/-- Where a region of a kind opens, the source shows its opening delimiter. -/
theorem Attains.showsOpening
    {origin : Origin}
    {state : State}
    {kind : Kind}
    (attained : origin.Attains state)
    (opens : state.kind? origin.grammar.order = some kind) :
    origin.ShowsOpening state.cursor.position kind := by
  have begins := List.find?_some opens
  simp only [Cursor.startsWith, List.isPrefixOf_iff_prefix] at begins
  exact attained.has.shows ⟨state.delimiters, ⟨state, attained, rfl, rfl⟩, begins⟩

end Origin

end Template

end Stencil
