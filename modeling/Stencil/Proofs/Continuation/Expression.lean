import Stencil.Proofs.Alongside

/-!
# Regions in other texts

What a rule reads of a region that is followed by its closing delimiter is the same
whatever follows the delimiter, and the same at another place up to positions.
The rules look one token ahead.  Such a token is always passed later on, or the
closing delimiter stands in its place, so it is decided by the text up to the
delimiter.
-/

namespace Stencil

/-- The grammar with another number of turns. -/
def Grammar.turning (grammar : Grammar) (turns : Nat) : Grammar :=
  { grammar with turns := turns }

/-- The region with another number of turns. -/
def Region.turning (region : Region) (turns : Nat) : Region :=
  ⟨region.grammar.turning turns, region.closing⟩

/-- The operators of a region do not hang on the number of turns. -/
theorem Region.operators_turning (region : Region) (turns : Nat) :
    (region.turning turns).grammar.operators = region.grammar.operators :=
  rfl

theorem Text.length_trimStart_le_append (front back : Text) :
    back.trimStart.length ≤ (front ++ back).trimStart.length := by
  induction front with
  | nil => exact Nat.le_refl _
  | cons point front hypothesis =>
    have whole : back.trimStart.length ≤ back.length := (List.dropWhile_suffix _).length_le
    by_cases blank : point.isBlank = true
    · rw [List.cons_append, Text.trimStart, Text.trimStart, List.dropWhile_cons_of_pos blank]
      exact hypothesis
    · rw [List.cons_append, Text.trimStart, Text.trimStart, List.dropWhile_cons_of_neg blank,
        List.length_cons, List.length_append]
      exact Nat.le_trans whole (by omega)

namespace Region

variable
  {region : Region}
  {relocation : Relocation}
  {old new : Text}
  {cursor target behind finish : Cursor}

/-- Behind the blanks at a cursor there is at least as much text before the old end as
the closing delimiter takes. -/
structure HasRoom (region : Region) (old : Text) (cursor : Cursor) : Prop where
  /-- The closing delimiter is not empty. -/
  notEmpty : region.closing ≠ []
  /-- There is as much text. -/
  fits : region.closing.length + old.length ≤ cursor.rest.trimStart.length

theorem HasRoom.trimStart_left (room : region.HasRoom old cursor) :
    old.length < cursor.rest.trimStart.length := by
  have positive := List.length_pos_iff.2 room.notEmpty
  have fits := room.fits
  omega

theorem HasRoom.left (room : region.HasRoom old cursor) : old.length < cursor.rest.length :=
  Nat.lt_of_lt_of_le room.trimStart_left (List.dropWhile_suffix _).length_le

theorem HasRoom.of_reaches
    (room : region.HasRoom old finish)
    (reaches : cursor.Reaches finish) :
    region.HasRoom old cursor := by
  obtain ⟨count, rfl⟩ := reaches
  have longer := Text.length_trimStart_le_append (cursor.rest.take count) (cursor.rest.drop count)
  rw [List.take_append_drop] at longer
  have fits := room.fits
  rw [Cursor.rest_forward] at fits
  exact ⟨room.notEmpty, Nat.le_trans fits longer⟩

/-- Where there is room for the closing delimiter, another end does not bring it
about. -/
theorem HasRoom.isDone_eq
    (room : region.HasRoom old cursor)
    (swaps : Cursor.Swaps relocation old new cursor target) :
    region.isDone target = region.isDone cursor := by
  rw [Bool.eq_iff_iff]
  simp only [isDone, Cursor.sees, List.isPrefixOf_iff_prefix]
  exact (swaps.rest.dropWhile room.trimStart_left).prefix_iff room.fits

/-- What follows a cursor is decided by the text before the old end: the closing
delimiter, or a token that more than the old end is left behind. -/
structure Decided (region : Region) (old : Text) (cursor : Cursor) : Prop where
  /-- There is room for the closing delimiter. -/
  room : region.HasRoom old cursor
  /-- The delimiter or a token follows. -/
  known : region.isDone cursor = true ∨
    ∃ token behind, Reading.token cursor = .ok (token, behind) ∧ old.length < behind.rest.length

theorem Decided.of_token
    {token : Token}
    (scanned : Reading.token cursor = .ok (token, behind))
    (room : region.HasRoom old behind) :
    region.Decided old cursor :=
  ⟨room.of_reaches (token_reaches scanned), .inr ⟨token, behind, scanned, room.left⟩⟩

theorem Decided.of_close
    (notEmpty : region.closing ≠ [])
    (closes : region.close cursor = .ok ((), behind))
    (within : old.length ≤ behind.rest.length) :
    region.Decided old cursor := by
  have consumed := close_eq_ok.1 closes
  unfold Cursor.consume? at consumed
  split at consumed
  · rename_i begins
    obtain rfl := Option.some.inj consumed
    rw [Cursor.startsWith, Cursor.rest_skipBlanks, List.isPrefixOf_iff_prefix] at begins
    rw [Cursor.rest_forward, Cursor.rest_skipBlanks, List.length_drop] at within
    have shorter := begins.length_le
    exact ⟨⟨notEmpty, by omega⟩, .inl (List.isPrefixOf_iff_prefix.2 begins)⟩
  · cases consumed

theorem Decided.left_of_continues
    {token : Token}
    (decided : region.Decided old cursor)
    (next : region.Continues cursor token behind) :
    old.length < behind.rest.length := by
  rcases decided.known with done | ⟨_, _, scanned, left⟩
  · rw [next.1] at done
    cases done
  · rw [next.2] at scanned
    obtain ⟨_, rfl⟩ := Prod.mk.inj (Except.ok.inj scanned)
    exact left

/-- A token of a region is the same before another end. -/
theorem Continues.swaps
    {token : Token}
    (next : region.Continues cursor token behind)
    (swaps : Cursor.Swaps relocation old new cursor target)
    (decided : region.Decided old cursor) :
    ∃ token' behind', region.Continues target token' behind' ∧ token.Moves relocation token' ∧
      Cursor.Swaps relocation old new behind behind' := by
  obtain ⟨token', behind', scanned, sameToken, further⟩ :=
    Reading.token_swaps next.2 swaps (decided.left_of_continues next)
  exact ⟨token', behind', ⟨(decided.room.isDone_eq swaps).trans next.1, scanned⟩, sameToken,
    further⟩

/-- The closing delimiter follows before another end too. -/
theorem close_swaps
    (notEmpty : region.closing ≠ [])
    (closes : region.close cursor = .ok ((), behind))
    (swaps : Cursor.Swaps relocation old new cursor target)
    (within : old.length ≤ behind.rest.length) :
    ∃ behind', region.close target = .ok ((), behind') ∧
      Cursor.Swaps relocation old new behind behind' := by
  have decided := Decided.of_close notEmpty closes within
  have left : old.length < cursor.skipBlanks.rest.length := by
    rw [Cursor.rest_skipBlanks]
    exact decided.room.trimStart_left
  obtain ⟨behind', consumed, further⟩ :=
    (swaps.skipBlanks left).consume? (close_eq_ok.1 closes) within
  exact ⟨behind', close_eq_ok.2 consumed, further⟩

theorem isBeforeDigit_swaps
    (touches : isBeforeDigit cursor = true)
    (swaps : Cursor.Swaps relocation old new cursor target)
    (left : old.length < cursor.rest.length) :
    isBeforeDigit target = true := by
  obtain ⟨point, rest, rest', unread, unread', _⟩ := swaps.rest.exists_cons left
  rw [isBeforeDigit, unread] at touches
  rw [isBeforeDigit, unread']
  exact touches

theorem expect_swaps
    {kind : Token.Kind}
    {expected : Expectation}
    {token : Token}
    (success : Reading.expect kind expected cursor = .ok (token, behind))
    (swaps : Cursor.Swaps relocation old new cursor target)
    (left : old.length < behind.rest.length) :
    ∃ token' behind', Reading.expect kind expected target = .ok (token', behind') ∧
      token.Moves relocation token' ∧ Cursor.Swaps relocation old new behind behind' := by
  obtain ⟨scanned, isKind⟩ := Reading.expect_eq_ok.1 success
  obtain ⟨token', behind', scanned', sameToken, further⟩ :=
    Reading.token_swaps scanned swaps left
  exact ⟨token', behind', Reading.expect_eq_ok.2 ⟨scanned', sameToken.kind.trans isKind⟩,
    sameToken, further⟩

end Region

end Stencil
