import Stencil.Proofs.Respacing.Lexeme

/-!
# Regions with other blanks

A region with other blanks is read alongside the region.  It ends at the same place:
where the closing delimiter comes about only because blanks were left out before it, no
lexeme begins, so nothing that is read goes on there.
-/

namespace Stencil

open Cursor

namespace Region

variable
  {region other : Region}
  {relocation : Relocation}
  {tail : List Stretch}
  {first second : CodePoint}
  {cursor target behind : Cursor}
  {token : Token}

/-- The region ends behind a cursor, or a lexeme follows. -/
def Proceeds (region : Region) (cursor : Cursor) : Prop :=
  region.isDone cursor = true ∨
    ∃ token behind, Reading.token cursor = .ok (token, behind) ∧ token.kind ≠ .unknown

/-- The region goes on before a token that some lexeme begins with. -/
theorem Proceeds.of_token
    (scanned : Reading.token cursor = .ok (token, behind))
    (lexeme : token.kind ≠ .unknown) :
    region.Proceeds cursor :=
  .inr ⟨token, behind, scanned, lexeme⟩

/-- Where a character begins no lexeme, only the closing delimiter can follow. -/
theorem Proceeds.isDone_of_stray
    {point : CodePoint}
    {rest : Text}
    (proceeds : region.Proceeds cursor)
    (stray : point.IsStray)
    (unread : cursor.skipBlanks.rest = point :: rest) :
    region.isDone cursor = true := by
  rcases proceeds with done | ⟨token, behind, scanned, lexeme⟩
  · exact done
  · have scans := Reading.token_eq_ok_iff_scans.1 scanned
    have isKind := (scans.eq_of_not_isLexical unread stray.noQuote stray.noLexeme).1
    exact absurd (isKind.trans stray.unknown) lexeme

/-- A region with other blanks ends where the region does. -/
theorem Proceeds.isDone_eq
    (closer : Closer first second)
    (isClosing : region.closing = [first, second])
    (isClosing' : other.closing = [first, second])
    (faces : Faces relocation [first, second] tail cursor.skipBlanks target.skipBlanks)
    (proceeds : region.Proceeds cursor) :
    other.isDone target = region.isDone cursor := by
  rw [Bool.eq_iff_iff, isDone_iff, isDone_iff, isClosing, isClosing']
  constructor
  · intro begins
    obtain aligned | ⟨inside, aligned⟩ := faces
    · exact ⟨_, aligned.before.symm⟩
    have unread := aligned.before
    rw [aligned.after] at begins
    cases inside with
    | literal => exact absurd (List.cons_prefix_cons.1 begins).1 closer.noQuote
    | point noBlank noQuote noEnd further =>
      obtain ⟨rfl, next⟩ := List.cons_prefix_cons.1 begins
      rcases closer.stray with unknown | ⟨stray, differs⟩
      · have stray : first.IsStray := ⟨noBlank, noQuote, closer.noLexeme, unknown⟩
        exact isClosing ▸ isDone_iff.1 (proceeds.isDone_of_stray stray unread)
      · have isHead := further.head?_iff stray.noBlank differs tail
        obtain ⟨rest, whole⟩ := next
        obtain ⟨rest', whole'⟩ := List.head?_eq_some_iff.1
          (isHead.1 (List.head?_eq_some_iff.2 ⟨rest, whole.symm⟩))
        exact ⟨rest', by rw [unread]; exact congrArg (first :: ·) whole'.symm⟩
  · intro begins
    exact ⟨_, (faces.closed closer begins).after.symm⟩

/-- No word begins with the closing delimiter. -/
theorem not_closing_of_isWord
    {word : Text}
    (closer : Closer first second)
    (scanned : Reading.token cursor = .ok (token, behind))
    (isWord : token.isWord word = true) :
    ¬ [first, second] <+: cursor.skipBlanks.rest := by
  rintro ⟨rest, whole⟩
  have scans := Reading.token_eq_ok_iff_scans.1 scanned
  have isKind := (scans.eq_of_not_isLexical whole.symm closer.noQuote closer.noLexeme).1
  exact (Token.Kind.ofPunctuation_ne_lexeme first).1
    (isKind.symm.trans (Token.kind_of_isWord isWord))

/-- No lexeme that something proceeds behind begins with the closing delimiter. -/
theorem not_closing_of_token
    (closer : Closer first second)
    (isClosing : region.closing = [first, second])
    (scanned : Reading.token cursor = .ok (token, behind))
    (lexeme : token.kind ≠ .unknown)
    (proceeds : region.Proceeds behind) :
    ¬ [first, second] <+: cursor.skipBlanks.rest := by
  rintro ⟨rest, whole⟩
  have unread : cursor.skipBlanks.rest = first :: second :: rest := whole.symm
  have scans := Reading.token_eq_ok_iff_scans.1 scanned
  obtain ⟨isKind, rfl⟩ := scans.eq_of_not_isLexical unread closer.noQuote closer.noLexeme
  rcases closer.stray with unknown | ⟨stray, differs⟩
  · exact lexeme (isKind.trans unknown)
  · have next : (cursor.skipBlanks.forward 1).rest = second :: rest := by
      rw [rest_forward, unread]
      rfl
    have skipped : (cursor.skipBlanks.forward 1).skipBlanks.rest = second :: rest := by
      rw [skipBlanks_of_solid ⟨second, rest, next, stray.noBlank⟩, next]
    have done := isDone_iff.1 (proceeds.isDone_of_stray stray skipped)
    rw [isClosing, skipped] at done
    exact differs (List.cons_prefix_cons.1 done).1.symm

/-- A token is scanned between other blanks. -/
theorem token_respaced
    (closer : Closer first second)
    (scanned : Reading.token cursor = .ok (token, behind))
    (faces : Faces relocation [first, second] tail cursor.skipBlanks target.skipBlanks)
    (notDone : ¬ [first, second] <+: cursor.skipBlanks.rest) :
    ∃ token' behind', Reading.token target = .ok (token', behind') ∧
      token.Moves relocation token' ∧ Respaced relocation [first, second] tail behind behind' := by
  obtain ⟨token', behind', scans', moves, further⟩ :=
    (Reading.token_eq_ok_iff_scans.1 scanned).respaced closer faces notDone
  exact ⟨token', behind', Reading.token_eq_ok_iff_scans.2 scans', moves, further⟩

theorem isBeforeDigit_iff :
    isBeforeDigit cursor = true ↔
      ∃ digit : CodePoint, digit.isDigit = true ∧ cursor.rest.head? = some digit := by
  unfold isBeforeDigit
  split
  · rename_i atEnd
    simp [atEnd]
  · rename_i point rest unread
    simp [unread]

theorem isBeforeDigit_respaced
    (closer : Closer first second)
    (respaced : Respaced relocation [first, second] tail cursor target)
    (touches : isBeforeDigit cursor = true) :
    isBeforeDigit target = true := by
  obtain ⟨digit, isDigit, isHead⟩ := isBeforeDigit_iff.1 touches
  have lexical := CodePoint.isLexical_of_isDigit isDigit
  exact isBeforeDigit_iff.2
    ⟨digit, isDigit, (respaced.head?_iff_of_isLexical closer lexical).2 isHead⟩

end Region

namespace Document

variable
  {relocation : Relocation}
  {tail : List Stretch}
  {first second : CodePoint}
  {cursor target behind : Cursor}

theorem startsWith_twoSigns
    {rest : Text}
    (unread : cursor.rest = Text.of "=" ++ rest) :
    cursor.startsWith (Text.of "==") = true ↔ rest.head? = some (CodePoint.ofChar '=') := by
  rw [Cursor.startsWith, List.isPrefixOf_iff_prefix, unread]
  cases rest with
  | nil => decide
  | cons point rest =>
    simp [Text.of, eq_comm]

/-- The sign of a binding stands between other blanks, and no second one behind it. -/
theorem bindingSign_respaced
    {name : Text}
    (closer : Closer first second)
    (success : bindingSign name cursor = .ok ((), behind))
    (faces : Faces relocation [first, second] tail cursor.skipBlanks target.skipBlanks) :
    ∃ behind', bindingSign name target = .ok ((), behind') ∧
      Respaced relocation [first, second] tail behind behind' := by
  obtain ⟨single, consumed⟩ := bindingSign_eq_ok.1 success
  have unread := rest_of_consume? consumed
  obtain rfl := eq_forward_of_consume? consumed
  have lexical : (Text.of "=").all CodePoint.isLexical = true := by decide +kernel
  have notDone : ¬ [first, second] <+: cursor.skipBlanks.rest := by
    intro begins
    rw [unread] at begins
    have isSign := (List.cons_prefix_cons.1 begins).1
    exact absurd closer.noLexeme (by rw [isSign]; decide +kernel)
  obtain ⟨unread', further⟩ := (faces.respaced notDone).lexeme closer lexical unread
  have single' : target.skipBlanks.startsWith (Text.of "==") = false := by
    rw [Bool.eq_false_iff] at single ⊢
    rw [Ne, startsWith_twoSigns unread']
    rw [Ne, startsWith_twoSigns unread] at single
    rwa [further.head?_iff_of_isLexical closer (by decide +kernel)]
  have consumed' : target.skipBlanks.consume? (Text.of "=") =
      some (target.skipBlanks.forward (Text.of "=").length) :=
    consume?_of_begins ⟨_, unread'.symm⟩
  exact ⟨_, bindingSign_eq_ok.2 ⟨single', consumed'⟩, further⟩

end Document

/-- A region with other blanks is read alongside the region, with another number of
turns. -/
def Region.respacing
    (region : Region)
    {first second : CodePoint}
    (closer : Closer first second)
    (isClosing : region.closing = [first, second])
    (relocation : Relocation)
    (tail : List Stretch)
    (turns : Nat) :
    region.Alongside (region.turning turns) relocation where
  related cursor target :=
    Faces relocation [first, second] tail cursor.skipBlanks target.skipBlanks
  room _ := True
  known := region.Proceeds
  operators := region.operators_turning turns
  room_of_known _ := trivial
  room_of_reaches _ _ := trivial
  known_of_token scanned lexeme _ := .of_token scanned lexeme
  isDone_eq faces proceeds := proceeds.isDone_eq closer isClosing isClosing faces
  continues faces proceeds next := by
    have notDone := next.1
    rw [Bool.eq_false_iff, Ne, isDone_iff, isClosing] at notDone
    obtain ⟨token', behind', scanned', moves, further⟩ :=
      token_respaced closer next.2 faces notDone
    have notDone' := (proceeds.isDone_eq closer isClosing isClosing faces).trans next.1
    exact ⟨token', behind', ⟨notDone', scanned'⟩, moves, further.faces closer⟩
  tokens faces scanned lexeme proceeds := by
    obtain ⟨token', behind', scanned', moves, further⟩ := token_respaced closer scanned faces
      (not_closing_of_token closer isClosing scanned lexeme proceeds)
    exact ⟨token', behind', scanned', moves, further.faces closer⟩
  touches faces scanned lexeme proceeds touches scanned' := by
    obtain ⟨_, _, again, _, further⟩ := token_respaced closer scanned faces
      (not_closing_of_token closer isClosing scanned lexeme proceeds)
    obtain ⟨rfl, rfl⟩ := Prod.mk.inj (Except.ok.inj (scanned'.symm.trans again))
    exact isBeforeDigit_respaced closer further touches
  bindingSign faces signed _ := by
    obtain ⟨behind', signed', further⟩ := Document.bindingSign_respaced closer signed faces
    exact ⟨behind', signed', further.faces closer⟩

/-- The closing delimiter stands behind other blanks, before what follows the region. -/
theorem Region.close_respaced
    {region : Region}
    {relocation : Relocation}
    {tail : List Stretch}
    {first second : CodePoint}
    {cursor target behind : Cursor}
    (closer : Closer first second)
    (isClosing : region.closing = [first, second])
    (closes : region.close cursor = .ok ((), behind))
    (faces : Faces relocation [first, second] tail cursor.skipBlanks target.skipBlanks)
    (turns : Nat) :
    ∃ behind', (region.turning turns).close target = .ok ((), behind') ∧
      Aligned relocation tail behind behind' := by
  have begins := isDone_iff.1 (isDone_of_close closes)
  rw [isClosing] at begins
  have aligned := faces.closed closer begins
  have begins' : region.closing <+: target.skipBlanks.rest := ⟨_, isClosing ▸ aligned.after.symm⟩
  have consumed := consume?_of_begins begins'
  refine ⟨_, close_eq_ok.2 consumed, ?_⟩
  rw [eq_forward_of_consume? (close_eq_ok.1 closes), isClosing]
  exact aligned.forward_kept

end Stencil
