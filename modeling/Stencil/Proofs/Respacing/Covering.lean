import Stencil.Proofs.Respacing.Region

/-!
# Regions are cut into stretches

What the rules for expressions and tags pass in a region is blanks and lexemes.  So the
region can be cut into stretches up to its closing delimiter: the rules are followed as
if the region were read alongside itself, and what was passed is added to the stretches.
-/

namespace Stencil

open Cursor Stretch

namespace Stretch

variable
  {first second : CodePoint}
  {closing : Text}
  {inner : List Stretch}

/-- Characters of lexemes may be kept before the inside of a region. -/
theorem Inside.points
    (closer : Closer first second)
    (lexeme : Text)
    (inside : Inside [first, second] inner)
    (lexical : lexeme.all CodePoint.isLexical = true) :
    Inside [first, second] (Stretch.points lexeme ++ inner) := by
  induction lexeme with
  | nil => exact inside
  | cons point lexeme hypothesis =>
    rw [List.all_cons, Bool.and_eq_true] at lexical
    have noEnd (rest : Text) : ¬ [first, second] <+: point :: rest := by
      intro begins
      rw [← (List.cons_prefix_cons.1 begins).1, closer.noLexeme] at lexical
      cases lexical.1
    have noQuote : point ≠ '"' := by
      rintro rfl
      exact absurd lexical.1 (by decide +kernel)
    exact .point (CodePoint.isBlank_of_isLexical lexical.1) noQuote (noEnd _)
      (hypothesis lexical.2)

end Stretch

namespace Cursor

/-- The text up to a cursor can be cut into stretches that may stand before the inside of
a region.  The blanks at the cursor belong to what follows. -/
def Covers (closing text : Text) (cursor : Cursor) : Prop :=
  ∃ front gap, gap.isBlank = true ∧ text = before front ++ (gap ++ cursor.skipBlanks.rest) ∧
    ∀ inner more, Inside closing inner → gap ++ cursor.skipBlanks.rest = before inner ++ more →
      Inside closing (front ++ inner)

variable
  {closing text : Text}
  {first second : CodePoint}
  {cursor behind : Cursor}

theorem Covers.start (cursor : Cursor) : Covers closing cursor.skipBlanks.rest cursor :=
  ⟨[], [], rfl, rfl, fun _ _ inside _ => inside⟩

/-- One more lexeme is passed. -/
theorem Covers.pass
    (covers : Covers closing text cursor)
    (kept : Text)
    (others : List Stretch)
    (unread : cursor.skipBlanks.rest = before (.kept kept :: others) ++ behind.rest)
    (extend : ∀ inner more, Inside closing inner → behind.rest = before inner ++ more →
      Inside closing (.kept kept :: others ++ inner)) :
    Covers closing text behind := by
  obtain ⟨front, gap, blank, whole, covered⟩ := covers
  obtain ⟨next, nextBlank, skipped⟩ := behind.exists_blanks
  by_cases nothing : gap = []
  · subst nothing
    refine ⟨front ++ .kept kept :: others, next, nextBlank, ?_, fun inner more inside rest => ?_⟩
    · rw [whole, unread, before_append, List.append_assoc, ← skipped]
      rfl
    · rw [List.append_assoc]
      have split := skipped.trans rest
      refine covered _ more (extend inner more inside split) ?_
      rw [unread, split, List.nil_append, before_append, List.append_assoc]
  · refine ⟨front ++ .gap gap gap :: .kept kept :: others, next, nextBlank, ?_,
      fun inner more inside rest => ?_⟩
    · rw [whole, unread, before_append, List.append_assoc, ← skipped]
      simp only [before, List.append_assoc]
    · rw [List.append_assoc]
      have split := skipped.trans rest
      refine covered _ more (.blanks nothing nothing blank blank trivial
        (extend inner more inside split)) ?_
      rw [unread, split]
      simp only [List.cons_append, before, before_append, List.append_assoc]

theorem Covers.lexeme
    (closer : Closer first second)
    (covers : Covers [first, second] text cursor)
    {lexeme : Text}
    (notEmpty : lexeme ≠ [])
    (lexical : lexeme.all CodePoint.isLexical = true)
    (unread : cursor.skipBlanks.rest = lexeme ++ behind.rest) :
    Covers [first, second] text behind := by
  obtain ⟨point, others, rfl⟩ := List.exists_cons_of_ne_nil notEmpty
  refine covers.pass [point] (points others) ?_
    fun _ _ inside _ => inside.points closer (point :: others) lexical
  rw [unread]
  exact congrArg (· ++ behind.rest) (before_points (point :: others)).symm

/-- A token that does not begin with the closing delimiter is passed. -/
theorem Covers.token
    {token : Token}
    (closer : Closer first second)
    (covers : Covers [first, second] text cursor)
    (scanned : Reading.token cursor = .ok (token, behind))
    (notDone : ¬ [first, second] <+: cursor.skipBlanks.rest) :
    Covers [first, second] text behind := by
  have noBlank : ∀ point ∈ cursor.skipBlanks.rest.head?, point.isBlank = false := by
    rw [rest_skipBlanks]
    exact Text.head?_dropWhile CodePoint.isBlank cursor.rest
  have ofStyle (style : Style) {lexeme : Text}
      (start : ∀ {point}, style.isStart point = true → point.isLexical = true)
      (rest : ∀ {point}, style.isRest point = true → point.isLexical = true)
      (found : style.lexeme? cursor.skipBlanks.rest = some lexeme) :
      Covers [first, second] text (cursor.skipBlanks.forward lexeme.length) := by
    obtain ⟨more, whole, _⟩ := Token.exists_append_of_lexeme? found
    obtain ⟨point, others, _, _, isLexeme⟩ := Token.exists_of_lexeme? found
    refine covers.lexeme closer (isLexeme ▸ List.cons_ne_nil _ _)
      (Style.all_isLexical_of_lexeme? start rest found) ?_
    rw [rest_forward_of_append whole, whole]
  cases Reading.token_eq_ok_iff_scans.1 scanned with
  | finish atEnd =>
    have twice : cursor.skipBlanks.skipBlanks = cursor.skipBlanks := by
      rw [skipBlanks, atEnd]
      rfl
    rw [Covers, twice]
    exact covers
  | @number digit rest unread isDigit =>
    obtain ⟨form, after, found, whole⟩ := Numeral.exists_form_append isDigit rest
    rw [unread, found]
    refine covers.lexeme closer (found ▸ Numeral.lexeme_ne_nil isDigit rest) form.all_isLexical ?_
    rw [rest_forward_of_append (unread.trans whole), unread, whole]
  | @string rest content count unread read =>
    obtain ⟨body, after, ⟨quotes, rfl⟩, rfl⟩ := StringLiteral.exists_closes_of_read read
    have length : (StringLiteral.between body).length = body.length + 1 + 1 := by
      simp [StringLiteral.between, Text.of]
    have whole := unread.trans (StringLiteral.between_append body after).symm
    refine covers.pass (StringLiteral.between body) [] ?_
      fun inner more inside _ => .literal quotes inside
    rw [← length, rest_forward_of_append whole, whole]
    simp [before]
  | word found =>
    exact ofStyle .identifier CodePoint.isLexical_of_isWordStart
      CodePoint.isLexical_of_isWordRest found
  | operator found =>
    exact ofStyle .operator CodePoint.isLexical_of_isOperatorStart
      CodePoint.isLexical_of_isOperatorRest found
  | @punctuation point rest unread noDigit noQuote =>
    have next : (cursor.skipBlanks.forward 1).rest = rest := by
      rw [rest_forward, unread]
      rfl
    refine covers.pass [point] [] ?_ fun inner more inside split => ?_
    · rw [unread, next]
      rfl
    · refine .point (noBlank point (by rw [unread]; rfl)) noQuote (fun begins => notDone ?_) inside
      rw [unread, ← next, split, ← List.cons_append]
      exact begins.trans (List.prefix_append _ _)

end Cursor

/-- A region is read alongside itself, and what is passed is cut into stretches. -/
def Region.covering
    (region : Region)
    {first second : CodePoint}
    (closer : Closer first second)
    (isClosing : region.closing = [first, second])
    (text : Text) :
    region.Alongside region .stay where
  related cursor target := target = cursor ∧ Covers [first, second] text cursor
  room _ := True
  known := region.Proceeds
  operators := rfl
  room_of_known _ := trivial
  room_of_reaches _ _ := trivial
  known_of_token scanned lexeme _ := .of_token scanned lexeme
  isDone_eq related _ := congrArg region.isDone related.1
  continues related _ next := by
    obtain ⟨rfl, covers⟩ := related
    have notDone := next.1
    rw [Bool.eq_false_iff, Ne, isDone_iff, isClosing] at notDone
    exact ⟨_, _, next, ⟨rfl, rfl, rfl⟩, rfl, covers.token closer next.2 notDone⟩
  tokens related scanned lexeme proceeds := by
    obtain ⟨rfl, covers⟩ := related
    exact ⟨_, _, scanned, ⟨rfl, rfl, rfl⟩, rfl, covers.token closer scanned
      (not_closing_of_token closer isClosing scanned lexeme proceeds)⟩
  touches related scanned _ _ touches scanned' := by
    obtain ⟨rfl, _⟩ := related
    obtain ⟨rfl, rfl⟩ := Prod.mk.inj (Except.ok.inj (scanned.symm.trans scanned'))
    exact touches
  bindingSign related signed _ := by
    obtain ⟨rfl, covers⟩ := related
    have unread := rest_of_consume? (Document.bindingSign_eq_ok.1 signed).2
    exact ⟨_, signed, rfl, covers.lexeme closer (by decide) (by decide +kernel) unread⟩

/-- What has to stand somewhere does not stand where the region ends. -/
theorem Region.Reads.isDone_eq_false
    {region : Region}
    {goal : Goal}
    {levels : Nat}
    {cursor finish : Cursor}
    {node : Node}
    (reads : region.Reads goal levels cursor node finish)
    (needed : goal.isNeeded = true) :
    region.isDone cursor = false := by
  induction reads with
  | expression _ _ _ firstHypothesis => exact firstHypothesis rfl
  | none | filter | binary => cases needed
  | operand next | prefixed next | parenthesised next | literal next | reference next =>
    exact next.1

/-- A region that was passed up to its closing delimiter is cut into stretches. -/
theorem Region.exists_inside
    {region : Region}
    {first second : CodePoint}
    {start cursor behind : Cursor}
    (isClosing : region.closing = [first, second])
    (notDone : ¬ [first, second] <+: start.skipBlanks.rest)
    (covers : Covers [first, second] start.skipBlanks.rest cursor)
    (closes : region.close cursor = .ok ((), behind)) :
    ∃ inner, Settled inner ∧ Inside [first, second] inner ∧
      start.skipBlanks.rest = before inner ++ behind.rest := by
  obtain ⟨front, gap, blank, whole, covered⟩ := covers
  have unread := rest_of_consume? (close_eq_ok.1 closes)
  rw [isClosing] at unread
  have inside := covered [.gap gap gap, .kept [first, second]] behind.rest (.closed blank blank)
    (by rw [unread]; simp [before])
  have split : start.skipBlanks.rest =
      before (front ++ [.gap gap gap, .kept [first, second]]) ++ behind.rest := by
    rw [whole, unread]
    simp [before]
  refine ⟨_, ?_, inside, split⟩
  -- The text begins with a lexeme, so no gap comes first.
  have noBlank {blanks : Text} (blank : blanks.isBlank = true) {rest : Text}
      (begins : start.skipBlanks.rest = blanks ++ rest) : blanks = [] := by
    cases blanks with
    | nil => rfl
    | cons point blanks =>
      rw [rest_skipBlanks] at begins
      have stops := Text.head?_dropWhile CodePoint.isBlank start.rest point (by
        rw [← Text.trimStart, begins]
        rfl)
      rw [List.all_eq_true.1 blank point List.mem_cons_self] at stops
      cases stops
  generalize front ++ [.gap gap gap, .kept [first, second]] = inner at inside split
  cases inside with
  | closed oldBlank =>
    simp only [before, List.append_assoc, List.append_nil] at split
    obtain rfl := noBlank oldBlank split
    exact absurd ⟨_, split.symm⟩ notDone
  | blanks oldSome _ oldBlank =>
    rw [before, List.append_assoc] at split
    exact absurd (noBlank oldBlank split) oldSome
  | literal => trivial
  | point => trivial

end Stencil
