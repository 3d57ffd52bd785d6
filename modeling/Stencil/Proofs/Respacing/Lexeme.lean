import Stencil.Proofs.Respacing
import Stencil.Proofs.Tokenization

/-!
# Lexemes between other blanks

The closing delimiters of regions end every lexeme, and so do blanks.  So a lexeme within
a region is the same between other blanks: its characters are kept, and what follows it
cannot extend it there if it cannot extend it here.
-/

namespace Stencil

/-! ## Characters of lexemes -/

/-- A character of words, numerals or operators. -/
def CodePoint.isLexical (point : CodePoint) : Bool :=
  Numeral.isTail point || Style.isOperatorStart point

namespace CodePoint

variable {point : CodePoint}

theorem isLexical_of_isTail
    (tail : Numeral.isTail point = true) :
    point.isLexical = true := by
  rw [isLexical, tail, Bool.true_or]

theorem isLexical_of_isWordRest
    (rest : point.isWordRest = true) :
    point.isLexical = true :=
  isLexical_of_isTail (by rw [Numeral.isTail, rest, Bool.true_or])

theorem isLexical_of_isWordStart
    (start : point.isWordStart = true) :
    point.isLexical = true := by
  rw [isWordStart, Bool.and_eq_true] at start
  exact isLexical_of_isWordRest (by rw [isWordRest, start.1, Bool.true_or])

theorem isLexical_of_isHexDigit
    (hexadecimal : point.isHexDigit = true) :
    point.isLexical = true :=
  isLexical_of_isWordRest (by rw [isWordRest, isWord_of_isHexDigit hexadecimal, Bool.true_or])

theorem isLexical_of_isDigit
    (digit : point.isDigit = true) :
    point.isLexical = true :=
  isLexical_of_isHexDigit (isHexDigit_of_isDigit digit)

theorem isLexical_of_isOperatorStart
    (start : Style.isOperatorStart point = true) :
    point.isLexical = true := by
  rw [isLexical, start, Bool.or_true]

theorem isLexical_of_isOperatorRest
    (rest : Style.isOperatorRest point = true) :
    point.isLexical = true := by
  have checked : (Text.of "-+!&|=><").all Style.isOperatorStart = true := by decide
  have member : point ∈ Text.of "-+!&|=><" := by simpa [Style.isOperatorRest] using rest
  exact isLexical_of_isOperatorStart (List.all_eq_true.1 checked point member)

theorem isBlank_of_isLexical
    (lexical : point.isLexical = true) :
    point.isBlank = false := by
  cases blank : point.isBlank with
  | false => rfl
  | true =>
    have noStop : point ≠ '.' := by
      rintro rfl
      exact absurd blank (by decide)
    have noStart : Style.isOperatorStart point = false := by
      cases start : Style.isOperatorStart point with
      | false => rfl
      | true => simp [(Token.not_word_of_isOperatorStart start).2.2.2] at blank
    simp [isLexical, Numeral.isTail, isWordRest_of_isBlank blank, noStop, noStart] at lexical

end CodePoint

namespace Numeral

theorem Digits.all_isLexical
    {base : Base}
    (digits : Digits base) :
    digits.text.all CodePoint.isLexical = true := by
  rw [List.all_eq_true]
  intro point member
  have isDigit := List.all_eq_true.1 digits.all_isDigit point member
  exact CodePoint.isLexical_of_isHexDigit (Base.isHexDigit_of_isDigit isDigit)

theorem Form.all_isLexical (form : Form) : form.text.all CodePoint.isLexical = true := by
  cases form with
  | hexadecimal mark isMark digits =>
    have lexical : mark.isLexical = true := by rcases isMark with rfl | rfl <;> decide +kernel
    simp only [Form.text, List.all_cons, lexical, digits.all_isLexical, Bool.and_true]
    decide +kernel
  | octal mark isMark digits =>
    have lexical : mark.isLexical = true := by rcases isMark with rfl | rfl <;> decide +kernel
    simp only [Form.text, List.all_cons, lexical, digits.all_isLexical, Bool.and_true]
    decide +kernel
  | decimal whole fraction power =>
    have places : (fractionText fraction).all CodePoint.isLexical = true := by
      cases fraction with
      | none => rfl
      | some digits =>
        rw [fractionText, List.all_cons, digits.all_isLexical]
        decide +kernel
    have exponent : (powerText power).all CodePoint.isLexical = true := by
      cases power with
      | none => rfl
      | some power =>
        have mark : power.mark.isLexical = true := by
          rcases power.isMark with same | same <;> rw [same] <;> decide +kernel
        have sign : power.sign.all CodePoint.isLexical = true := by
          rcases power.isSign with same | same | same <;> rw [same] <;> decide +kernel
        simp only [powerText, Power.text, List.all_cons, List.all_append, mark, sign,
          power.digits.all_isLexical, Bool.and_self]
    simp only [Form.text, List.all_append, whole.all_isLexical, places, exponent, Bool.and_self]

end Numeral

theorem Style.all_isLexical_of_lexeme?
    {style : Style}
    {text lexeme : Text}
    (start : ∀ {point}, style.isStart point = true → point.isLexical = true)
    (rest : ∀ {point}, style.isRest point = true → point.isLexical = true)
    (found : style.lexeme? text = some lexeme) :
    lexeme.all CodePoint.isLexical = true := by
  obtain ⟨first, others, rfl, isStart, rfl⟩ := Token.exists_of_lexeme? found
  rw [List.all_cons, start isStart, Bool.true_and, List.all_eq_true]
  intro point member
  exact rest (List.all_eq_true.1 List.all_takeWhile point member)

/-- A character that begins no lexeme. -/
structure CodePoint.IsStray (point : CodePoint) : Prop where
  /-- It is no blank. -/
  noBlank : point.isBlank = false
  /-- It begins no string literal. -/
  noQuote : point ≠ '"'
  /-- It belongs to no word, numeral or operator. -/
  noLexeme : point.isLexical = false
  /-- It is no punctuation. -/
  unknown : Token.Kind.ofPunctuation point = .unknown

/-- A closing delimiter of two characters that ends every lexeme.  If its first character
is one, then not the second. -/
structure Closer (first second : CodePoint) : Prop where
  /-- It begins with no blank. -/
  noBlank : first.isBlank = false
  /-- It begins with no quote. -/
  noQuote : first ≠ '"'
  /-- It extends no word, numeral or operator. -/
  noLexeme : first.isLexical = false
  /-- One of the characters begins no lexeme. -/
  stray : Token.Kind.ofPunctuation first = .unknown ∨ second.IsStray ∧ second ≠ first

theorem Closer.of_stray
    {first second : CodePoint}
    (stray : first.IsStray) :
    Closer first second :=
  ⟨stray.noBlank, stray.noQuote, stray.noLexeme, .inl stray.unknown⟩

/-- The closing delimiters of expressions and tags end every lexeme. -/
theorem Delimiters.IsPreset.exists_closer
    {delimiters : Delimiters}
    (preset : delimiters.IsPreset)
    (kind : Kind)
    (isRegion : kind = .inline ∨ kind = .block) :
    ∃ first second, (delimiters.pair kind).closing = [first, second] ∧ Closer first second := by
  rcases preset with rfl | rfl <;> rcases isRegion with rfl | rfl
  · exact ⟨'\x7d', '\x7d', rfl, .of_stray ⟨by decide, by decide, by decide +kernel, by decide⟩⟩
  · exact ⟨'%', '\x7d', rfl, .of_stray ⟨by decide, by decide, by decide +kernel, by decide⟩⟩
  · exact ⟨'@', '>', rfl, .of_stray ⟨by decide, by decide, by decide +kernel, by decide⟩⟩
  · exact ⟨')', '@', rfl, by decide, by decide, by decide +kernel,
      .inr ⟨⟨by decide, by decide, by decide +kernel, by decide⟩, by decide⟩⟩

namespace Token

variable
  {cursor behind : Cursor}
  {token : Token}
  {point : CodePoint}
  {rest : Text}

/-- A character of no longer lexeme is a token of its own. -/
theorem Scans.eq_of_not_isLexical
    (scans : Scans cursor token behind)
    (unread : cursor.rest = point :: rest)
    (noQuote : point ≠ '"')
    (noLexeme : point.isLexical = false) :
    token.kind = Kind.ofPunctuation point ∧ behind = cursor.forward 1 := by
  have absurdly (lexical : point.isLexical = true) : False := by simp [noLexeme] at lexical
  cases scans with
  | finish atEnd => simp [unread] at atEnd
  | number isNumber isDigit =>
    obtain ⟨rfl, _⟩ := List.cons.inj (unread.symm.trans isNumber)
    exact (absurdly (CodePoint.isLexical_of_isDigit isDigit)).elim
  | string isQuoted =>
    obtain ⟨rfl, _⟩ := List.cons.inj (unread.symm.trans isQuoted)
    exact absurd rfl noQuote
  | word found =>
    obtain ⟨_, _, isWord, start, _⟩ := exists_of_lexeme? found
    obtain ⟨rfl, _⟩ := List.cons.inj (unread.symm.trans isWord)
    exact (absurdly (CodePoint.isLexical_of_isWordStart start)).elim
  | operator found =>
    obtain ⟨_, _, isOperator, start, _⟩ := exists_of_lexeme? found
    obtain ⟨rfl, _⟩ := List.cons.inj (unread.symm.trans isOperator)
    exact (absurdly (CodePoint.isLexical_of_isOperatorStart start)).elim
  | punctuation isPunctuation =>
    obtain ⟨rfl, _⟩ := List.cons.inj (unread.symm.trans isPunctuation)
    exact ⟨rfl, rfl⟩

end Token

theorem Cursor.skipBlanks_of_solid
    {cursor : Cursor}
    (solid : cursor.rest.IsSolid) :
    cursor.skipBlanks = cursor :=
  @Cursor.skipBlanks_eq cursor [] _ rfl rfl solid

/-- Blanks may be skipped in two parts. -/
theorem Cursor.skipBlanks_forward
    {cursor : Cursor}
    {blanks rest : Text}
    (unread : cursor.rest = blanks ++ rest)
    (blank : blanks.isBlank = true) :
    (cursor.forward blanks.length).skipBlanks = cursor.skipBlanks := by
  rw [skipBlanks, skipBlanks, rest_forward_of_append unread, unread,
    List.takeWhile_append_of_pos (List.all_eq_true.1 blank), List.length_append, forward_add]

/-! ## What follows within a region -/

namespace Stretch

variable
  {first second : CodePoint}
  {closing : Text}
  {inner : List Stretch}

/-- What is inside a region is at least as long as its closing delimiter. -/
theorem Inside.length_closing_le (inside : Inside closing inner) :
    closing.length ≤ (before inner).length := by
  induction inside with
  | closed =>
    simp only [before, List.length_append, List.length_nil]
    omega
  | _ =>
    simp only [before, List.length_append]
    omega

/-- No closing delimiter begins at a character that is kept. -/
theorem Inside.not_prefix_append
    {point : CodePoint}
    (inside : Inside closing inner)
    (noEnd : ¬ closing <+: point :: before inner)
    (tail : List Stretch) :
    ¬ closing <+: point :: before (inner ++ tail) := by
  intro begins
  have fits := inside.length_closing_le
  rw [before_append, ← List.cons_append] at begins
  exact noEnd (List.prefix_of_prefix_length_le begins (List.prefix_append _ _)
    (Nat.le_succ_of_le fits))

theorem head?_blanks_append
    {blanks rest : Text}
    {point : CodePoint}
    (blank : blanks.isBlank = true)
    (noBlank : point.isBlank = false) :
    (blanks ++ rest).head? = some point ↔ blanks = [] ∧ rest.head? = some point := by
  cases blanks with
  | nil => simp
  | cons other blanks =>
    have otherBlank : other.isBlank = true := List.all_eq_true.1 blank other List.mem_cons_self
    simp only [List.cons_append, List.head?_cons, Option.some.injEq, reduceCtorEq, false_and,
      iff_false]
    rintro rfl
    simp [noBlank] at otherBlank

/-- A character that is no blank and does not begin the closing delimiter follows in both
sources or in none. -/
theorem Inside.head?_iff
    (inside : Inside [first, second] inner)
    {point : CodePoint}
    (noBlank : point.isBlank = false)
    (noEnd : point ≠ first)
    (tail : List Stretch) :
    (after (inner ++ tail)).head? = some point ↔ (before (inner ++ tail)).head? = some point := by
  cases inside with
  | closed oldBlank newBlank =>
    have absent : ¬ some first = some point := fun same => noEnd (Option.some.inj same).symm
    simp only [List.cons_append, after, before, head?_blanks_append oldBlank noBlank,
      head?_blanks_append newBlank noBlank]
    exact iff_of_false (fun there => absent there.2) (fun here => absent here.2)
  | blanks oldSome newSome oldBlank newBlank =>
    simp only [List.cons_append, after, before, head?_blanks_append oldBlank noBlank,
      head?_blanks_append newBlank noBlank, oldSome, newSome, false_and]
  | literal => rfl
  | point => rfl

/-- Characters of lexemes are kept. -/
theorem Inside.exists_points
    (closer : Closer first second)
    (inside : Inside [first, second] inner)
    {tail : List Stretch}
    {lexeme rest : Text}
    (lexical : lexeme.all CodePoint.isLexical = true)
    (whole : before (inner ++ tail) = lexeme ++ rest) :
    ∃ inner', Inside [first, second] inner' ∧ inner = points lexeme ++ inner' := by
  induction lexeme generalizing inner with
  | nil => exact ⟨inner, inside, rfl⟩
  | cons point lexeme hypothesis =>
    rw [List.all_cons, Bool.and_eq_true] at lexical
    have noBlank := CodePoint.isBlank_of_isLexical lexical.1
    have noEnd : point ≠ first := by
      rintro rfl
      exact absurd closer.noLexeme (by simp [lexical.1])
    have isHead : (before (inner ++ tail)).head? = some point := by
      rw [whole]
      rfl
    cases inside with
    | closed oldBlank =>
      rw [List.cons_append, before, head?_blanks_append oldBlank noBlank] at isHead
      exact absurd (Option.some.inj isHead.2).symm noEnd
    | blanks oldSome _ oldBlank =>
      rw [List.cons_append, before, head?_blanks_append oldBlank noBlank] at isHead
      exact absurd isHead.1 oldSome
    | literal =>
      obtain rfl := Option.some.inj isHead
      exact absurd lexical.1 (by decide +kernel)
    | @point other inner _ _ _ further =>
      have split : other :: before (inner ++ tail) = point :: (lexeme ++ rest) := whole
      obtain ⟨rfl, behind⟩ := List.cons.inj split
      obtain ⟨inner', inside', rfl⟩ := hypothesis further lexical.2 behind
      exact ⟨inner', inside', rfl⟩

end Stretch

namespace Cursor

open Stretch

/-- Two cursors stand in a region, in a source and in one with other blanks.  What stands
behind the region is given. -/
def Respaced
    (relocation : Relocation)
    (closing : Text)
    (tail : List Stretch)
    (cursor target : Cursor) : Prop :=
  ∃ inner, Inside closing inner ∧ Aligned relocation (inner ++ tail) cursor target

/-- The same lexeme or closing delimiter begins at two cursors in a region, in a source
and in one with other blanks. -/
inductive Faces
    (relocation : Relocation)
    (closing : Text)
    (tail : List Stretch)
    (cursor target : Cursor) : Prop
  /-- The region ends. -/
  | closing
      (aligned : Aligned relocation (.kept closing :: tail) cursor target)
  /-- The region goes on. -/
  | lexeme
      {text : Text}
      {inner : List Stretch}
      (inside : Inside closing (.kept text :: inner))
      (aligned : Aligned relocation (.kept text :: inner ++ tail) cursor target)

variable
  {relocation : Relocation}
  {closing : Text}
  {tail : List Stretch}
  {first second : CodePoint}
  {cursor target : Cursor}

/-- Where the closing delimiter does not begin, the region goes on. -/
theorem Faces.respaced
    (faces : Faces relocation closing tail cursor target)
    (notDone : ¬ closing <+: cursor.rest) :
    Respaced relocation closing tail cursor target := by
  cases faces with
  | closing aligned => exact absurd ⟨_, aligned.before.symm⟩ notDone
  | lexeme inside aligned => exact ⟨_, inside, aligned⟩

theorem Faces.here (faces : Faces relocation closing tail cursor target) :
    target.position = relocation.map cursor.position := by
  cases faces with
  | closing aligned => exact aligned.here trivial
  | lexeme inside aligned => exact aligned.here trivial

/-- Behind the blanks at two cursors the same lexeme or closing delimiter begins. -/
theorem Respaced.faces
    (closer : Closer first second)
    (respaced : Respaced relocation [first, second] tail cursor target) :
    Faces relocation [first, second] tail cursor.skipBlanks target.skipBlanks := by
  obtain ⟨inner, inside, aligned⟩ := respaced
  have solid {text : Text} {point : CodePoint} {rest : Text} (isText : text = point :: rest)
      (noBlank : point.isBlank = false) : text.IsSolid := ⟨point, rest, isText, noBlank⟩
  induction inside generalizing cursor target with
  | closed oldBlank newBlank =>
    rw [← skipBlanks_forward aligned.before oldBlank, ← skipBlanks_forward aligned.after newBlank]
    have onward := aligned.forward_gap
    rw [skipBlanks_of_solid (solid onward.before closer.noBlank),
      skipBlanks_of_solid (solid onward.after closer.noBlank)]
    exact .closing onward
  | blanks _ _ oldBlank newBlank _ _ hypothesis =>
    rw [← skipBlanks_forward aligned.before oldBlank, ← skipBlanks_forward aligned.after newBlank]
    exact hypothesis aligned.forward_gap
  | literal quotes further _ =>
    rw [skipBlanks_of_solid (solid aligned.before (by decide)),
      skipBlanks_of_solid (solid aligned.after (by decide))]
    exact .lexeme (.literal quotes further) aligned
  | point noBlank noQuote noEnd further _ =>
    rw [skipBlanks_of_solid (solid aligned.before noBlank),
      skipBlanks_of_solid (solid aligned.after noBlank)]
    exact .lexeme (.point noBlank noQuote noEnd further) aligned

theorem Respaced.head?_iff
    (respaced : Respaced relocation [first, second] tail cursor target)
    {point : CodePoint}
    (noBlank : point.isBlank = false)
    (noEnd : point ≠ first) :
    target.rest.head? = some point ↔ cursor.rest.head? = some point := by
  obtain ⟨inner, inside, aligned⟩ := respaced
  rw [aligned.before, aligned.after]
  exact inside.head?_iff noBlank noEnd tail

/-- A character of lexemes follows in both sources or in none. -/
theorem Respaced.head?_iff_of_isLexical
    (closer : Closer first second)
    (respaced : Respaced relocation [first, second] tail cursor target)
    {point : CodePoint}
    (lexical : point.isLexical = true) :
    target.rest.head? = some point ↔ cursor.rest.head? = some point := by
  refine respaced.head?_iff (CodePoint.isBlank_of_isLexical lexical) ?_
  rintro rfl
  exact absurd closer.noLexeme (by simp [lexical])

/-- What cannot extend a lexeme in a source cannot extend it in the other one. -/
theorem Respaced.ends
    (closer : Closer first second)
    (respaced : Respaced relocation [first, second] tail cursor target)
    {property : CodePoint → Bool}
    (within : ∀ {point}, property point = true → point.isLexical = true)
    (ends : ∀ point ∈ cursor.rest.head?, property point = false) :
    ∀ point ∈ target.rest.head?, property point = false := by
  intro point isHead
  cases holds : property point with
  | false => rfl
  | true =>
    have there := (respaced.head?_iff_of_isLexical closer (within holds)).1 isHead
    exact absurd (ends point there) (by simp [holds])

/-- A lexeme is kept. -/
theorem Respaced.lexeme
    (closer : Closer first second)
    (respaced : Respaced relocation [first, second] tail cursor target)
    {lexeme rest : Text}
    (lexical : lexeme.all CodePoint.isLexical = true)
    (unread : cursor.rest = lexeme ++ rest) :
    target.rest = lexeme ++ (target.forward lexeme.length).rest ∧
      Respaced relocation [first, second] tail (cursor.forward lexeme.length)
        (target.forward lexeme.length) := by
  obtain ⟨inner, inside, aligned⟩ := respaced
  obtain ⟨inner', inside', rfl⟩ :=
    inside.exists_points closer lexical (aligned.before.symm.trans unread)
  rw [List.append_assoc] at aligned
  refine ⟨?_, inner', inside', aligned.forward_points⟩
  have whole := aligned.after
  rw [after_append, after_points] at whole
  rw [rest_forward_of_append whole, whole]

/-- A word and an operator are found at both cursors. -/
theorem Respaced.lexeme?_eq
    (closer : Closer first second)
    (respaced : Respaced relocation [first, second] tail cursor target)
    {style : Style}
    {lexeme : Text}
    (start : ∀ {point}, style.isStart point = true → point.isLexical = true)
    (rest : ∀ {point}, style.isRest point = true → point.isLexical = true)
    (found : style.lexeme? cursor.rest = some lexeme) :
    style.lexeme? target.rest = some lexeme ∧
      Respaced relocation [first, second] tail (cursor.forward lexeme.length)
        (target.forward lexeme.length) := by
  obtain ⟨others, whole, ends⟩ := Token.exists_append_of_lexeme? found
  have lexical := Style.all_isLexical_of_lexeme? start rest found
  obtain ⟨unread, further⟩ := respaced.lexeme closer lexical whole
  have ends' := further.ends closer rest (by
    rw [rest_forward_of_append whole]
    exact ends)
  refine ⟨?_, further⟩
  rw [unread]
  exact (Token.isLexeme_of_lexeme? found).lexeme?_append ends'

/-- The closing delimiter begins at both cursors, and it is aligned with what is behind
the region. -/
theorem Faces.closed
    (closer : Closer first second)
    (faces : Faces relocation [first, second] tail cursor target)
    (begins : [first, second] <+: cursor.rest) :
    Aligned relocation (.kept [first, second] :: tail) cursor target := by
  cases faces with
  | closing aligned => exact aligned
  | lexeme inside aligned =>
    rw [aligned.before] at begins
    cases inside with
    | literal => exact absurd (List.cons_prefix_cons.1 begins).1 closer.noQuote
    | point _ _ noEnd further => exact absurd begins (further.not_prefix_append noEnd tail)

end Cursor

/-! ## Tokens -/

namespace Token

open Cursor

variable
  {relocation : Relocation}
  {tail : List Stretch}
  {first second : CodePoint}
  {cursor target behind : Cursor}
  {token : Token}

/-- A lexeme within a region is scanned between other blanks. -/
theorem Scans.respaced
    (closer : Closer first second)
    (scans : Scans cursor token behind)
    (faces : Faces relocation [first, second] tail cursor target)
    (notDone : ¬ [first, second] <+: cursor.rest) :
    ∃ token' behind', Scans target token' behind' ∧ token.Moves relocation token' ∧
      Respaced relocation [first, second] tail behind behind' := by
  have located (kind : Kind) (value : Text) :
      Moves relocation (located cursor kind value) (located target kind value) :=
    ⟨rfl, rfl, faces.here⟩
  have respaced := faces.respaced notDone
  cases scans with
  | finish atEnd =>
    obtain ⟨inner, inside, aligned⟩ := respaced
    have fits := inside.length_closing_le
    rw [aligned.before, Stretch.before_append, List.append_eq_nil_iff] at atEnd
    rw [atEnd.1] at fits
    exact absurd fits (by simp)
  | @number digit rest unread isDigit ends =>
    obtain ⟨form, after, found, whole⟩ := Numeral.exists_form_append isDigit rest
    rw [unread, found] at ends ⊢
    rw [whole, List.drop_left] at ends
    obtain ⟨unread', further⟩ := respaced.lexeme closer form.all_isLexical (unread.trans whole)
    have ends' := further.ends closer CodePoint.isLexical_of_isTail (by
      rw [rest_forward_of_append (unread.trans whole)]
      exact ends)
    have found' : Numeral.lexeme target.rest = form.text := by
      rw [unread']
      exact Numeral.lexeme_text_append ends' form
    obtain ⟨others, begins⟩ : ∃ others, target.rest = digit :: others := by
      obtain ⟨point, others, isForm⟩ := List.exists_cons_of_ne_nil
        (l := form.text) (by rw [← found]; exact Numeral.lexeme_ne_nil isDigit rest)
      rw [isForm, List.cons_append] at whole
      rw [isForm, List.cons_append, ← (List.cons.inj whole).1] at unread'
      exact ⟨_, unread'⟩
    have scans' : Scans target _ _ := .number begins isDigit (by
      rw [found', ← rest_forward]
      exact ends')
    rw [found'] at scans'
    exact ⟨_, _, scans', located _ _, further⟩
  | @string rest text count unread read =>
    have isHead : cursor.rest.head? = some (CodePoint.ofChar '"') := by rw [unread]; rfl
    obtain aligned | ⟨inside, aligned⟩ := faces
    · exact absurd ⟨_, aligned.before.symm⟩ notDone
    rw [aligned.before] at isHead
    cases inside with
    | point _ noQuote => exact absurd (Option.some.inj isHead) noQuote
    | @literal body content inner quotes further =>
      obtain ⟨_, rfl⟩ := List.cons.inj (unread.symm.trans
        (aligned.before.trans (StringLiteral.between_append body _)))
      have unread' := aligned.after.trans (StringLiteral.between_append body _)
      obtain ⟨rfl, rfl⟩ := Prod.mk.inj (Except.ok.inj (read.symm.trans (quotes.read_append _)))
      have length : (StringLiteral.between body).length = body.length + 1 + 1 := by
        simp [StringLiteral.between, Text.of]
      have onward := aligned.forward_kept
      rw [length] at onward
      exact ⟨_, _, .string unread' (quotes.read_append _), located _ _, _, further, onward⟩
  | word found =>
    obtain ⟨found', further⟩ := respaced.lexeme?_eq closer CodePoint.isLexical_of_isWordStart
      CodePoint.isLexical_of_isWordRest found
    exact ⟨_, _, .word found', located _ _, further⟩
  | operator found =>
    obtain ⟨found', further⟩ := respaced.lexeme?_eq closer CodePoint.isLexical_of_isOperatorStart
      CodePoint.isLexical_of_isOperatorRest found
    exact ⟨_, _, .operator found', located _ _, further⟩
  | @punctuation point rest unread noDigit noQuote noWord noOperator =>
    obtain aligned | ⟨inside, aligned⟩ := faces
    · exact absurd ⟨_, aligned.before.symm⟩ notDone
    have whole := aligned.before.symm.trans unread
    cases inside with
    | literal => exact absurd (List.cons.inj whole).1.symm noQuote
    | point _ _ _ further =>
      obtain ⟨rfl, _⟩ := List.cons.inj whole
      exact ⟨_, _, .punctuation aligned.after noDigit noQuote noWord noOperator, located _ _,
        _, further, aligned.forward_kept⟩

end Token

end Stencil
