import Stencil.Proofs.Success

/-!
# Progress

Reading only moves a cursor forward.  A cursor reaches another one if it comes
there by going forward, and passes to it if at least one code point lies
between.  Every token but the end of the text passes a code point; this is what
bounds the number of steps that reading a source takes.
-/

namespace Stencil

namespace Cursor

/-- Another cursor lies in the text ahead, or is the same. -/
def Reaches (origin target : Cursor) : Prop :=
  ∃ count, forward count origin = target

/-- Another cursor lies in the text ahead, behind at least one code point. -/
def Passes (origin target : Cursor) : Prop :=
  origin.Reaches target ∧ target.rest.length < origin.rest.length

theorem Reaches.refl (cursor : Cursor) : cursor.Reaches cursor :=
  ⟨0, rfl⟩

theorem Reaches.trans
    {first second third : Cursor}
    (near : first.Reaches second)
    (far : second.Reaches third) :
    first.Reaches third := by
  obtain ⟨count, rfl⟩ := near
  obtain ⟨more, rfl⟩ := far
  exact ⟨count + more, forward_add count more first⟩

theorem Reaches.length_le
    {origin target : Cursor}
    (reaches : origin.Reaches target) :
    target.rest.length ≤ origin.rest.length := by
  obtain ⟨count, rfl⟩ := reaches
  rw [rest_forward, List.length_drop]
  omega

theorem Passes.trans_reaches
    {first second third : Cursor}
    (near : first.Passes second)
    (far : second.Reaches third) :
    first.Passes third :=
  ⟨near.1.trans far, Nat.lt_of_le_of_lt far.length_le near.2⟩

theorem Reaches.trans_passes
    {first second third : Cursor}
    (near : first.Reaches second)
    (far : second.Passes third) :
    first.Passes third :=
  ⟨near.trans far.1, Nat.lt_of_lt_of_le far.2 near.length_le⟩

theorem Passes.trans
    {first second third : Cursor}
    (near : first.Passes second)
    (far : second.Passes third) :
    first.Passes third :=
  near.trans_reaches far.1

theorem reaches_forward (count : Nat) (cursor : Cursor) :
    cursor.Reaches (forward count cursor) :=
  ⟨count, rfl⟩

theorem reaches_skipBlanks (cursor : Cursor) : cursor.Reaches cursor.skipBlanks :=
  ⟨_, rfl⟩

/-- Going forward by a positive number passes a code point unless the text is
at its end. -/
theorem passes_forward
    {count : Nat}
    {cursor : Cursor}
    (positive : 0 < count)
    (unread : cursor.rest ≠ []) :
    cursor.Passes (forward count cursor) := by
  refine ⟨reaches_forward count cursor, ?_⟩
  have someUnread := List.length_pos_iff.2 unread
  rw [rest_forward, List.length_drop]
  omega

theorem passes_of_consume?
    {cursor behind : Cursor}
    {literal : Text}
    (notEmpty : literal ≠ [])
    (consumed : cursor.consume? literal = some behind) :
    cursor.Passes behind := by
  unfold consume? at consumed
  split at consumed
  case isFalse => simp at consumed
  rename_i begins
  obtain rfl := Option.some.inj consumed
  have isPrefix := List.isPrefixOf_iff_prefix.1 begins
  refine passes_forward (List.length_pos_iff.2 notEmpty) ?_
  intro atEnd
  rw [atEnd, List.prefix_nil] at isPrefix
  exact notEmpty isPrefix

theorem reaches_of_readThrough?
    {cursor behind : Cursor}
    {literal before : Text}
    (through : cursor.readThrough? literal = some (before, behind)) :
    cursor.Reaches behind := by
  simp only [readThrough?] at through
  split at through
  · simp at through
  · simp only [Option.some.injEq, Prod.mk.injEq] at through
    exact ⟨_, through.2⟩

end Cursor

namespace Numeral

/-- A text that begins with a digit begins with a numeral. -/
theorem lexeme_ne_nil
    {digit : CodePoint}
    (isDigit : digit.isDigit = true)
    (rest : Text) :
    lexeme (digit :: rest) ≠ [] := by
  have decimal_ne_nil : decimal (digit :: rest) ≠ [] := by
    simp [decimal, isDigit]
  cases rest with
  | nil => exact decimal_ne_nil
  | cons mark rest =>
    simp only [lexeme]
    split
    · exact List.cons_ne_nil _ _
    · split
      · exact List.cons_ne_nil _ _
      · exact decimal_ne_nil

end Numeral

namespace Token

theorem Kind.ofPunctuation_ne_finish (point : CodePoint) :
    Kind.ofPunctuation point ≠ .finish := by
  unfold Kind.ofPunctuation
  repeat' split
  all_goals exact Kind.noConfusion

theorem passes_lexeme
    {cursor : Cursor}
    {lexeme : Text}
    (unread : cursor.rest ≠ [])
    (notEmpty : lexeme ≠ []) :
    cursor.Passes (cursor.forward lexeme.length) :=
  Cursor.passes_forward (List.length_pos_iff.2 notEmpty) unread

/-- A token that begins at a cursor passes a code point, or is the end of the
text. -/
theorem scanHere_passes
    {cursor behind : Cursor}
    {token : Token}
    (scanned : scanHere cursor = .ok (token, behind)) :
    (token.kind = .finish ∧ behind = cursor) ∨
      (token.kind ≠ .finish ∧ cursor.Passes behind) := by
  unfold scanHere at scanned
  split at scanned
  · simp only [take, located, Except.ok.injEq, Prod.mk.injEq] at scanned
    obtain ⟨rfl, rfl⟩ := scanned
    exact .inl ⟨rfl, rfl⟩
  · rename_i point rest unread
    have notAtEnd : cursor.rest ≠ [] := by simp [unread]
    refine .inr ?_
    split at scanned
    · rename_i isDigit
      simp only [scanNumber] at scanned
      split at scanned
      · simp only [Except.ok.injEq] at scanned
        have notEmpty := Numeral.lexeme_ne_nil isDigit rest
        rw [← unread] at notEmpty
        simp only [take, located, Prod.mk.injEq] at scanned
        obtain ⟨rfl, rfl⟩ := scanned
        exact ⟨Kind.noConfusion, passes_lexeme notAtEnd notEmpty⟩
      · simp at scanned
    · split at scanned
      · simp only [scanString] at scanned
        split at scanned
        · simp only [located, Except.ok.injEq, Prod.mk.injEq] at scanned
          obtain ⟨rfl, rfl⟩ := scanned
          exact ⟨Kind.noConfusion, Cursor.passes_forward (Nat.succ_pos _) notAtEnd⟩
        · simp at scanned
      · -- Words and operators begin with the point that was looked at.
        have lexeme_ne_nil : ∀ {style : Style} {lexeme : Text},
            style.lexeme? cursor.rest = some lexeme → lexeme ≠ [] := by
          intro style lexeme found
          rw [unread, Style.lexeme?] at found
          simp only [Option.ite_none_right_eq_some, Option.some.injEq] at found
          rw [← found.2]
          exact List.cons_ne_nil _ _
        split at scanned
        · rename_i word found
          simp only [take, located, Except.ok.injEq, Prod.mk.injEq] at scanned
          obtain ⟨rfl, rfl⟩ := scanned
          exact ⟨Kind.noConfusion, passes_lexeme notAtEnd (lexeme_ne_nil found)⟩
        · split at scanned
          · rename_i symbol found
            simp only [take, located, Except.ok.injEq, Prod.mk.injEq] at scanned
            obtain ⟨rfl, rfl⟩ := scanned
            exact ⟨Kind.noConfusion, passes_lexeme notAtEnd (lexeme_ne_nil found)⟩
          · simp only [take, located, Except.ok.injEq, Prod.mk.injEq] at scanned
            obtain ⟨rfl, rfl⟩ := scanned
            exact ⟨Kind.ofPunctuation_ne_finish point,
              Cursor.passes_forward Nat.one_pos notAtEnd⟩

end Token

namespace Reading

theorem token_passes
    {cursor behind : Cursor}
    {found : Token}
    (scanned : token cursor = .ok (found, behind))
    (notFinish : found.kind ≠ .finish) :
    cursor.Passes behind := by
  rw [token_eq_ok, Token.scan] at scanned
  rcases Token.scanHere_passes scanned with ⟨isFinish, _⟩ | ⟨_, passes⟩
  · exact absurd isFinish notFinish
  · exact (Cursor.reaches_skipBlanks cursor).trans_passes passes

end Reading

namespace Region

open Reading

theorem close_passes
    {region : Region}
    {cursor behind : Cursor}
    (notEmpty : region.closing ≠ [])
    (closed : region.close cursor = .ok ((), behind)) :
    cursor.Passes behind :=
  (Cursor.reaches_skipBlanks cursor).trans_passes
    (Cursor.passes_of_consume? notEmpty (close_eq_ok.1 closed))

theorem identifier_passes
    {region : Region}
    {calls : Nat}
    {cursor behind : Cursor}
    {name : Identifier}
    (success : region.identifier (calls + 1) cursor = .ok (name, behind)) :
    cursor.Passes behind := by
  obtain ⟨token, ⟨_, scanned⟩, isName, _⟩ := identifier_eq_ok.1 success
  exact token_passes scanned (by simp [isName])

theorem filterName_passes
    {region : Region}
    {operator : Operator}
    {symbol : Token}
    {calls : Nat}
    {cursor behind : Cursor}
    {name : Text}
    (success : region.filterName operator symbol (calls + 1) cursor = .ok (name, behind)) :
    cursor.Passes behind := by
  obtain ⟨token, ⟨_, scanned⟩, isName, _⟩ := filterName_eq_ok.1 success
  exact token_passes scanned (by simp [isName])

/-- Looking for a literal that is not there leaves the cursor where it is; one
that is there is passed. -/
theorem literal?_passes
    {calls : Nat}
    {cursor behind : Cursor}
    {found : Option (Position × Literal)}
    (success : literal? (calls + 1) cursor = .ok (found, behind)) :
    (found = none ∧ behind = cursor) ∨ (found.isSome ∧ cursor.Passes behind) := by
  simp only [literal?, bind_eq_ok, Prod.exists] at success
  obtain ⟨token, after, scanned, success⟩ := success
  have passesToken : ∀ kind, token.kind = kind → kind ≠ .finish → cursor.Passes after := by
    intro kind sameKind notFinish
    exact token_passes scanned (by rwa [sameKind])
  have passesWord : ∀ word, token.isWord word = true → cursor.Passes after := by
    intro word isWord
    simp only [Token.isWord, Bool.and_eq_true, decide_eq_true_eq] at isWord
    exact passesToken _ isWord.1 Token.Kind.noConfusion
  have passesSign : ∀ sign, token.isOperator sign = true → cursor.Passes after := by
    intro sign isSign
    simp only [Token.isOperator, Bool.and_eq_true, decide_eq_true_eq] at isSign
    exact passesToken _ isSign.1 Token.Kind.noConfusion
  have reachesNext : ∀ {numeral : Token} {end' : Cursor},
      Reading.token after = .ok (numeral, end') → after.Reaches end' := by
    intro numeral end' next
    by_cases isFinish : numeral.kind = .finish
    · rw [token_eq_ok, Token.scan] at next
      rcases Token.scanHere_passes next with ⟨_, rfl⟩ | ⟨notFinish, _⟩
      · exact Cursor.reaches_skipBlanks after
      · exact absurd isFinish notFinish
    · exact (token_passes next isFinish).1
  split at success
  · rename_i isWord
    simp only [pure_eq_ok, Prod.mk.injEq] at success
    obtain ⟨rfl, rfl⟩ := success
    exact .inr ⟨rfl, passesWord _ isWord⟩
  split at success
  · rename_i isWord
    simp only [pure_eq_ok, Prod.mk.injEq] at success
    obtain ⟨rfl, rfl⟩ := success
    exact .inr ⟨rfl, passesWord _ isWord⟩
  split at success
  · rename_i isNumber
    simp only [bind_eq_ok, pure_eq_ok, Prod.mk.injEq] at success
    obtain ⟨value, _, rfl, rfl⟩ := success
    exact .inr ⟨rfl, passesToken _ isNumber Token.Kind.noConfusion⟩
  split at success
  · rename_i isString
    simp only [pure_eq_ok, Prod.mk.injEq] at success
    obtain ⟨rfl, rfl⟩ := success
    exact .inr ⟨rfl, passesToken _ isString Token.Kind.noConfusion⟩
  split at success
  · rename_i isSign
    simp only [bind_eq_ok, pure_eq_ok, Prod.exists, Prod.mk.injEq] at success
    obtain ⟨numeral, end', next, value, _, rfl, rfl⟩ := success
    rw [Bool.and_eq_true] at isSign
    exact .inr ⟨rfl, (passesSign _ isSign.1).trans_reaches (reachesNext next)⟩
  split at success
  · rename_i isSign
    simp only [bind_eq_ok, pure_eq_ok, Prod.exists, Prod.mk.injEq] at success
    obtain ⟨numeral, end', next, value, _, rfl, rfl⟩ := success
    rw [Bool.and_eq_true] at isSign
    exact .inr ⟨rfl, (passesSign _ isSign.1).trans_reaches (reachesNext next)⟩
  · simp only [pure_eq_ok, Prod.mk.injEq] at success
    obtain ⟨rfl, rfl⟩ := success
    exact .inl ⟨rfl, rfl⟩

end Region

end Stencil
