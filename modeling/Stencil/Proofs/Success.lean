import Stencil.Template

/-!
# When rules succeed

A rule gives a value only if every rule it is made of does.  This module takes
the small rules apart: each equivalence says exactly what a success of one rule
means, so that no later proof has to open the rule again.
-/

namespace Stencil

namespace Reading

/-- A sequence of two steps succeeds when both do. -/
theorem bind_eq_ok
    {first : Except ε α}
    {second : α → Except ε β}
    {result : β} :
    (first >>= second) = .ok result ↔
      ∃ value, first = .ok value ∧ second value = .ok result := by
  cases first with
  | error halt => simp [bind, Except.bind]
  | ok value => simp [bind, Except.bind]

theorem toOption_eq_some
    {outcome : Except ε α}
    {result : α} :
    outcome.toOption = some result ↔ outcome = .ok result := by
  cases outcome <;> simp [Except.toOption]

@[simp] theorem ok_bind (value : α) (next : α → Except Halt β) :
    (Except.ok value >>= next) = next value :=
  rfl

@[simp] theorem map_ok (function : α → β) (value : α) :
    (function <$> (Except.ok value : Except Halt α)) = .ok (function value) :=
  rfl

@[simp] theorem pure_eq_ok
    {value result : α} :
    (pure value : Except ε α) = .ok result ↔ value = result := by
  simp [pure, Except.pure]

@[simp] theorem fail_ne_ok
    (cause : Cause)
    (position : Position)
    (result : α) :
    (fail cause position = .ok result) = False := by
  simp [fail]

@[simp] theorem unexpected_ne_ok
    (expected : Expectation)
    (found : Token)
    (result : α) :
    (unexpected expected found = .ok result) = False := by
  simp [unexpected]

theorem token_eq_ok
    {cursor : Cursor}
    {scanned : Token × Cursor} :
    token cursor = .ok scanned ↔ Token.scan cursor = .ok scanned := by
  unfold token
  cases Token.scan cursor <;> simp

theorem expect_eq_ok
    {kind : Token.Kind}
    {expected : Expectation}
    {cursor behind : Cursor}
    {found : Token} :
    expect kind expected cursor = .ok (found, behind) ↔
      token cursor = .ok (found, behind) ∧ found.kind = kind := by
  simp only [expect, bind_eq_ok, Prod.exists]
  constructor
  · rintro ⟨other, after, scanned, outcome⟩
    split at outcome
    · simp only [pure_eq_ok, Prod.mk.injEq] at outcome
      obtain ⟨rfl, rfl⟩ := outcome
      exact ⟨scanned, by assumption⟩
    · simp at outcome
  · rintro ⟨scanned, sameKind⟩
    exact ⟨found, behind, scanned, by simp [sameKind]⟩

theorem expectOperator_eq_ok
    {symbol : Text}
    {cursor behind : Cursor}
    {found : Token} :
    expectOperator symbol cursor = .ok (found, behind) ↔
      token cursor = .ok (found, behind) ∧ found.isOperator symbol = true := by
  simp only [expectOperator, bind_eq_ok, Prod.exists]
  constructor
  · rintro ⟨other, after, scanned, outcome⟩
    split at outcome
    · simp only [pure_eq_ok, Prod.mk.injEq] at outcome
      obtain ⟨rfl, rfl⟩ := outcome
      exact ⟨scanned, by assumption⟩
    · simp at outcome
  · rintro ⟨scanned, sameSymbol⟩
    exact ⟨found, behind, scanned, by simp [sameSymbol]⟩

/-- One more level is allowed exactly up to the limit. -/
theorem nest_eq_ok
    {grammar : Grammar}
    {depth deeper : Nat}
    {position : Position} :
    nest grammar depth position = .ok deeper ↔
      (depth + 1 : Int) ≤ grammar.limit ∧ deeper = depth + 1 := by
  unfold nest
  split <;> rename_i limited
  · simp only [fail_ne_ok, false_iff, not_and]
    omega
  · simp only [Except.ok.injEq]
    constructor
    · rintro rfl
      exact ⟨by omega, rfl⟩
    · rintro ⟨_, rfl⟩
      rfl

end Reading

namespace Region

open Reading

/-- A token follows, and it does not belong to the closing delimiter. -/
def Continues
    (region : Region)
    (cursor : Cursor)
    (token : Token)
    (behind : Cursor) : Prop :=
  region.isDone cursor = false ∧ Reading.token cursor = .ok (token, behind)

/-- Only one token follows a cursor. -/
theorem Continues.unique
    {region : Region}
    {cursor behind behind' : Cursor}
    {token token' : Token}
    (first : region.Continues cursor token behind)
    (second : region.Continues cursor token' behind') :
    token = token' ∧ behind = behind' := by
  have equal := first.2.symm.trans second.2
  simpa using equal

theorem close_eq_ok
    {region : Region}
    {cursor behind : Cursor} :
    region.close cursor = .ok ((), behind) ↔
      cursor.skipBlanks.consume? region.closing = some behind := by
  simp only [close]
  split
  · rename_i after consumed
    simp [consumed]
  · rename_i absent
    simp [absent, bind_eq_ok]

/-- A region ends where its closing delimiter follows the blanks. -/
theorem isDone_iff
    {region : Region}
    {cursor : Cursor} :
    region.isDone cursor = true ↔ region.closing <+: cursor.skipBlanks.rest := by
  rw [isDone, Cursor.sees, Cursor.rest_skipBlanks, List.isPrefixOf_iff_prefix]

theorem isDone_of_close
    {region : Region}
    {cursor behind : Cursor}
    (closes : region.close cursor = .ok ((), behind)) :
    region.isDone cursor = true := by
  have consumed := close_eq_ok.1 closes
  rw [Cursor.consume?, Option.ite_none_right_eq_some] at consumed
  exact isDone_iff.2 (List.isPrefixOf_iff_prefix.1 consumed.1)

theorem keyword_eq_ok
    {region : Region}
    {word : Text}
    {cursor behind : Cursor}
    {token : Token} :
    region.keyword word cursor = .ok (token, behind) ↔
      region.Continues cursor token behind ∧ token.isWord word = true := by
  simp only [keyword, bind_eq_ok, Prod.exists, Continues]
  constructor
  · rintro ⟨other, after, scanned, outcome⟩
    split at outcome
    · simp at outcome
    · rename_i open'
      simp only [pure_eq_ok, Prod.mk.injEq] at outcome
      obtain ⟨rfl, rfl⟩ := outcome
      simp only [Bool.or_eq_true, Bool.not_eq_eq_eq_not, Bool.not_true, not_or,
        Bool.not_eq_true, Bool.not_eq_false] at open'
      exact ⟨⟨open'.1, scanned⟩, open'.2⟩
  · rintro ⟨⟨notDone, scanned⟩, sameWord⟩
    exact ⟨token, behind, scanned, by simp [notDone, sameWord]⟩

/-- A name is a word that is not reserved. -/
theorem identifier_eq_ok
    {region : Region}
    {calls : Nat}
    {cursor behind : Cursor}
    {name : Identifier} :
    region.identifier (calls + 1) cursor = .ok (name, behind) ↔
      ∃ token, region.Continues cursor token behind ∧ token.kind = .identifier ∧
        Style.identifier.isReserved token.value = false ∧
        name = ⟨token.position, token.value⟩ := by
  simp only [identifier, bind_eq_ok, Prod.exists, Continues]
  constructor
  · rintro ⟨token, after, scanned, outcome⟩
    split at outcome
    · simp at outcome
    · rename_i isName
      split at outcome
      · simp at outcome
      · rename_i free
        simp only [pure_eq_ok, Prod.mk.injEq] at outcome
        obtain ⟨rfl, rfl⟩ := outcome
        simp only [ne_eq, decide_not, Bool.or_eq_true, Bool.not_eq_eq_eq_not, Bool.not_true,
          decide_eq_false_iff_not, not_or, Decidable.not_not, Bool.not_eq_true] at isName
        exact ⟨token, ⟨isName.2, scanned⟩, isName.1, by simpa using free, rfl⟩
  · rintro ⟨token, ⟨notDone, scanned⟩, isName, free, rfl⟩
    exact ⟨token, behind, scanned, by simp [isName, notDone, free]⟩

/-- The name of a filter is a word that is not reserved, with the closing
delimiter or a token behind it that does not extend it. -/
theorem filterName_eq_ok
    {region : Region}
    {operator : Operator}
    {symbol : Token}
    {calls : Nat}
    {cursor behind : Cursor}
    {name : Text} :
    region.filterName operator symbol (calls + 1) cursor = .ok (name, behind) ↔
      ∃ token, region.Continues cursor token behind ∧ token.kind = .identifier ∧
        Style.identifier.isReserved token.value = false ∧ name = token.value ∧
        (region.isDone behind = true ∨
          ∃ following after, region.Continues behind following after ∧
            following.kind ≠ .dot ∧ following.kind ≠ .opening ∧
            region.bindsTighter operator following = false) := by
  simp only [filterName, bind_eq_ok, Prod.exists, Continues]
  constructor
  · rintro ⟨token, after, scanned, outcome⟩
    split at outcome
    · simp at outcome
    · rename_i isName
      simp only [ne_eq, decide_not, Bool.or_eq_true, Bool.not_eq_eq_eq_not, Bool.not_true,
        decide_eq_false_iff_not, not_or, Decidable.not_not, Bool.not_eq_true] at isName
      split at outcome
      · simp at outcome
      · rename_i free
        split at outcome
        · rename_i done
          simp only [pure_eq_ok, Prod.mk.injEq] at outcome
          obtain ⟨rfl, rfl⟩ := outcome
          exact ⟨token, ⟨isName.1, scanned⟩, isName.2, by simpa using free, rfl, .inl done⟩
        · rename_i notDone
          simp only [bind_eq_ok, Prod.exists] at outcome
          obtain ⟨following, end', next, outcome⟩ := outcome
          split at outcome
          · simp at outcome
          · rename_i bare
            simp only [pure_eq_ok, Prod.mk.injEq] at outcome
            obtain ⟨rfl, rfl⟩ := outcome
            simp only [Bool.or_eq_true, decide_eq_true_eq, not_or, Bool.not_eq_true] at bare
            refine ⟨token, ⟨isName.1, scanned⟩, isName.2, by simpa using free, rfl, .inr ?_⟩
            exact ⟨following, end', ⟨by simpa using notDone, next⟩, bare.1.1, bare.1.2, bare.2⟩
  · rintro ⟨token, ⟨notDone, scanned⟩, isName, free, rfl, ending⟩
    refine ⟨token, behind, scanned, ?_⟩
    simp only [notDone, isName, free]
    rcases ending with done | ⟨following, after, ⟨more, next⟩, noDot, noOpening, loose⟩
    · simp [done]
    · simp [more, next, noDot, noOpening, loose]

end Region

namespace Document

namespace Rule

/-- A sequence of two rules succeeds when both do. -/
theorem bind_eq_ok
    {first : Rule α}
    {second : α → Rule β}
    {result : β}
    {state after : State} :
    (first >>= second) state = .ok result after ↔
      ∃ value middle, first state = .ok value middle ∧ second value middle = .ok result after := by
  simp only [bind, EStateM.bind]
  constructor
  · intro success
    split at success
    · exact ⟨_, _, by assumption, success⟩
    · simp at success
  · rintro ⟨value, middle, before, behind⟩
    rw [before]
    exact behind

theorem bind_of_ok
    {first : Rule α}
    {state middle : State}
    {value : α}
    (success : first state = .ok value middle)
    (second : α → Rule β) :
    (first >>= second) state = second value middle := by
  simp only [bind, EStateM.bind, success]

@[simp] theorem get_bind (next : State → Rule α) (state : State) :
    (get >>= next) state = next state state :=
  rfl

@[simp] theorem move_bind (cursor : Cursor) (next : Unit → Rule α) (state : State) :
    (move cursor >>= next) state = next () { state with cursor := cursor } :=
  rfl

theorem move_eq_ok
    {cursor : Cursor}
    {state after : State} :
    move cursor state = .ok () after ↔ { state with cursor := cursor } = after := by
  have moves : move cursor state = .ok () { state with cursor := cursor } := rfl
  simp [moves]

@[simp] theorem log_bind (event : Event) (next : Unit → Rule α) (state : State) :
    (log event >>= next) state = next () { state with journal := event :: state.journal } :=
  rfl

@[simp] theorem pure_eq_ok
    {value result : α}
    {state after : State} :
    (pure value : Rule α) state = .ok result after ↔ value = result ∧ state = after := by
  simp [pure, EStateM.pure]

@[simp] theorem throw_ne_ok
    (halt : Halt)
    (state after : State)
    (result : α) :
    ((throw halt : Rule α) state = .ok result after) = False := by
  have stops : (throw halt : Rule α) state = .error halt state := rfl
  simp [stops]

@[simp] theorem fail_ne_ok
    (cause : Cause)
    (position : Position)
    (state after : State)
    (result : α) :
    ((fail cause position : Rule α) state = .ok result after) = False := by
  simp [fail]

theorem reading_eq_ok
    {rule : Cursor → Except Halt (α × Cursor)}
    {state after : State}
    {value : α} :
    reading rule state = .ok value after ↔
      ∃ cursor, rule state.cursor = .ok (value, cursor) ∧
        after = { state with cursor := cursor } := by
  simp only [reading]
  constructor
  · intro success
    split at success
    · rename_i read
      simp only [EStateM.Result.ok.injEq] at success
      obtain ⟨rfl, rfl⟩ := success
      exact ⟨_, read, rfl⟩
    · simp at success
  · rintro ⟨cursor, read, rfl⟩
    rw [read]

end Rule

end Document

end Stencil
