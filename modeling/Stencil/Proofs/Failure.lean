import Stencil.Proofs.Location

/-!
# Why reading stops

When a rule gives no value, the source is to blame: the diagnostic has the
position of a place of the source, and what is found there is what the
diagnostic complains about; or a numeral stands in the source whose value cannot
be held or negated.  In particular a rule never runs out of open rules or turns
as long as it has as many as its unread text can use up.

This module has the statement for the rules of expressions.
-/

namespace Stencil

open Template (Origin)

namespace Template.Origin

/-- A token is scanned at a place of the source. -/
def ShowsToken (origin : Origin) (token : Token) : Prop :=
  ∃ cursor behind, origin.Has cursor ∧ Token.Scans cursor token behind

/-- No token is scanned at a place of the source because of a fault. -/
def ShowsFault (origin : Origin) (position : Position) (fault : Token.Fault) : Prop :=
  ∃ cursor, origin.Has cursor ∧ cursor.position = position ∧
    Token.scanHere cursor = .error ⟨fault, position⟩

end Template.Origin

/-- What a cause complains about is found at a position of the source. -/
def Cause.FoundAt (origin : Origin) (position : Position) : Cause → Prop
  | .lexical fault => origin.ShowsFault position fault
  | .invalidEncoding => False
  | .unexpected _ found => found.position = position ∧ origin.ShowsToken found
  | .missing _ => True
  | .missingBlockKeyword _ => origin.ShowsOpening position .block
  | .unknownBlockKeyword _ => origin.ShowsOpening position .block
  | .unmatchedTerminator _ _ => origin.ShowsOpening position .block
  | .unterminatedBlock _ opener _ _ _ => origin.ShowsOpening opener .block
  | .textBeforeAlternatives _ => True
  | .unterminatedComment _ => origin.ShowsOpening position .comment
  | .unknownPragmaField name => origin.ShowsWord position name
  | .invalidPragma _ => origin.ShowsOpening position .pragma
  | .notBinary symbol => origin.ShowsOperator position symbol
  | .unknownOperator symbol => origin.ShowsOperator position symbol
  | .filterNotBare _ following => following.position = position ∧ origin.ShowsToken following
  | .reservedWord word => origin.ShowsWord position word
  | .nestedTooDeeply _ => True

/-- A diagnostic has the position of a place of the source, and its cause is found
there. -/
structure Diagnostic.Located (origin : Origin) (diagnostic : Diagnostic) : Prop where
  /-- The position is the one of an index of the source. -/
  placed : origin.Places diagnostic.position
  /-- What the cause complains about is found there. -/
  found : diagnostic.cause.FoundAt origin diagnostic.position

/-- A text begins with a numeral that has no value. -/
def Numeral.IsUnheld (rest : Text) : Prop :=
  (∃ point ∈ rest.head?, CodePoint.isDigit point = true) ∧
    Numeral.value? (Numeral.lexeme rest) = none

/-- A text begins with a minus sign and a numeral whose value cannot be negated. -/
def Numeral.Overflows (rest : Text) : Prop :=
  ∃ numeral value, rest = CodePoint.ofChar '-' :: numeral ∧ Numeral.Begins numeral value ∧
    value.negate? .working = none

/-- The source is to blame for a halt. -/
def Halt.Justified (origin : Origin) : Halt → Prop
  | .diagnosed diagnostic => diagnostic.Located origin
  | .unheldNumber => ∃ position, origin.Shows position fun _ rest => Numeral.IsUnheld rest
  | .overflow => ∃ position, origin.Shows position fun _ rest => Numeral.Overflows rest
  | .exhausted => False
  | .inconsistent => False

namespace Reading

variable {origin : Origin}

/-- If something is not read, the source is to blame. -/
def Sound (origin : Origin) (outcome : Except Halt α) : Prop :=
  ∀ halt, outcome = .error halt → halt.Justified origin

theorem Sound.ok (value : α) : Sound origin (.ok value) := by
  intro halt failure
  cases failure

theorem Sound.pure (value : α) : Sound origin (pure value) :=
  Sound.ok value

/-- Two steps are sound if the first is, and the second is wherever it is taken. -/
theorem Sound.bind
    {first : Except Halt α}
    {second : α → Except Halt β}
    (near : Sound origin first)
    (far : ∀ value, first = .ok value → Sound origin (second value)) :
    Sound origin (first >>= second) := by
  intro halt failure
  cases outcome : first with
  | error found =>
    rw [outcome] at failure
    obtain rfl : found = halt := Except.error.inj failure
    exact near found outcome
  | ok value =>
    rw [outcome] at failure
    exact far value outcome halt failure

theorem Sound.fail
    {cause : Cause}
    {position : Position}
    (placed : origin.Places position)
    (found : cause.FoundAt origin position) :
    Sound origin (fail cause position : Except Halt α) := by
  intro halt failure
  obtain rfl : Halt.diagnosed ⟨cause, position⟩ = halt := Except.error.inj failure
  exact ⟨placed, found⟩

theorem Sound.nest
    (grammar : Grammar)
    (depth : Nat)
    {position : Position}
    (placed : origin.Places position) :
    Sound origin (nest grammar depth position) := by
  unfold Reading.nest
  split
  · exact .fail placed trivial
  · exact .ok _

/-! ## Tokens -/

/-- A failed scan has the position of the token that it began with. -/
theorem position_of_scanHere
    {cursor : Cursor}
    {failure : Token.Failure}
    (failed : Token.scanHere cursor = .error failure) :
    failure.position = cursor.position := by
  unfold Token.scanHere at failed
  split at failed
  · cases failed
  · split at failed
    · simp only [Token.scanNumber] at failed
      split at failed
      · cases failed
      · cases failed
        rfl
    · split at failed
      · simp only [Token.scanString] at failed
        split at failed
        · cases failed
        · cases failed
          rfl
      · split at failed
        · cases failed
        · split at failed <;> cases failed

theorem Sound.token
    {cursor : Cursor}
    (stands : origin.Has cursor) :
    Sound origin (token cursor) := by
  unfold Reading.token
  split
  · exact .ok _
  · rename_i failure failed
    have position := position_of_scanHere failed
    refine .fail ?_ ⟨cursor.skipBlanks, stands.skipBlanks, position.symm, failed⟩
    rw [position]
    exact stands.skipBlanks.places

/-- A token that was scanned is shown by the source, and its position is a place. -/
theorem showsToken_of_token
    {cursor behind : Cursor}
    {found : Token}
    (stands : origin.Has cursor)
    (scanned : token cursor = .ok (found, behind)) :
    origin.Places found.position ∧ origin.ShowsToken found :=
  ⟨stands.shows_token scanned trivial,
    cursor.skipBlanks, behind, stands.skipBlanks, token_eq_ok_iff_scans.1 scanned⟩

theorem Sound.unexpected
    {expected : Expectation}
    {cursor behind : Cursor}
    {found : Token}
    (stands : origin.Has cursor)
    (scanned : Reading.token cursor = .ok (found, behind)) :
    Sound origin (unexpected expected found : Except Halt α) := by
  obtain ⟨placed, shown⟩ := showsToken_of_token stands scanned
  exact .fail placed ⟨rfl, shown⟩

theorem Sound.expect
    {cursor : Cursor}
    (stands : origin.Has cursor)
    (kind : Token.Kind)
    (expected : Expectation) :
    Sound origin (expect kind expected cursor) := by
  refine .bind (.token stands) ?_
  rintro ⟨found, behind⟩ scanned
  dsimp only
  split
  · exact .pure _
  · exact .unexpected stands scanned

theorem Sound.expectOperator
    {cursor : Cursor}
    (stands : origin.Has cursor)
    (symbol : Text) :
    Sound origin (expectOperator symbol cursor) := by
  refine .bind (.token stands) ?_
  rintro ⟨found, behind⟩ scanned
  dsimp only
  split
  · exact .pure _
  · exact .unexpected stands scanned

/-! ## Numbers -/

theorem Sound.number
    {cursor behind : Cursor}
    {numeral : Token}
    (stands : origin.Has cursor)
    (scanned : Reading.token cursor = .ok (numeral, behind))
    (isNumber : numeral.kind = .number) :
    Sound origin (number numeral.value) := by
  unfold Reading.number
  split
  · exact .ok _
  · rename_i valueless
    intro halt failure
    obtain rfl : Halt.unheldNumber = halt := Except.error.inj failure
    obtain ⟨⟨digit, rest, unread, isDigit⟩, lexeme⟩ :=
      (token_eq_ok_iff_scans.1 scanned).number_of_kind isNumber
    have unheld : Numeral.IsUnheld cursor.skipBlanks.rest := by
      refine ⟨⟨digit, by rw [unread]; rfl, isDigit⟩, ?_⟩
      rw [← lexeme, valueless]
    exact ⟨_, stands.shows_token scanned unheld⟩

theorem Sound.negative
    {cursor middle behind : Cursor}
    {sign numeral : Token}
    (stands : origin.Has cursor)
    (signed : Reading.token cursor = .ok (sign, middle))
    (isSign : sign.isOperator (Text.of "-") = true)
    (touches : Region.isBeforeDigit middle = true)
    (scanned : Reading.token middle = .ok (numeral, behind)) :
    Sound origin (negative numeral.value) := by
  have isNumber := Region.kind_of_isBeforeDigit touches scanned
  refine .bind (.number (stands.behind signed) scanned isNumber) ?_
  intro value valued
  split
  · exact .ok _
  · rename_i overflows
    intro halt failure
    obtain rfl : Halt.overflow = halt := Except.error.inj failure
    obtain ⟨rest, unread, begins⟩ := Region.begins_of_sign rfl signed isSign touches scanned
      (Region.number_eq_ok.1 valued)
    exact ⟨_, stands.shows_token signed ⟨rest, value, unread, begins, overflows⟩⟩

end Reading

namespace Region

open Reading

variable {origin : Origin} {region : Region}

/-! ## Names and literals -/

theorem sound_close
    {cursor : Cursor}
    (stands : origin.Has cursor) :
    Sound origin (region.close cursor) := by
  unfold close
  dsimp only
  split
  · exact .ok _
  · refine .bind (.token stands.skipBlanks) ?_
    rintro ⟨found, behind⟩ scanned
    exact .unexpected stands.skipBlanks scanned

theorem sound_keyword
    {cursor : Cursor}
    (stands : origin.Has cursor)
    (word : Text) :
    Sound origin (region.keyword word cursor) := by
  refine .bind (.token stands) ?_
  rintro ⟨found, behind⟩ scanned
  dsimp only
  split
  · exact .unexpected stands scanned
  · exact .pure _

/-- A word that may not be used where it stands. -/
theorem Sound.reservedWord
    {cursor behind : Cursor}
    {found : Token}
    (stands : origin.Has cursor)
    (scanned : token cursor = .ok (found, behind))
    (isName : found.kind = .identifier) :
    Sound origin (fail (.reservedWord found.value) found.position : Except Halt α) := by
  exact .fail (showsToken_of_token stands scanned).1 (stands.showsWord scanned isName)

theorem sound_identifier
    {cursor : Cursor}
    (stands : origin.Has cursor)
    (calls : Nat) :
    Sound origin (region.identifier (calls + 1) cursor) := by
  refine .bind (.token stands) ?_
  rintro ⟨found, behind⟩ scanned
  dsimp only
  split
  · exact .unexpected stands scanned
  · rename_i isName
    split
    · refine Sound.reservedWord stands scanned ?_
      simp only [ne_eq, decide_not, Bool.or_eq_true, not_or] at isName
      simpa using isName.1
    · exact .pure _

theorem sound_pathRest
    {cursor : Cursor}
    (stands : origin.Has cursor)
    (calls turns : Nat)
    (enough : cursor.rest.length < turns) :
    Sound origin (region.pathRest (region.identifier (calls + 1)) turns cursor) := by
  induction turns generalizing cursor with
  | zero => omega
  | succ turns hypothesis =>
    rw [pathRest]
    split
    · exact .ok _
    · refine .bind (.token stands) ?_
      rintro ⟨dot, behind⟩ scanned
      dsimp only
      split
      · rename_i isDot
        have passesDot := token_passes scanned (by simp [isDot])
        refine .bind (sound_identifier (stands.behind scanned) calls) ?_
        rintro ⟨name, middle⟩ named
        have passesName := passesDot.trans (identifier_passes named)
        refine .bind (hypothesis (stands.reaches passesName.1) ?_) ?_
        · exact Nat.lt_of_lt_of_le passesName.2 (Nat.le_of_lt_succ enough)
        · rintro ⟨others, finish⟩ _
          exact .pure _
      · exact .pure _

theorem sound_path
    {cursor : Cursor}
    (stands : origin.Has cursor)
    (calls : Nat)
    (enoughTurns : cursor.rest.length < region.grammar.turns) :
    Sound origin (region.path (calls + 2) cursor) := by
  refine .bind (sound_identifier stands calls) ?_
  rintro ⟨first, middle⟩ named
  have passes := identifier_passes named
  refine .bind (sound_pathRest (stands.reaches passes.1) calls _ ?_) ?_
  · exact Nat.lt_trans passes.2 enoughTurns
  · rintro ⟨others, finish⟩ _
    exact .pure _

theorem sound_literal?
    {cursor : Cursor}
    (stands : origin.Has cursor)
    (calls : Nat) :
    Sound origin (literal? (calls + 1) cursor) := by
  refine .bind (.token stands) ?_
  rintro ⟨first, behind⟩ scanned
  dsimp only
  split
  · exact .pure _
  split
  · exact .pure _
  split
  · rename_i isNumber
    exact .bind (.number stands scanned isNumber) fun _ _ => .pure _
  split
  · exact .pure _
  split
  · rename_i isSign
    rw [Bool.and_eq_true] at isSign
    refine .bind (.token (stands.behind scanned)) ?_
    rintro ⟨numeral, finish⟩ next
    exact .bind (.negative stands scanned isSign.1 isSign.2 next) fun _ _ => .pure _
  split
  · rename_i isSign
    rw [Bool.and_eq_true] at isSign
    refine .bind (.token (stands.behind scanned)) ?_
    rintro ⟨numeral, finish⟩ next
    have isNumber := kind_of_isBeforeDigit isSign.2 next
    exact .bind (.number (stands.behind scanned) next isNumber) fun _ _ => .pure _
  · exact .pure _

theorem sound_pattern
    {cursor : Cursor}
    (stands : origin.Has cursor)
    (calls : Nat)
    (enoughTurns : cursor.rest.length < region.grammar.turns) :
    Sound origin (region.pattern (calls + 3) cursor) := by
  rw [Region.pattern]
  split
  · exact .fail stands.places trivial
  · refine .bind (.token stands) ?_
    rintro ⟨first, behind⟩ scanned
    dsimp only
    split
    · exact .pure _
    · refine .bind (sound_literal? stands (calls + 1)) ?_
      rintro ⟨found, after⟩ _
      split
      · exact .pure _
      · split
        · exact .bind (sound_path stands calls enoughTurns) fun _ _ => .pure _
        · exact .unexpected stands scanned

theorem sound_filterName
    {cursor : Cursor}
    (stands : origin.Has cursor)
    (operator : Operator)
    (symbol : Token)
    (calls : Nat) :
    Sound origin (region.filterName operator symbol (calls + 1) cursor) := by
  refine .bind (.token stands) ?_
  rintro ⟨name, behind⟩ scanned
  dsimp only
  split
  · exact .unexpected stands scanned
  · rename_i isName
    split
    · refine Sound.reservedWord stands scanned ?_
      simp only [ne_eq, decide_not, Bool.or_eq_true, not_or] at isName
      simpa using isName.2
    split
    · exact .pure _
    · refine .bind (.token (stands.behind scanned)) ?_
      rintro ⟨following, after⟩ next
      dsimp only
      split
      · obtain ⟨placed, shown⟩ := showsToken_of_token (stands.behind scanned) next
        exact .fail placed ⟨rfl, shown⟩
      · exact .pure _

/-! ## Expressions -/

/-- The loop over operators is sound if its right operands are. -/
theorem sound_tail
    {calls depth : Nat}
    {least : Int}
    (operands : ∀ {least : Int} {cursor : Cursor}, origin.Has cursor →
      cursor.rest.length < region.grammar.turns → 4 * cursor.rest.length + 5 ≤ calls + 1 →
        Sound origin (region.expression (calls + 1) depth least cursor))
    {cursor : Cursor}
    (stands : origin.Has cursor)
    (enoughTurns : cursor.rest.length < region.grammar.turns)
    (enoughCalls : 4 * cursor.rest.length + 1 ≤ calls + 1)
    (turns : Nat)
    (enough : cursor.rest.length < turns)
    (left : Node) :
    Sound origin (region.tail (calls + 1) depth least turns left cursor) := by
  induction turns generalizing cursor left with
  | zero => omega
  | succ turns hypothesis =>
    -- Behind an operator and what stands on its right, the loop has less to read.
    have continued {middle : Cursor} (passes : cursor.Passes middle) (node : Node) :
        Sound origin (region.tail (calls + 1) depth least turns node middle) := by
      have shorter := passes.2
      exact hypothesis (stands.reaches passes.1) (by omega) (by omega) (by omega) node
    rw [tail, operatorTail]
    split
    · exact .ok _
    · rename_i notDone
      refine .bind (.token stands) ?_
      rintro ⟨symbol, behind⟩ scanned
      dsimp only
      split
      · exact .pure _
      · rename_i isOperator
        rw [ne_eq, Decidable.not_not] at isOperator
        have shown := stands.showsOperator scanned isOperator
        have placed := (showsToken_of_token stands scanned).1
        have passesSymbol := token_passes scanned (by simp [isOperator])
        split
        · split
          · exact .fail placed shown
          · exact .fail placed shown
        · split
          · exact .pure _
          · split
            · refine .bind (sound_filterName (stands.behind scanned) _ _ calls) ?_
              rintro ⟨name, middle⟩ named
              exact continued (passesSymbol.trans (filterName_passes named)) _
            · have shorter := passesSymbol.2
              refine .bind (operands (stands.behind scanned) (by omega) (by omega)) ?_
              rintro ⟨right, middle⟩ read
              have passes := ((Reads.of_rules region (calls + 1)).1 read).passes rfl
              exact continued (passesSymbol.trans passes) _

/-- If an expression is not read, the source is to blame, given as many open rules
and turns as the unread text can use up. -/
theorem sound_of_rules (region : Region) (calls : Nat) :
    (∀ {depth least cursor}, origin.Has cursor → cursor.rest.length < region.grammar.turns →
      4 * cursor.rest.length + 5 ≤ calls →
        Sound origin (region.expression calls depth least cursor)) ∧
    (∀ {depth cursor}, origin.Has cursor → cursor.rest.length < region.grammar.turns →
      4 * cursor.rest.length + 4 ≤ calls → Sound origin (region.unary calls depth cursor)) ∧
    (∀ {depth cursor}, origin.Has cursor → cursor.rest.length < region.grammar.turns →
      4 * cursor.rest.length + 3 ≤ calls → Sound origin (region.atom calls depth cursor)) := by
  induction calls with
  | zero =>
    refine ⟨?_, ?_, ?_⟩
    all_goals
      intros
      omega
  | succ calls hypothesis =>
    obtain ⟨ofExpression, ofUnary, ofAtom⟩ := hypothesis
    refine ⟨?_, ?_, ?_⟩
    · intro depth least cursor stands enoughTurns enough
      obtain ⟨calls, rfl⟩ : ∃ fewer, calls = fewer + 1 := ⟨calls - 1, by omega⟩
      rw [expression_succ]
      refine .bind (ofUnary stands enoughTurns (by omega)) ?_
      rintro ⟨left, middle⟩ read
      have passes := ((Reads.of_rules region (calls + 1)).2.1 read).passes rfl
      have shorter := passes.2
      exact sound_tail ofExpression (stands.reaches passes.1) (by omega) (by omega) _ (by omega)
        left
    · intro depth cursor stands enoughTurns enough
      rw [unary]
      split
      · exact ofAtom stands enoughTurns (by omega)
      · refine .bind (.token stands) ?_
        rintro ⟨symbol, behind⟩ scanned
        dsimp only
        split
        · rename_i before
          rw [Bool.and_eq_true, decide_eq_true_eq] at before
          have shorter := (token_passes scanned (by simp [before.1])).2
          refine .bind (.nest _ _ (stands.behind scanned).places) fun deeper _ => ?_
          refine .bind (ofUnary (stands.behind scanned) (by omega) (by omega)) ?_
          rintro ⟨operand, finish⟩ _
          exact .pure _
        · exact ofAtom stands enoughTurns (by omega)
    · intro depth cursor stands enoughTurns enough
      obtain ⟨calls, rfl⟩ : ∃ fewer, calls = fewer + 2 := ⟨calls - 2, by omega⟩
      rw [atom]
      split
      · exact .fail stands.places trivial
      · refine .bind (.token stands) ?_
        rintro ⟨first, behind⟩ scanned
        dsimp only
        split
        · rename_i opening
          have shorter := (token_passes scanned (by simp [opening])).2
          refine .bind (.nest _ _ (stands.behind scanned).places) fun deeper _ => ?_
          refine .bind (ofExpression (stands.behind scanned) (by omega) (by omega)) ?_
          rintro ⟨inner, middle⟩ read
          have passes := ((Reads.of_rules region (calls + 2)).1 read).passes rfl
          have behindInner := (stands.behind scanned).reaches passes.1
          refine .bind (.expect behindInner _ _) ?_
          rintro ⟨last, finish⟩ _
          exact .pure _
        · refine .bind (sound_literal? stands (calls + 1)) ?_
          rintro ⟨found, after⟩ _
          split
          · exact .pure _
          · split
            · refine .bind (sound_path stands calls enoughTurns) ?_
              rintro ⟨path, finish⟩ _
              exact .pure _
            · exact .unexpected stands scanned

end Region

end Stencil
