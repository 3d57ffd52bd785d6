import Stencil.Proofs.Continuation.Lexeme
import Stencil.Proofs.Success

/-!
# Reading elsewhere

A rule looks at the text that is not yet read and at nothing else.  Where the same text
stands at another place, a rule comes to the same there, up to positions: it gives the
same value, or it stops for the same reason.

This module has the statement for the rules of expressions.
-/

namespace Stencil

/-! ## Halts at other positions -/

/-- Whether a cause holds no position. -/
def Cause.isPlaceless : Cause → Bool
  | .unexpected _ _ => false
  | .unterminatedBlock _ _ _ _ _ => false
  | .filterNotBare _ _ => false
  | _ => true

/-- A cause is the same at its new position. -/
inductive Cause.Moves (relocation : Relocation) : Cause → Cause → Prop
  | unexpected
      {expected : Expectation}
      {found found' : Token}
      (sameToken : found.Moves relocation found') :
      Moves relocation (.unexpected expected found) (.unexpected expected found')
  | filterNotBare
      {name : Text}
      {following following' : Token}
      (sameToken : following.Moves relocation following') :
      Moves relocation (.filterNotBare name following) (.filterNotBare name following')
  | unterminatedBlock
      {construct : Construct}
      {opener : Position}
      {block : Pair}
      {terminator : Text}
      {found : Option (Option Text)} :
      Moves relocation (.unterminatedBlock construct opener block terminator found)
        (.unterminatedBlock construct (relocation.map opener) block terminator found)
  | placeless
      {cause : Cause}
      (noPosition : cause.isPlaceless = true) :
      Moves relocation cause cause

/-- A halt is the same at its new position. -/
inductive Halt.Moves (relocation : Relocation) : Halt → Halt → Prop
  | diagnosed
      {cause cause' : Cause}
      {position : Position}
      (sameCause : cause.Moves relocation cause') :
      Moves relocation (.diagnosed ⟨cause, position⟩)
        (.diagnosed ⟨cause', relocation.map position⟩)
  | unheldNumber : Moves relocation .unheldNumber .unheldNumber
  | overflow : Moves relocation .overflow .overflow
  | exhausted : Moves relocation .exhausted .exhausted
  | inconsistent : Moves relocation .inconsistent .inconsistent

/-! ## The same text at another place -/

namespace Cursor

/-- A cursor stands elsewhere before the same text, and the positions from there on are
the relocated ones. -/
structure Shifts (relocation : Relocation) (cursor target : Cursor) : Prop where
  /-- The same text is unread. -/
  rest : target.rest = cursor.rest
  /-- The positions are relocated. -/
  position : ∀ count,
    (target.forward count).position = relocation.map (cursor.forward count).position

variable
  {relocation : Relocation}
  {cursor target : Cursor}

theorem Shifts.here (shifts : cursor.Shifts relocation target) :
    target.position = relocation.map cursor.position :=
  shifts.position 0

theorem Shifts.forward
    (shifts : cursor.Shifts relocation target)
    (count : Nat) :
    (cursor.forward count).Shifts relocation (target.forward count) where
  rest := by rw [rest_forward, rest_forward, shifts.rest]
  position further := by
    rw [← forward_add, ← forward_add]
    exact shifts.position _

theorem Shifts.skipBlanks (shifts : cursor.Shifts relocation target) :
    cursor.skipBlanks.Shifts relocation target.skipBlanks := by
  rw [Cursor.skipBlanks, Cursor.skipBlanks, shifts.rest]
  exact shifts.forward _

theorem Shifts.startsWith_eq
    (shifts : cursor.Shifts relocation target)
    (literal : Text) :
    target.startsWith literal = cursor.startsWith literal := by
  rw [startsWith, startsWith, shifts.rest]

theorem Shifts.isAtEnd_eq (shifts : cursor.Shifts relocation target) :
    target.isAtEnd = cursor.isAtEnd := by
  rw [isAtEnd, isAtEnd, shifts.rest]

/-- A literal is consumed at both places or at none. -/
theorem Shifts.consume?_cases
    (shifts : cursor.Shifts relocation target)
    (literal : Text) :
    (cursor.consume? literal = none ∧ target.consume? literal = none) ∨
      ∃ behind behind', cursor.consume? literal = some behind ∧
        target.consume? literal = some behind' ∧ behind.Shifts relocation behind' := by
  rw [consume?, consume?, shifts.startsWith_eq]
  split
  · exact .inr ⟨_, _, rfl, rfl, shifts.forward _⟩
  · exact .inl ⟨rfl, rfl⟩

end Cursor

theorem Region.isDone_of_shifts
    {relocation : Relocation}
    {cursor target : Cursor}
    (shifts : cursor.Shifts relocation target)
    (region : Region) :
    region.isDone target = region.isDone cursor := by
  rw [isDone, isDone, Cursor.sees, Cursor.sees, shifts.rest]

namespace Reading

/-- Two outcomes correspond: both are values that are related, or both are errors that
are. -/
inductive Corresponds (blame : ε → ε → Prop) (same : α → α → Prop) :
    Except ε α → Except ε α → Prop
  | ok
      {value value' : α}
      (related : same value value') :
      Corresponds blame same (.ok value) (.ok value')
  | error
      {halt halt' : ε}
      (related : blame halt halt') :
      Corresponds blame same (.error halt) (.error halt')

/-- Two values that were read are related, and so are the cursors behind them. -/
structure Apace
    (relocation : Relocation)
    (same : α → α → Prop)
    (found found' : α × Cursor) : Prop where
  /-- The values are related. -/
  value : same found.1 found'.1
  /-- Reading goes on before the same text. -/
  cursor : found.2.Shifts relocation found'.2

/-- What is read at two places is related, or reading stops for the same reason. -/
abbrev Transfers
    (relocation : Relocation)
    (same : α → α → Prop)
    (first second : Except Halt (α × Cursor)) : Prop :=
  Corresponds (Halt.Moves relocation) (Apace relocation same) first second

/-- A value is another one at its new position. -/
def By (moved : α → α) (value value' : α) : Prop :=
  value' = moved value

variable
  {relocation : Relocation}
  {cursor target : Cursor}

theorem Corresponds.bind
    {blame : ε → ε → Prop}
    {same : α → α → Prop}
    {alike : β → β → Prop}
    {first first' : Except ε α}
    {next next' : α → Except ε β}
    (near : Corresponds blame same first first')
    (far : ∀ value value', same value value' →
      Corresponds blame alike (next value) (next' value')) :
    Corresponds blame alike (first >>= next) (first' >>= next') := by
  cases near with
  | ok related => exact far _ _ related
  | error related => exact .error related

/-- Two steps transfer if the first does, and the second does from there on. -/
theorem Corresponds.read_bind
    {same : α → α → Prop}
    {alike : β → β → Prop}
    {first first' : Except Halt (α × Cursor)}
    {next next' : α × Cursor → Except Halt β}
    (near : Transfers relocation same first first')
    (far : ∀ value value' behind behind', same value value' →
      behind.Shifts relocation behind' →
        Corresponds (Halt.Moves relocation) alike (next (value, behind))
          (next' (value', behind'))) :
    Corresponds (Halt.Moves relocation) alike (first >>= next) (first' >>= next') :=
  Corresponds.bind near fun found found' apace =>
    far found.1 found'.1 found.2 found'.2 apace.value apace.cursor

theorem Corresponds.pure
    {same : α → α → Prop}
    {value value' : α}
    (related : same value value')
    (shifts : cursor.Shifts relocation target) :
    Transfers relocation same (pure (value, cursor)) (pure (value', target)) :=
  .ok ⟨related, shifts⟩

theorem Corresponds.fail
    {same : α → α → Prop}
    {cause cause' : Cause}
    {position position' : Position}
    (sameCause : cause.Moves relocation cause')
    (moves : position' = relocation.map position) :
    Corresponds (Halt.Moves relocation) same (fail cause position) (fail cause' position') := by
  rw [moves]
  exact .error (.diagnosed sameCause)

theorem Corresponds.unexpected
    {same : α → α → Prop}
    {found found' : Token}
    (expected : Expectation)
    (sameToken : found.Moves relocation found') :
    Corresponds (Halt.Moves relocation) same (unexpected expected found)
      (unexpected expected found') :=
  .fail (.unexpected sameToken) sameToken.position

theorem Corresponds.nest
    (grammar : Grammar)
    (depth : Nat)
    {position position' : Position}
    (moves : position' = relocation.map position) :
    Corresponds (Halt.Moves relocation) Eq (nest grammar depth position)
      (nest grammar depth position') := by
  unfold Reading.nest
  split
  · exact .fail (.placeless rfl) moves
  · exact .ok rfl

theorem Corresponds.number (numeral : Text) :
    Corresponds (Halt.Moves relocation) Eq (number numeral) (number numeral) := by
  unfold Reading.number
  split
  · exact .ok rfl
  · exact .error .unheldNumber

theorem Corresponds.negative (numeral : Text) :
    Corresponds (Halt.Moves relocation) Eq (negative numeral) (negative numeral) := by
  refine .bind (.number numeral) ?_
  rintro value _ rfl
  split
  · exact .ok rfl
  · exact .error .overflow

end Reading

/-! ## Tokens -/

/-- A failed scan is the same at its new position. -/
structure Token.Failure.Moves (relocation : Relocation) (failure target : Token.Failure) :
    Prop where
  /-- The fault stays. -/
  fault : target.fault = failure.fault
  /-- The position is relocated. -/
  position : target.position = relocation.map failure.position

namespace Token

open Reading (Corresponds Apace)

variable
  {relocation : Relocation}
  {cursor target : Cursor}

/-- A lexeme of some length is taken at both places. -/
theorem apace_located
    (shifts : cursor.Shifts relocation target)
    (kind : Kind)
    (value : Text)
    (count : Nat) :
    Apace relocation (Token.Moves relocation) (located cursor kind value, cursor.forward count)
      (located target kind value, target.forward count) :=
  ⟨⟨rfl, rfl, shifts.here⟩, shifts.forward count⟩

theorem corresponds_scanNumber (shifts : cursor.Shifts relocation target) :
    Corresponds (Failure.Moves relocation) (Apace relocation (Token.Moves relocation))
      (scanNumber cursor) (scanNumber target) := by
  unfold scanNumber
  rw [shifts.rest]
  dsimp only
  split
  · exact .ok (apace_located shifts _ _ _)
  · exact .error ⟨rfl, shifts.here⟩

theorem corresponds_scanString (shifts : cursor.Shifts relocation target) :
    Corresponds (Failure.Moves relocation) (Apace relocation (Token.Moves relocation))
      (scanString cursor) (scanString target) := by
  unfold scanString
  rw [shifts.rest]
  cases StringLiteral.read (cursor.rest.drop 1) with
  | ok found => exact .ok (apace_located shifts _ _ _)
  | error fault => exact .error ⟨rfl, shifts.here⟩

theorem corresponds_scanHere (shifts : cursor.Shifts relocation target) :
    Corresponds (Failure.Moves relocation) (Apace relocation (Token.Moves relocation))
      (scanHere cursor) (scanHere target) := by
  unfold scanHere
  rw [shifts.rest]
  cases cursor.rest with
  | nil => exact .ok (apace_located shifts _ _ _)
  | cons point rest =>
    dsimp only
    split
    · exact corresponds_scanNumber shifts
    split
    · exact corresponds_scanString shifts
    cases Style.identifier.lexeme? (point :: rest) with
    | some word => exact .ok (apace_located shifts _ _ _)
    | none =>
      cases Style.operator.lexeme? (point :: rest) with
      | some symbol => exact .ok (apace_located shifts _ _ _)
      | none => exact .ok (apace_located shifts _ _ _)

end Token

namespace Reading

variable
  {relocation : Relocation}
  {cursor target : Cursor}

theorem transfers_token (shifts : cursor.Shifts relocation target) :
    Transfers relocation (Token.Moves relocation) (token cursor) (token target) := by
  have scanned := Token.corresponds_scanHere shifts.skipBlanks
  unfold token Token.scan
  generalize Token.scanHere cursor.skipBlanks = here at scanned ⊢
  generalize Token.scanHere target.skipBlanks = there at scanned ⊢
  cases scanned with
  | ok related => exact .ok related
  | @error failure failure' related =>
    dsimp only
    rw [related.fault]
    exact .fail (.placeless rfl) related.position

theorem transfers_expect
    (shifts : cursor.Shifts relocation target)
    (kind : Token.Kind)
    (expected : Expectation) :
    Transfers relocation (Token.Moves relocation) (expect kind expected cursor)
      (expect kind expected target) := by
  refine .read_bind (transfers_token shifts) ?_
  intro found found' behind behind' sameToken further
  dsimp only
  rw [sameToken.kind]
  split
  · exact .pure sameToken further
  · exact .unexpected expected sameToken

theorem transfers_expectOperator
    (shifts : cursor.Shifts relocation target)
    (symbol : Text) :
    Transfers relocation (Token.Moves relocation) (expectOperator symbol cursor)
      (expectOperator symbol target) := by
  refine .read_bind (transfers_token shifts) ?_
  intro found found' behind behind' sameToken further
  dsimp only
  rw [sameToken.isOperator_eq]
  split
  · exact .pure sameToken further
  · exact .unexpected _ sameToken

end Reading

namespace Region

open Reading

variable
  {region : Region}
  {relocation : Relocation}
  {cursor target : Cursor}

/-! ## Names, literals and patterns -/

theorem transfers_close (shifts : cursor.Shifts relocation target) :
    Transfers relocation Eq (region.close cursor) (region.close target) := by
  have here := shifts.skipBlanks
  unfold close
  dsimp only
  rcases here.consume?_cases region.closing with
    ⟨absent, absent'⟩ | ⟨behind, behind', consumed, consumed', further⟩
  · rw [absent, absent']
    refine .read_bind (transfers_token here) ?_
    exact fun _ _ _ _ sameToken _ => .unexpected _ sameToken
  · rw [consumed, consumed']
    exact .pure rfl further

theorem transfers_keyword
    (shifts : cursor.Shifts relocation target)
    (word : Text) :
    Transfers relocation (Token.Moves relocation) (region.keyword word cursor)
      (region.keyword word target) := by
  refine .read_bind (transfers_token shifts) ?_
  intro token token' behind behind' sameToken further
  dsimp only
  rw [isDone_of_shifts shifts, sameToken.isWord_eq]
  split
  · exact .unexpected _ sameToken
  · exact .pure sameToken further

theorem transfers_identifier
    (shifts : cursor.Shifts relocation target)
    (calls : Nat) :
    Transfers relocation (By (Identifier.moved relocation)) (region.identifier calls cursor)
      (region.identifier calls target) := by
  cases calls with
  | zero => exact .error .exhausted
  | succ calls =>
    refine .read_bind (transfers_token shifts) ?_
    intro token token' behind behind' sameToken further
    dsimp only
    rw [isDone_of_shifts shifts, sameToken.kind, sameToken.value]
    split
    · exact .unexpected _ sameToken
    split
    · exact .fail (.placeless rfl) sameToken.position
    · rw [sameToken.position]
      exact .pure rfl further

theorem transfers_pathRest
    {name : Cursor → Except Halt (Identifier × Cursor)}
    (names : ∀ {cursor target : Cursor}, cursor.Shifts relocation target →
      Transfers relocation (By (Identifier.moved relocation)) (name cursor) (name target))
    (shifts : cursor.Shifts relocation target)
    (turns : Nat) :
    Transfers relocation (By (List.map (Identifier.moved relocation)))
      (region.pathRest name turns cursor) (region.pathRest name turns target) := by
  induction turns generalizing cursor target with
  | zero => exact .error .exhausted
  | succ turns hypothesis =>
    rw [pathRest, pathRest, isDone_of_shifts shifts]
    split
    · exact .pure rfl shifts
    · refine .read_bind (transfers_token shifts) ?_
      intro token token' behind behind' sameToken further
      dsimp only
      rw [sameToken.kind]
      split
      · refine .read_bind (names further) ?_
        rintro first _ middle middle' rfl onward
        refine .read_bind (hypothesis onward) ?_
        rintro others _ finish finish' rfl last
        exact .pure rfl last
      · exact .pure rfl shifts

theorem transfers_path
    (shifts : cursor.Shifts relocation target)
    (calls : Nat) :
    Transfers relocation (By (Variable.moved relocation)) (region.path calls cursor)
      (region.path calls target) := by
  cases calls with
  | zero => exact .error .exhausted
  | succ calls =>
    refine .read_bind (transfers_identifier shifts calls) ?_
    rintro first _ middle middle' rfl onward
    refine .read_bind (transfers_pathRest (fun here => transfers_identifier here calls) onward _) ?_
    rintro others _ finish finish' rfl last
    exact .pure rfl last

theorem isBeforeDigit_of_shifts (shifts : cursor.Shifts relocation target) :
    isBeforeDigit target = isBeforeDigit cursor := by
  unfold isBeforeDigit
  rw [shifts.rest]

/-- A literal at its new position, if there is one. -/
def literalMoved
    (relocation : Relocation)
    (found : Option (Position × Literal)) : Option (Position × Literal) :=
  found.map fun (position, literal) => (relocation.map position, literal)

theorem transfers_literal?
    (shifts : cursor.Shifts relocation target)
    (calls : Nat) :
    Transfers relocation (By (literalMoved relocation)) (literal? calls cursor)
      (literal? calls target) := by
  cases calls with
  | zero => exact .error .exhausted
  | succ calls =>
    refine .read_bind (transfers_token shifts) ?_
    intro token token' behind behind' sameToken further
    dsimp only
    rw [sameToken.isWord_eq, sameToken.isWord_eq, sameToken.isOperator_eq,
      sameToken.isOperator_eq, sameToken.kind, sameToken.value, sameToken.position,
      isBeforeDigit_of_shifts further]
    split
    · exact .pure rfl further
    split
    · exact .pure rfl further
    split
    · refine .bind (.number _) ?_
      rintro value _ rfl
      exact .pure rfl further
    split
    · exact .pure rfl further
    split
    · refine .read_bind (transfers_token further) ?_
      intro numeral numeral' finish finish' sameNumeral last
      dsimp only
      rw [sameNumeral.value]
      refine .bind (.negative _) ?_
      rintro value _ rfl
      exact .pure rfl last
    split
    · refine .read_bind (transfers_token further) ?_
      intro numeral numeral' finish finish' sameNumeral last
      dsimp only
      rw [sameNumeral.value]
      refine .bind (.number _) ?_
      rintro value _ rfl
      exact .pure rfl last
    · exact .pure rfl shifts

theorem transfers_pattern
    (shifts : cursor.Shifts relocation target)
    (calls : Nat) :
    Transfers relocation (By (Pattern.moved relocation)) (region.pattern calls cursor)
      (region.pattern calls target) := by
  cases calls with
  | zero => exact .error .exhausted
  | succ calls =>
    rw [pattern, pattern, isDone_of_shifts shifts]
    split
    · exact .fail (.placeless rfl) shifts.here
    · refine .read_bind (transfers_token shifts) ?_
      intro token token' behind behind' sameToken further
      dsimp only
      rw [sameToken.isWord_eq]
      split
      · exact .pure rfl further
      · refine .read_bind (transfers_literal? shifts calls) ?_
        rintro found _ finish finish' rfl last
        cases found with
        | some literal => exact .pure rfl last
        | none =>
          dsimp only [literalMoved, Option.map_none]
          rw [sameToken.kind]
          split
          · refine .read_bind (transfers_path shifts calls) ?_
            rintro path _ finish finish' rfl last
            exact .pure rfl last
          · exact .unexpected _ sameToken

/-! ## Expressions -/

theorem transfers_filterName
    {symbol symbol' : Token}
    (sameSymbol : symbol.Moves relocation symbol')
    (shifts : cursor.Shifts relocation target)
    (operator : Operator)
    (calls : Nat) :
    Transfers relocation Eq (region.filterName operator symbol calls cursor)
      (region.filterName operator symbol' calls target) := by
  cases calls with
  | zero => exact .error .exhausted
  | succ calls =>
    refine .read_bind (transfers_token shifts) ?_
    intro token token' behind behind' sameToken further
    dsimp only
    rw [isDone_of_shifts shifts, isDone_of_shifts further, sameSymbol.value, sameToken.kind,
      sameToken.value]
    split
    · exact .unexpected _ sameToken
    split
    · exact .fail (.placeless rfl) sameToken.position
    split
    · exact .pure rfl further
    · refine .read_bind (transfers_token further) ?_
      intro following following' after after' sameFollowing _
      have sameBinding : region.bindsTighter operator following' =
          region.bindsTighter operator following := by
        rw [bindsTighter, bindsTighter, sameFollowing.kind, sameFollowing.value]
      dsimp only
      rw [sameFollowing.kind, sameBinding]
      split
      · exact .fail (.filterNotBare sameFollowing) sameFollowing.position
      · exact .pure rfl further

theorem transfers_operatorTail
    {filter : Operator → Token → Cursor → Except Halt (Text × Cursor)}
    {operand : Int → Cursor → Except Halt (Node × Cursor)}
    (filters : ∀ {operator symbol symbol'} {cursor target : Cursor},
      symbol.Moves relocation symbol' → cursor.Shifts relocation target →
        Transfers relocation Eq (filter operator symbol cursor) (filter operator symbol' target))
    (operands : ∀ {least} {cursor target : Cursor}, cursor.Shifts relocation target →
      Transfers relocation (By (Node.moved relocation)) (operand least cursor)
        (operand least target))
    (shifts : cursor.Shifts relocation target)
    (least : Int)
    (turns : Nat)
    (left : Node) :
    Transfers relocation (By (Node.moved relocation))
      (region.operatorTail filter operand least turns left cursor)
      (region.operatorTail filter operand least turns (left.moved relocation) target) := by
  induction turns generalizing cursor target left with
  | zero => exact .error .exhausted
  | succ turns hypothesis =>
    rw [operatorTail, operatorTail, isDone_of_shifts shifts]
    split
    · exact .pure rfl shifts
    · refine .read_bind (transfers_token shifts) ?_
      intro token token' behind behind' sameToken further
      dsimp only
      rw [sameToken.kind, sameToken.value]
      split
      · exact .pure rfl shifts
      · cases region.grammar.operators.find? token.value with
        | none =>
          dsimp only
          split
          · exact .fail (.placeless rfl) sameToken.position
          · exact .fail (.placeless rfl) sameToken.position
        | some operator =>
          dsimp only
          split
          · exact .pure rfl shifts
          · rw [sameToken.position]
            cases operator.role with
            | filter =>
              refine .read_bind (filters sameToken further) ?_
              rintro name _ middle middle' rfl onward
              have step := hypothesis onward (Node.call token.position name left)
              rwa [Node.moved_call] at step
            | binary =>
              refine .read_bind (operands further) ?_
              rintro right _ middle middle' rfl onward
              have step :=
                hypothesis onward (Node.binary token.position operator.symbol left right)
              rwa [Node.moved_binary] at step

/-- The rules of expressions come to the same elsewhere, by induction on the rules that
may be open. -/
theorem transfers_of_rules (region : Region) (relocation : Relocation) (calls : Nat) :
    (∀ {depth least} {cursor target : Cursor}, cursor.Shifts relocation target →
        Transfers relocation (By (Node.moved relocation))
          (region.expression calls depth least cursor)
          (region.expression calls depth least target)) ∧
      (∀ {depth} {cursor target : Cursor}, cursor.Shifts relocation target →
        Transfers relocation (By (Node.moved relocation)) (region.unary calls depth cursor)
          (region.unary calls depth target)) ∧
      ∀ {depth} {cursor target : Cursor}, cursor.Shifts relocation target →
        Transfers relocation (By (Node.moved relocation)) (region.atom calls depth cursor)
          (region.atom calls depth target) := by
  induction calls with
  | zero =>
    refine ⟨?_, ?_, ?_⟩
    · intro depth least cursor target _
      rw [expression, expression]
      exact .error .exhausted
    · intro depth cursor target _
      rw [unary, unary]
      exact .error .exhausted
    · intro depth cursor target _
      rw [atom, atom]
      exact .error .exhausted
  | succ calls hypothesis =>
    obtain ⟨ofExpression, ofUnary, ofAtom⟩ := hypothesis
    refine ⟨?_, ?_, ?_⟩
    · intro depth least cursor target shifts
      rw [expression, expression]
      refine .read_bind (ofUnary shifts) ?_
      rintro left _ middle middle' rfl onward
      refine @transfers_operatorTail region relocation middle middle'
        (fun operator symbol => region.filterName operator symbol calls)
        (fun least => region.expression calls depth least) ?_ ?_ onward least _ left
      · exact fun sameSymbol here => transfers_filterName sameSymbol here _ calls
      · exact fun here => ofExpression here
    · intro depth cursor target shifts
      rw [unary, unary, isDone_of_shifts shifts]
      split
      · exact ofAtom shifts
      · refine .read_bind (transfers_token shifts) ?_
        intro token token' behind behind' sameToken further
        dsimp only
        rw [sameToken.kind, sameToken.value]
        split
        · refine .bind (.nest _ _ further.here) ?_
          rintro deeper _ rfl
          refine .read_bind (ofUnary further) ?_
          rintro operand _ finish finish' rfl last
          rw [sameToken.position]
          exact .pure (Node.moved_call _ _ _ _).symm last
        · exact ofAtom shifts
    · intro depth cursor target shifts
      rw [atom, atom, isDone_of_shifts shifts]
      split
      · exact .fail (.placeless rfl) shifts.here
      · refine .read_bind (transfers_token shifts) ?_
        intro token token' behind behind' sameToken further
        dsimp only
        rw [sameToken.kind]
        split
        · refine .bind (.nest _ _ further.here) ?_
          rintro deeper _ rfl
          refine .read_bind (ofExpression further) ?_
          rintro inner _ middle middle' rfl onward
          refine .read_bind (transfers_expect onward _ _) ?_
          exact fun _ _ _ _ _ last => .pure rfl last
        · refine .read_bind (transfers_literal? shifts calls) ?_
          rintro found _ finish finish' rfl last
          cases found with
          | some literal =>
            refine .pure ?_ last
            rw [By, Node.moved]
          | none =>
            dsimp only [literalMoved, Option.map_none]
            split
            · refine .read_bind (transfers_path shifts calls) ?_
              rintro path _ finish finish' rfl last
              refine .pure ?_ last
              rw [By, Node.moved, Variable.moved_reference]
            · exact .unexpected _ sameToken

end Region

end Stencil
