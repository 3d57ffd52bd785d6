import Stencil.Proofs.Phrase.Rules

/-!
# Larger allowances

A rule is given three allowances: how many rules may be open at the same time, how
many levels may be nested, and how many turns a loop may take.  All of them can only
make a rule stop.  When a rule does not stop for want of one of them, it comes to the
same with larger ones.

This module has the statement for the rules of expressions.
-/

namespace Stencil

/-- The grammar with another limit and another number of turns. -/
def Grammar.allowing (grammar : Grammar) (limit : Int) (turns : Nat) : Grammar :=
  { grammar with limit := limit, turns := turns }

/-- The region with another limit and another number of turns. -/
def Region.allowing (region : Region) (limit : Int) (turns : Nat) : Region :=
  { region with grammar := region.grammar.allowing limit turns }

@[simp] theorem Grammar.allowing_operators (grammar : Grammar) (limit : Int) (turns : Nat) :
    (grammar.allowing limit turns).operators = grammar.operators :=
  rfl

@[simp] theorem Grammar.allowing_limit (grammar : Grammar) (limit : Int) (turns : Nat) :
    (grammar.allowing limit turns).limit = limit :=
  rfl

@[simp] theorem Grammar.allowing_order (grammar : Grammar) (limit : Int) (turns : Nat) :
    (grammar.allowing limit turns).order = grammar.order :=
  rfl

@[simp] theorem Region.allowing_grammar (region : Region) (limit : Int) (turns : Nat) :
    (region.allowing limit turns).grammar = region.grammar.allowing limit turns :=
  rfl

@[simp] theorem Region.isDone_allowing
    (region : Region)
    (limit : Int)
    (turns : Nat)
    (cursor : Cursor) :
    (region.allowing limit turns).isDone cursor = region.isDone cursor :=
  rfl

/-- The grammar with another limit. -/
def Grammar.within (grammar : Grammar) (limit : Int) : Grammar :=
  { grammar with limit := limit }

/-- The region with another limit. -/
def Region.within (region : Region) (limit : Int) : Region :=
  { region with grammar := region.grammar.within limit }

/-- A halt that larger allowances may lift: too few rules may be open or too few turns
taken, or the limit is lower than it could be. -/
def Halt.IsLifted (lower higher : Int) (halt : Halt) : Prop :=
  halt = .exhausted ∨
    lower < higher ∧ ∃ position, halt = .diagnosed ⟨.nestedTooDeeply lower, position⟩

/-- Under one and the same limit only more open rules and turns can help. -/
theorem Halt.IsLifted.eq_exhausted
    {limit : Int}
    {halt : Halt}
    (lifted : halt.IsLifted limit limit) :
    halt = .exhausted := by
  rcases lifted with exhausted | ⟨impossible, _⟩
  · exact exhausted
  · omega

namespace Reading

variable {lower higher : Int}

/-- What was found with smaller allowances is also found with larger ones. -/
def Kept (lower higher : Int) (first second : Except Halt α) : Prop :=
  second = first ∨ ∃ halt, first = .error halt ∧ halt.IsLifted lower higher

theorem Kept.refl (outcome : Except Halt α) : Kept lower higher outcome outcome :=
  .inl rfl

theorem Kept.of_exhausted (second : Except Halt α) :
    Kept lower higher (.error .exhausted) second :=
  .inr ⟨.exhausted, rfl, .inl rfl⟩

/-- Two steps are kept if each of them is. -/
theorem Kept.bind
    {first first' : Except Halt α}
    {second second' : α → Except Halt β}
    (near : Kept lower higher first first')
    (far : ∀ value, Kept lower higher (second value) (second' value)) :
    Kept lower higher (first >>= second) (first' >>= second') := by
  rcases near with rfl | ⟨halt, rfl, lifted⟩
  · cases first' with
    | error halt => exact .refl _
    | ok value => exact far value
  · exact .inr ⟨halt, rfl, lifted⟩

/-- The same first step is followed by steps that are kept. -/
theorem Kept.bind_right
    {first : Except Halt α}
    {second second' : α → Except Halt β}
    (far : ∀ value, Kept lower higher (second value) (second' value)) :
    Kept lower higher (first >>= second) (first >>= second') :=
  .bind (.refl first) far

/-- A level that is allowed below one limit is allowed below a higher one. -/
theorem Kept.nest
    {grammar : Grammar}
    {wide : Nat}
    (raised : grammar.limit ≤ higher)
    (depth : Nat)
    (position : Position) :
    Kept grammar.limit higher (nest grammar depth position)
      (nest (grammar.allowing higher wide) depth position) := by
  unfold Reading.nest
  rw [Grammar.allowing_limit]
  by_cases limited : grammar.limit < depth + 1
  · rw [if_pos limited]
    by_cases same : grammar.limit = higher
    · rw [← same, if_pos limited]
      exact .refl _
    · exact .inr ⟨_, rfl, .inr ⟨by omega, position, rfl⟩⟩
  · rw [if_neg limited, if_neg (by omega)]
    exact .refl _

end Reading

namespace Region

open Reading

variable {region : Region} {higher : Int} {calls more turns longer wide : Nat}

/-! ## Variables and patterns -/

theorem kept_identifier (enough : calls ≤ more) (cursor : Cursor) :
    Kept region.grammar.limit higher (region.identifier calls cursor)
      ((region.allowing higher wide).identifier more cursor) := by
  cases calls with
  | zero => exact .of_exhausted _
  | succ calls =>
    obtain ⟨more, rfl⟩ : ∃ fewer, more = fewer + 1 := ⟨more - 1, by omega⟩
    exact .refl _

theorem kept_pathRest
    {name name' : Cursor → Except Halt (Identifier × Cursor)}
    (names : ∀ cursor, Kept region.grammar.limit higher (name cursor) (name' cursor))
    (lasts : turns ≤ longer)
    (cursor : Cursor) :
    Kept region.grammar.limit higher (region.pathRest name turns cursor)
      ((region.allowing higher wide).pathRest name' longer cursor) := by
  induction turns generalizing cursor longer with
  | zero => exact .of_exhausted _
  | succ turns hypothesis =>
    obtain ⟨longer, rfl⟩ : ∃ fewer, longer = fewer + 1 := ⟨longer - 1, by omega⟩
    rw [pathRest, pathRest, isDone_allowing]
    split
    · exact .refl _
    · refine .bind_right ?_
      rintro ⟨token, behind⟩
      dsimp only
      split
      · refine .bind (names behind) ?_
        rintro ⟨first, middle⟩
        exact .bind (hypothesis (by omega) middle) fun _ => .refl _
      · exact .refl _

theorem kept_path
    (enough : calls ≤ more)
    (lasts : region.grammar.turns ≤ wide)
    (cursor : Cursor) :
    Kept region.grammar.limit higher (region.path calls cursor)
      ((region.allowing higher wide).path more cursor) := by
  cases calls with
  | zero => exact .of_exhausted _
  | succ calls =>
    obtain ⟨more, rfl⟩ : ∃ fewer, more = fewer + 1 := ⟨more - 1, by omega⟩
    have names : ∀ cursor, Kept region.grammar.limit higher (region.identifier calls cursor)
        ((region.allowing higher wide).identifier more cursor) :=
      kept_identifier (by omega)
    refine .bind (names cursor) ?_
    rintro ⟨first, middle⟩
    exact .bind (kept_pathRest names lasts middle) fun _ => .refl _

theorem kept_literal? {lower : Int} (enough : calls ≤ more) (cursor : Cursor) :
    Kept lower higher (literal? calls cursor) (literal? more cursor) := by
  cases calls with
  | zero => exact .of_exhausted _
  | succ calls =>
    obtain ⟨more, rfl⟩ : ∃ fewer, more = fewer + 1 := ⟨more - 1, by omega⟩
    exact .refl _

theorem kept_pattern
    (enough : calls ≤ more)
    (lasts : region.grammar.turns ≤ wide)
    (cursor : Cursor) :
    Kept region.grammar.limit higher (region.pattern calls cursor)
      ((region.allowing higher wide).pattern more cursor) := by
  cases calls with
  | zero => exact .of_exhausted _
  | succ calls =>
    obtain ⟨more, rfl⟩ : ∃ fewer, more = fewer + 1 := ⟨more - 1, by omega⟩
    rw [pattern, pattern, isDone_allowing]
    split
    · exact .refl _
    · refine .bind_right ?_
      rintro ⟨token, behind⟩
      dsimp only
      split
      · exact .refl _
      · refine .bind (kept_literal? (by omega) cursor) ?_
        rintro ⟨found, behind⟩
        cases found with
        | some literal => exact .refl _
        | none =>
          dsimp only
          split
          · exact .bind (kept_path (by omega) lasts cursor) fun _ => .refl _
          · exact .refl _

/-! ## Expressions -/

theorem kept_filterName
    (operator : Operator)
    (symbol : Token)
    (enough : calls ≤ more)
    (cursor : Cursor) :
    Kept region.grammar.limit higher (region.filterName operator symbol calls cursor)
      ((region.allowing higher wide).filterName operator symbol more cursor) := by
  cases calls with
  | zero => exact .of_exhausted _
  | succ calls =>
    obtain ⟨more, rfl⟩ : ∃ fewer, more = fewer + 1 := ⟨more - 1, by omega⟩
    exact .refl _

theorem kept_operatorTail
    {filter filter' : Operator → Token → Cursor → Except Halt (Text × Cursor)}
    {operand operand' : Int → Cursor → Except Halt (Node × Cursor)}
    (filters : ∀ operator symbol cursor, Kept region.grammar.limit higher
      (filter operator symbol cursor) (filter' operator symbol cursor))
    (operands : ∀ least cursor, Kept region.grammar.limit higher
      (operand least cursor) (operand' least cursor))
    (lasts : turns ≤ longer)
    (least : Int)
    (left : Node)
    (cursor : Cursor) :
    Kept region.grammar.limit higher
      (region.operatorTail filter operand least turns left cursor)
      ((region.allowing higher wide).operatorTail filter' operand' least longer left cursor) := by
  induction turns generalizing left cursor longer with
  | zero => exact .of_exhausted _
  | succ turns hypothesis =>
    obtain ⟨longer, rfl⟩ : ∃ fewer, longer = fewer + 1 := ⟨longer - 1, by omega⟩
    have lasts' : turns ≤ longer := by omega
    rw [operatorTail, operatorTail, isDone_allowing]
    split
    · exact .refl _
    · refine .bind_right ?_
      rintro ⟨token, behind⟩
      dsimp only [allowing_grammar, Grammar.allowing_operators]
      split
      · exact .refl _
      · cases region.grammar.operators.find? token.value with
        | none => exact .refl _
        | some operator =>
          dsimp only
          split
          · exact .refl _
          · cases operator.role with
            | filter =>
              exact .bind (filters operator token behind) fun _ => hypothesis lasts' _ _
            | binary =>
              exact .bind (operands _ behind) fun _ => hypothesis lasts' _ _

/-- The rules of expressions keep what they read, by induction on the rules that may
be open. -/
theorem kept_of_rules
    (raised : region.grammar.limit ≤ higher)
    (lasts : region.grammar.turns ≤ wide)
    (enough : calls ≤ more) :
    (∀ depth least cursor, Kept region.grammar.limit higher
        (region.expression calls depth least cursor)
        ((region.allowing higher wide).expression more depth least cursor)) ∧
      (∀ depth cursor, Kept region.grammar.limit higher
        (region.unary calls depth cursor) ((region.allowing higher wide).unary more depth cursor)) ∧
      ∀ depth cursor, Kept region.grammar.limit higher
        (region.atom calls depth cursor)
        ((region.allowing higher wide).atom more depth cursor) := by
  induction calls generalizing more with
  | zero =>
    refine ⟨?_, ?_, ?_⟩
    · intro depth least cursor
      rw [expression]
      exact .of_exhausted _
    · intro depth cursor
      rw [unary]
      exact .of_exhausted _
    · intro depth cursor
      rw [atom]
      exact .of_exhausted _
  | succ calls hypothesis =>
    obtain ⟨more, rfl⟩ : ∃ fewer, more = fewer + 1 := ⟨more - 1, by omega⟩
    obtain ⟨ofExpression, ofUnary, ofAtom⟩ := hypothesis (show calls ≤ more by omega)
    refine ⟨?_, ?_, ?_⟩
    · intro depth least cursor
      rw [expression, expression]
      refine .bind (ofUnary depth cursor) ?_
      rintro ⟨left, middle⟩
      exact kept_operatorTail
        (fun operator symbol => kept_filterName operator symbol (by omega))
        (fun least => ofExpression depth least) lasts least left middle
    · intro depth cursor
      rw [unary, unary, isDone_allowing]
      split
      · exact ofAtom depth cursor
      · refine .bind_right ?_
        rintro ⟨token, behind⟩
        dsimp only
        split
        · refine .bind (.nest raised depth behind.position) fun deeper => ?_
          exact .bind (ofUnary deeper behind) fun _ => .refl _
        · exact ofAtom depth cursor
    · intro depth cursor
      rw [atom, atom, isDone_allowing]
      split
      · exact .refl _
      · refine .bind_right ?_
        rintro ⟨token, behind⟩
        dsimp only
        split
        · refine .bind (.nest raised depth behind.position) fun deeper => ?_
          exact .bind (ofExpression deeper 1 behind) fun _ => .refl _
        · refine .bind (kept_literal? (by omega) cursor) ?_
          rintro ⟨found, behind⟩
          cases found with
          | some literal => exact .refl _
          | none =>
            dsimp only
            split
            · exact .bind (kept_path (by omega) lasts cursor) fun _ => .refl _
            · exact .refl _

end Region

end Stencil
