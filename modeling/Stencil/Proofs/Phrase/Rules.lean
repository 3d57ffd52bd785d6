import Stencil.Proofs.Phrase

/-!
# The rules for expressions follow their grammar

The rules for variables, patterns and expressions succeed exactly on what the
grammar of expressions describes.  From a success of a rule a reading is built
by induction on the rules that may be open.  Conversely a reading makes the rule
succeed as soon as the bounds on open rules and on turns exceed what the unread
text can use up: each code point accounts for at most four open rules and for
one turn.
-/

namespace Stencil

/-- How many levels may be opened below a depth. -/
def Grammar.levelsBelow (grammar : Grammar) (depth : Nat) : Nat :=
  (grammar.limit - depth).toNat

theorem Grammar.levelsBelow_succ
    {grammar : Grammar}
    {depth : Nat}
    (allowed : (depth + 1 : Int) ≤ grammar.limit) :
    grammar.levelsBelow depth = grammar.levelsBelow (depth + 1) + 1 := by
  unfold levelsBelow
  omega

namespace Region

open Reading

/-! ## Variables and patterns -/

theorem Names.of_pathRest
    {region : Region}
    {calls turns : Nat}
    {cursor finish : Cursor}
    {others : List Identifier}
    (success : region.pathRest (region.identifier (calls + 1)) turns cursor =
      .ok (others, finish)) :
    region.Names cursor others finish := by
  induction turns generalizing cursor others with
  | zero => simp [pathRest] at success
  | succ turns hypothesis =>
    rw [pathRest] at success
    split at success
    · rename_i done
      simp only [Except.ok.injEq, Prod.mk.injEq] at success
      obtain ⟨rfl, rfl⟩ := success
      exact .closed done
    · rename_i notDone
      simp only [bind_eq_ok, Prod.exists] at success
      obtain ⟨token, behind, scanned, success⟩ := success
      have next : region.Continues cursor token behind := ⟨by simpa using notDone, scanned⟩
      split at success
      · rename_i isDot
        simp only [bind_eq_ok, Prod.exists, pure_eq_ok, Prod.mk.injEq] at success
        obtain ⟨first, middle, name, names, after, rest, rfl, rfl⟩ := success
        exact .dot next isDot name (hypothesis rest)
      · rename_i noDot
        simp only [pure_eq_ok, Prod.mk.injEq] at success
        obtain ⟨rfl, rfl⟩ := success
        exact .other next noDot

theorem Names.pathRest_eq_ok
    {region : Region}
    {cursor finish : Cursor}
    {others : List Identifier}
    (names : region.Names cursor others finish)
    (calls turns : Nat)
    (enough : cursor.rest.length < turns) :
    region.pathRest (region.identifier (calls + 1)) turns cursor = .ok (others, finish) := by
  induction names generalizing turns with
  | closed done =>
    obtain ⟨turns, rfl⟩ : ∃ fewer, turns = fewer + 1 := ⟨turns - 1, by omega⟩
    simp [pathRest, done]
  | other next noDot =>
    obtain ⟨turns, rfl⟩ : ∃ fewer, turns = fewer + 1 := ⟨turns - 1, by omega⟩
    rw [pathRest, if_neg (by simp [next.1])]
    simp [next.2, noDot]
  | dot next isDot name rest hypothesis =>
    obtain ⟨turns, rfl⟩ : ∃ fewer, turns = fewer + 1 := ⟨turns - 1, by omega⟩
    have shorter := ((next.passes (by simp [isDot])).trans (identifier_passes name)).2
    have name' : region.identifier (calls + 1) _ = _ := name
    rw [pathRest, if_neg (by simp [next.1])]
    simp [next.2, isDot, name', hypothesis turns (by omega)]

theorem Path.of_path
    {region : Region}
    {calls : Nat}
    {cursor finish : Cursor}
    {path : Variable}
    (success : region.path calls cursor = .ok (path, finish)) :
    region.Path cursor path finish := by
  cases calls with
  | zero => simp [Region.path] at success
  | succ calls =>
    cases calls with
    | zero => simp [Region.path, identifier, bind_eq_ok] at success
    | succ calls =>
      simp only [Region.path, bind_eq_ok, Prod.exists, pure_eq_ok, Prod.mk.injEq] at success
      obtain ⟨first, middle, name, others, after, rest, rfl, rfl⟩ := success
      exact ⟨middle, name, .of_pathRest rest⟩

theorem Path.path_eq_ok
    {region : Region}
    {cursor finish : Cursor}
    {path : Variable}
    (stands : region.Path cursor path finish)
    (calls : Nat)
    (enoughCalls : 2 ≤ calls)
    (enoughTurns : cursor.rest.length < region.grammar.turns) :
    region.path calls cursor = .ok (path, finish) := by
  obtain ⟨calls, rfl⟩ : ∃ fewer, calls = fewer + 2 := ⟨calls - 2, by omega⟩
  obtain ⟨middle, name, others⟩ := stands
  have name' : region.identifier (calls + 1) cursor = .ok (path.first, middle) := name
  have shorter := (identifier_passes name).2
  simp only [Region.path, bind_eq_ok, Prod.exists, pure_eq_ok, Prod.mk.injEq]
  exact ⟨path.first, middle, name', path.others, finish,
    others.pathRest_eq_ok calls _ (by omega), rfl, rfl⟩

/-- A pattern stands between two cursors. -/
inductive Matches (region : Region) : Cursor → Pattern → Cursor → Prop
  | wildcard
      {cursor finish : Cursor}
      {token : Token}
      (next : region.Continues cursor token finish)
      (isWildcard : token.isWord (Text.of "_") = true) :
      Matches region cursor .wildcard finish
  | literal
      {cursor behind finish : Cursor}
      {token : Token}
      {position : Position}
      {literal : Literal}
      (next : region.Continues cursor token behind)
      (noWildcard : token.isWord (Text.of "_") = false)
      (found : literal? 1 cursor = .ok (some (position, literal), finish)) :
      Matches region cursor (.literal literal) finish
  | path
      {cursor behind finish : Cursor}
      {token : Token}
      {path : Variable}
      (next : region.Continues cursor token behind)
      (noWildcard : token.isWord (Text.of "_") = false)
      (isName : token.kind = .identifier)
      (noLiteral : literal? 1 cursor = .ok (.none, cursor))
      (found : region.Path cursor path finish) :
      Matches region cursor (.path path) finish

theorem Matches.of_pattern
    {region : Region}
    {calls : Nat}
    {cursor finish : Cursor}
    {pattern : Pattern}
    (success : region.pattern calls cursor = .ok (pattern, finish)) :
    region.Matches cursor pattern finish := by
  cases calls with
  | zero => simp [Region.pattern] at success
  | succ calls =>
    rw [Region.pattern] at success
    split at success
    · simp at success
    · rename_i notDone
      simp only [bind_eq_ok, Prod.exists] at success
      obtain ⟨token, behind, scanned, success⟩ := success
      have next : region.Continues cursor token behind := ⟨by simpa using notDone, scanned⟩
      split at success
      · rename_i isWildcard
        simp only [pure_eq_ok, Prod.mk.injEq] at success
        obtain ⟨rfl, rfl⟩ := success
        exact .wildcard next isWildcard
      · rename_i noWildcard
        simp only [Bool.not_eq_true] at noWildcard
        cases calls with
        | zero => simp [literal?, bind_eq_ok] at success
        | succ calls =>
          simp only [bind_eq_ok, Prod.exists] at success
          obtain ⟨found, after, looked, success⟩ := success
          split at success
          · rename_i literal behind' equal
            simp only [pure_eq_ok, Prod.mk.injEq] at success equal
            obtain ⟨rfl, rfl⟩ := success
            obtain ⟨rfl, rfl⟩ := equal
            exact .literal next noWildcard looked
          · rename_i equal
            simp only [Prod.mk.injEq] at equal
            obtain ⟨rfl, rfl⟩ := equal
            rcases literal?_passes looked with ⟨_, rfl⟩ | ⟨impossible, _⟩
            · split at success
              · rename_i isName
                simp only [bind_eq_ok, Prod.exists, pure_eq_ok, Prod.mk.injEq] at success
                obtain ⟨path, end', stands, rfl, rfl⟩ := success
                exact .path next noWildcard isName looked (.of_path stands)
              · simp at success
            · simp at impossible

theorem Matches.pattern_eq_ok
    {region : Region}
    {cursor finish : Cursor}
    {pattern : Pattern}
    (matched : region.Matches cursor pattern finish)
    (calls : Nat)
    (enoughCalls : 3 ≤ calls)
    (enoughTurns : cursor.rest.length < region.grammar.turns) :
    region.pattern calls cursor = .ok (pattern, finish) := by
  obtain ⟨calls, rfl⟩ : ∃ fewer, calls = fewer + 2 := ⟨calls - 2, by omega⟩
  cases matched with
  | wildcard next isWildcard =>
    rw [Region.pattern, if_neg (by simp [next.1])]
    simp [next.2, isWildcard]
  | literal next noWildcard found =>
    have found' : literal? (calls + 1) cursor = _ := found
    rw [Region.pattern, if_neg (by simp [next.1])]
    simp [next.2, noWildcard, found']
  | path next noWildcard isName noLiteral found =>
    have noLiteral' : literal? (calls + 1) cursor = _ := noLiteral
    have stands := found.path_eq_ok (calls + 1) (by omega) enoughTurns
    rw [Region.pattern, if_neg (by simp [next.1])]
    simp [next.2, noWildcard, noLiteral', isName, stands]

theorem Matches.passes
    {region : Region}
    {cursor finish : Cursor}
    {pattern : Pattern}
    (matched : region.Matches cursor pattern finish) :
    cursor.Passes finish := by
  cases matched with
  | wildcard next isWildcard =>
    simp only [Token.isWord, Bool.and_eq_true, decide_eq_true_eq] at isWildcard
    exact next.passes (by simp [isWildcard.1])
  | literal next noWildcard found =>
    rcases literal?_passes found with ⟨impossible, _⟩ | ⟨_, passes⟩
    · simp at impossible
    · exact passes
  | path next noWildcard isName noLiteral found => exact found.passes

/-! ## Expressions -/

/-- The loop over operators, as an expression runs it. -/
def tail
    (region : Region)
    (calls depth : Nat)
    (least : Int)
    (turns : Nat)
    (left : Node)
    (cursor : Cursor) : Except Halt (Node × Cursor) :=
  region.operatorTail
    (fun operator symbol => region.filterName operator symbol calls)
    (fun least => region.expression calls depth least)
    least turns left cursor

theorem expression_succ
    (region : Region)
    (calls depth : Nat)
    (least : Int)
    (cursor : Cursor) :
    region.expression (calls + 1) depth least cursor =
      (do
        let (left, middle) ← region.unary calls depth cursor
        region.tail calls depth least region.grammar.turns left middle) := by
  rw [expression]
  rfl

/-- The loop ends where it stops. -/
theorem Stops.tail_eq_ok
    {region : Region}
    {least : Int}
    {cursor : Cursor}
    (stops : region.Stops least cursor)
    (calls depth turns : Nat)
    (left : Node) :
    region.tail calls depth least (turns + 1) left cursor = .ok (left, cursor) := by
  rw [tail, operatorTail]
  rcases stops with done | ⟨token, behind, next, noOperator⟩ |
    ⟨token, operator, behind, ⟨next, isOperator, found⟩, weak⟩
  · rw [if_pos done]
  · rw [if_neg (by simp [next.1])]
    simp [next.2, noOperator, pure, Except.pure]
  · rw [if_neg (by simp [next.1])]
    simp [next.2, isOperator, found, weak, pure, Except.pure]

/-- A turn of the loop with a filter. -/
theorem Meets.tail_filter
    {region : Region}
    {cursor behind : Cursor}
    {token : Token}
    {operator : Operator}
    {least : Int}
    (meets : region.Meets cursor token operator behind)
    (strong : least ≤ operator.precedence)
    (role : operator.role = .filter)
    (calls depth turns : Nat)
    (left : Node) :
    region.tail calls depth least (turns + 1) left cursor =
      (do
        let (name, middle) ← region.filterName operator token calls behind
        region.tail calls depth least turns (Node.call token.position name left) middle) := by
  obtain ⟨next, isOperator, found⟩ := meets
  rw [tail, operatorTail, if_neg (by simp [next.1])]
  simp only [next.2, ok_bind, isOperator, found, role, ne_eq, not_true_eq_false, if_false,
    if_neg (Int.not_lt.2 strong)]
  rfl

/-- A turn of the loop with a binary operator. -/
theorem Meets.tail_binary
    {region : Region}
    {cursor behind : Cursor}
    {token : Token}
    {operator : Operator}
    {least : Int}
    (meets : region.Meets cursor token operator behind)
    (strong : least ≤ operator.precedence)
    (role : operator.role = .binary)
    (calls depth turns : Nat)
    (left : Node) :
    region.tail calls depth least (turns + 1) left cursor =
      (do
        let (right, middle) ← region.expression calls depth operator.rightPrecedence behind
        region.tail calls depth least turns
          (Node.binary token.position operator.symbol left right) middle) := by
  obtain ⟨next, isOperator, found⟩ := meets
  rw [tail, operatorTail, if_neg (by simp [next.1])]
  simp only [next.2, ok_bind, isOperator, found, role, ne_eq, not_true_eq_false, if_false,
    if_neg (Int.not_lt.2 strong)]
  rfl

/-- What a success of the loop means: it stops, or a turn is followed by the
rest of the loop. -/
theorem tail_cases
    {region : Region}
    {calls depth turns : Nat}
    {least : Int}
    {left node : Node}
    {cursor finish : Cursor}
    (success : region.tail calls depth least (turns + 1) left cursor = .ok (node, finish)) :
    (region.Stops least cursor ∧ node = left ∧ finish = cursor) ∨
      ∃ token operator behind, region.Meets cursor token operator behind ∧
        least ≤ operator.precedence := by
  rw [tail, operatorTail] at success
  split at success
  · rename_i done
    simp only [Except.ok.injEq, Prod.mk.injEq] at success
    exact .inl ⟨.inl done, success.1.symm, success.2.symm⟩
  · rename_i notDone
    simp only [bind_eq_ok, Prod.exists] at success
    obtain ⟨token, behind, scanned, success⟩ := success
    have next : region.Continues cursor token behind := ⟨by simpa using notDone, scanned⟩
    split at success
    · rename_i noOperator
      simp only [pure_eq_ok, Prod.mk.injEq] at success
      exact .inl ⟨.inr (.inl ⟨token, behind, next, noOperator⟩), success.1.symm,
        success.2.symm⟩
    · rename_i isOperator
      rw [ne_eq, Decidable.not_not] at isOperator
      split at success
      · split at success <;> simp at success
      · rename_i operator found
        split at success
        · rename_i weak
          simp only [pure_eq_ok, Prod.mk.injEq] at success
          exact .inl ⟨.inr (.inr ⟨token, operator, behind, ⟨next, isOperator, found⟩, weak⟩),
            success.1.symm, success.2.symm⟩
        · rename_i strong
          exact .inr ⟨token, operator, behind, ⟨next, isOperator, found⟩, Int.not_lt.1 strong⟩

/-- The loop reads operators as the grammar has them, if its right operands
are read so. -/
theorem Reads.of_tail
    {region : Region}
    {calls depth turns levels : Nat}
    (operands : ∀ {least cursor node finish},
      region.expression calls depth least cursor = .ok (node, finish) →
        region.Reads (.expression least) levels cursor node finish)
    {least : Int}
    {left node : Node}
    {cursor finish : Cursor}
    (success : region.tail calls depth least turns left cursor = .ok (node, finish)) :
    region.Reads (.operators least left) levels cursor node finish ∧
      region.Stops least finish := by
  induction turns generalizing left cursor with
  | zero => simp [tail, operatorTail] at success
  | succ turns hypothesis =>
    rcases tail_cases success with ⟨stops, rfl, rfl⟩ |
      ⟨token, operator, behind, meets, strong⟩
    · exact ⟨.none, stops⟩
    · cases role : operator.role with
      | filter =>
        rw [meets.tail_filter strong role] at success
        simp only [bind_eq_ok, Prod.exists] at success
        obtain ⟨name, middle, named, success⟩ := success
        cases calls with
        | zero => simp [filterName] at named
        | succ calls =>
          obtain ⟨rest, stops⟩ := hypothesis success
          exact ⟨.filter meets strong role named rest, stops⟩
      | binary =>
        rw [meets.tail_binary strong role] at success
        simp only [bind_eq_ok, Prod.exists] at success
        obtain ⟨right, middle, operand, success⟩ := success
        obtain ⟨rest, stops⟩ := hypothesis success
        exact ⟨.binary meets strong role (operands operand) rest, stops⟩

/-- Successes of the rules are readings, with the levels that are left below
the depth at which the rules are run. -/
theorem Reads.of_rules
    (region : Region)
    (calls : Nat) :
    (∀ {depth least cursor node finish},
      region.expression calls depth least cursor = .ok (node, finish) →
        region.Reads (.expression least) (region.grammar.levelsBelow depth)
          cursor node finish) ∧
    (∀ {depth cursor node finish},
      region.unary calls depth cursor = .ok (node, finish) →
        region.Reads .unary (region.grammar.levelsBelow depth) cursor node finish) ∧
    (∀ {depth cursor node finish},
      region.atom calls depth cursor = .ok (node, finish) →
        region.Reads .atom (region.grammar.levelsBelow depth) cursor node finish) := by
  induction calls with
  | zero => simp [Region.expression, unary, atom]
  | succ calls hypothesis =>
    obtain ⟨ofExpression, ofUnary, ofAtom⟩ := hypothesis
    refine ⟨?_, ?_, ?_⟩
    · intro depth least cursor node finish success
      rw [expression_succ] at success
      simp only [bind_eq_ok, Prod.exists] at success
      obtain ⟨left, middle, first, success⟩ := success
      obtain ⟨rest, stops⟩ := Reads.of_tail ofExpression success
      exact .expression (ofUnary first) rest stops
    · intro depth cursor node finish success
      rw [unary] at success
      split at success
      · rename_i done
        cases calls with
        | zero => simp [atom] at success
        | succ calls => simp [atom, done] at success
      · rename_i notDone
        simp only [bind_eq_ok, Prod.exists] at success
        obtain ⟨token, behind, scanned, success⟩ := success
        have next : region.Continues cursor token behind := ⟨by simpa using notDone, scanned⟩
        split at success
        · rename_i before
          simp only [bind_eq_ok, Prod.exists, nest_eq_ok, pure_eq_ok, Prod.mk.injEq] at success
          obtain ⟨deeper, ⟨allowed, rfl⟩, operand, after, rest, rfl, rfl⟩ := success
          rw [Grammar.levelsBelow_succ allowed]
          exact .prefixed next before (ofUnary rest)
        · rename_i bare
          exact .operand next (by simpa using bare) (ofAtom success)
    · intro depth cursor node finish success
      rw [atom] at success
      split at success
      · simp at success
      · rename_i notDone
        simp only [bind_eq_ok, Prod.exists] at success
        obtain ⟨token, behind, scanned, success⟩ := success
        have next : region.Continues cursor token behind := ⟨by simpa using notDone, scanned⟩
        split at success
        · rename_i opening
          simp only [bind_eq_ok, Prod.exists, nest_eq_ok, pure_eq_ok, Prod.mk.injEq] at success
          obtain ⟨deeper, ⟨allowed, rfl⟩, inner, middle, reading, last, after, closing, rfl,
            rfl⟩ := success
          rw [Grammar.levelsBelow_succ allowed]
          exact .parenthesised next opening (ofExpression reading) closing
        · rename_i noOpening
          cases calls with
          | zero => simp [literal?, bind_eq_ok] at success
          | succ calls =>
            simp only [bind_eq_ok, Prod.exists] at success
            obtain ⟨found, after, looked, success⟩ := success
            split at success
            · rename_i position literal behind' equal
              simp only [pure_eq_ok, Prod.mk.injEq] at success equal
              obtain ⟨rfl, rfl⟩ := success
              obtain ⟨rfl, rfl⟩ := equal
              exact .literal next noOpening looked
            · rename_i equal
              simp only [Prod.mk.injEq] at equal
              obtain ⟨rfl, rfl⟩ := equal
              rcases literal?_passes looked with ⟨_, rfl⟩ | ⟨impossible, _⟩
              · split at success
                · rename_i isName
                  simp only [bind_eq_ok, Prod.exists, pure_eq_ok, Prod.mk.injEq] at success
                  obtain ⟨path, end', stands, rfl, rfl⟩ := success
                  exact .reference next isName looked (.of_path stands)
                · simp at success
              · simp at impossible

/-- What a goal asks of the rules when something is read for it: that they read
the same as soon as enough of them may be open. -/
def Goal.Succeeds
    (region : Region)
    (cursor : Cursor)
    (node : Node)
    (finish : Cursor)
    (calls depth : Nat) : Goal → Prop
  | .expression least =>
    4 * cursor.rest.length + 5 ≤ calls →
      region.expression calls depth least cursor = .ok (node, finish)
  | .operators least left =>
    4 * cursor.rest.length + 5 ≤ calls →
      ∃ count, count + finish.rest.length ≤ cursor.rest.length ∧
        ∀ turns, region.tail calls depth least (turns + count) left cursor =
          region.tail calls depth least turns node finish
  | .unary =>
    4 * cursor.rest.length + 4 ≤ calls →
      region.unary calls depth cursor = .ok (node, finish)
  | .atom =>
    4 * cursor.rest.length + 3 ≤ calls →
      region.atom calls depth cursor = .ok (node, finish)

/-- Readings are successes of the rules. -/
theorem Reads.succeeds
    {region : Region}
    {goal : Goal}
    {levels : Nat}
    {cursor finish : Cursor}
    {node : Node}
    (reads : region.Reads goal levels cursor node finish)
    (calls depth : Nat)
    (allowed : (depth + levels : Int) ≤ region.grammar.limit)
    (enoughTurns : cursor.rest.length < region.grammar.turns) :
    goal.Succeeds region cursor node finish calls depth := by
  induction reads generalizing calls depth with
  | expression first rest stops firstHypothesis restHypothesis =>
    intro enough
    obtain ⟨calls, rfl⟩ : ∃ fewer, calls = fewer + 1 := ⟨calls - 1, by omega⟩
    have shorter := (first.passes rfl).2
    have firstReads := firstHypothesis calls depth allowed enoughTurns (by omega)
    obtain ⟨count, fits, restReads⟩ :=
      restHypothesis calls depth allowed (by omega) (by omega)
    -- The turns that the loop has left behind the last operator are at least one.
    obtain ⟨turns, total⟩ : ∃ turns, region.grammar.turns = turns + 1 + count :=
      ⟨region.grammar.turns - count - 1, by omega⟩
    rw [expression_succ, firstReads, ok_bind, total]
    exact (restReads _).trans (stops.tail_eq_ok calls depth turns _)
  | none => exact fun _ => ⟨0, by omega, fun _ => rfl⟩
  | filter meets strong role named rest hypothesis =>
    intro enough
    obtain ⟨calls, rfl⟩ : ∃ fewer, calls = fewer + 1 := ⟨calls - 1, by omega⟩
    have shorter := (meets.passes.trans (filterName_passes named)).2
    obtain ⟨count, fits, restReads⟩ := hypothesis (calls + 1) depth allowed (by omega) (by omega)
    have named' : region.filterName _ _ (calls + 1) _ = _ := named
    refine ⟨count + 1, by omega, ?_⟩
    intro turns
    rw [← Nat.add_assoc, meets.tail_filter strong role, named', ok_bind]
    exact restReads turns
  | binary meets strong role operand rest operandHypothesis restHypothesis =>
    intro enough
    have shorter := meets.passes.2
    have shorterStill := (operand.passes rfl).2
    have operandReads := operandHypothesis calls depth allowed (by omega) (by omega)
    obtain ⟨count, fits, restReads⟩ :=
      restHypothesis calls depth allowed (by omega) (by omega)
    refine ⟨count + 1, by omega, ?_⟩
    intro turns
    rw [← Nat.add_assoc, meets.tail_binary strong role, operandReads, ok_bind]
    exact restReads turns
  | operand next bare rest hypothesis =>
    intro enough
    obtain ⟨calls, rfl⟩ : ∃ fewer, calls = fewer + 1 := ⟨calls - 1, by omega⟩
    have restReads := hypothesis calls depth allowed enoughTurns (by omega)
    rw [unary, if_neg (by simp [next.1]), next.2, ok_bind]
    simp only [bare, Bool.false_eq_true, if_false, restReads]
  | prefixed next before rest hypothesis =>
    intro enough
    obtain ⟨calls, rfl⟩ : ∃ fewer, calls = fewer + 1 := ⟨calls - 1, by omega⟩
    have isOperator := before
    rw [Bool.and_eq_true, decide_eq_true_eq] at isOperator
    have shorter := (next.passes (by simp [isOperator.1])).2
    have oneMore : (depth + 1 : Int) ≤ region.grammar.limit := by omega
    have nested : ∀ position, nest region.grammar depth position = .ok (depth + 1) :=
      fun _ => nest_eq_ok.2 ⟨oneMore, rfl⟩
    have restReads := hypothesis calls (depth + 1) (by omega) (by omega)
      (by omega)
    rw [unary, if_neg (by simp [next.1]), next.2, ok_bind]
    simp only [before, if_true, nested, ok_bind, restReads]
    rfl
  | parenthesised next opening inner closing hypothesis =>
    intro enough
    obtain ⟨calls, rfl⟩ : ∃ fewer, calls = fewer + 1 := ⟨calls - 1, by omega⟩
    have shorter := (next.passes (by simp [opening])).2
    have oneMore : (depth + 1 : Int) ≤ region.grammar.limit := by omega
    have nested : ∀ position, nest region.grammar depth position = .ok (depth + 1) :=
      fun _ => nest_eq_ok.2 ⟨oneMore, rfl⟩
    have innerReads := hypothesis calls (depth + 1) (by omega) (by omega)
      (by omega)
    rw [atom, if_neg (by simp [next.1]), next.2, ok_bind]
    simp only [opening, if_true, nested, ok_bind, innerReads, closing]
    rfl
  | literal next noOpening found =>
    intro enough
    obtain ⟨calls, rfl⟩ : ∃ fewer, calls = fewer + 2 := ⟨calls - 2, by omega⟩
    have found' : literal? (calls + 1) _ = _ := found
    rw [atom, if_neg (by simp [next.1]), next.2, ok_bind]
    simp only [noOpening, if_false, found', ok_bind]
    rfl
  | reference next isName noLiteral found =>
    intro enough
    obtain ⟨calls, rfl⟩ : ∃ fewer, calls = fewer + 2 := ⟨calls - 2, by omega⟩
    have noLiteral' : literal? (calls + 1) _ = _ := noLiteral
    have stands := found.path_eq_ok (calls + 1) (by omega) enoughTurns
    rw [atom, if_neg (by simp [next.1]), next.2, ok_bind]
    simp [isName, noLiteral', stands]

end Region

end Stencil
