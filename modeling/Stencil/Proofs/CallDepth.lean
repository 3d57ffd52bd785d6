import Mathlib.Data.Finset.Card
import Stencil.Proofs.Limit

/-!
# How many rules are open at once

A level of nesting opens a bounded number of rules if all binary operators group
from the left: the right operand of an operator is an expression with stronger
operators only, so that expressions open inside of each other for their right
operands have different tiers.  The main statement is that the limit on nesting then
bounds the rules that are open at the same time, whatever the source is.

The bounds below are counted from the inside: an operand opens at most three rules
that nest nothing, a level adds as many rules as there are tiers and three more.
-/

namespace Stencil

namespace OperatorTable

/-- The precedences of binary operators from a least one on. -/
def tiers (table : OperatorTable) (least : Int) : Finset Int :=
  ((table.filter fun operator => operator.role = .binary).map
    Operator.precedence).toFinset.filter (least ≤ ·)

theorem mem_tiers
    {table : OperatorTable}
    {least precedence : Int} :
    precedence ∈ table.tiers least ↔
      (∃ operator ∈ table, operator.role = .binary ∧ operator.precedence = precedence) ∧
        least ≤ precedence := by
  simp [tiers, and_assoc]

/-- Behind an operator that groups from the left there are fewer tiers. -/
theorem card_tiers_lt
    {table : OperatorTable}
    {operator : Operator}
    {least : Int}
    (member : operator ∈ table)
    (role : operator.role = .binary)
    (strong : least ≤ operator.precedence) :
    (table.tiers (operator.precedence + 1)).card < (table.tiers least).card := by
  apply Finset.card_lt_card
  rw [Finset.ssubset_iff_of_subset]
  · refine ⟨operator.precedence, mem_tiers.2 ⟨⟨operator, member, role, rfl⟩, strong⟩, ?_⟩
    intro above
    have := (mem_tiers.1 above).2
    omega
  · intro precedence above
    obtain ⟨exists', stronger⟩ := mem_tiers.1 above
    exact mem_tiers.2 ⟨exists', by omega⟩

/-- A binary operator that can stand in an expression: the table has it under its
symbol, the symbol is one token, and no operator is too weak for a whole expression. -/
structure Admits (table : OperatorTable) (operator : Operator) : Prop where
  /-- The operator is the one that is found under its symbol. -/
  known : table.find? operator.symbol = some operator
  /-- The symbol is scanned as one token. -/
  whole : Style.operator.IsLexeme operator.symbol
  /-- An operand stands on its right. -/
  role : operator.role = .binary
  /-- It may stand in a whole expression. -/
  positive : 1 ≤ operator.precedence

/-- All binary operators that can stand in an expression group from the left. -/
def GroupsFromLeft (table : OperatorTable) : Prop :=
  ∀ operator, table.Admits operator → operator.associativity = .left

end OperatorTable

/-- A level that is opened leaves for the rules below it what it does not cost. -/
theorem Reading.mul_levelsBelow_of_nest
    {grammar : Grammar}
    {depth deeper : Nat}
    {position : Position}
    (cost : Nat)
    (nested : nest grammar depth position = .ok deeper) :
    cost * grammar.levelsBelow depth = cost * grammar.levelsBelow deeper + cost := by
  obtain ⟨allowed, rfl⟩ := nest_eq_ok.1 nested
  rw [Grammar.levelsBelow_succ allowed, Nat.mul_succ]

namespace Region

open Reading

variable {region : Region} {calls more : Nat}

/-- An operator that is met in an expression is one of those that can stand there. -/
theorem Meets.admits
    {cursor behind : Cursor}
    {token : Token}
    {operator : Operator}
    (meets : region.Meets cursor token operator behind)
    (role : operator.role = .binary)
    (positive : 1 ≤ operator.precedence) :
    region.grammar.operators.Admits operator := by
  obtain ⟨⟨_, scanned⟩, isOperator, found⟩ := meets
  have symbol : operator.symbol = token.value := by
    simpa using List.find?_some found
  have scans := Token.Scans.operator_of_kind (token_eq_ok_iff_scans.1 scanned) isOperator
  constructor
  · rw [symbol, found]
  · rw [symbol]
    exact Token.isLexeme_of_lexeme? scans.1
  · exact role
  · exact positive

/-! ## Operands -/

theorem identifier_of_one_le (enough : 1 ≤ calls) :
    region.identifier calls = region.identifier 1 := by
  obtain ⟨calls, rfl⟩ : ∃ fewer, calls = fewer + 1 := ⟨calls - 1, by omega⟩
  rfl

theorem literal?_of_one_le (enough : 1 ≤ calls) : literal? calls = literal? 1 := by
  obtain ⟨calls, rfl⟩ : ∃ fewer, calls = fewer + 1 := ⟨calls - 1, by omega⟩
  rfl

theorem filterName_of_one_le
    (operator : Operator)
    (symbol : Token)
    (enough : 1 ≤ calls) :
    region.filterName operator symbol calls = region.filterName operator symbol 1 := by
  obtain ⟨calls, rfl⟩ : ∃ fewer, calls = fewer + 1 := ⟨calls - 1, by omega⟩
  rfl

theorem path_of_two_le (enough : 2 ≤ calls) : region.path calls = region.path 2 := by
  obtain ⟨calls, rfl⟩ : ∃ fewer, calls = fewer + 1 := ⟨calls - 1, by omega⟩
  funext cursor
  rw [path, path, identifier_of_one_le (by omega)]

theorem pattern_of_three_le (enough : 3 ≤ calls) : region.pattern calls = region.pattern 3 := by
  obtain ⟨calls, rfl⟩ : ∃ fewer, calls = fewer + 1 := ⟨calls - 1, by omega⟩
  funext cursor
  rw [pattern, pattern, literal?_of_one_le (show 1 ≤ calls by omega),
    literal?_of_one_le (show 1 ≤ 2 by omega), path_of_two_le (by omega)]

/-! ## Expressions -/

/-- The loop over operators only asks for the right operands of operators that are strong
enough. -/
theorem operatorTail_congr
    {filter filter' : Operator → Token → Cursor → Except Halt (Text × Cursor)}
    {operand operand' : Int → Cursor → Except Halt (Node × Cursor)}
    {least : Int}
    (filters : ∀ operator symbol, filter operator symbol = filter' operator symbol)
    (operands : ∀ cursor token operator behind, region.Meets cursor token operator behind →
      operator.role = .binary → least ≤ operator.precedence →
        operand operator.rightPrecedence = operand' operator.rightPrecedence)
    (turns : Nat)
    (left : Node)
    (cursor : Cursor) :
    region.operatorTail filter operand least turns left cursor =
      region.operatorTail filter' operand' least turns left cursor := by
  induction turns generalizing left cursor with
  | zero => rfl
  | succ turns hypothesis =>
    rw [operatorTail, operatorTail]
    by_cases done : region.isDone cursor = true
    · rw [if_pos done, if_pos done]
    rw [if_neg done, if_neg done]
    cases scanned : token cursor with
    | error halt => rfl
    | ok found =>
      obtain ⟨token, behind⟩ := found
      simp only [ok_bind]
      by_cases other : token.kind ≠ .operator
      · rw [if_pos other, if_pos other]
      rw [if_neg other, if_neg other]
      cases known : region.grammar.operators.find? token.value with
      | none => rfl
      | some operator =>
        dsimp only
        by_cases weak : operator.precedence < least
        · rw [if_pos weak, if_pos weak]
        rw [if_neg weak, if_neg weak]
        cases role : operator.role with
        | filter => simp only [filters, hypothesis]
        | binary =>
          have meets : region.Meets cursor token operator behind :=
            ⟨⟨by simpa using done, scanned⟩, not_not.1 other, known⟩
          simp only [operands cursor token operator behind meets role (not_lt.1 weak), hypothesis]

/-- The rules of expressions have settled once as many may be open as the levels below
them need: allowing for more changes nothing.  By induction on the rules that may be
open. -/
theorem settled_of_rules
    {cost : Nat}
    (left : region.grammar.operators.GroupsFromLeft)
    (tiers : (region.grammar.operators.tiers 1).card + 3 ≤ cost) :
    (∀ depth least, 1 ≤ least →
        cost * region.grammar.levelsBelow depth +
          (region.grammar.operators.tiers least).card + 5 ≤ calls → calls ≤ more →
        region.expression more depth least = region.expression calls depth least) ∧
      (∀ depth, cost * region.grammar.levelsBelow depth + 4 ≤ calls → calls ≤ more →
        region.unary more depth = region.unary calls depth) ∧
      ∀ depth, cost * region.grammar.levelsBelow depth + 3 ≤ calls → calls ≤ more →
        region.atom more depth = region.atom calls depth := by
  induction calls generalizing more with
  | zero => exact ⟨by omega, by omega, by omega⟩
  | succ calls hypothesis =>
    refine ⟨?_, ?_, ?_⟩
    · intro depth least positive enough atMost
      obtain ⟨more, rfl⟩ : ∃ fewer, more = fewer + 1 := ⟨more - 1, by omega⟩
      obtain ⟨ofExpression, ofUnary, _⟩ := @hypothesis more
      funext cursor
      rw [expression, expression, ofUnary depth (by omega) (by omega)]
      congr 1
      funext found
      refine operatorTail_congr ?_ ?_ _ _ _
      · intro operator symbol
        rw [filterName_of_one_le operator symbol (show 1 ≤ more by omega),
          filterName_of_one_le operator symbol (show 1 ≤ calls by omega)]
      · intro place token operator behind meets role strong
        have admits := meets.admits role (by omega)
        have right : operator.rightPrecedence = operator.precedence + 1 := by
          simp only [Operator.rightPrecedence, left operator admits]
        have fewer := OperatorTable.card_tiers_lt
          (OperatorTable.mem_of_find? admits.known) role strong
        rw [right]
        exact ofExpression depth _ (by omega) (by omega) (by omega)
    · intro depth enough atMost
      obtain ⟨more, rfl⟩ : ∃ fewer, more = fewer + 1 := ⟨more - 1, by omega⟩
      obtain ⟨_, ofUnary, ofAtom⟩ := @hypothesis more
      funext cursor
      rw [unary, unary, ofAtom depth (by omega) (by omega)]
      congr 1
      congr 1
      funext found
      obtain ⟨token, behind⟩ := found
      dsimp only
      congr 1
      cases nested : nest region.grammar depth behind.position with
      | error halt => rfl
      | ok deeper =>
        have spent := mul_levelsBelow_of_nest cost nested
        simp only [ok_bind, ofUnary deeper (by omega) (by omega)]
    · intro depth enough atMost
      obtain ⟨more, rfl⟩ : ∃ fewer, more = fewer + 1 := ⟨more - 1, by omega⟩
      obtain ⟨ofExpression, _, _⟩ := @hypothesis more
      funext cursor
      rw [atom, atom, literal?_of_one_le (show 1 ≤ more by omega),
        literal?_of_one_le (show 1 ≤ calls by omega), path_of_two_le (show 2 ≤ more by omega),
        path_of_two_le (show 2 ≤ calls by omega)]
      congr 1
      congr 1
      funext found
      obtain ⟨token, behind⟩ := found
      dsimp only
      congr 1
      cases nested : nest region.grammar depth behind.position with
      | error halt => rfl
      | ok deeper =>
        have spent := mul_levelsBelow_of_nest cost nested
        simp only [ok_bind, ofExpression deeper 1 (by omega) (by omega) (by omega)]

end Region

namespace Document

variable {grammar : Grammar} {cost calls more : Nat}

/-- A grammar whose levels cost at most a number of rules. -/
structure Affords (grammar : Grammar) (cost : Nat) : Prop where
  /-- Right operands have stronger operators only. -/
  left : grammar.operators.GroupsFromLeft
  /-- A level of an expression opens a rule for each tier and three more. -/
  tiers : (grammar.operators.tiers 1).card + 3 ≤ cost
  /-- A level of documents opens four rules. -/
  documents : 4 ≤ cost

/-! ## Tags -/

theorem Affords.expression_eq
    (affords : Affords grammar cost)
    (depth : Nat)
    (enough : cost * grammar.levelsBelow depth + cost + 2 ≤ calls)
    (atMost : calls ≤ more)
    (closing : Text) :
    Region.expression ⟨grammar, closing⟩ more depth 1 =
      Region.expression ⟨grammar, closing⟩ calls depth 1 := by
  have few := affords.tiers
  exact (@Region.settled_of_rules ⟨grammar, closing⟩ _ _ _ affords.left few).1 depth 1
    (le_refl 1) (by dsimp only; omega) atMost

theorem Affords.expressionTag_eq
    (affords : Affords grammar cost)
    (depth : Nat)
    (enough : cost * grammar.levelsBelow depth + cost + 2 ≤ calls)
    (atMost : calls ≤ more) :
    expressionTag grammar more depth = expressionTag grammar calls depth := by
  unfold expressionTag
  simp only [State.tagRegion, affords.expression_eq depth enough atMost]

theorem Affords.insertion_eq
    (affords : Affords grammar cost)
    (depth : Nat)
    (enough : cost * grammar.levelsBelow depth + cost + 3 ≤ calls)
    (atMost : calls ≤ more) :
    insertion grammar depth more = insertion grammar depth calls := by
  obtain ⟨calls, rfl⟩ : ∃ fewer, calls = fewer + 1 := ⟨calls - 1, by omega⟩
  obtain ⟨more, rfl⟩ : ∃ fewer, more = fewer + 1 := ⟨more - 1, by omega⟩
  rw [insertion, insertion]
  simp only [affords.expression_eq depth (show _ ≤ calls by omega) (show calls ≤ more by omega)]

theorem pragma_of_one_le (enough : 1 ≤ calls) : pragma grammar calls = pragma grammar 1 := by
  obtain ⟨calls, rfl⟩ : ∃ fewer, calls = fewer + 1 := ⟨calls - 1, by omega⟩
  rfl

theorem patternTag_of_three_le (enough : 3 ≤ calls) :
    patternTag grammar calls = patternTag grammar 3 := by
  unfold patternTag
  simp only [Region.pattern_of_three_le enough]

theorem loop_of_two_le (enough : 2 ≤ calls) : loop grammar calls = loop grammar 2 := by
  funext body otherwise
  unfold loop
  simp only [Region.identifier_of_one_le (show 1 ≤ calls by omega),
    Region.identifier_of_one_le (show 1 ≤ 2 by omega), Region.path_of_two_le enough]

theorem binding_of_one_le (enough : 1 ≤ calls) : binding grammar calls = binding grammar 1 := by
  funext value body
  unfold binding
  simp only [Region.identifier_of_one_le enough]

/-! ## Documents -/

/-- The rules of documents have settled once as many may be open as the levels below
them need.  By induction on the rules that may be open. -/
theorem Affords.settled_of_rules (affords : Affords grammar cost) :
    (∀ depth, cost * grammar.levelsBelow depth + 5 ≤ calls → calls ≤ more →
        document grammar more depth = document grammar calls depth) ∧
      (∀ depth, cost * grammar.levelsBelow depth + cost + 4 ≤ calls → calls ≤ more →
        parts grammar more depth = parts grammar calls depth) ∧
      (∀ depth construct, cost * grammar.levelsBelow depth + cost + 3 ≤ calls → calls ≤ more →
        block grammar more depth construct = block grammar calls depth construct) ∧
      ∀ depth, cost * grammar.levelsBelow depth + 6 ≤ calls → calls ≤ more →
        otherwise grammar more depth = otherwise grammar calls depth := by
  have least := affords.documents
  induction calls generalizing more with
  | zero => exact ⟨by omega, by omega, by omega, by omega⟩
  | succ calls hypothesis =>
    refine ⟨?_, ?_, ?_, ?_⟩
    · intro depth enough atMost
      obtain ⟨more, rfl⟩ : ∃ fewer, more = fewer + 1 := ⟨more - 1, by omega⟩
      obtain ⟨_, ofParts, _, _⟩ := @hypothesis more
      rw [document, document]
      congr 1
      funext state
      dsimp only
      cases nested : Reading.nest grammar depth state.cursor.position with
      | error halt => rfl
      | ok deeper =>
        have spent := Reading.mul_levelsBelow_of_nest cost nested
        simp only [ofParts deeper (by omega) (by omega)]
    · intro depth enough atMost
      obtain ⟨more, rfl⟩ : ∃ fewer, more = fewer + 1 := ⟨more - 1, by omega⟩
      obtain ⟨_, _, ofBlock, _⟩ := @hypothesis more
      have blocks : block grammar more depth = block grammar calls depth :=
        funext fun construct => ofBlock depth construct (by omega) (by omega)
      rw [parts, parts, blocks, affords.insertion_eq depth (show _ ≤ calls by omega) (by omega),
        pragma_of_one_le (show 1 ≤ more by omega), pragma_of_one_le (show 1 ≤ calls by omega)]
    · intro depth construct enough atMost
      obtain ⟨more, rfl⟩ : ∃ fewer, more = fewer + 1 := ⟨more - 1, by omega⟩
      obtain ⟨ofDocument, _, _, ofOtherwise⟩ := @hypothesis more
      have ofExpression := affords.expressionTag_eq depth (show _ ≤ calls by omega)
        (show calls ≤ more by omega)
      have ofBody := ofDocument depth (by omega) (by omega)
      have ofDefault := ofOtherwise depth (by omega) (by omega)
      cases construct with
      | conditional => rw [block, block, ofExpression, ofBody, ofDefault]
      | selection =>
        rw [block, block, ofExpression, ofBody, ofDefault,
          patternTag_of_three_le (show 3 ≤ more by omega),
          patternTag_of_three_le (show 3 ≤ calls by omega)]
      | loop =>
        rw [block, block, ofBody, ofDefault, loop_of_two_le (show 2 ≤ more by omega),
          loop_of_two_le (show 2 ≤ calls by omega)]
      | binding =>
        rw [block, block, ofExpression, ofBody, binding_of_one_le (show 1 ≤ more by omega),
          binding_of_one_le (show 1 ≤ calls by omega)]
      | inclusion => rw [block, block, ofExpression]
    · intro depth enough atMost
      obtain ⟨more, rfl⟩ : ∃ fewer, more = fewer + 1 := ⟨more - 1, by omega⟩
      obtain ⟨ofDocument, _, _, _⟩ := @hypothesis more
      rw [otherwise, otherwise, ofDocument depth (by omega) (by omega)]

end Document

namespace Template

/-- With as many open rules as its levels need, a source is read as with as many as its
length could use up. -/
theorem readWithin_eq_read
    {options : Options}
    {cost calls : Nat}
    {source : Text}
    (affords : Document.Affords (grammarFor options source) cost)
    (enough : cost * options.limit.toNat + 5 ≤ calls)
    (name : Text)
    (delimiters : Delimiters) :
    readWithin calls options name delimiters source = read options name delimiters source := by
  rw [← readWithin_callsFor]
  rcases le_total (callsFor source) calls with more | fewer
  · -- More rules than the length could use up: nothing is left that they could lift.
    have kept := readWithin_kept (le_refl options.limit) more name delimiters source
    rcases kept with same | ⟨halt, failed, lifted⟩
    · exact same
    · rw [readWithin_callsFor, lifted.eq_exhausted] at failed
      exact absurd failed (read_ne_exhausted options name delimiters source)
  · have below : (grammarFor options source).levelsBelow 0 = options.limit.toNat := by
      simp [Grammar.levelsBelow, grammarFor]
    have settled := affords.settled_of_rules.1 0 (by rw [below]; exact enough) fewer
    unfold readWithin whole
    rw [settled]

/-- The standard operators have five tiers. -/
theorem affords_standard (limit : Int) (order : List Kind) (source : Text) :
    Document.Affords (grammarFor ⟨.standard, limit, order⟩ source) 8 where
  left := by
    have checked : ∀ operator ∈ OperatorTable.standard, operator.associativity = .left := by
      decide
    intro operator admits
    exact checked operator (OperatorTable.mem_of_find? admits.known)
  tiers := by
    have five : (OperatorTable.standard.tiers 1).card = 5 := by decide
    simp only [grammarFor, five]
    decide
  documents := by decide

/-- With the standard operators the limit alone bounds how many rules are open at the
same time: eight for each level and twenty more are enough for every source, be it
accepted or rejected. -/
theorem read_within_eight_rules_per_level
    (limit : Int)
    (order : List Kind)
    (name : Text)
    (delimiters : Delimiters)
    (source : Text) :
    readWithin (8 * limit.toNat + 20) ⟨.standard, limit, order⟩ name delimiters source =
        read ⟨.standard, limit, order⟩ name delimiters source ∧
      (readWithin (8 * limit.toNat + 20) ⟨.standard, limit, order⟩ name delimiters
        source).result ≠ .error .exhausted := by
  have same := readWithin_eq_read (affords_standard limit order source)
    (show 8 * limit.toNat + 5 ≤ 8 * limit.toNat + 20 by omega) name delimiters
  refine ⟨same, ?_⟩
  rw [same]
  exact read_ne_exhausted _ name delimiters source

end Template

end Stencil
