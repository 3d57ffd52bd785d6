import Stencil.Proofs.Progress

/-!
# The grammar of expressions

What the rules for expressions accept, as a relation between the cursor before
an expression, its tree and the cursor behind it.  The relation has no bounds on
open rules and turns.  In their place it has the number of levels that
parentheses and prefix operators may be nested; a reading with some levels is
also one with more.

The main statements are that reading always goes forward, and that more levels
keep every reading.
-/

namespace Stencil

namespace Region

open Reading

/-- The names of a path behind its first one. -/
inductive Names (region : Region) : Cursor → List Identifier → Cursor → Prop
  /-- The region ends behind the path. -/
  | closed
      {cursor : Cursor}
      (done : region.isDone cursor = true) :
      Names region cursor [] cursor
  /-- Another token than a dot follows the path. -/
  | other
      {cursor behind : Cursor}
      {token : Token}
      (next : region.Continues cursor token behind)
      (noDot : token.kind ≠ .dot) :
      Names region cursor [] cursor
  /-- A dot and one more name follow. -/
  | dot
      {cursor behind middle finish : Cursor}
      {token : Token}
      {first : Identifier}
      {others : List Identifier}
      (next : region.Continues cursor token behind)
      (isDot : token.kind = .dot)
      (name : region.identifier 1 behind = .ok (first, middle))
      (rest : Names region middle others finish) :
      Names region cursor (first :: others) finish

/-- A variable stands between two cursors. -/
def Path (region : Region) (cursor : Cursor) (path : Variable) (finish : Cursor) : Prop :=
  ∃ middle, region.identifier 1 cursor = .ok (path.first, middle) ∧
    region.Names middle path.others finish

/-- An operator of the table follows. -/
def Meets
    (region : Region)
    (cursor : Cursor)
    (token : Token)
    (operator : Operator)
    (behind : Cursor) : Prop :=
  region.Continues cursor token behind ∧ token.kind = .operator ∧
    region.grammar.operators.find? token.value = some operator

/-- No operator follows that could take what stands before it as its left
operand: the region ends, something else follows, or the operator is too weak. -/
def Stops (region : Region) (least : Int) (cursor : Cursor) : Prop :=
  region.isDone cursor = true ∨
    (∃ token behind, region.Continues cursor token behind ∧ token.kind ≠ .operator) ∨
    ∃ token operator behind, region.Meets cursor token operator behind ∧
      operator.precedence < least

/-- What is asked for at a place. -/
inductive Goal where
  /-- An expression whose operators have at least a precedence. -/
  | expression (least : Int)
  /-- Any number of such operators with what stands on their right. -/
  | operators (least : Int) (left : Node)
  /-- An operand with the operators before it. -/
  | unary
  /-- An operand. -/
  | atom

/-- What stands between two cursors, nested at most a number of levels deep. -/
inductive Reads (region : Region) : Goal → Nat → Cursor → Node → Cursor → Prop
  | expression
      {least : Int}
      {levels : Nat}
      {cursor middle finish : Cursor}
      {left node : Node}
      (first : Reads region .unary levels cursor left middle)
      (rest : Reads region (.operators least left) levels middle node finish)
      (stops : region.Stops least finish) :
      Reads region (.expression least) levels cursor node finish
  | none
      {least : Int}
      {levels : Nat}
      {cursor : Cursor}
      {left : Node} :
      Reads region (.operators least left) levels cursor left cursor
  | filter
      {least : Int}
      {levels : Nat}
      {cursor behind middle finish : Cursor}
      {token : Token}
      {operator : Operator}
      {left node : Node}
      {name : Text}
      (meets : region.Meets cursor token operator behind)
      (strong : least ≤ operator.precedence)
      (role : operator.role = .filter)
      (named : region.filterName operator token 1 behind = .ok (name, middle))
      (rest : Reads region (.operators least (Node.call token.position name left)) levels
        middle node finish) :
      Reads region (.operators least left) levels cursor node finish
  | binary
      {least : Int}
      {levels : Nat}
      {cursor behind middle finish : Cursor}
      {token : Token}
      {operator : Operator}
      {left right node : Node}
      (meets : region.Meets cursor token operator behind)
      (strong : least ≤ operator.precedence)
      (role : operator.role = .binary)
      (operand : Reads region (.expression operator.rightPrecedence) levels behind right middle)
      (rest : Reads region
        (.operators least (Node.binary token.position operator.symbol left right)) levels
        middle node finish) :
      Reads region (.operators least left) levels cursor node finish
  | operand
      {levels : Nat}
      {cursor behind finish : Cursor}
      {token : Token}
      {node : Node}
      (next : region.Continues cursor token behind)
      (bare : (token.kind = .operator && isPrefixOperator token.value) = false)
      (rest : Reads region .atom levels cursor node finish) :
      Reads region .unary levels cursor node finish
  | prefixed
      {levels : Nat}
      {cursor behind finish : Cursor}
      {token : Token}
      {node : Node}
      (next : region.Continues cursor token behind)
      (before : (token.kind = .operator && isPrefixOperator token.value) = true)
      (rest : Reads region .unary levels behind node finish) :
      Reads region .unary (levels + 1) cursor (Node.call token.position token.value node) finish
  | parenthesised
      {levels : Nat}
      {cursor behind middle finish : Cursor}
      {token last : Token}
      {node : Node}
      (next : region.Continues cursor token behind)
      (opening : token.kind = .opening)
      (inner : Reads region (.expression 1) levels behind node middle)
      (closing : expect .closing (.literal (Text.of ")")) middle = .ok (last, finish)) :
      Reads region .atom (levels + 1) cursor node finish
  | literal
      {levels : Nat}
      {cursor behind finish : Cursor}
      {token : Token}
      {position : Position}
      {literal : Literal}
      (next : region.Continues cursor token behind)
      (noOpening : token.kind ≠ .opening)
      (found : literal? 1 cursor = .ok (some (position, literal), finish)) :
      Reads region .atom levels cursor (.literal position literal) finish
  | reference
      {levels : Nat}
      {cursor behind finish : Cursor}
      {token : Token}
      {path : Variable}
      (next : region.Continues cursor token behind)
      (isName : token.kind = .identifier)
      (noLiteral : literal? 1 cursor = .ok (.none, cursor))
      (found : region.Path cursor path finish) :
      Reads region .atom levels cursor (.reference path.reference) finish

/-! ## Forward only -/

theorem Continues.passes
    {region : Region}
    {cursor behind : Cursor}
    {token : Token}
    (next : region.Continues cursor token behind)
    (notFinish : token.kind ≠ .finish) :
    cursor.Passes behind :=
  token_passes next.2 notFinish

theorem Meets.passes
    {region : Region}
    {cursor behind : Cursor}
    {token : Token}
    {operator : Operator}
    (meets : region.Meets cursor token operator behind) :
    cursor.Passes behind :=
  meets.1.passes (by simp [meets.2.1])

theorem Names.reaches
    {region : Region}
    {cursor finish : Cursor}
    {others : List Identifier}
    (names : region.Names cursor others finish) :
    cursor.Reaches finish := by
  induction names with
  | closed => exact .refl _
  | other => exact .refl _
  | dot next isDot name rest hypothesis =>
    have passesDot := next.passes (by simp [isDot])
    exact (passesDot.trans (identifier_passes name)).1.trans hypothesis

theorem Path.passes
    {region : Region}
    {cursor finish : Cursor}
    {path : Variable}
    (stands : region.Path cursor path finish) :
    cursor.Passes finish := by
  obtain ⟨middle, first, others⟩ := stands
  exact (identifier_passes first).trans_reaches others.reaches

/-- Whether something has to stand where a goal is asked for. -/
def Goal.isNeeded : Goal → Bool
  | .operators _ _ => false
  | _ => true

/-- Reading goes forward, and passes whatever has to be there. -/
theorem Reads.progress
    {region : Region}
    {goal : Goal}
    {levels : Nat}
    {cursor finish : Cursor}
    {node : Node}
    (reads : region.Reads goal levels cursor node finish) :
    cursor.Reaches finish ∧ (goal.isNeeded = true → cursor.Passes finish) := by
  induction reads with
  | expression first rest stops firstHypothesis restHypothesis =>
    have passes := (firstHypothesis.2 rfl).trans_reaches restHypothesis.1
    exact ⟨passes.1, fun _ => passes⟩
  | none => exact ⟨.refl _, by simp [Goal.isNeeded]⟩
  | filter meets strong role named rest hypothesis =>
    have passes := (meets.passes.trans (filterName_passes named)).trans_reaches hypothesis.1
    exact ⟨passes.1, fun _ => passes⟩
  | binary meets strong role operand rest operandHypothesis restHypothesis =>
    have passes := (meets.passes.trans (operandHypothesis.2 rfl)).trans_reaches restHypothesis.1
    exact ⟨passes.1, fun _ => passes⟩
  | operand next bare rest hypothesis => exact ⟨hypothesis.1, fun _ => hypothesis.2 rfl⟩
  | prefixed next before rest hypothesis =>
    have passes : _ := hypothesis.2 rfl
    rw [Bool.and_eq_true, decide_eq_true_eq] at before
    have passesOperator := next.passes (by simp [before.1])
    exact ⟨(passesOperator.trans passes).1, fun _ => passesOperator.trans passes⟩
  | parenthesised next opening inner closing hypothesis =>
    obtain ⟨scanned, isClosing⟩ := expect_eq_ok.1 closing
    have passesOpening := next.passes (by simp [opening])
    have passesClosing := token_passes scanned (by simp [isClosing])
    have passes := (passesOpening.trans (hypothesis.2 rfl)).trans passesClosing
    exact ⟨passes.1, fun _ => passes⟩
  | literal next noOpening found =>
    rcases literal?_passes found with ⟨impossible, _⟩ | ⟨_, passes⟩
    · simp at impossible
    · exact ⟨passes.1, fun _ => passes⟩
  | reference next isName noLiteral found => exact ⟨found.passes.1, fun _ => found.passes⟩

theorem Reads.passes
    {region : Region}
    {goal : Goal}
    {levels : Nat}
    {cursor finish : Cursor}
    {node : Node}
    (reads : region.Reads goal levels cursor node finish)
    (needed : goal.isNeeded = true) :
    cursor.Passes finish :=
  reads.progress.2 needed

/-- What can be read with some levels can be read with more. -/
theorem Reads.mono
    {region : Region}
    {goal : Goal}
    {levels more : Nat}
    {cursor finish : Cursor}
    {node : Node}
    (reads : region.Reads goal levels cursor node finish)
    (le : levels ≤ more) :
    region.Reads goal more cursor node finish := by
  induction reads generalizing more with
  | expression first rest stops firstHypothesis restHypothesis =>
    exact .expression (firstHypothesis le) (restHypothesis le) stops
  | none => exact .none
  | filter meets strong role named rest hypothesis =>
    exact .filter meets strong role named (hypothesis le)
  | binary meets strong role operand rest operandHypothesis restHypothesis =>
    exact .binary meets strong role (operandHypothesis le) (restHypothesis le)
  | operand next bare rest hypothesis => exact .operand next bare (hypothesis le)
  | prefixed next before rest hypothesis =>
    obtain ⟨fewer, rfl⟩ : ∃ fewer, more = fewer + 1 := ⟨more - 1, by omega⟩
    exact .prefixed next before (hypothesis (by omega))
  | parenthesised next opening inner closing hypothesis =>
    obtain ⟨fewer, rfl⟩ : ∃ fewer, more = fewer + 1 := ⟨more - 1, by omega⟩
    exact .parenthesised next opening (hypothesis (by omega)) closing
  | literal next noOpening found => exact .literal next noOpening found
  | reference next isName noLiteral found => exact .reference next isName noLiteral found

end Region

end Stencil
