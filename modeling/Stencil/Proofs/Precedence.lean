import Stencil.Proofs.Lexeme

/-!
# Operators group by precedence

Expressions are read by one loop that calls itself with a raised least
precedence.  What this comes to can be said without any loop: a chain of
operands with operators between them is split at an operator of the least
precedence, and so are the two halves.  The main statement is that a chain is
read to the tree that is grouped in this way.
-/

namespace Stencil

namespace OperatorTable

/-- The binary operators of a table have positive precedences, are whole lexemes,
and group alike if their precedence is the same. -/
structure Regular (table : OperatorTable) : Prop where
  /-- Every operator binds more tightly than nothing at all. -/
  positive : ∀ operator ∈ table, operator.role = .binary → 1 ≤ operator.precedence
  /-- Every symbol is scanned as one token. -/
  complete : ∀ operator ∈ table, operator.role = .binary → Style.operator.IsLexeme operator.symbol
  /-- Operators of one precedence group from the same side. -/
  uniform : ∀ left ∈ table, ∀ right ∈ table, left.role = .binary → right.role = .binary →
    left.precedence = right.precedence → left.associativity = right.associativity

theorem mem_of_find?
    {table : OperatorTable}
    {symbol : Text}
    {operator : Operator}
    (known : table.find? symbol = some operator) :
    operator ∈ table :=
  List.mem_of_find?_eq_some known

end OperatorTable

/-- An operator in a chain, its position, and the operand on its right. -/
structure Link where
  /-- The operator. -/
  operator : Operator
  /-- Where the operator stands. -/
  position : Position
  /-- The operand behind it. -/
  operand : Node

/-- A chain of operands grouped by splitting it at an operator of the least
precedence: the last one if it groups from the left, and the first one if it
groups from the right. -/
inductive Grouped : Node → List Link → Node → Prop
  | operand {first : Node} : Grouped first [] first
  | split
      {first left right : Node}
      {before after : List Link}
      {link : Link}
      (least : ∀ other ∈ before ++ after, link.operator.precedence ≤ other.operator.precedence)
      (isLast : link.operator.associativity = .left →
        ∀ other ∈ after, link.operator.precedence < other.operator.precedence)
      (isFirst : link.operator.associativity = .right →
        ∀ other ∈ before, link.operator.precedence < other.operator.precedence)
      (onLeft : Grouped first before left)
      (onRight : Grouped link.operand after right) :
      Grouped first (before ++ link :: after)
        (Node.binary link.position link.operator.symbol left right)

/-! ## Every chain can be grouped -/

/-- Some operator of a chain has the least precedence. -/
theorem exists_least_precedence
    {links : List Link}
    (notEmpty : links ≠ []) :
    ∃ link ∈ links, ∀ other ∈ links, link.operator.precedence ≤ other.operator.precedence := by
  induction links with
  | nil => exact absurd rfl notEmpty
  | cons link links hypothesis =>
    cases links with
    | nil => exact ⟨link, by simp⟩
    | cons next links =>
      obtain ⟨least, member, isLeast⟩ := hypothesis (List.cons_ne_nil _ _)
      by_cases smaller : link.operator.precedence ≤ least.operator.precedence
      · refine ⟨link, List.mem_cons_self, ?_⟩
        intro other among
        rcases List.mem_cons.1 among with rfl | among
        · exact Int.le_refl _
        · exact Int.le_trans smaller (isLeast other among)
      · refine ⟨least, List.mem_cons_of_mem _ member, ?_⟩
        intro other among
        rcases List.mem_cons.1 among with rfl | among
        · omega
        · exact isLeast other among

/-- A list can be split at the first member with a property. -/
theorem exists_first_split
    {links : List Link}
    {property : Link → Bool}
    (found : ∃ link ∈ links, property link = true) :
    ∃ before link after, links = before ++ link :: after ∧ property link = true ∧
      ∀ other ∈ before, property other = false := by
  have isSome : (links.find? property).isSome = true := by simpa using found
  obtain ⟨link, first⟩ := Option.isSome_iff_exists.1 isSome
  obtain ⟨holds, before, after, rfl, none⟩ := List.find?_eq_some_iff_append.1 first
  exact ⟨before, link, after, rfl, holds, by simpa using none⟩

/-- A list can be split at the last member with a property. -/
theorem exists_last_split
    {links : List Link}
    {property : Link → Bool}
    (found : ∃ link ∈ links, property link = true) :
    ∃ before link after, links = before ++ link :: after ∧ property link = true ∧
      ∀ other ∈ after, property other = false := by
  have reversed : ∃ link ∈ links.reverse, property link = true := by simpa using found
  obtain ⟨after, link, before, split, holds, none⟩ := exists_first_split reversed
  refine ⟨before.reverse, link, after.reverse, ?_, holds, by simpa using none⟩
  rw [← List.reverse_reverse links, split]
  simp

/-- Chains whose operators group alike at each precedence can be grouped. -/
theorem Grouped.exists_of_uniform
    (first : Node)
    (links : List Link)
    (uniform : ∀ left ∈ links, ∀ right ∈ links,
      left.operator.precedence = right.operator.precedence →
        left.operator.associativity = right.operator.associativity) :
    ∃ tree, Grouped first links tree := by
  induction size : links.length using Nat.strongRecOn generalizing first links with
  | ind size hypothesis =>
    by_cases notEmpty : links = []
    · subst notEmpty
      exact ⟨first, .operand⟩
    obtain ⟨least, member, isLeast⟩ := exists_least_precedence notEmpty
    let isMinimal : Link → Bool := fun link =>
      decide (link.operator.precedence = least.operator.precedence)
    have found : ∃ link ∈ links, isMinimal link = true := ⟨least, member, by simp [isMinimal]⟩
    -- Both ways to split leave two shorter chains and an operator that is among the least.
    obtain ⟨before, link, after, rfl, minimal, sides⟩ : ∃ before link after,
        links = before ++ link :: after ∧ isMinimal link = true ∧
          ((link.operator.associativity = .left ∧ ∀ other ∈ after, isMinimal other = false) ∨
            (link.operator.associativity = .right ∧
              ∀ other ∈ before, isMinimal other = false)) := by
      cases side : least.operator.associativity with
      | left =>
        obtain ⟨before, link, after, rfl, minimal, none⟩ := exists_last_split found
        refine ⟨before, link, after, rfl, minimal, .inl ⟨?_, none⟩⟩
        rw [uniform link (by simp) least member (by simpa [isMinimal] using minimal), side]
      | right =>
        obtain ⟨before, link, after, rfl, minimal, none⟩ := exists_first_split found
        refine ⟨before, link, after, rfl, minimal, .inr ⟨?_, none⟩⟩
        rw [uniform link (by simp) least member (by simpa [isMinimal] using minimal), side]
    have samePrecedence : link.operator.precedence = least.operator.precedence := by
      simpa [isMinimal] using minimal
    have smaller : ∀ other ∈ before ++ after,
        link.operator.precedence ≤ other.operator.precedence := by
      intro other among
      rw [samePrecedence]
      apply isLeast
      rcases List.mem_append.1 among with among | among <;> simp [among]
    have strictly : ∀ other ∈ before ++ after, isMinimal other = false →
        link.operator.precedence < other.operator.precedence := by
      intro other among notMinimal
      have := smaller other among
      simp only [isMinimal, decide_eq_false_iff_not] at notMinimal
      omega
    rw [List.length_append, List.length_cons] at size
    obtain ⟨left, onLeft⟩ := hypothesis before.length (by omega) first before
      (fun one among other among' => uniform one (by simp [among]) other (by simp [among'])) rfl
    obtain ⟨right, onRight⟩ := hypothesis after.length (by omega) link.operand after
      (fun one among other among' => uniform one (by simp [among]) other (by simp [among'])) rfl
    refine ⟨_, .split smaller ?_ ?_ onLeft onRight⟩
    · intro isLeft other among
      rcases sides with ⟨_, none⟩ | ⟨isRight, _⟩
      · exact strictly other (by simp [among]) (none other among)
      · simp [isLeft] at isRight
    · intro isRight other among
      rcases sides with ⟨isLeft, _⟩ | ⟨_, none⟩
      · simp [isRight] at isLeft
      · exact strictly other (by simp [among]) (none other among)

/-! ## Chains are read -/

namespace Region

/-- Operators with their right operands; a space stands before and behind each
operator. -/
inductive Chain (region : Region) (levels : Nat) : Cursor → List Link → Cursor → Prop
  | nil {cursor : Cursor} : Chain region levels cursor [] cursor
  | cons
      {cursor middle finish : Cursor}
      {operator : Operator}
      {operand : Node}
      {links : List Link}
      {rest : Text}
      (unread : cursor.rest = Text.space ++ (operator.symbol ++ (Text.space ++ rest)))
      (known : region.grammar.operators.find? operator.symbol = some operator)
      (role : operator.role = .binary)
      (reads : region.Reads .unary levels (cursor.forward (1 + operator.symbol.length)) operand
        middle)
      (others : Chain region levels middle links finish) :
      Chain region levels cursor (⟨operator, (cursor.forward 1).position, operand⟩ :: links) finish

theorem Chain.of_append
    {region : Region}
    {levels : Nat}
    {cursor finish : Cursor}
    {front back : List Link}
    (chain : region.Chain levels cursor (front ++ back) finish) :
    ∃ middle, region.Chain levels cursor front middle ∧ region.Chain levels middle back finish := by
  induction front generalizing cursor with
  | nil => exact ⟨cursor, .nil, chain⟩
  | cons link front hypothesis =>
    cases chain with
    | cons unread known role reads others =>
      obtain ⟨middle, near, far⟩ := hypothesis others
      exact ⟨middle, .cons unread known role reads near, far⟩

/-- The operators of a chain are those of the table. -/
theorem Chain.mem_operators
    {region : Region}
    {levels : Nat}
    {cursor finish : Cursor}
    {links : List Link}
    (chain : region.Chain levels cursor links finish) :
    ∀ link ∈ links, link.operator ∈ region.grammar.operators ∧ link.operator.role = .binary := by
  induction chain with
  | nil => simp
  | cons unread known role reads others hypothesis =>
    exact List.forall_mem_cons.2 ⟨⟨OperatorTable.mem_of_find? known, role⟩, hypothesis⟩

/-- An operator between spaces is met. -/
theorem Meets.of_symbol
    {region : Region}
    {cursor : Cursor}
    {operator : Operator}
    {rest : Text}
    (apart : region.Apart)
    (unread : cursor.rest = Text.space ++ (operator.symbol ++ (Text.space ++ rest)))
    (known : region.grammar.operators.find? operator.symbol = some operator)
    (whole : Style.operator.IsLexeme operator.symbol) :
    region.Meets cursor (Token.located (cursor.forward 1) .operator operator.symbol) operator
      (cursor.forward (1 + operator.symbol.length)) :=
  ⟨.of_operator apart unread Text.isBlank_space whole (Text.isOperatorRest_of_head?_space rest),
    rfl, known⟩

/-- Operators can be read in two parts. -/
theorem Reads.operators_trans
    {region : Region}
    {levels : Nat}
    {least : Int}
    {cursor middle finish : Cursor}
    {left inner node : Node}
    (near : region.Reads (.operators least left) levels cursor inner middle)
    (far : region.Reads (.operators least inner) levels middle node finish) :
    region.Reads (.operators least left) levels cursor node finish := by
  generalize asked : Goal.operators least left = goal at near
  induction near generalizing left with
  | none =>
    cases asked
    exact far
  | filter meets strong role named rest hypothesis =>
    cases asked
    exact .filter meets strong role named (hypothesis far rfl)
  | binary meets strong role operand rest _ hypothesis =>
    cases asked
    exact .binary meets strong role operand (hypothesis far rfl)
  | _ => cases asked

/-- A chain is read to its grouped tree.  The right operands of its operators end
where the chain does, so none of them may go on there. -/
theorem Chain.reads
    {region : Region}
    {levels : Nat}
    (apart : region.Apart)
    (regular : OperatorTable.Regular region.grammar.operators)
    {first tree : Node}
    {links : List Link}
    (grouped : Grouped first links tree)
    {least : Int}
    {cursor finish : Cursor}
    (chain : region.Chain levels cursor links finish)
    (strong : ∀ link ∈ links, least ≤ link.operator.precedence)
    (stops : ∀ link ∈ links, region.Stops link.operator.rightPrecedence finish) :
    region.Reads (.operators least first) levels cursor tree finish := by
  induction grouped generalizing least cursor finish with
  | operand =>
    cases chain
    exact .none
  | @split first left right before after link smallest isLast isFirst onLeft onRight
      leftHypothesis rightHypothesis =>
    have operators := chain.mem_operators
    obtain ⟨middle, near, far⟩ := chain.of_append
    have here : link ∈ before ++ link :: after := by simp
    have isOperator := operators link here
    have strongHere := strong link here
    have stopsHere := stops link here
    cases far with
    | @cons _ behind _ operator operand _ rest unread known role reads others =>
      have whole := regular.complete _ isOperator.1 isOperator.2
      have meets := Meets.of_symbol apart unread known whole
      -- The operator is too weak for the right operands of those on its left.
      have leftStops : ∀ other ∈ before,
          region.Stops other.operator.rightPrecedence middle := by
        intro other among
        refine .inr (.inr ⟨_, operator, _, meets, ?_⟩)
        have smaller : operator.precedence ≤ other.operator.precedence :=
          smallest other (by simp [among])
        cases side : other.operator.associativity with
        | left =>
          simp only [Operator.rightPrecedence, side]
          omega
        | right =>
          simp only [Operator.rightPrecedence, side]
          rcases Int.lt_or_eq_of_le smaller with less | same
          · exact less
          · have isOther := operators other (by simp [among])
            have alike := regular.uniform _ isOperator.1 _ isOther.1 isOperator.2 isOther.2 same
            exact isFirst (alike.trans side) other among
      have leftReads : region.Reads (.operators least first) levels cursor left middle :=
        leftHypothesis near (fun other among => strong other (by simp [among])) leftStops
      have enough : ∀ other ∈ after, operator.rightPrecedence ≤ other.operator.precedence := by
        intro other among
        cases side : operator.associativity with
        | left =>
          simp only [Operator.rightPrecedence, side]
          exact isLast side other among
        | right =>
          simp only [Operator.rightPrecedence, side]
          exact smallest other (by simp [among])
      have rightReads := rightHypothesis others enough
        (fun other among => stops other (by simp [among]))
      have rightOperand : region.Reads (.expression operator.rightPrecedence) levels _ right
          finish := .expression reads rightReads stopsHere
      exact leftReads.operators_trans (.binary meets strongHere role rightOperand .none)

end Region

end Stencil
