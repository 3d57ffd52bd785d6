import Stencil.Proofs.Filter
import Stencil.Proofs.Phrase.Rules
import Stencil.Proofs.Printer
import Stencil.Proofs.Spelling

/-!
# Written expressions are read back

Wherever an expression is written in a region, it is read to a tree that differs
from it in positions only.  What follows an operand must not extend it: behind a
variable there is no dot, and an expression ends with its region or with the
parentheses around it.
-/

namespace Stencil

namespace Region

open Reading

variable
  {region : Region}
  {layout : Layout}
  {cursor finish : Cursor}

/-! ## Variables -/

/-- No name goes on with the dots behind it. -/
theorem isWordRest_head?_gap (layout : Layout) (rest : Text) :
    ∀ point ∈ (layout.gap ++ (Text.of "." ++ rest)).head?, point.isWordRest = false := by
  have blank := layout.gap_isBlank
  intro point first
  cases written : layout.gap with
  | nil =>
    rw [written] at first
    obtain rfl := Option.some.inj first
    decide
  | cons other others =>
    rw [written] at first blank
    obtain rfl := Option.some.inj first
    rw [Text.isBlank, List.all_cons, Bool.and_eq_true] at blank
    exact CodePoint.isWordRest_of_isBlank blank.1

/-- Names with dots before them are read. -/
theorem Names.of_othersText
    {names : List Identifier}
    (apart : region.Apart)
    (named : ∀ name ∈ names, name.name.IsName)
    (spells : cursor.Spells (layout.othersText names) finish)
    (before : finish.IsBeforeSpace)
    (halts : region.Halts finish) :
    (∃ others, region.Names cursor others finish ∧
      others.map Identifier.name = names.map Identifier.name) ∧
      ∀ point ∈ cursor.rest.head?, point.isWordRest = false := by
  induction names generalizing cursor with
  | nil =>
    obtain rfl := spells.eq_of_nil
    refine ⟨⟨[], ?_, rfl⟩, before.isWordRest_eq_false⟩
    rcases halts with done | ⟨token, behind, next, noDot⟩
    · exact .closed done
    · exact .other next noDot
  | cons name names hypothesis =>
    obtain ⟨⟨whole, free⟩, others⟩ := List.forall_mem_cons.1 named
    rw [Layout.othersText, List.flatMap_cons] at spells
    obtain ⟨middle, near, far⟩ := spells.of_append
    obtain ⟨behind, dotted, word⟩ := near.of_append
    obtain ⟨⟨rest, isRest, same⟩, ends⟩ := hypothesis others far
    refine ⟨⟨_, .dot (.of_spelled_punctuation apart dotted layout.gap_isBlank (by decide)) rfl
      (identifier_eq_ok.2 ⟨_, .of_spelled_word apart word layout.gap_isBlank whole ends, rfl, free,
        rfl⟩) isRest, ?_⟩, ?_⟩
    · rw [List.map_cons, List.map_cons, same]
      rfl
    · rw [dotted.1, List.append_assoc]
      exact isWordRest_head?_gap layout _

/-- A variable is read, and it begins with a word that is no keyword. -/
theorem Path.of_pathText
    {path : Variable}
    (apart : region.Apart)
    (writable : path.IsWritable)
    (spells : cursor.Spells (layout.pathText path) finish)
    (before : finish.IsBeforeSpace)
    (halts : region.Halts finish) :
    ∃ tree, region.Path cursor tree finish ∧ tree.same path = true ∧
      ∃ token behind, region.Continues cursor token behind ∧ token.kind = .identifier ∧
        Style.identifier.isReserved token.value = false := by
  obtain ⟨⟨whole, free⟩, others⟩ := List.forall_mem_cons.1 writable
  obtain ⟨middle, near, far⟩ := spells.of_append
  obtain ⟨⟨rest, isRest, same⟩, ends⟩ := Names.of_othersText apart others far before halts
  have next := Continues.of_spelled_word apart near Text.isBlank_space whole ends
  refine ⟨⟨_, rest⟩, ⟨middle, identifier_eq_ok.2 ⟨_, next, rfl, free, rfl⟩, isRest⟩, ?_,
    _, _, next, rfl, free⟩
  simp [Variable.same, Variable.names, same, Token.located]

/-- A word that is no keyword is no literal. -/
theorem literal?_of_name
    {token : Token}
    {behind : Cursor}
    (next : region.Continues cursor token behind)
    (isName : token.kind = .identifier)
    (free : Style.identifier.isReserved token.value = false) :
    literal? 1 cursor = .ok (none, cursor) := by
  have noKeyword : ∀ word, Style.identifier.isReserved word = true →
      token.isWord word = false := by
    intro word reserved
    rw [Token.isWord, Bool.and_eq_false_iff, beq_eq_false_iff_ne]
    refine .inr ?_
    rintro rfl
    simp [reserved] at free
  have noTrue := noKeyword (Text.of "true") (by decide)
  have noFalse := noKeyword (Text.of "false") (by decide)
  simp only [literal?, next.2, ok_bind]
  simp [noTrue, noFalse, isName, Token.isOperator, pure, Except.pure]

/-! ## Literals -/

/-- A literal is read to itself, and its token is no operator or parenthesis. -/
theorem literal?_of_literalText
    {literal : Literal}
    (apart : region.Apart)
    (writable : literal.IsWritable)
    (spells : cursor.Spells (layout.literalText literal) finish)
    (before : finish.IsBeforeSpace) :
    ∃ token, region.Continues cursor token finish ∧
      literal? 1 cursor =
        .ok (some ((cursor.forward Text.space.length).position, literal), finish) ∧
      token.kind ≠ .operator ∧ token.kind ≠ .opening ∧ token.isWord (Text.of "_") = false := by
  cases literal with
  | boolean flag =>
    have ofWord : ∀ word, layout.literalText (.boolean flag) = Text.space ++ Text.of word →
        Style.identifier.IsLexeme (Text.of word) →
        region.Continues cursor (Token.located (cursor.forward 1) .identifier (Text.of word))
          finish := by
      intro word written whole
      rw [written] at spells
      exact .of_spelled_word apart spells Text.isBlank_space whole before.isWordRest_eq_false
    cases flag with
    | true =>
      have next := ofWord "true" rfl (by decide)
      refine ⟨_, next, ?_, by simp, by simp, rfl⟩
      simp only [literal?, next.2, ok_bind]
      rfl
    | false =>
      have next := ofWord "false" rfl (by decide)
      refine ⟨_, next, ?_, by simp, by simp, rfl⟩
      simp only [literal?, next.2, ok_bind]
      rfl
  | number value =>
    have next := Continues.of_spelled_number apart spells Text.isBlank_space writable.1 before
    refine ⟨_, next, ?_, by simp, by simp, rfl⟩
    simp only [literal?, next.2, ok_bind]
    simp [Token.isWord, Token.located, number, Decimal.value?_toText writable.1 writable.2, pure,
      Except.pure]
  | text content =>
    have next := Continues.of_spelled_string apart spells Text.isBlank_space
    refine ⟨_, next, ?_, by simp, by simp, rfl⟩
    simp only [literal?, next.2, ok_bind]
    simp [Token.isWord, Token.located, pure, Except.pure]

/-! ## Expressions -/

/-- What stands between two cursors is read to a tree that differs from another
one in positions only. -/
def Recovers
    (region : Region)
    (goal : Goal)
    (levels : Nat)
    (cursor : Cursor)
    (node : Node)
    (finish : Cursor) : Prop :=
  ∃ tree, region.Reads goal levels cursor tree finish ∧ tree.same node = true

theorem Recovers.mono
    {goal : Goal}
    {levels more : Nat}
    {node : Node}
    (recovers : region.Recovers goal levels cursor node finish)
    (le : levels ≤ more) :
    region.Recovers goal more cursor node finish := by
  obtain ⟨tree, reads, same⟩ := recovers
  exact ⟨tree, reads.mono le, same⟩

/-- An operand is an expression where no operator follows that takes it. -/
theorem Recovers.expression
    {levels : Nat}
    {node : Node}
    {least : Int}
    (recovers : region.Recovers .unary levels cursor node finish)
    (stops : region.Stops least finish) :
    region.Recovers (.expression least) levels cursor node finish := by
  obtain ⟨tree, reads, same⟩ := recovers
  exact ⟨tree, .expression reads .none stops, same⟩

/-- A literal is an operand. -/
theorem Recovers.of_literalText
    {levels : Nat}
    {position : Position}
    {literal : Literal}
    (apart : region.Apart)
    (writable : literal.IsWritable)
    (spells : cursor.Spells (layout.literalText literal) finish)
    (before : finish.IsBeforeSpace) :
    region.Recovers .unary levels cursor (.literal position literal) finish := by
  obtain ⟨token, next, found, noOperator, noOpening, _⟩ :=
    literal?_of_literalText apart writable spells before
  refine ⟨_, .operand next (by simp [noOperator]) (.literal next noOpening found), ?_⟩
  cases literal <;> simp [Node.same, Literal.same]

/-- A variable is an operand. -/
theorem Recovers.of_pathText
    {levels : Nat}
    {path : Reference}
    (apart : region.Apart)
    (writable : path.toVariable.IsWritable)
    (spells : cursor.Spells (layout.pathText path.toVariable) finish)
    (before : finish.IsBeforeSpace)
    (halts : region.Halts finish) :
    region.Recovers .unary levels cursor (.reference path) finish := by
  obtain ⟨tree, isPath, same, token, behind, next, isName, free⟩ :=
    Path.of_pathText apart writable spells before halts
  refine ⟨_, .operand next (by simp [isName])
    (.reference next isName (literal?_of_name next isName free) isPath), ?_⟩
  rw [Node.same]
  exact same

/-- An expression in parentheses is an operand. -/
theorem Recovers.of_parentheses
    {levels : Nat}
    {node : Node}
    {text : Text}
    (apart : region.Apart)
    (inner : ∀ ⦃start stop : Cursor⦄, start.Spells text stop → stop.IsBeforeSpace →
      region.Ends stop → region.Recovers (.expression 1) levels start node stop)
    (spells : cursor.Spells (Text.space ++ Text.of "(" ++ (text ++ (Text.space ++ Text.of ")")))
      finish)
    (before : finish.IsBeforeSpace) :
    region.Recovers .unary (levels + 1) cursor node finish := by
  obtain ⟨start, opened, rest⟩ := spells.of_append
  obtain ⟨stop, within, closed⟩ := rest.of_append
  have opening : region.Continues cursor
      (Token.located (cursor.forward 1) .opening (Text.of "(")) start :=
    .of_spelled_punctuation apart opened Text.isBlank_space (by decide)
  have closing := Continues.of_spelled_closing apart closed Text.isBlank_space before
  have closes := @expect_eq_ok .closing (.literal (Text.of ")")) _ _ _ |>.2 ⟨closing.2, rfl⟩
  obtain ⟨tree, reads, same⟩ := inner within (closed.isBeforeSpace (Text.isSpaced_space _))
    (.inr ⟨_, _, closing, rfl⟩)
  exact ⟨tree, .operand opening rfl (.parenthesised opening rfl reads closes), same⟩

/-- What is written for an expression without parentheses is read back where the
expression ends. -/
def RecoversBare (region : Region) (layout : Layout) (node : Node) : Prop :=
  ∀ ⦃cursor finish : Cursor⦄, cursor.Spells (layout.bareText node) finish →
    finish.IsBeforeSpace → region.Ends finish →
      region.Recovers (.expression 1) (Layout.bareLevels node) cursor node finish

/-- What is written for an operand is read back where it is not extended. -/
def RecoversOperand (region : Region) (layout : Layout) (node : Node) : Prop :=
  ∀ ⦃cursor finish : Cursor⦄, cursor.Spells (layout.operandText node) finish →
    finish.IsBeforeSpace → region.Halts finish →
      region.Recovers .unary (Layout.operandLevels node) cursor node finish

theorem RecoversOperand.bare
    {node : Node}
    (simple : node.isCompound = false)
    (operand : region.RecoversOperand layout node) :
    region.RecoversBare layout node := by
  intro cursor finish spells before ends
  have text : layout.operandText node = layout.bareText node := by
    simp [Layout.operandText, Layout.enclose, simple]
  have levels : Layout.operandLevels node = Layout.bareLevels node := by
    simp [Layout.operandLevels, Layout.encloseLevels, simple]
  rw [← text] at spells
  rw [← levels]
  exact (operand spells before ends.halts).expression (ends.stops 1)

theorem RecoversBare.operand
    {node : Node}
    (apart : region.Apart)
    (compound : node.isCompound = true)
    (bare : region.RecoversBare layout node) :
    region.RecoversOperand layout node := by
  intro cursor finish spells before halts
  rw [Layout.operandText, Layout.enclose, if_pos compound] at spells
  rw [Layout.operandLevels, Layout.encloseLevels, if_pos compound]
  exact .of_parentheses apart bare spells before

end Region

namespace Layout

theorem isSpaced_enclose
    {node : Node}
    {text : Text}
    (spaced : text.IsSpaced) :
    (enclose node text).IsSpaced := by
  unfold enclose
  split
  · exact (Text.isSpaced_space _).append _
  · exact spaced

theorem isSpaced_literalText (layout : Layout) (literal : Literal) :
    (layout.literalText literal).IsSpaced := by
  cases literal with
  | boolean flag => cases flag <;> exact Text.isSpaced_space _
  | number value => exact Text.isSpaced_space _
  | text content => exact Text.isSpaced_space _

theorem isSpaced_pathText (layout : Layout) (path : Variable) :
    (layout.pathText path).IsSpaced :=
  (Text.isSpaced_space _).append _

/-- Names of filters are no prefix operators. -/
theorem isPrefixOperator_of_isName
    {name : Text}
    (named : name.IsName) :
    isPrefixOperator name = false := by
  cases isPrefix : isPrefixOperator name with
  | false => rfl
  | true =>
    simp only [isPrefixOperator, prefixOperators, List.any_cons, List.any_nil, Bool.or_false,
      beq_iff_eq] at isPrefix
    rw [← isPrefix] at named
    exact absurd named (by decide)

theorem isLexeme_of_isPrefixOperator
    {name : Text}
    (isPrefix : isPrefixOperator name = true) :
    Style.operator.IsLexeme name := by
  simp only [isPrefixOperator, prefixOperators, List.any_cons, List.any_nil, Bool.or_false,
    beq_iff_eq] at isPrefix
  rw [← isPrefix]
  decide

end Layout

/-- A space stands before every expression. -/
theorem Node.IsExpression.isSpaced_bareText
    {node : Node}
    (layout : Layout)
    (expression : node.IsExpression) :
    (layout.bareText node).IsSpaced := by
  induction expression with
  | literal writable => exact layout.isSpaced_literalText _
  | reference writable => exact layout.isSpaced_pathText _
  | prefixed isPrefix operand hypothesis =>
    rw [Layout.bareText, if_pos isPrefix]
    exact (Text.isSpaced_space _).append _
  | filter named operand hypothesis =>
    rw [Layout.bareText, Layout.isPrefixOperator_of_isName named]
    exact (Layout.isSpaced_enclose hypothesis).append _
  | binary member role symbol onLeft onRight hypothesis _ =>
    rw [Layout.bareText]
    exact (Layout.isSpaced_enclose hypothesis).append _

theorem Node.IsExpression.isSpaced_operandText
    {node : Node}
    (layout : Layout)
    (expression : node.IsExpression) :
    (layout.operandText node).IsSpaced :=
  Layout.isSpaced_enclose (expression.isSpaced_bareText layout)

/-- The symbols of the standard table are different. -/
theorem OperatorTable.find?_of_mem_standard
    {operator : Operator}
    (member : operator ∈ OperatorTable.standard) :
    OperatorTable.standard.find? operator.symbol = some operator := by
  have checked : (OperatorTable.standard.all fun operator =>
      decide (OperatorTable.standard.find? operator.symbol = some operator)) = true := by
    decide
  simpa using List.all_eq_true.1 checked operator member

namespace Region

variable
  {region : Region}
  {layout : Layout}
  {cursor finish : Cursor}

/-- An operator of the standard table is met where it is spelled. -/
theorem Meets.of_spells
    {operator : Operator}
    (apart : region.Apart)
    (standard : region.grammar.operators = .standard)
    (member : operator ∈ OperatorTable.standard)
    (spells : cursor.Spells (Text.space ++ operator.symbol) finish)
    (before : finish.IsBeforeSpace) :
    region.Meets cursor (Token.located (cursor.forward 1) .operator operator.symbol) operator
      finish := by
  have checked : (OperatorTable.standard.all fun operator =>
      decide (Style.operator.IsLexeme operator.symbol)) = true := by
    decide
  have whole : Style.operator.IsLexeme operator.symbol := by
    simpa using List.all_eq_true.1 checked operator member
  refine ⟨.of_spelled_operator apart spells Text.isBlank_space whole before, rfl, ?_⟩
  rw [standard]
  exact OperatorTable.find?_of_mem_standard member

/-- A prefix operator with its operand is read. -/
theorem RecoversBare.of_prefixed
    {position place : Position}
    {name : Identifier}
    {argument : Node}
    (apart : region.Apart)
    (isPrefix : isPrefixOperator name.name = true)
    (operand : region.RecoversOperand layout argument)
    (spaced : (layout.operandText argument).IsSpaced) :
    region.RecoversBare layout (.apply position (.function place name) argument) := by
  intro cursor finish spells before ends
  rw [Layout.bareText, if_pos isPrefix] at spells
  rw [Layout.bareLevels, if_pos isPrefix]
  obtain ⟨middle, near, far⟩ := spells.of_append
  have next := Continues.of_spelled_operator apart near Text.isBlank_space
    (Layout.isLexeme_of_isPrefixOperator isPrefix) (far.isBeforeSpace spaced)
  obtain ⟨tree, reads, same⟩ := operand far before ends.halts
  have prefixed := Reads.prefixed next (by simp [Token.located, isPrefix]) reads
  refine ⟨_, .expression prefixed .none (ends.stops 1), ?_⟩
  simp [Node.call, Node.same, Identifier.same, Token.located, same]

/-- A filter behind its operand is read. -/
theorem RecoversBare.of_filter
    {position place : Position}
    {name : Identifier}
    {argument : Node}
    (apart : region.Apart)
    (standard : region.grammar.operators = .standard)
    (named : name.name.IsName)
    (operand : region.RecoversOperand layout argument) :
    region.RecoversBare layout (.apply position (.function place name) argument) := by
  intro cursor finish spells before ends
  have noPrefix := Layout.isPrefixOperator_of_isName named
  simp only [Layout.bareText, noPrefix, Bool.false_eq_true, if_false] at spells
  simp only [Layout.bareLevels, noPrefix, Bool.false_eq_true, if_false]
  obtain ⟨middle, near, far⟩ := spells.of_append
  obtain ⟨behind, barred, word⟩ := far.of_append
  have meets : region.Meets middle (Token.located (middle.forward 1) .operator bar.symbol) bar
      behind :=
    .of_spells apart standard (by decide) barred (word.isBeforeSpace (Text.isSpaced_space _))
  have next := Continues.of_spelled_word apart word Text.isBlank_space named.1
    before.isWordRest_eq_false
  have isFilter : region.filterName bar (Token.located (middle.forward 1) .operator bar.symbol) 1
      behind = .ok (name.name, finish) := by
    refine filterName_eq_ok.2 ⟨_, next, rfl, named.2, rfl, ?_⟩
    rcases ends with done | ⟨token, after, closing, isClosing⟩
    · exact .inl done
    · refine .inr ⟨token, after, closing, ?_, ?_, ?_⟩ <;> simp [isClosing, bindsTighter]
  have follows : region.Halts middle := .inr ⟨_, _, meets.1, by simp⟩
  have spaced : middle.IsBeforeSpace := barred.isBeforeSpace (Text.isSpaced_space _)
  obtain ⟨tree, reads, same⟩ := operand near spaced follows
  refine ⟨_, .expression reads (.filter meets (by decide) rfl isFilter .none) (ends.stops 1), ?_⟩
  simp [Node.call, Node.same, Identifier.same, same]

/-- A binary operator between its operands is read. -/
theorem RecoversBare.of_binary
    {position inner place : Position}
    {name : Identifier}
    {operator : Operator}
    {left right : Node}
    (apart : region.Apart)
    (standard : region.grammar.operators = .standard)
    (member : operator ∈ OperatorTable.standard)
    (role : operator.role = .binary)
    (symbol : name.name = operator.symbol)
    (onLeft : region.RecoversOperand layout left)
    (onRight : region.RecoversOperand layout right)
    (spaced : (layout.operandText right).IsSpaced) :
    region.RecoversBare layout
      (.apply position (.apply inner (.function place name) left) right) := by
  intro cursor finish spells before ends
  rw [Layout.bareText, symbol] at spells
  rw [Layout.bareLevels]
  obtain ⟨middle, near, far⟩ := spells.of_append
  obtain ⟨behind, marked, rest⟩ := far.of_append
  have meets := Meets.of_spells apart standard member marked (rest.isBeforeSpace spaced)
  have follows : region.Halts middle := .inr ⟨_, _, meets.1, by simp⟩
  have operand := onLeft near (marked.isBeforeSpace (Text.isSpaced_space _)) follows
  obtain ⟨leftTree, leftReads, leftSame⟩ := operand.mono (Nat.le_max_left _ _)
  have argument := (onRight rest before ends.halts).expression (ends.stops operator.rightPrecedence)
  obtain ⟨rightTree, rightReads, rightSame⟩ := argument.mono (Nat.le_max_right _ _)
  have strong : 1 ≤ operator.precedence := by
    have tighter := bar_precedence_lt member role
    have weak : bar.precedence = 1 := rfl
    omega
  refine ⟨_, .expression leftReads (.binary meets strong role rightReads .none) (ends.stops 1), ?_⟩
  simp [Node.binary, Node.call, Node.same, Identifier.same, symbol, leftSame, rightSame]

end Region

open Region in
/-- Expressions are read back, with and without parentheses around them. -/
theorem Node.IsExpression.recovers
    {node : Node}
    {region : Region}
    (expression : node.IsExpression)
    (layout : Layout)
    (apart : region.Apart)
    (standard : region.grammar.operators = .standard) :
    region.RecoversBare layout node ∧ region.RecoversOperand layout node := by
  -- Operands are read first, and applications without their parentheses.
  induction expression with
  | @literal position literal writable =>
    have operand : region.RecoversOperand layout (.literal position literal) :=
      fun _ _ spells before _ => .of_literalText apart writable spells before
    exact ⟨operand.bare rfl, operand⟩
  | @reference path writable =>
    have operand : region.RecoversOperand layout (.reference path) :=
      fun _ _ spells before halts => .of_pathText apart writable spells before halts
    exact ⟨operand.bare rfl, operand⟩
  | prefixed isPrefix operand hypothesis =>
    suffices bare : region.RecoversBare layout _ from ⟨bare, bare.operand apart rfl⟩
    exact .of_prefixed apart isPrefix hypothesis.2 (operand.isSpaced_operandText layout)
  | filter named operand hypothesis =>
    suffices bare : region.RecoversBare layout _ from ⟨bare, bare.operand apart rfl⟩
    exact .of_filter apart standard named hypothesis.2
  | binary member role symbol onLeft onRight leftHypothesis rightHypothesis =>
    suffices bare : region.RecoversBare layout _ from ⟨bare, bare.operand apart rfl⟩
    exact .of_binary apart standard member role symbol leftHypothesis.2 rightHypothesis.2
      (onRight.isSpaced_operandText layout)

/-- An expression that is no operand is read back up to the end of its region. -/
theorem Node.IsExpression.recovers_expressionText
    {node : Node}
    {region : Region}
    {layout : Layout}
    {cursor finish : Cursor}
    (expression : node.IsExpression)
    (apart : region.Apart)
    (standard : region.grammar.operators = .standard)
    (spells : cursor.Spells (layout.expressionText node) finish)
    (before : finish.IsBeforeSpace)
    (done : region.isDone finish = true) :
    region.Recovers (.expression 1) (layout.expressionLevels node) cursor node finish := by
  obtain ⟨bare, operand⟩ := expression.recovers layout apart standard
  unfold Layout.expressionText at spells
  unfold Layout.expressionLevels
  split at spells
  · rename_i enclosed
    rw [if_pos enclosed]
    exact (operand spells before (.inl done)).expression (.inl done)
  · rename_i open'
    rw [if_neg open']
    exact bare spells before (.inl done)

theorem Node.IsExpression.isSpaced_expressionText
    {node : Node}
    (layout : Layout)
    (expression : node.IsExpression) :
    (layout.expressionText node).IsSpaced := by
  unfold Layout.expressionText
  split
  · exact expression.isSpaced_operandText layout
  · exact expression.isSpaced_bareText layout

/-! ## Patterns -/

theorem Layout.isSpaced_patternText (layout : Layout) (pattern : Pattern) :
    (layout.patternText pattern).IsSpaced := by
  cases pattern with
  | wildcard => exact Text.isSpaced_space _
  | path path => exact layout.isSpaced_pathText path
  | literal literal => exact layout.isSpaced_literalText literal
  | bare literal => exact layout.isSpaced_literalText literal

/-- A pattern is read back up to the end of its region. -/
theorem Region.Matches.of_patternText
    {pattern : Pattern}
    {region : Region}
    {layout : Layout}
    {cursor finish : Cursor}
    (apart : region.Apart)
    (writable : pattern.IsWritable)
    (spells : cursor.Spells (layout.patternText pattern) finish)
    (before : finish.IsBeforeSpace)
    (done : region.isDone finish = true) :
    ∃ tree, region.Matches cursor tree finish ∧ tree.same pattern = true := by
  cases writable with
  | wildcard =>
    have next := Continues.of_spelled_word apart spells Text.isBlank_space (by decide)
      before.isWordRest_eq_false
    exact ⟨.wildcard, .wildcard next rfl, rfl⟩
  | path writable =>
    obtain ⟨tree, isPath, same, token, behind, next, isName, free⟩ :=
      Path.of_pathText apart writable spells before (.inl done)
    have noWildcard : token.isWord (Text.of "_") = false := by
      rw [Token.isWord, Bool.and_eq_false_iff, beq_eq_false_iff_ne]
      refine .inr fun isWildcard => ?_
      rw [isWildcard] at free
      exact absurd free (by decide)
    exact ⟨.path tree, .path next noWildcard isName (literal?_of_name next isName free) isPath,
      same⟩
  | @literal literal writable =>
    obtain ⟨token, next, found, _, _, noWildcard⟩ :=
      literal?_of_literalText apart writable spells before
    refine ⟨.literal literal, .literal next noWildcard found, ?_⟩
    cases literal <;> simp [Pattern.same, Literal.same]

end Stencil
