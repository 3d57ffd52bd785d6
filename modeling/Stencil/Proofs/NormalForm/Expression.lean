import Stencil.Proofs.Concatenation.Parts
import Stencil.Proofs.Printer
import Stencil.Proofs.Scanning

/-!
# Normal forms

What the trees of templates have in common.  Sequences are flat and have no part
that stands alone, texts are not empty and not next to each other, names are words
that are not reserved, and functions only stand where they are applied: operators
between two operands to two arguments, everything else to one.  Values, scrutinees
and contexts are expressions.

Here are the definitions and the expressions; documents are put together from them
in a module of its own.
-/

namespace Stencil

/-- A symbol stands between two operands. -/
def OperatorTable.HasBinary (table : OperatorTable) (symbol : Text) : Prop :=
  ∃ operator, table.find? symbol = some operator ∧ operator.role = .binary

/-- The symbols of a table are operator lexemes, and none of them stands before an
operand. -/
def OperatorTable.IsLexical (table : OperatorTable) : Prop :=
  ∀ operator ∈ table,
    Style.operator.IsLexeme operator.symbol ∧ operator.symbol ≠ Text.of "!"

instance (table : OperatorTable) : Decidable table.IsLexical :=
  inferInstanceAs (Decidable (∀ operator ∈ table, _ ∧ _))

/-- All names of a path are words that are not reserved. -/
def Variable.IsNamed (path : Variable) : Prop :=
  ∀ name ∈ path.names, name.name.IsName

/-- A pattern is marked as such, and its names are words that are not reserved. -/
def Pattern.IsNormal : Pattern → Prop
  | .wildcard => True
  | .path names => names.IsNamed
  | .literal _ => True
  | .bare _ => False

namespace Node

/-- A tree is a literal, a variable or an application to such trees. -/
inductive IsPure (table : OperatorTable) : Node → Prop
  | literal
      {position : Position}
      {value : Literal} :
      IsPure table (.literal position value)
  | reference
      {path : Reference}
      (named : path.toVariable.IsNamed) :
      IsPure table (.reference path)
  /-- A prefix operator or a filter has one argument. -/
  | call
      {position place : Position}
      {name : Identifier}
      {argument : Node}
      (known : name.name = Text.of "!" ∨ name.name.IsName)
      (notBinary : ¬ table.HasBinary name.name)
      (given : IsPure table argument) :
      IsPure table (.apply position (.function place name) argument)
  /-- An operator between operands has two arguments. -/
  | binary
      {outer inner place : Position}
      {name : Identifier}
      {left right : Node}
      (known : table.HasBinary name.name)
      (first : IsPure table left)
      (second : IsPure table right) :
      IsPure table (.apply outer (.apply inner (.function place name) left) right)

/-- A tree has the form that all trees of templates have. -/
inductive IsNormal (table : OperatorTable) : Node → Prop
  | text
      {position : Position}
      {content : Text}
      (notEmpty : content ≠ []) :
      IsNormal table (.text position content)
  | expression
      {node : Node}
      (isPure : node.IsPure table) :
      IsNormal table node
  | selection
      {position : Position}
      {scrutinee : Node}
      {alternatives : List (Pattern × Node)}
      (compared : scrutinee.IsPure table)
      (patterns : ∀ alternative ∈ alternatives, alternative.1.IsNormal)
      (bodies : ∀ alternative ∈ alternatives, IsNormal table alternative.2) :
      IsNormal table (.selection position scrutinee alternatives)
  | loop
      {position : Position}
      {item : Identifier}
      {source : Reference}
      {body : Node}
      {otherwise : Option Node}
      (named : item.name.IsName)
      (iterated : source.toVariable.IsNamed)
      (each : IsNormal table body)
      (none : ∀ other ∈ otherwise, IsNormal table other) :
      IsNormal table (.loop position item source body otherwise)
  | binding
      {position : Position}
      {name : Identifier}
      {value body : Node}
      (named : name.name.IsName)
      (bound : value.IsPure table)
      (scope : IsNormal table body) :
      IsNormal table (.binding position name value body)
  | inclusion
      {position : Position}
      {key : Text}
      {context : Option Node}
      (given : ∀ value ∈ context, value.IsPure table) :
      IsNormal table (.inclusion position key context)
  | sequence
      {position : Position}
      {parts : List Node}
      (several : parts.length ≠ 1)
      (flat : ∀ part ∈ parts, part.isSequence = false)
      (separate : textsApart parts = true)
      (each : ∀ part ∈ parts, IsNormal table part) :
      IsNormal table (.sequence position parts)

/-- An expression is a part of its own. -/
theorem IsPure.isSingle
    {table : OperatorTable}
    {node : Node}
    (isPure : node.IsPure table) :
    node.IsSingle := by
  cases isPure <;> exact ⟨rfl, rfl⟩

end Node

/-! ## Names -/

/-- There is one operator that stands before its operand. -/
theorem isPrefixOperator_iff {symbol : Text} :
    isPrefixOperator symbol = true ↔ symbol = Text.of "!" := by
  simp only [isPrefixOperator, prefixOperators, List.any_cons, List.any_nil, Bool.or_false,
    beq_iff_eq]
  exact eq_comm

namespace OperatorTable

/-- No operator of a lexical table is a word. -/
theorem IsLexical.not_hasBinary_of_isName
    {table : OperatorTable}
    {name : Text}
    (lexical : table.IsLexical)
    (named : name.IsName) :
    ¬ table.HasBinary name := by
  rintro ⟨operator, found, _⟩
  have sameSymbol : operator.symbol = name := by
    simpa using List.find?_some found
  obtain ⟨point, rest, rfl, wordStart⟩ := named.1.exists_start
  obtain ⟨isLexeme, _⟩ := lexical operator (List.mem_of_find?_eq_some found)
  obtain ⟨first, others, symbol, operatorStart⟩ := isLexeme.exists_start
  rw [sameSymbol, List.cons.injEq] at symbol
  rw [← symbol.1] at operatorStart
  have noWord := (Token.not_word_of_isOperatorStart operatorStart).2.2.1
  rw [show point.isWordStart = true from wordStart] at noWord
  cases noWord

/-- No operator of a lexical table stands before its operand. -/
theorem IsLexical.not_hasBinary_of_isPrefixOperator
    {table : OperatorTable}
    {symbol : Text}
    (lexical : table.IsLexical)
    (before : isPrefixOperator symbol = true) :
    ¬ table.HasBinary symbol := by
  rintro ⟨operator, found, _⟩
  have sameSymbol : operator.symbol = symbol := by
    simpa using List.find?_some found
  have other := (lexical operator (List.mem_of_find?_eq_some found)).2
  exact other (sameSymbol.trans (isPrefixOperator_iff.1 before))

end OperatorTable

namespace Region

open Reading

variable {region : Region}

/-- A word that is not reserved is a name. -/
theorem Continues.isName
    {cursor behind : Cursor}
    {token : Token}
    (next : region.Continues cursor token behind)
    (isWord : token.kind = .identifier)
    (free : Style.identifier.isReserved token.value = false) :
    token.value.IsName :=
  ⟨Token.isLexeme_of_lexeme? ((token_eq_ok_iff_scans.1 next.2).word_of_kind isWord).1, free⟩

theorem identifier_isName
    {calls : Nat}
    {cursor finish : Cursor}
    {name : Identifier}
    (success : region.identifier (calls + 1) cursor = .ok (name, finish)) :
    name.name.IsName := by
  obtain ⟨token, next, isWord, free, rfl⟩ := identifier_eq_ok.1 success
  exact next.isName isWord free

theorem filterName_isName
    {operator : Operator}
    {symbol : Token}
    {calls : Nat}
    {cursor finish : Cursor}
    {name : Text}
    (success : region.filterName operator symbol (calls + 1) cursor = .ok (name, finish)) :
    name.IsName := by
  obtain ⟨token, next, isWord, free, rfl, _⟩ := filterName_eq_ok.1 success
  exact next.isName isWord free

theorem Names.isNamed
    {cursor finish : Cursor}
    {others : List Identifier}
    (names : region.Names cursor others finish) :
    ∀ name ∈ others, name.name.IsName := by
  induction names with
  | closed => simp
  | other => simp
  | dot next isDot name rest hypothesis =>
    exact List.forall_mem_cons.2 ⟨identifier_isName name, hypothesis⟩

theorem Path.isNamed
    {cursor finish : Cursor}
    {path : Variable}
    (found : region.Path cursor path finish) :
    path.IsNamed := by
  obtain ⟨middle, first, others⟩ := found
  exact List.forall_mem_cons.2 ⟨identifier_isName first, others.isNamed⟩

theorem Matches.isNormal
    {cursor finish : Cursor}
    {pattern : Pattern}
    (matched : region.Matches cursor pattern finish) :
    pattern.IsNormal := by
  cases matched with
  | wildcard => trivial
  | literal => trivial
  | path next noWildcard isName noLiteral found => exact found.isNamed

/-! ## Expressions -/

/-- An operator that is met and takes an operand on its right is one between
operands, under its own symbol. -/
theorem Meets.hasBinary
    {cursor behind : Cursor}
    {token : Token}
    {operator : Operator}
    (meets : region.Meets cursor token operator behind)
    (role : operator.role = .binary) :
    region.grammar.operators.HasBinary operator.symbol := by
  obtain ⟨_, _, found⟩ := meets
  have sameSymbol : operator.symbol = token.value := by
    simpa using List.find?_some found
  exact ⟨operator, sameSymbol ▸ found, role⟩

/-- What is read as an expression is one. -/
theorem Reads.isPure
    {goal : Goal}
    {levels : Nat}
    {cursor finish : Cursor}
    {node : Node}
    (lexical : region.grammar.operators.IsLexical)
    (reads : region.Reads goal levels cursor node finish)
    (given : ∀ left ∈ goal.given, left.IsPure region.grammar.operators) :
    node.IsPure region.grammar.operators := by
  induction reads with
  | expression first rest stops firstHypothesis restHypothesis =>
    have left := firstHypothesis (by simp [Goal.given])
    exact restHypothesis (by simpa [Goal.given] using left)
  | none => exact given _ rfl
  | filter meets strong role named rest hypothesis =>
    have isName := filterName_isName named
    apply hypothesis
    rintro left ⟨⟩
    exact .call (.inr isName) (lexical.not_hasBinary_of_isName isName) (given _ rfl)
  | binary meets strong role operand rest operandHypothesis restHypothesis =>
    have right := operandHypothesis (by simp [Goal.given])
    apply restHypothesis
    rintro left ⟨⟩
    exact .binary (meets.hasBinary role) (given _ rfl) right
  | operand next bare rest hypothesis => exact hypothesis (by simp [Goal.given])
  | prefixed next before rest hypothesis =>
    rw [Bool.and_eq_true] at before
    exact .call (.inl (isPrefixOperator_iff.1 before.2))
      (lexical.not_hasBinary_of_isPrefixOperator before.2) (hypothesis (by simp [Goal.given]))
  | parenthesised next opening inner closing hypothesis => exact hypothesis (by simp [Goal.given])
  | literal next noOpening found => exact .literal
  | reference next isName noLiteral found => exact .reference found.isNamed

end Region

end Stencil
