import Stencil.Proofs.Filter
import Stencil.Proofs.Inclusion
import Stencil.Proofs.Place

/-!
# Where the nodes of a template stand

Every position in the tree of a template is a place of its source, and the text
at that place is what the node was made from: a name, the first character of a
literal or of its sign, an operator, the opening delimiter of a tag, or the
first character of a text.  Only the empty body that stands for a missing other
case has a position that is no place.
-/

namespace Stencil

open Template (Origin)

namespace Template.Origin

/-- The first character of a text that is not empty stands at a position. -/
def ShowsText (origin : Origin) (position : Position) (content : Text) : Prop :=
  origin.Shows position fun _ rest => content ≠ [] ∧ content.head? = rest.head?

/-- A word stands at a position. -/
def ShowsWord (origin : Origin) (position : Position) (word : Text) : Prop :=
  origin.Shows position fun _ rest => Style.identifier.lexeme? rest = some word

/-- An operator stands at a position. -/
def ShowsOperator (origin : Origin) (position : Position) (symbol : Text) : Prop :=
  origin.Shows position fun _ rest => Style.operator.lexeme? rest = some symbol

end Template.Origin

/-- A name stands where its position says. -/
def Identifier.Located (origin : Origin) (name : Identifier) : Prop :=
  origin.ShowsWord name.position name.name

/-- The names of a path stand where their positions say. -/
def Variable.Located (origin : Origin) (path : Variable) : Prop :=
  ∀ name ∈ path.names, name.Located origin

/-- A reference stands where its first name stands, and all names of it stand where
their positions say. -/
structure Reference.Located (origin : Origin) (path : Reference) : Prop where
  /-- Its position is the one of its first name. -/
  position_eq : path.position = path.toVariable.position
  /-- The names stand where their positions say. -/
  names : path.toVariable.Located origin

/-- A text begins with a numeral of a value. -/
def Numeral.Begins (rest : Text) (value : Decimal) : Prop :=
  (∃ point ∈ rest.head?, CodePoint.isDigit point = true) ∧
    Numeral.value? (Numeral.lexeme rest) = some value

/-- A text begins with what denotes a literal, with its sign if it has one. -/
inductive Literal.ShownBy : Literal → Text → Prop
  | boolean
      {flag : Bool}
      {rest : Text}
      (word : Style.identifier.lexeme? rest = some (Region.truthWord flag)) :
      ShownBy (.boolean flag) rest
  | text
      {content rest : Text}
      {count : Nat}
      (read : StringLiteral.read rest = .ok (content, count)) :
      ShownBy (.text content) (CodePoint.ofChar '"' :: rest)
  | number
      {value : Decimal}
      {rest : Text}
      (begins : Numeral.Begins rest value) :
      ShownBy (.number value) rest
  | positive
      {value : Decimal}
      {rest : Text}
      (begins : Numeral.Begins rest value) :
      ShownBy (.number value) (CodePoint.ofChar '+' :: rest)
  | negative
      {value negated : Decimal}
      {rest : Text}
      (begins : Numeral.Begins rest value)
      (negates : value.negate? .working = some negated) :
      ShownBy (.number negated) (CodePoint.ofChar '-' :: rest)

/-- The variables of a pattern stand where their positions say; a literal has no
position there. -/
def Pattern.Located (origin : Origin) : Pattern → Prop
  | .wildcard => True
  | .path names => names.Located origin
  | .literal _ => True
  | .bare _ => False

/-- A text begins with an operator that calls a function: the operator is the name
of the function, or it is a filter and the name stands behind it. -/
def OperatorTable.Calls (table : OperatorTable) (name rest : Text) : Prop :=
  ∃ symbol, Style.operator.lexeme? rest = some symbol ∧
    (symbol = name ∨
      ∃ operator, table.find? symbol = some operator ∧ operator.role = .filter ∧
        Style.identifier.lexeme? (Text.trimStart (rest.drop symbol.length)) = some name)

namespace Node

/-- The function that is applied to one or more arguments. -/
def applied? : Node → Option Identifier
  | .function _ name => some name
  | .apply _ callee _ => applied? callee
  | _ => none

mutual

/-- The nodes of a tree stand where their positions say. -/
def Located (origin : Origin) : Node → Prop
  | .text position content => origin.ShowsText position content
  | .literal position value => origin.Shows position fun _ rest => value.ShownBy rest
  | .reference path => path.Located origin
  | .function position name =>
    name.position = position ∧
      origin.Shows position fun _ rest => origin.options.operators.Calls name.name rest
  | .apply position callee argument =>
    (∃ name, callee.applied? = some name ∧ name.position = position) ∧
      Located origin callee ∧ Located origin argument
  | .selection position scrutinee alternatives =>
    position = scrutinee.position ∧ Located origin scrutinee ∧
      AlternativesLocated origin alternatives
  | .loop position item source body otherwise =>
    origin.ShowsOpening position .block ∧ item.Located origin ∧ source.Located origin ∧
      Located origin body ∧ OptionalLocated origin otherwise
  | .binding position name value body =>
    origin.ShowsOpening position .block ∧ name.Located origin ∧ Located origin value ∧
      Located origin body
  | .inclusion position _ context =>
    origin.ShowsOpening position .block ∧ OptionalLocated origin context
  | .sequence position parts => origin.Places position ∧ PartsLocated origin parts
  | .bare _ => False

/-- The nodes of an optional tree stand where their positions say. -/
def OptionalLocated (origin : Origin) : Option Node → Prop
  | none => True
  | some node => Located origin node

/-- The nodes of neighbouring parts stand where their positions say. -/
def PartsLocated (origin : Origin) : List Node → Prop
  | [] => True
  | part :: rest => Located origin part ∧ PartsLocated origin rest

/-- The nodes of alternatives stand where their positions say, except the empty
body for a condition that is false, which has no place. -/
def AlternativesLocated (origin : Origin) : List (Pattern × Node) → Prop
  | [] => True
  | (pattern, body) :: rest =>
    pattern.Located origin ∧
      (Located origin body ∨ pattern = truth false ∧ body = nothing) ∧
      AlternativesLocated origin rest

end

@[simp] theorem partsLocated_iff {origin : Origin} {parts : List Node} :
    PartsLocated origin parts ↔ ∀ part ∈ parts, part.Located origin := by
  induction parts with
  | nil => simp [PartsLocated]
  | cons part rest hypothesis => simp [PartsLocated, hypothesis]

@[simp] theorem optionalLocated_iff {origin : Origin} {node : Option Node} :
    OptionalLocated origin node ↔ ∀ part ∈ node, part.Located origin := by
  cases node <;> simp [OptionalLocated]

@[simp] theorem alternativesLocated_iff
    {origin : Origin}
    {alternatives : List (Pattern × Node)} :
    AlternativesLocated origin alternatives ↔
      ∀ alternative ∈ alternatives, alternative.1.Located origin ∧
        (alternative.2.Located origin ∨
          alternative.1 = truth false ∧ alternative.2 = nothing) := by
  induction alternatives with
  | nil => simp [AlternativesLocated]
  | cons alternative rest hypothesis =>
    obtain ⟨pattern, body⟩ := alternative
    simp [AlternativesLocated, hypothesis, and_assoc]

/-- A call stands where its operator stands. -/
theorem Located.call
    {origin : Origin}
    {position : Position}
    {name : Text}
    {argument : Node}
    (shown : origin.Shows position fun _ rest => origin.options.operators.Calls name rest)
    (located : argument.Located origin) :
    (call position name argument).Located origin := by
  simp only [Node.call, Located]
  exact ⟨⟨_, rfl, rfl⟩, ⟨trivial, shown⟩, located⟩

theorem Located.binary
    {origin : Origin}
    {position : Position}
    {symbol : Text}
    {left right : Node}
    (shown : origin.Shows position fun _ rest => origin.options.operators.Calls symbol rest)
    (leftLocated : left.Located origin)
    (rightLocated : right.Located origin) :
    (binary position symbol left right).Located origin := by
  simp only [Node.binary, Located]
  exact ⟨⟨_, rfl, rfl⟩, .call shown leftLocated, rightLocated⟩

end Node

/-! ## Tokens -/

namespace Template.Origin

theorem Has.skipBlanks
    {origin : Origin}
    {cursor : Cursor}
    (stands : origin.Has cursor) :
    origin.Has cursor.skipBlanks :=
  stands.reaches (Cursor.reaches_skipBlanks cursor)

/-- A token shows what it was scanned from. -/
theorem Has.shows_token
    {origin : Origin}
    {cursor behind : Cursor}
    {token : Token}
    {property : Text → Prop}
    (stands : origin.Has cursor)
    (scanned : Reading.token cursor = .ok (token, behind))
    (holds : property cursor.skipBlanks.rest) :
    origin.Shows token.position fun _ rest => property rest := by
  rw [(Reading.token_eq_ok_iff_scans.1 scanned).position_eq]
  exact stands.skipBlanks.shows holds

theorem Has.showsWord
    {origin : Origin}
    {cursor behind : Cursor}
    {token : Token}
    (stands : origin.Has cursor)
    (scanned : Reading.token cursor = .ok (token, behind))
    (isName : token.kind = .identifier) :
    origin.ShowsWord token.position token.value :=
  stands.shows_token scanned ((Reading.token_eq_ok_iff_scans.1 scanned).word_of_kind isName).1

theorem Has.showsOperator
    {origin : Origin}
    {cursor behind : Cursor}
    {token : Token}
    (stands : origin.Has cursor)
    (scanned : Reading.token cursor = .ok (token, behind))
    (isOperator : token.kind = .operator) :
    origin.ShowsOperator token.position token.value :=
  stands.shows_token scanned
    ((Reading.token_eq_ok_iff_scans.1 scanned).operator_of_kind isOperator).1

theorem Has.showsText
    {origin : Origin}
    {cursor : Cursor}
    {content : Text}
    (stands : origin.Has cursor)
    (notEmpty : content ≠ [])
    (begins : content.head? = cursor.rest.head?) :
    origin.ShowsText cursor.position content :=
  stands.shows ⟨notEmpty, begins⟩

theorem Has.behind
    {origin : Origin}
    {cursor behind : Cursor}
    {token : Token}
    (stands : origin.Has cursor)
    (scanned : Reading.token cursor = .ok (token, behind)) :
    origin.Has behind :=
  stands.skipBlanks.reaches (Reading.token_eq_ok_iff_scans.1 scanned).reaches

end Template.Origin

namespace Region

open Reading

variable {origin : Origin} {region : Region}

theorem identifier_located
    {calls : Nat}
    {cursor finish : Cursor}
    {name : Identifier}
    (stands : origin.Has cursor)
    (success : region.identifier (calls + 1) cursor = .ok (name, finish)) :
    name.Located origin ∧ origin.Has finish := by
  obtain ⟨token, next, isName, _, rfl⟩ := identifier_eq_ok.1 success
  exact ⟨stands.showsWord next.2 isName, stands.behind next.2⟩

theorem Names.located
    {cursor finish : Cursor}
    {others : List Identifier}
    (names : region.Names cursor others finish)
    (stands : origin.Has cursor) :
    ∀ name ∈ others, name.Located origin := by
  induction names with
  | closed => simp
  | other => simp
  | dot next isDot name rest hypothesis =>
    obtain ⟨located, behind⟩ := identifier_located (stands.behind next.2) name
    exact List.forall_mem_cons.2 ⟨located, hypothesis behind⟩

theorem Path.located
    {cursor finish : Cursor}
    {path : Variable}
    (found : region.Path cursor path finish)
    (stands : origin.Has cursor) :
    path.Located origin := by
  obtain ⟨middle, first, others⟩ := found
  obtain ⟨located, behind⟩ := identifier_located stands first
  exact List.forall_mem_cons.2 ⟨located, others.located behind⟩

/-! ## Literals -/

theorem number_eq_ok
    {numeral : Text}
    {value : Decimal} :
    number numeral = .ok value ↔ Numeral.value? numeral = some value := by
  unfold number
  cases Numeral.value? numeral <;> simp

theorem negative_eq_ok
    {numeral : Text}
    {negated : Decimal} :
    negative numeral = .ok negated ↔
      ∃ value, Numeral.value? numeral = some value ∧ value.negate? .working = some negated := by
  simp only [negative, bind_eq_ok, number_eq_ok]
  refine exists_congr fun value => and_congr_right fun _ => ?_
  cases value.negate? .working <;> simp

theorem exists_of_isBeforeDigit
    {cursor : Cursor}
    (before : isBeforeDigit cursor = true) :
    ∃ digit rest, cursor.rest = digit :: rest ∧ digit.isDigit = true := by
  unfold isBeforeDigit at before
  split at before
  · simp at before
  · exact ⟨_, _, by assumption, before⟩

/-- A numeral begins where its token is scanned. -/
theorem begins_of_token
    {cursor behind : Cursor}
    {numeral : Token}
    {value : Decimal}
    (scanned : token cursor = .ok (numeral, behind))
    (isNumber : numeral.kind = .number)
    (valued : Numeral.value? numeral.value = some value) :
    Numeral.Begins cursor.skipBlanks.rest value := by
  obtain ⟨⟨digit, rest, unread, isDigit⟩, lexeme⟩ :=
    (token_eq_ok_iff_scans.1 scanned).number_of_kind isNumber
  refine ⟨⟨digit, by rw [unread]; rfl, isDigit⟩, ?_⟩
  rw [← lexeme, valued]

/-- A numeral that touches a sign begins behind it. -/
theorem begins_of_sign
    {symbol : Text}
    {point : CodePoint}
    {cursor middle behind : Cursor}
    {sign numeral : Token}
    {value : Decimal}
    (one : symbol = [point])
    (signed : token cursor = .ok (sign, middle))
    (isSign : sign.isOperator symbol = true)
    (touches : isBeforeDigit middle = true)
    (scanned : token middle = .ok (numeral, behind))
    (valued : Numeral.value? numeral.value = some value) :
    ∃ rest, cursor.skipBlanks.rest = point :: rest ∧ Numeral.Begins rest value := by
  obtain ⟨isOperator, sameSymbol⟩ : sign.kind = .operator ∧ sign.value = symbol := by
    simpa [Token.isOperator] using isSign
  obtain ⟨found, rfl⟩ := (token_eq_ok_iff_scans.1 signed).operator_of_kind isOperator
  obtain ⟨first, rest, unread, _, lexeme⟩ := Token.exists_of_lexeme? found
  rw [sameSymbol, one, List.cons.injEq] at lexeme
  have behindSign : (cursor.skipBlanks.forward sign.value.length).rest = rest := by
    rw [Cursor.rest_forward, sameSymbol, one, unread]
    rfl
  have noBlanks : (cursor.skipBlanks.forward sign.value.length).rest.trimStart = rest := by
    obtain ⟨digit, more, begins, isDigit⟩ := exists_of_isBeforeDigit touches
    rw [← behindSign, begins, Text.trimStart,
      List.dropWhile_cons_of_neg (by simp [CodePoint.isBlank_of_isDigit isDigit])]
  refine ⟨rest, by rw [unread, lexeme.1], ?_⟩
  have begins := begins_of_token scanned (kind_of_isBeforeDigit touches scanned) valued
  rwa [Cursor.rest_skipBlanks, noBlanks] at begins

/-- A literal is shown at its position. -/
theorem Written.shown
    {cursor finish : Cursor}
    {position : Position}
    {literal : Literal}
    (written : Written cursor position literal finish)
    (stands : origin.Has cursor) :
    origin.Shows position fun _ rest => literal.ShownBy rest := by
  cases written with
  | boolean scanned isTruth =>
    obtain ⟨isName, value⟩ : _ ∧ _ := by
      simpa [Token.isWord] using isTruth
    have found := ((token_eq_ok_iff_scans.1 scanned).word_of_kind isName).1
    exact stands.shows_token scanned (.boolean (value ▸ found))
  | number scanned isNumber valued =>
    have begins := begins_of_token scanned isNumber (number_eq_ok.1 valued)
    exact stands.shows_token scanned (.number begins)
  | text scanned isString =>
    obtain ⟨rest, count, unread, read⟩ := (token_eq_ok_iff_scans.1 scanned).string_of_kind isString
    exact stands.shows_token scanned (unread ▸ .text read)
  | negative signed isSign touches scanned valued =>
    obtain ⟨value, valued, negates⟩ := negative_eq_ok.1 valued
    obtain ⟨rest, unread, begins⟩ := begins_of_sign rfl signed isSign touches scanned valued
    exact stands.shows_token signed (unread ▸ .negative begins negates)
  | positive signed isSign touches scanned valued =>
    obtain ⟨rest, unread, begins⟩ :=
      begins_of_sign rfl signed isSign touches scanned (number_eq_ok.1 valued)
    exact stands.shows_token signed (unread ▸ .positive begins)

theorem Matches.located
    {cursor finish : Cursor}
    {pattern : Pattern}
    (matched : region.Matches cursor pattern finish)
    (stands : origin.Has cursor) :
    pattern.Located origin := by
  cases matched with
  | wildcard => trivial
  | literal => trivial
  | path next noWildcard isName noLiteral found => exact found.located stands

/-! ## Expressions -/

/-- An operator of the table is shown where it is met, and calls the function of
its own name. -/
theorem Meets.shows
    {cursor behind : Cursor}
    {token : Token}
    {operator : Operator}
    (meets : region.Meets cursor token operator behind)
    (stands : origin.Has cursor) :
    origin.Shows token.position fun _ rest =>
      origin.options.operators.Calls operator.symbol rest := by
  obtain ⟨next, isOperator, found⟩ := meets
  have shown := ((token_eq_ok_iff_scans.1 next.2).operator_of_kind isOperator).1
  have sameSymbol : operator.symbol = token.value := by
    simpa using List.find?_some found
  exact stands.shows_token next.2 ⟨token.value, shown, .inl sameSymbol.symm⟩

/-- A filter is shown where it is met, with its name behind it. -/
theorem Meets.shows_filter
    {cursor behind finish : Cursor}
    {token : Token}
    {operator : Operator}
    {name : Text}
    (sameTable : region.grammar.operators = origin.options.operators)
    (meets : region.Meets cursor token operator behind)
    (role : operator.role = .filter)
    (named : region.filterName operator token 1 behind = .ok (name, finish))
    (stands : origin.Has cursor) :
    origin.Shows token.position fun _ rest => origin.options.operators.Calls name rest := by
  obtain ⟨next, isOperator, found⟩ := meets
  obtain ⟨shown, rfl⟩ := (token_eq_ok_iff_scans.1 next.2).operator_of_kind isOperator
  obtain ⟨word, follows, isName, _, rfl, _⟩ := filterName_eq_ok.1 named
  have shownName := ((token_eq_ok_iff_scans.1 follows.2).word_of_kind isName).1
  rw [Cursor.rest_skipBlanks, Cursor.rest_forward] at shownName
  rw [sameTable] at found
  exact stands.shows_token next.2 ⟨token.value, shown, .inr ⟨operator, found, role, shownName⟩⟩

theorem Continues.shows_prefixOperator
    {cursor behind : Cursor}
    {token : Token}
    (next : region.Continues cursor token behind)
    (before : (token.kind = .operator && isPrefixOperator token.value) = true)
    (stands : origin.Has cursor) :
    origin.Shows token.position fun _ rest =>
      origin.options.operators.Calls token.value rest := by
  rw [Bool.and_eq_true, decide_eq_true_eq] at before
  have shown := ((token_eq_ok_iff_scans.1 next.2).operator_of_kind before.1).1
  exact stands.shows_token next.2 ⟨token.value, shown, .inl rfl⟩

/-- The nodes of an expression stand where their positions say. -/
theorem Reads.located
    {goal : Goal}
    {levels : Nat}
    {cursor finish : Cursor}
    {node : Node}
    (sameTable : region.grammar.operators = origin.options.operators)
    (reads : region.Reads goal levels cursor node finish)
    (stands : origin.Has cursor)
    (given : ∀ left ∈ goal.given, left.Located origin) :
    node.Located origin := by
  induction reads with
  | expression first rest stops firstHypothesis restHypothesis =>
    have leftLocated := firstHypothesis stands (by simp [Goal.given])
    have behind := stands.reaches first.progress.1
    exact restHypothesis behind (by simpa [Goal.given] using leftLocated)
  | none => exact given _ rfl
  | filter meets strong role named rest hypothesis =>
    have shown := meets.shows_filter sameTable role named stands
    have behind := stands.reaches (meets.passes.trans (filterName_passes named)).1
    have called := Node.Located.call shown (given _ rfl)
    exact hypothesis behind (by simpa [Goal.given] using called)
  | binary meets strong role operand rest operandHypothesis restHypothesis =>
    have behind := stands.reaches meets.passes.1
    have rightLocated := operandHypothesis behind (by simp [Goal.given])
    have applied := Node.Located.binary (meets.shows stands) (given _ rfl) rightLocated
    exact restHypothesis (behind.reaches operand.progress.1) (by simpa [Goal.given] using applied)
  | operand next bare rest hypothesis => exact hypothesis stands (by simp [Goal.given])
  | prefixed next before rest hypothesis =>
    have inner := hypothesis (stands.behind next.2) (by simp [Goal.given])
    exact .call (next.shows_prefixOperator before stands) inner
  | parenthesised next opening inner closing hypothesis =>
    exact hypothesis (stands.behind next.2) (by simp [Goal.given])
  | literal next noOpening found =>
    simp only [Node.Located]
    exact (Written.of_literal? found).shown stands
  | reference next isName noLiteral found =>
    simp only [Node.Located]
    exact ⟨rfl, found.located stands⟩

end Region

/-! ## Segments -/

namespace Document

variable {origin : Origin}

/-- What a tag holds stands where its positions say. -/
def Tag.Located (origin : Origin) : Tag → Prop
  | .condition test => test.node.Located origin
  | .further test => test.node.Located origin
  | .scrutinee subject => subject.node.Located origin
  | .alternative pattern => pattern.Located origin
  | .loop item source => item.Located origin ∧ source.Located origin
  | .binding name value => name.Located origin ∧ value.node.Located origin
  | .inclusion _ context => ∀ content ∈ context, content.node.Located origin
  | .marker _ => True

/-- What a segment holds stands where its positions say. -/
def Segment.Located (origin : Origin) : Segment → Prop
  | .text position run => origin.ShowsText position run
  | .insertion content => content.node.Located origin
  | .comment => True
  | .pragma => True
  | .tag opener held behind =>
    origin.ShowsOpening opener .block ∧ held.Located origin ∧ origin.Places behind

theorem Tag.Holds.located
    {region : Region}
    {tag : Tag}
    {cursor finish : Cursor}
    (sameTable : region.grammar.operators = origin.options.operators)
    (holds : tag.Holds region cursor finish)
    (stands : origin.Has cursor) :
    tag.Located origin := by
  cases holds with
  | condition reads => exact reads.located sameTable stands (by simp [Region.Goal.given])
  | further reads => exact reads.located sameTable stands (by simp [Region.Goal.given])
  | scrutinee reads => exact reads.located sameTable stands (by simp [Region.Goal.given])
  | alternative matched => exact matched.located stands
  | loop named joined iterated =>
    obtain ⟨located, behindName⟩ := Region.identifier_located stands named
    exact ⟨located, iterated.located (behindName.reaches (keyword_passes joined).1)⟩
  | binding named signed reads =>
    obtain ⟨located, behindName⟩ := Region.identifier_located stands named
    have behindSign := behindName.reaches (bindingSign_passes signed).1
    exact ⟨located, reads.located sameTable behindSign (by simp [Region.Goal.given])⟩
  | inclusion keyed alone => simp [Tag.Located]
  | inclusionWith keyed joined reads =>
    have behind := (stands.reaches (inclusionKey_passes keyed).1).reaches
      (withContext_reaches joined)
    have located := reads.located sameTable behind (by simp [Region.Goal.given])
    simpa [Tag.Located] using located
  | marker => trivial

/-- A text that is not empty begins as the text that it was cut from. -/
theorem head?_beforeAny
    {literals : List Text}
    {text : Text}
    (notEmpty : text.beforeAny literals ≠ []) :
    (text.beforeAny literals).head? = text.head? := by
  cases text with
  | nil => rfl
  | cons point rest =>
    rw [Text.beforeAny] at notEmpty ⊢
    split
    · rename_i found
      exact absurd (if_pos found) notEmpty
    · rfl

/-- What a segment holds stands where its positions say. -/
theorem Step.located
    {state after : State}
    {segment : Segment}
    (attained : origin.Attains state)
    (step : Step origin.grammar state segment after) :
    segment.Located origin := by
  have sameTable : origin.grammar.operators = origin.options.operators := rfl
  have stands := attained.has
  cases step with
  | text unread noRegion =>
    have notEmpty := State.textRun_ne_nil unread noRegion
    exact stands.showsText notEmpty (head?_beforeAny notEmpty)
  | insertion opens reads closes =>
    have behind := stands.reaches
      (Cursor.reaches_forward state.delimiters.inline.opening.length state.cursor)
    exact reads.located sameTable behind (by simp [Region.Goal.given])
  | comment => trivial
  | pragma => trivial
  | tag opens entered holds closes =>
    have entering := stands.reaches (passes_of_openTag entered).1
    have behind := (entering.reaches holds.reaches).reaches
      (Region.close_passes (Pair.closing_ne_nil _) closes).1
    obtain ⟨rfl, _⟩ := openTag_eq_ok.1 entered
    exact ⟨attained.showsOpening opens, holds.located sameTable entering, behind.places⟩

theorem Steps.located
    {state after : State}
    {segments : List Segment}
    (attained : origin.Attains state)
    (steps : Steps origin.grammar state segments after) :
    ∀ segment ∈ segments, segment.Located origin := by
  induction steps with
  | nil => simp
  | cons step _ hypothesis =>
    exact List.forall_mem_cons.2
      ⟨step.located attained, hypothesis (attained.steps (.single step))⟩

/-! ## Derived trees -/

/-- What a piece adds to a document stands where its positions say. -/
def Piece.Located (origin : Origin) : Piece → Prop
  | .text position run => origin.ShowsText position run
  | .part node => node.Located origin

theorem located_appendText
    {position : Position}
    {run : Text}
    {parts : List Node}
    (shown : origin.ShowsText position run)
    (located : ∀ part ∈ parts, part.Located origin) :
    ∀ part ∈ appendText position run parts, part.Located origin := by
  unfold appendText
  split
  · rename_i start content rest
    rw [List.forall_mem_cons] at located ⊢
    refine ⟨?_, located.2⟩
    simp only [Node.Located] at located ⊢
    obtain ⟨index, within, place, notEmpty, begins⟩ := located.1
    refine ⟨index, within, place, by simp [notEmpty], ?_⟩
    rw [← begins, List.head?_append, Option.or_of_isSome (by simpa using notEmpty)]
  · refine List.forall_mem_cons.2 ⟨?_, located⟩
    simpa only [Node.Located] using shown

theorem Piece.located_joined
    {pieces : List Piece}
    (located : ∀ piece ∈ pieces, piece.Located origin) :
    ∀ part ∈ joined pieces, part.Located origin := by
  suffices folded : ∀ parts : List Node, (∀ part ∈ parts, part.Located origin) →
      ∀ part ∈ pieces.foldl added parts, part.Located origin by
    simpa [joined] using folded [] (by simp)
  induction pieces with
  | nil => exact fun parts known => known
  | cons piece pieces hypothesis =>
    intro parts known
    rw [List.forall_mem_cons] at located
    refine hypothesis located.2 _ ?_
    cases piece with
    | text position run => exact located_appendText located.1 known
    | part node => exact List.forall_mem_cons.2 ⟨located.1, known⟩

theorem located_sequenced
    {position : Position}
    {parts : List Node}
    (placed : origin.Places position)
    (located : ∀ part ∈ parts, part.Located origin) :
    (Node.sequenced position parts).Located origin := by
  unfold Node.sequenced
  split
  · exact located _ List.mem_cons_self
  · simpa [Node.Located] using ⟨placed, located⟩

/-- Conditions with their bodies stand where their positions say. -/
theorem located_conditional
    {branches : List (Node × Node)}
    {default : Option Node}
    (branchesLocated : ∀ branch ∈ branches,
      branch.1.Located origin ∧ branch.2.Located origin)
    (defaultLocated : ∀ body ∈ default, body.Located origin) :
    (Node.conditional branches default).Located origin ∨
      branches = [] ∧ Node.conditional branches default = Node.nothing := by
  induction branches with
  | nil =>
    cases default with
    | none => exact .inr ⟨rfl, rfl⟩
    | some body => exact .inl (defaultLocated body rfl)
  | cons branch branches hypothesis =>
    rw [List.forall_mem_cons] at branchesLocated
    obtain ⟨⟨test, body⟩, others⟩ := branchesLocated
    left
    have rest := hypothesis others
    simp only [Node.conditional, List.foldr_cons, Node.choice] at rest ⊢
    simp only [Node.Located, Node.alternativesLocated_iff, List.forall_mem_cons, List.not_mem_nil,
      false_imp_iff, implies_true, and_true]
    refine ⟨trivial, test, ⟨trivial, .inl body⟩, trivial, ?_⟩
    rcases rest with located | ⟨_, isNothing⟩
    · exact .inl located
    · exact .inr ⟨trivial, isNothing⟩

theorem located_selected
    {subject : Node}
    {alternatives : List (Pattern × Node)}
    {default : Option Node}
    (subjectLocated : subject.Located origin)
    (alternativesLocated : ∀ alternative ∈ alternatives,
      alternative.1.Located origin ∧ alternative.2.Located origin)
    (defaultLocated : ∀ body ∈ default, body.Located origin) :
    (Node.selected subject alternatives default).Located origin := by
  simp only [Node.selected, Node.Located, Node.alternativesLocated_iff, List.forall_mem_append]
  refine ⟨trivial, subjectLocated, fun alternative member => ?_, ?_⟩
  · obtain ⟨pattern, body⟩ := alternativesLocated alternative member
    exact ⟨pattern, .inl body⟩
  · cases default with
    | none => simp
    | some body => simpa [Pattern.Located] using Or.inl (defaultLocated body rfl)

/-- What a form stands for has true positions. -/
def Form.Located (origin : Origin) : Form → Prop
  | .item pieces => ∀ piece ∈ pieces, piece.Located origin
  | .items pieces => ∀ piece ∈ pieces, piece.Located origin
  | .document _ node => node.Located origin
  | .branches tests => ∀ branch ∈ tests, branch.1.Located origin ∧ branch.2.Located origin
  | .alternatives cases =>
    ∀ alternative ∈ cases, alternative.1.Located origin ∧ alternative.2.Located origin
  | .otherwise body => ∀ node ∈ body, node.Located origin

/-- The position at which a form begins, if it has one, is a place. -/
def Form.Placed (origin : Origin) : Form → Prop
  | .document position _ => origin.Places position
  | _ => True

/-- What is derived from located segments is located. -/
theorem Derives.located
    {form : Form}
    {levels : Nat}
    {segments : List Segment}
    (derives : Derives form levels segments)
    (located : ∀ segment ∈ segments, segment.Located origin)
    (placed : form.Placed origin) :
    form.Located origin := by
  induction derives with
  | text => simpa [Form.Located, Piece.Located, Segment.Located] using located
  | insertion fits => simpa [Form.Located, Piece.Located, Segment.Located] using located
  | comment => simp [Form.Located]
  | pragma => simp [Form.Located]
  | inclusion fits =>
    simp only [List.forall_mem_cons, Segment.Located, Tag.Located] at located
    simpa [Form.Located, Piece.Located, Node.Located] using ⟨located.1.1, located.1.2.1⟩
  | @conditional _ _ _ _ _ test body branches _ _ _ _ _ _ _ _ firstHypothesis othersHypothesis
      restHypothesis =>
    simp only [List.forall_mem_cons, List.forall_mem_append, Segment.Located, Tag.Located]
      at located
    obtain ⟨⟨_, testLocated, behind⟩, inBody, inBranches, inDefault, _⟩ := located
    have bodyLocated := firstHypothesis inBody behind
    have tests : ∀ branch ∈ (test.node, body) :: branches,
        branch.1.Located origin ∧ branch.2.Located origin :=
      List.forall_mem_cons.2 ⟨⟨testLocated, bodyLocated⟩, othersHypothesis inBranches trivial⟩
    have defaultLocated := restHypothesis inDefault trivial
    rcases located_conditional tests defaultLocated with whole | ⟨impossible, _⟩
    · simpa [Form.Located, Piece.Located] using whole
    · simp at impossible
  | selection fits noTag cases rest casesHypothesis restHypothesis =>
    simp only [List.forall_mem_cons, List.forall_mem_append, Segment.Located, Tag.Located]
      at located
    obtain ⟨⟨_, subject, _⟩, _, inCases, inDefault, _⟩ := located
    have alternatives := casesHypothesis inCases trivial
    have default := restHypothesis inDefault trivial
    simpa [Form.Located, Piece.Located] using located_selected subject alternatives default
  | loop each rest eachHypothesis restHypothesis =>
    simp only [List.forall_mem_cons, List.forall_mem_append, Segment.Located, Tag.Located]
      at located
    obtain ⟨⟨opener, ⟨item, source⟩, behind⟩, inBody, inDefault, _⟩ := located
    have body := eachHypothesis inBody behind
    have default := restHypothesis inDefault trivial
    simpa [Form.Located, Piece.Located, Node.Located] using
      ⟨opener, item, ⟨rfl, source⟩, body, default⟩
  | binding fits scope hypothesis =>
    simp only [List.forall_mem_cons, List.forall_mem_append, Segment.Located, Tag.Located]
      at located
    obtain ⟨⟨opener, ⟨name, value⟩, behind⟩, inBody, _⟩ := located
    have body := hypothesis inBody behind
    simpa [Form.Located, Piece.Located, Node.Located] using ⟨opener, name, value, body⟩
  | nothing => simp [Form.Located]
  | next first rest firstHypothesis restHypothesis =>
    rw [List.forall_mem_append] at located
    exact List.forall_mem_append.2
      ⟨firstHypothesis located.1 trivial, restHypothesis located.2 trivial⟩
  | document items hypothesis =>
    exact located_sequenced placed (Piece.located_joined (hypothesis located trivial))
  | noBranch => simp [Form.Located]
  | branch fits first others firstHypothesis othersHypothesis =>
    simp only [List.forall_mem_cons, List.forall_mem_append, Segment.Located, Tag.Located]
      at located
    obtain ⟨⟨_, test, behind⟩, inBody, inBranches⟩ := located
    exact List.forall_mem_cons.2
      ⟨⟨test, firstHypothesis inBody behind⟩, othersHypothesis inBranches trivial⟩
  | noAlternative => simp [Form.Located]
  | alternative first others firstHypothesis othersHypothesis =>
    simp only [List.forall_mem_cons, List.forall_mem_append, Segment.Located, Tag.Located]
      at located
    obtain ⟨⟨_, pattern, behind⟩, inBody, inCases⟩ := located
    exact List.forall_mem_cons.2
      ⟨⟨pattern, firstHypothesis inBody behind⟩, othersHypothesis inCases trivial⟩
  | noDefault => simp [Form.Located]
  | default rest hypothesis =>
    simp only [List.forall_mem_cons, Segment.Located] at located
    simpa [Form.Located] using hypothesis located.2 located.1.2.2

end Document

end Stencil
