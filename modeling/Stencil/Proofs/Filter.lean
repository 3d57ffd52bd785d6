import Stencil.Proofs.Precedence

/-!
# Filters

In the standard table filters are weaker than every other operator, so a chain
of filters is applied to the whole expression before it.  The name of a filter
is no operand: an operator behind it has nothing to apply to, and no expression
is read from a text in which one stands there, however deep in parentheses.
-/

namespace Stencil

namespace Region

/-! ## Filter chains -/

/-- The text of a chain of filters. -/
def filterText (names : List Text) : Text :=
  names.flatMap fun name => Text.of " | " ++ name

/-- The tree with the filters of a chain applied to it, the chain being written
at a cursor. -/
def filtered (cursor : Cursor) (tree : Node) : List Text → Node
  | [] => tree
  | name :: names =>
    filtered (cursor.forward (3 + name.length))
      (Node.call (cursor.forward 1).position name tree) names

/-- Filters can be taken off again. -/
theorem eq_of_filtered_eq
    {names : List Text}
    {cursor : Cursor}
    {left right : Node}
    (equal : filtered cursor left names = filtered cursor right names) :
    left = right := by
  induction names generalizing cursor left right with
  | nil => exact equal
  | cons name names hypothesis =>
    have inner := hypothesis equal
    rw [Node.call, Node.call, Node.apply.injEq] at inner
    exact inner.2.2

/-- The operator that applies filters. -/
def bar : Operator :=
  ⟨Text.of "|", 1, .left, .filter⟩

theorem find?_bar : OperatorTable.standard.find? bar.symbol = some bar := by
  decide

/-- Binary operators of the standard table bind more tightly than filters. -/
theorem bar_precedence_lt
    {operator : Operator}
    (member : operator ∈ OperatorTable.standard)
    (role : operator.role = .binary) :
    bar.precedence < operator.precedence := by
  have checked : (OperatorTable.standard.all fun operator =>
      operator.role == .filter || decide (bar.precedence < operator.precedence)) = true := by
    decide
  simpa [role] using List.all_eq_true.1 checked operator member

/-- The operator of a filter is met. -/
theorem Meets.of_bar
    {region : Region}
    {cursor : Cursor}
    {rest : Text}
    (apart : region.Apart)
    (standard : region.grammar.operators = .standard)
    (unread : cursor.rest = Text.of " | " ++ rest) :
    region.Meets cursor (Token.located (cursor.forward 1) .operator bar.symbol) bar
      (cursor.forward 2) :=
  .of_symbol apart unread (by rw [standard]; exact find?_bar) (by decide)

/-- A chain of filters is read up to the end of the region. -/
theorem Reads.of_filterText
    {region : Region}
    {levels : Nat}
    {names : List Text}
    {rest : Text}
    (apart : region.Apart)
    (standard : region.grammar.operators = .standard)
    (named : ∀ name ∈ names, name.IsName)
    {cursor : Cursor}
    {tree : Node}
    (unread : cursor.rest = filterText names ++ (Text.space ++ (region.closing ++ rest))) :
    region.Reads (.operators 1 tree) levels cursor (filtered cursor tree names)
      (cursor.forward (filterText names).length) := by
  induction names generalizing cursor tree with
  | nil => exact .none
  | cons name names hypothesis =>
    obtain ⟨⟨whole, free⟩, others⟩ := List.forall_mem_cons.1 named
    have split : cursor.rest = Text.of " | " ++ (name ++
        (filterText names ++ (Text.space ++ (region.closing ++ rest)))) := by
      rw [unread, filterText, List.flatMap_cons]
      simp only [List.append_assoc]
      rfl
    have meets := Meets.of_bar apart standard split
    have atName : (cursor.forward 2).rest = Text.space ++ (name ++
        (filterText names ++ (Text.space ++ (region.closing ++ rest)))) := by
      rw [Cursor.rest_forward, split]
      rfl
    have behindName : (cursor.forward (3 + name.length)).rest =
        filterText names ++ (Text.space ++ (region.closing ++ rest)) := by
      have front : (Text.of " | " ++ name).length = 3 + name.length := by
        rw [List.length_append]
        rfl
      rw [← front]
      exact Cursor.rest_forward_of_append (by rw [split, List.append_assoc])
    have ends : ∀ point ∈ (filterText names ++
        (Text.space ++ (region.closing ++ rest))).head?, point.isWordRest = false := by
      cases names with
      | nil => exact Text.isWordRest_of_head?_space _
      | cons => exact Text.isWordRest_of_head?_space _
    have next := Continues.of_word apart atName Text.isBlank_space whole ends
    rw [← Cursor.forward_add, ← Cursor.forward_add] at next
    have nextName : 2 + (Text.space.length + name.length) = 3 + name.length := by
      simp only [Text.space, List.length_singleton]
      omega
    rw [nextName] at next
    have isFilter : region.filterName bar (Token.located (cursor.forward 1) .operator bar.symbol) 1
        (cursor.forward 2) = .ok (name, cursor.forward (3 + name.length)) := by
      refine filterName_eq_ok.2 ⟨_, next, rfl, free, rfl, ?_⟩
      cases names with
      | nil => exact .inl (apart.isDone_eq_true behindName Text.isBlank_space)
      | cons second names =>
        have secondSplit : (cursor.forward (3 + name.length)).rest = Text.of " | " ++ (second ++
            (filterText names ++ (Text.space ++ (region.closing ++ rest)))) := by
          rw [behindName, filterText, List.flatMap_cons, List.append_assoc, List.append_assoc]
          rfl
        have again := Meets.of_bar apart standard secondSplit
        refine .inr ⟨_, _, again.1, Token.Kind.noConfusion, Token.Kind.noConfusion, ?_⟩
        have known : region.grammar.operators.find? bar.symbol = some bar := again.2.2
        simp [bindsTighter, Token.located, known]
    have restReads : region.Reads
        (.operators 1 (Node.call (cursor.forward 1).position name tree)) levels _ _ _ :=
      hypothesis others behindName
    have length : (filterText (name :: names)).length =
        3 + name.length + (filterText names).length := by
      simp only [filterText, List.flatMap_cons, List.length_append]
      rfl
    rw [length, Cursor.forward_add]
    exact .filter meets (by decide) rfl isFilter restReads

/-- Binary operators end before filters and at the end of the region. -/
theorem Stops.of_filterText
    {region : Region}
    {names : List Text}
    {rest : Text}
    {cursor : Cursor}
    {operator : Operator}
    (apart : region.Apart)
    (standard : region.grammar.operators = .standard)
    (unread : cursor.rest = filterText names ++ (Text.space ++ (region.closing ++ rest)))
    (member : operator ∈ OperatorTable.standard)
    (role : operator.role = .binary) :
    region.Stops operator.rightPrecedence cursor := by
  cases names with
  | nil => exact .inl (apart.isDone_eq_true unread Text.isBlank_space)
  | cons name names =>
    have split : cursor.rest = Text.of " | " ++ (name ++
        (filterText names ++ (Text.space ++ (region.closing ++ rest)))) := by
      rw [unread, filterText, List.flatMap_cons, List.append_assoc, List.append_assoc]
      rfl
    refine .inr (.inr ⟨_, bar, _, .of_bar apart standard split, ?_⟩)
    have tighter := bar_precedence_lt member role
    unfold Operator.rightPrecedence
    split <;> omega

end Region

/-! ## Tokens between two cursors -/

namespace Cursor

/-- Tokens lead from one cursor to another. -/
inductive Leads : Cursor → Cursor → Prop
  | refl {cursor : Cursor} : Leads cursor cursor
  | step
      {cursor behind target : Cursor}
      {token : Token}
      (scanned : Reading.token cursor = .ok (token, behind))
      (unfinished : token.kind ≠ .finish)
      (rest : Leads behind target) :
      Leads cursor target

theorem Leads.single
    {cursor behind : Cursor}
    {token : Token}
    (scanned : Reading.token cursor = .ok (token, behind))
    (unfinished : token.kind ≠ .finish) :
    cursor.Leads behind :=
  .step scanned unfinished .refl

theorem Leads.trans
    {first second third : Cursor}
    (near : first.Leads second)
    (far : second.Leads third) :
    first.Leads third := by
  induction near with
  | refl => exact far
  | step scanned unfinished _ hypothesis => exact .step scanned unfinished (hypothesis far)

/-- Tokens that lead on lead forward. -/
theorem Leads.eq_or_shorter
    {cursor target : Cursor}
    (leads : cursor.Leads target) :
    target = cursor ∨ target.rest.length < cursor.rest.length := by
  induction leads with
  | refl => exact .inl rfl
  | step scanned unfinished _ hypothesis =>
    have shorter := (Reading.token_passes scanned unfinished).2
    rcases hypothesis with rfl | further
    · exact .inr shorter
    · exact .inr (Nat.lt_trans further shorter)

/-- The first token decides where the others stand. -/
theorem Leads.eq_or_behind
    {cursor behind target : Cursor}
    {token : Token}
    (leads : cursor.Leads target)
    (scanned : Reading.token cursor = .ok (token, behind)) :
    target = cursor ∨ behind.Leads target := by
  cases leads with
  | refl => exact .inl rfl
  | step scanned' _ rest =>
    obtain ⟨rfl, rfl⟩ := Prod.mk.inj (Except.ok.inj (scanned.symm.trans scanned'))
    exact .inr rest

/-- Of two places that tokens lead to, one lies before the other. -/
theorem Leads.before_or_behind
    {cursor left right : Cursor}
    (toLeft : cursor.Leads left)
    (toRight : cursor.Leads right) :
    (left.Leads right ∧ right.rest.length < left.rest.length) ∨ right.Leads left := by
  induction toRight with
  | refl => exact .inr toLeft
  | step scanned unfinished rest hypothesis =>
    rcases toLeft.eq_or_behind scanned with rfl | toLeft
    · have shorter := (Reading.token_passes scanned unfinished).2
      refine .inl ⟨.step scanned unfinished rest, ?_⟩
      rcases rest.eq_or_shorter with rfl | further
      · exact shorter
      · exact Nat.lt_trans further shorter
    · exact hypothesis toLeft

end Cursor

namespace Region

open Reading

/-! ## Operators behind filters -/

/-- The name of a filter stands behind its operator, and a binary operator of the
standard table behind the name. -/
structure OperatorBehindFilter (region : Region) (cursor : Cursor) : Prop where
  /-- The tokens follow one another, and the last one is no closing delimiter. -/
  tokens : ∃ symbol name following middle behind finish,
    token cursor = .ok (symbol, middle) ∧ symbol.isOperator bar.symbol = true ∧
      token middle = .ok (name, behind) ∧ name.kind = .identifier ∧
      region.Continues behind following finish ∧ following.kind = .operator ∧
      ∃ operator, OperatorTable.standard.find? following.value = some operator ∧
        operator.role = .binary

/-- The first token of a filter. -/
theorem OperatorBehindFilter.isBar
    {region : Region}
    {cursor behind : Cursor}
    {found : Token}
    (stands : region.OperatorBehindFilter cursor)
    (scanned : token cursor = .ok (found, behind)) :
    found.kind = .operator ∧ found.value = bar.symbol := by
  obtain ⟨symbol, _, _, middle, _, _, scanned', isBar, _⟩ := stands.tokens
  obtain ⟨rfl, rfl⟩ := Prod.mk.inj (Except.ok.inj (scanned.symm.trans scanned'))
  simpa [Token.isOperator] using isBar

/-- No operator follows the name of a filter that is read. -/
theorem OperatorBehindFilter.filterName_ne_ok
    {region : Region}
    {cursor middle behind : Cursor}
    {symbol : Token}
    {name : Text}
    (standard : region.grammar.operators = .standard)
    (stands : region.OperatorBehindFilter cursor)
    (scanned : token cursor = .ok (symbol, middle)) :
    region.filterName bar symbol 1 middle ≠ .ok (name, behind) := by
  intro named
  obtain ⟨_, next, following, _, after, finish, scanned', _, nextScanned, _, more, isOperator,
    operator, known, role⟩ := stands.tokens
  obtain ⟨rfl, rfl⟩ := Prod.mk.inj (Except.ok.inj (scanned.symm.trans scanned'))
  obtain ⟨_, ⟨_, nameScanned⟩, _, _, _, ending⟩ := filterName_eq_ok.1 named
  obtain ⟨rfl, rfl⟩ := Prod.mk.inj (Except.ok.inj (nextScanned.symm.trans nameScanned))
  rcases ending with done | ⟨other, _, follows, _, _, loose⟩
  · simp [more.1] at done
  · obtain ⟨rfl, _⟩ := more.unique follows
    have tighter := bar_precedence_lt (OperatorTable.mem_of_find? known) role
    simp [bindsTighter, isOperator, standard, known, tighter] at loose

theorem Names.leads
    {region : Region}
    {cursor finish : Cursor}
    {others : List Identifier}
    (names : region.Names cursor others finish) :
    cursor.Leads finish := by
  induction names with
  | closed => exact .refl
  | other => exact .refl
  | dot next isDot name rest hypothesis =>
    obtain ⟨_, scanned, isName, _⟩ := identifier_eq_ok.1 name
    exact .step next.2 (by simp [isDot]) (.step scanned.2 (by simp [isName]) hypothesis)

/-- A numeral is scanned at a digit. -/
theorem kind_of_isBeforeDigit
    {cursor behind : Cursor}
    {found : Token}
    (before : isBeforeDigit cursor = true)
    (scanned : token cursor = .ok (found, behind)) :
    found.kind = .number := by
  obtain ⟨digit, rest, unread, isDigit⟩ : ∃ digit rest, cursor.rest = digit :: rest ∧
      digit.isDigit = true := by
    unfold isBeforeDigit at before
    split at before
    · simp at before
    · exact ⟨_, _, by assumption, before⟩
  have here : cursor.skipBlanks = cursor :=
    @Cursor.skipBlanks_eq cursor [] _ unread rfl
      ⟨digit, rest, rfl, CodePoint.isBlank_of_isDigit isDigit⟩
  rw [token_eq_ok, Token.scan, here, Token.scanHere, unread] at scanned
  simp only [isDigit, if_true, Token.scanNumber] at scanned
  split at scanned
  · simp only [Token.take, Token.located, Except.ok.injEq, Prod.mk.injEq] at scanned
    rw [← scanned.1]
  · simp at scanned

/-- What a literal is made of: one token, or a sign and a numeral. -/
theorem literal?_tokens
    {cursor finish : Cursor}
    {found : Position × Literal}
    (success : literal? 1 cursor = .ok (some found, finish)) :
    ∃ first behind, token cursor = .ok (first, behind) ∧ first.kind ≠ .finish ∧
      first.isOperator bar.symbol = false ∧
      (finish = behind ∨ ∃ numeral, token behind = .ok (numeral, finish) ∧
        numeral.kind = .number) := by
  simp only [literal?, bind_eq_ok, Prod.exists] at success
  obtain ⟨first, behind, scanned, success⟩ := success
  have notBar : ∀ kind, first.kind = kind → kind ≠ .operator →
      first.isOperator bar.symbol = false := by
    rintro kind rfl differs
    simp [Token.isOperator, differs]
  have ofWord : ∀ word, first.isWord word = true → first.kind = .identifier := by
    intro word isWord
    simp only [Token.isWord, Bool.and_eq_true, decide_eq_true_eq] at isWord
    exact isWord.1
  have ofSign : ∀ sign, first.isOperator sign = true → sign ≠ bar.symbol →
      first.kind ≠ .finish ∧ first.isOperator bar.symbol = false := by
    intro sign isSign differs
    simp only [Token.isOperator, Bool.and_eq_true, decide_eq_true_eq, beq_iff_eq] at isSign
    refine ⟨by simp [isSign.1], ?_⟩
    simp [Token.isOperator, isSign.2, differs]
  refine ⟨first, behind, scanned, ?_⟩
  split at success
  · rename_i isWord
    simp only [pure_eq_ok, Prod.mk.injEq] at success
    have kind := ofWord _ isWord
    exact ⟨by simp [kind], notBar _ kind Token.Kind.noConfusion, .inl success.2.symm⟩
  split at success
  · rename_i isWord
    simp only [pure_eq_ok, Prod.mk.injEq] at success
    have kind := ofWord _ isWord
    exact ⟨by simp [kind], notBar _ kind Token.Kind.noConfusion, .inl success.2.symm⟩
  split at success
  · rename_i isNumber
    simp only [bind_eq_ok, pure_eq_ok, Prod.mk.injEq] at success
    obtain ⟨value, _, _, rfl⟩ := success
    exact ⟨by simp [isNumber], notBar _ isNumber Token.Kind.noConfusion, .inl rfl⟩
  split at success
  · rename_i isString
    simp only [pure_eq_ok, Prod.mk.injEq] at success
    exact ⟨by simp [isString], notBar _ isString Token.Kind.noConfusion, .inl success.2.symm⟩
  split at success
  · rename_i isSign
    simp only [bind_eq_ok, pure_eq_ok, Prod.exists, Prod.mk.injEq] at success
    obtain ⟨numeral, _, next, value, _, _, rfl⟩ := success
    rw [Bool.and_eq_true] at isSign
    obtain ⟨unfinished, noBar⟩ := ofSign _ isSign.1 (by decide)
    exact ⟨unfinished, noBar, .inr ⟨numeral, next, kind_of_isBeforeDigit isSign.2 next⟩⟩
  split at success
  · rename_i isSign
    simp only [bind_eq_ok, pure_eq_ok, Prod.exists, Prod.mk.injEq] at success
    obtain ⟨numeral, _, next, value, _, _, rfl⟩ := success
    rw [Bool.and_eq_true] at isSign
    obtain ⟨unfinished, noBar⟩ := ofSign _ isSign.1 (by decide)
    exact ⟨unfinished, noBar, .inr ⟨numeral, next, kind_of_isBeforeDigit isSign.2 next⟩⟩
  · simp at success

/-- An expression is made of tokens. -/
theorem Reads.leads
    {region : Region}
    {goal : Goal}
    {levels : Nat}
    {cursor finish : Cursor}
    {node : Node}
    (reads : region.Reads goal levels cursor node finish) :
    cursor.Leads finish := by
  induction reads with
  | expression first rest stops firstHypothesis restHypothesis =>
    exact firstHypothesis.trans restHypothesis
  | none => exact .refl
  | filter meets strong role named rest hypothesis =>
    obtain ⟨_, next, isName, _⟩ := filterName_eq_ok.1 named
    exact .step meets.1.2 (by simp [meets.2.1]) (.step next.2 (by simp [isName]) hypothesis)
  | binary meets strong role operand rest operandHypothesis restHypothesis =>
    exact .step meets.1.2 (by simp [meets.2.1]) (operandHypothesis.trans restHypothesis)
  | operand next bare rest hypothesis => exact hypothesis
  | prefixed next before rest hypothesis =>
    rw [Bool.and_eq_true, decide_eq_true_eq] at before
    exact .step next.2 (by simp [before.1]) hypothesis
  | parenthesised next opening inner closing hypothesis =>
    obtain ⟨scanned, isClosing⟩ := expect_eq_ok.1 closing
    exact .step next.2 (by simp [opening])
      (hypothesis.trans (.single scanned (by simp [isClosing])))
  | literal next noOpening found =>
    obtain ⟨first, behind, scanned, unfinished, _, single | ⟨numeral, next, isNumber⟩⟩ :=
      literal?_tokens found
    · subst single
      exact .single scanned unfinished
    · exact .step scanned unfinished (.single next (by simp [isNumber]))
  | reference next isName noLiteral found =>
    obtain ⟨middle, first, others⟩ := found
    obtain ⟨_, scanned, isFirst, _⟩ := identifier_eq_ok.1 first
    exact .step scanned.2 (by simp [isFirst]) others.leads

/-- The tokens of a path are names and dots. -/
theorem Names.not_operatorBehindFilter
    {region : Region}
    {cursor finish : Cursor}
    {others : List Identifier}
    (names : region.Names cursor others finish)
    {place : Cursor}
    (toPlace : cursor.Leads place)
    (before : finish.rest.length < place.rest.length) :
    ¬ region.OperatorBehindFilter place := by
  intro stands
  induction names with
  | closed =>
    rcases toPlace.eq_or_shorter with rfl | shorter <;> omega
  | other =>
    rcases toPlace.eq_or_shorter with rfl | shorter <;> omega
  | dot next isDot name rest hypothesis =>
    obtain ⟨_, scanned, isName, _⟩ := identifier_eq_ok.1 name
    rcases toPlace.eq_or_behind next.2 with rfl | toPlace
    · simp [(stands.isBar next.2).1] at isDot
    rcases toPlace.eq_or_behind scanned.2 with rfl | toPlace
    · simp [(stands.isBar scanned.2).1] at isName
    · exact hypothesis toPlace before

/-- In what is read no binary operator stands behind the name of a filter. -/
theorem Reads.not_operatorBehindFilter
    {region : Region}
    {goal : Goal}
    {levels : Nat}
    {cursor finish : Cursor}
    {node : Node}
    (standard : region.grammar.operators = .standard)
    (reads : region.Reads goal levels cursor node finish)
    {place : Cursor}
    (toPlace : cursor.Leads place)
    (before : finish.rest.length < place.rest.length) :
    ¬ region.OperatorBehindFilter place := by
  intro stands
  induction reads with
  | expression first rest stops firstHypothesis restHypothesis =>
    rcases toPlace.before_or_behind first.leads with ⟨_, inside⟩ | behind
    · exact firstHypothesis toPlace inside
    · exact restHypothesis behind before
  | none => rcases toPlace.eq_or_shorter with rfl | shorter <;> omega
  | filter meets strong role named rest hypothesis =>
    obtain ⟨next, isOperator, known⟩ := meets
    rcases toPlace.eq_or_behind next.2 with rfl | toPlace
    · -- The filter at this place would have to be read.
      rw [standard, (stands.isBar next.2).2, find?_bar, Option.some.injEq] at known
      subst known
      exact stands.filterName_ne_ok standard next.2 named
    · obtain ⟨_, nameNext, isName, _⟩ := filterName_eq_ok.1 named
      rcases toPlace.eq_or_behind nameNext.2 with rfl | toPlace
      · simp [(stands.isBar nameNext.2).1] at isName
      · exact hypothesis toPlace before
  | binary meets strong role operand rest operandHypothesis restHypothesis =>
    obtain ⟨next, isOperator, known⟩ := meets
    rcases toPlace.eq_or_behind next.2 with rfl | toPlace
    · rw [standard, (stands.isBar next.2).2, find?_bar, Option.some.injEq] at known
      simp [← known, bar] at role
    · rcases toPlace.before_or_behind operand.leads with ⟨_, inside⟩ | behind
      · exact operandHypothesis toPlace inside
      · exact restHypothesis behind before
  | operand next bare rest hypothesis => exact hypothesis toPlace before
  | prefixed next isPrefix rest hypothesis =>
    rcases toPlace.eq_or_behind next.2 with rfl | toPlace
    · rw [(stands.isBar next.2).2, Bool.and_eq_true] at isPrefix
      exact absurd isPrefix.2 (by decide)
    · exact hypothesis toPlace before
  | parenthesised next opening inner closing hypothesis =>
    obtain ⟨scanned, isClosing⟩ := expect_eq_ok.1 closing
    rcases toPlace.eq_or_behind next.2 with rfl | toPlace
    · simp [(stands.isBar next.2).1] at opening
    rcases toPlace.before_or_behind inner.leads with ⟨_, inside⟩ | toPlace
    · exact hypothesis toPlace inside
    rcases toPlace.eq_or_behind scanned with rfl | toPlace
    · simp [(stands.isBar scanned).1] at isClosing
    · rcases toPlace.eq_or_shorter with rfl | shorter <;> omega
  | literal next noOpening found =>
    obtain ⟨first, behind, scanned, _, notBar, parts⟩ := literal?_tokens found
    rcases toPlace.eq_or_behind scanned with rfl | toPlace
    · obtain ⟨kind, value⟩ := stands.isBar scanned
      simp [Token.isOperator, kind, value] at notBar
    rcases parts with rfl | ⟨numeral, numeralScanned, isNumber⟩
    · rcases toPlace.eq_or_shorter with rfl | shorter <;> omega
    rcases toPlace.eq_or_behind numeralScanned with rfl | toPlace
    · simp [(stands.isBar numeralScanned).1] at isNumber
    · rcases toPlace.eq_or_shorter with rfl | shorter <;> omega
  | reference next isName noLiteral found =>
    obtain ⟨middle, first, others⟩ := found
    obtain ⟨_, scanned, isFirst, _⟩ := identifier_eq_ok.1 first
    rcases toPlace.eq_or_behind scanned.2 with rfl | toPlace
    · simp [(stands.isBar scanned.2).1] at isFirst
    · exact others.not_operatorBehindFilter toPlace before stands

end Region

end Stencil
