import Stencil.Proofs.Acceptance
import Stencil.Proofs.Printer.Expression

/-!
# Templates of one inline expression

A source that is one inline expression between braces is read to the tree of
that expression.  The main statement puts together what follows for operators:
they group by precedence, filters apply to all that stands before them, and an
operator behind the name of a filter makes reading fail.
-/

namespace Stencil

namespace Region

/-- Operands with operators between them stand between two cursors. -/
def Sequence
    (region : Region)
    (levels : Nat)
    (cursor : Cursor)
    (first : Node)
    (links : List Link)
    (finish : Cursor) : Prop :=
  ∃ middle, region.Reads .unary levels cursor first middle ∧
    region.Chain levels middle links finish

/-- The operators of a sequence can be grouped. -/
theorem Sequence.exists_grouped
    {region : Region}
    {levels : Nat}
    {cursor finish : Cursor}
    {first : Node}
    {links : List Link}
    (regular : OperatorTable.Regular region.grammar.operators)
    (sequence : region.Sequence levels cursor first links finish) :
    ∃ tree, Grouped first links tree := by
  obtain ⟨middle, _, chain⟩ := sequence
  have operators := chain.mem_operators
  refine Grouped.exists_of_uniform first links ?_
  intro left isLeft right isRight same
  exact regular.uniform _ (operators left isLeft).1 _ (operators right isRight).1
    (operators left isLeft).2 (operators right isRight).2 same

/-- A sequence is an expression if its operators stop at its end. -/
theorem Sequence.reads
    {region : Region}
    {levels : Nat}
    {cursor finish behind : Cursor}
    {first tree node : Node}
    {links : List Link}
    (apart : region.Apart)
    (regular : OperatorTable.Regular region.grammar.operators)
    (sequence : region.Sequence levels cursor first links finish)
    (grouped : Grouped first links tree)
    (stops : ∀ link ∈ links, region.Stops link.operator.rightPrecedence finish)
    (rest : region.Reads (.operators 1 tree) levels finish node behind)
    (done : region.isDone behind = true) :
    region.Reads (.expression 1) levels cursor node behind := by
  obtain ⟨middle, operand, chain⟩ := sequence
  have positive : ∀ link ∈ links, 1 ≤ link.operator.precedence := fun link member =>
    regular.positive _ (chain.mem_operators link member).1 (chain.mem_operators link member).2
  have operators := chain.reads apart regular grouped positive stops
  exact .expression operand (operators.operators_trans rest) (.inl done)

/-! ## Sequences of names -/

/-- Operators, each with a name behind it, as they are written. -/
def linksText (links : List (Operator × Text)) : Text :=
  links.flatMap fun link => Text.space ++ link.1.symbol ++ (Text.space ++ link.2)

/-- A variable of one name, with a space before it at a cursor. -/
def nameAt (cursor : Cursor) (name : Text) : Node :=
  .reference (Variable.reference ⟨⟨(cursor.forward 1).position, name⟩, []⟩)

/-- The chain of operators and names that is written at a cursor. -/
def linksAt (cursor : Cursor) : List (Operator × Text) → List Link
  | [] => []
  | (operator, name) :: links =>
    let behind := cursor.forward (1 + operator.symbol.length)
    ⟨operator, (cursor.forward 1).position, nameAt behind name⟩ ::
      linksAt (behind.forward (1 + name.length)) links

/-- A name is an operand. -/
theorem Reads.of_name
    {region : Region}
    {cursor finish : Cursor}
    {name : Text}
    (levels : Nat)
    (apart : region.Apart)
    (named : name.IsName)
    (spells : cursor.Spells (Text.space ++ name) finish)
    (before : finish.IsBeforeSpace)
    (halts : region.Halts finish) :
    region.Reads .unary levels cursor (nameAt cursor name) finish := by
  have next := Continues.of_spelled_word apart spells Text.isBlank_space named.1
    before.isWordRest_eq_false
  have isNames : region.Names finish [] finish := by
    rcases halts with done | ⟨token, behind, other, noDot⟩
    · exact .closed done
    · exact .other other noDot
  have isPath : region.Path cursor ⟨⟨(cursor.forward 1).position, name⟩, []⟩ finish :=
    ⟨finish, identifier_eq_ok.2 ⟨_, next, rfl, named.2, rfl⟩, isNames⟩
  exact .operand next rfl (.reference next rfl (literal?_of_name next rfl named.2) isPath)

/-- Operators with names behind them are a chain. -/
theorem Chain.of_linksText
    {region : Region}
    {links : List (Operator × Text)}
    {cursor finish : Cursor}
    (levels : Nat)
    (apart : region.Apart)
    (regular : OperatorTable.Regular region.grammar.operators)
    (known : ∀ link ∈ links, region.grammar.operators.find? link.1.symbol = some link.1 ∧
      link.1.role = .binary ∧ link.2.IsName)
    (spells : cursor.Spells (linksText links) finish)
    (before : finish.IsBeforeSpace)
    (halts : region.Halts finish) :
    region.Chain levels cursor (linksAt cursor links) finish ∧ cursor.IsBeforeSpace ∧
      region.Halts cursor := by
  induction links generalizing cursor with
  | nil =>
    obtain rfl := spells.eq_of_nil
    exact ⟨.nil, before, halts⟩
  | cons link links hypothesis =>
    obtain ⟨⟨found, role, named⟩, others⟩ := List.forall_mem_cons.1 known
    rw [linksText, List.flatMap_cons] at spells
    obtain ⟨middle, near, far⟩ := spells.of_append
    obtain ⟨behind, marked, word⟩ := near.of_append
    obtain ⟨chain, beforeRest, haltsRest⟩ := hypothesis others far
    have spaced := word.isBeforeSpace (Text.isSpaced_space _)
    have reads := Reads.of_name levels apart named word beforeRest haltsRest
    have unread : cursor.rest = Text.space ++ (link.1.symbol ++ (Text.space ++
        (link.2 ++ middle.rest))) := by
      rw [marked.1, word.1]
      simp only [List.append_assoc]
    have whole := regular.complete _ (OperatorTable.mem_of_find? found) role
    have next := Continues.of_spelled_operator apart marked Text.isBlank_space whole spaced
    have atBehind : behind = cursor.forward (1 + link.1.symbol.length) := by
      rw [marked.2, List.length_append]
      rfl
    have atMiddle : middle = behind.forward (1 + link.2.length) := by
      rw [word.2, List.length_append]
      rfl
    refine ⟨?_, marked.isBeforeSpace (Text.isSpaced_space _), .inr ⟨_, _, next, nofun⟩⟩
    rw [atMiddle, atBehind] at chain reads
    exact .cons unread found role reads chain

/-- Names with operators between them are a sequence. -/
theorem Sequence.of_names
    {region : Region}
    {first : Text}
    {links : List (Operator × Text)}
    {cursor finish : Cursor}
    (levels : Nat)
    (apart : region.Apart)
    (regular : OperatorTable.Regular region.grammar.operators)
    (named : first.IsName)
    (known : ∀ link ∈ links, region.grammar.operators.find? link.1.symbol = some link.1 ∧
      link.1.role = .binary ∧ link.2.IsName)
    (spells : cursor.Spells (Text.space ++ first ++ linksText links) finish)
    (before : finish.IsBeforeSpace)
    (halts : region.Halts finish) :
    region.Sequence levels cursor (nameAt cursor first)
      (linksAt (cursor.forward (1 + first.length)) links) finish := by
  obtain ⟨middle, near, far⟩ := spells.of_append
  obtain ⟨chain, spaced, follows⟩ := Chain.of_linksText levels apart regular known far before halts
  have atMiddle : middle = cursor.forward (1 + first.length) := by
    rw [near.2, List.length_append]
    rfl
  have reads := Reads.of_name levels apart named near spaced follows
  rw [atMiddle] at chain reads
  exact ⟨_, reads, chain⟩

end Region

/-- The standard operators group as they should. -/
theorem OperatorTable.regular_standard : OperatorTable.standard.Regular where
  positive := by
    have checked : (OperatorTable.standard.all fun operator =>
        decide (1 ≤ operator.precedence)) = true := by
      decide
    intro operator member _
    simpa using List.all_eq_true.1 checked operator member
  complete := by
    have checked : (OperatorTable.standard.all fun operator =>
        decide (Style.operator.IsLexeme operator.symbol)) = true := by
      decide
    intro operator member _
    simpa using List.all_eq_true.1 checked operator member
  uniform := by
    have checked : (OperatorTable.standard.all fun operator =>
        decide (operator.associativity = .left)) = true := by
      decide
    intro left isLeft right isRight _ _ _
    have ofLeft := List.all_eq_true.1 checked left isLeft
    have ofRight := List.all_eq_true.1 checked right isRight
    simp only [decide_eq_true_eq] at ofLeft ofRight
    rw [ofLeft, ofRight]

namespace Template

open Document

/-- A source that begins with an inline expression. -/
def inlineSource (body : Text) : Text :=
  Delimiters.braces.inline.opening ++ body

/-- The place behind the opening delimiter of an inline expression. -/
def inlineStart (name body : Text) : Cursor :=
  (Cursor.start name (inlineSource body)).forward Delimiters.braces.inline.opening.length

/-- The region of an inline expression between braces. -/
def inlineRegion (options : Options) (body : Text) : Region :=
  ⟨grammarFor options (inlineSource body), Delimiters.braces.inline.closing⟩

theorem apart_inlineRegion (options : Options) (body : Text) :
    (inlineRegion options body).Apart where
  start := ⟨_, _, rfl, by decide, by decide⟩
  parenthesis := fun rest => rfl

theorem kind?_inlineSource (table : OperatorTable) (limit : Int) (name body : Text) :
    (initial name .braces (inlineSource body)).kind?
      (grammarFor ⟨table, limit, Kind.all⟩ (inlineSource body)).order = some .inline := by
  have begins : Cursor.startsWith (Cursor.start name (inlineSource body))
      Delimiters.braces.inline.opening = true :=
    List.isPrefixOf_iff_prefix.2 (List.prefix_append _ _)
  simp only [State.kind?, grammarFor, Kind.all, List.find?_cons, initial, Delimiters.pair, begins]

/-- A source that is one inline expression is read to its tree. -/
theorem read_inlineSource
    {table : OperatorTable}
    {limit : Int}
    {name body : Text}
    {levels : Nat}
    {tree : Node}
    {finish : Cursor}
    (reads : (inlineRegion ⟨table, limit, Kind.all⟩ body).Reads (.expression 1) levels
      (inlineStart name body) tree finish)
    (ends : finish.rest = Text.space ++ Delimiters.braces.inline.closing)
    (nested : (levels + 1 : Int) ≤ limit) :
    (read ⟨table, limit, Kind.all⟩ name .braces (inlineSource body)).result =
      .ok ⟨tree, []⟩ := by
  have closes := (apart_inlineRegion ⟨table, limit, Kind.all⟩ body).close_eq_ok
    (by rw [ends]; exact (List.append_nil _).symm) Text.isBlank_space
  have step : Step (grammarFor ⟨table, limit, Kind.all⟩ (inlineSource body))
      (initial name .braces (inlineSource body)) (.insertion ⟨tree, levels⟩) _ :=
    .insertion (kind?_inlineSource table limit name body) reads closes
  have items : Derives (.items [.part tree]) levels [.insertion ⟨tree, levels⟩] :=
    .next (.insertion (Content.fits tree levels)) .nothing
  refine Arises.read_eq_ok ⟨.single step, ?_, .document items, rfl, by simpa using nested, rfl⟩
  simp only [Cursor.isAtEnd, Cursor.rest_forward, ends]
  rfl

/-- What is read from a source that begins with an inline expression begins with
the tree of an expression. -/
theorem reads_of_read_inlineSource
    {table : OperatorTable}
    {limit : Int}
    {name body : Text}
    {template : Template}
    (success : (read ⟨table, limit, Kind.all⟩ name .braces (inlineSource body)).result =
      .ok template) :
    ∃ levels node finish, (inlineRegion ⟨table, limit, Kind.all⟩ body).Reads (.expression 1)
      levels (inlineStart name body) node finish ∧
      (inlineRegion ⟨table, limit, Kind.all⟩ body).isDone finish = true := by
  obtain ⟨segments, levels, final, arises⟩ := arises_of_read success
  have opens := kind?_inlineSource table limit name body
  generalize begin : initial name .braces (inlineSource body) = state at opens
  have steps := arises.steps
  rw [begin] at steps
  cases steps with
  | nil => exact absurd arises.ended (by simp [State.isAtEnd_eq_false opens])
  | cons step steps =>
    cases step with
    | insertion opens' reads closes =>
      subst begin
      exact ⟨_, _, _, reads, Region.isDone_of_close closes⟩
    | text _ noRegion => simp [opens] at noRegion
    | comment opens' | pragma opens' | tag opens' => simp [opens] at opens'

/-- A sequence of operands and operators is read to the tree that is grouped by
precedence. -/
theorem read_sequence
    {table : OperatorTable}
    {limit : Int}
    {name body : Text}
    {levels : Nat}
    {first tree : Node}
    {links : List Link}
    {finish : Cursor}
    (regular : table.Regular)
    (sequence : (inlineRegion ⟨table, limit, Kind.all⟩ body).Sequence levels
      (inlineStart name body) first links finish)
    (ends : finish.rest = Text.space ++ Delimiters.braces.inline.closing)
    (nested : (levels + 1 : Int) ≤ limit)
    (grouped : Grouped first links tree) :
    (read ⟨table, limit, Kind.all⟩ name .braces (inlineSource body)).result =
      .ok ⟨tree, []⟩ := by
  have apart := apart_inlineRegion ⟨table, limit, Kind.all⟩ body
  have done := apart.isDone_eq_true (by rw [ends]; exact (List.append_nil _).symm)
    Text.isBlank_space
  have reads := sequence.reads apart regular grouped (fun _ _ => .inl done) .none done
  exact read_inlineSource reads ends nested

/-- Filters behind a sequence are applied to its whole tree. -/
theorem read_filtered_sequence
    {limit : Int}
    {name body : Text}
    {levels : Nat}
    {first tree : Node}
    {links : List Link}
    {finish : Cursor}
    {filters : List Text}
    (sequence : (inlineRegion ⟨.standard, limit, Kind.all⟩ body).Sequence levels
      (inlineStart name body) first links finish)
    (named : ∀ filter ∈ filters, Text.IsName filter)
    (ends : finish.rest = Region.filterText filters ++
      (Text.space ++ Delimiters.braces.inline.closing))
    (nested : (levels + 1 : Int) ≤ limit)
    (grouped : Grouped first links tree) :
    (read ⟨.standard, limit, Kind.all⟩ name .braces (inlineSource body)).result =
      .ok ⟨Region.filtered finish tree filters, []⟩ := by
  have apart := apart_inlineRegion ⟨.standard, limit, Kind.all⟩ body
  have unread : finish.rest = Region.filterText filters ++ (Text.space ++
      ((inlineRegion ⟨.standard, limit, Kind.all⟩ body).closing ++ [])) := by
    rw [ends, List.append_nil]
    rfl
  have behind := Cursor.rest_forward_of_append unread
  have done := apart.isDone_eq_true behind Text.isBlank_space
  have operators : ∀ link ∈ links, link.operator ∈ OperatorTable.standard ∧
      link.operator.role = .binary := by
    obtain ⟨middle, _, chain⟩ := sequence
    exact chain.mem_operators
  have stops : ∀ link ∈ links, Region.Stops _ link.operator.rightPrecedence finish :=
    fun link member => .of_filterText apart rfl unread (operators link member).1
      (operators link member).2
  have reads := sequence.reads apart OperatorTable.regular_standard grouped stops
    (.of_filterText apart rfl named unread) done
  refine read_inlineSource reads ?_ nested
  rw [behind, List.append_nil]
  rfl

/-- No template is read if a binary operator stands behind the name of a filter. -/
theorem read_ne_ok_of_operatorBehindFilter
    {limit : Int}
    {name body : Text}
    {place : Cursor}
    (toPlace : (inlineStart name body).Leads place)
    (notDone : ∀ between, (inlineStart name body).Leads between → between.Leads place →
      (inlineRegion ⟨.standard, limit, Kind.all⟩ body).isDone between = false)
    (stands : (inlineRegion ⟨.standard, limit, Kind.all⟩ body).OperatorBehindFilter place)
    (template : Template) :
    (read ⟨.standard, limit, Kind.all⟩ name .braces (inlineSource body)).result ≠
      .ok template := by
  intro success
  obtain ⟨levels, node, finish, reads, done⟩ := reads_of_read_inlineSource success
  rcases toPlace.before_or_behind reads.leads with ⟨_, before⟩ | behind
  · exact reads.not_operatorBehindFilter rfl toPlace before stands
  · simp [notDone finish reads.leads behind] at done

/-- Operators group by precedence, filters of the standard table apply to the
whole expression before them, and no template is read if a binary operator of the
standard table stands behind the name of a filter. -/
theorem read_operators :
    (∀ (table : OperatorTable) (limit : Int) (name body : Text) (levels : Nat) (first : Node)
      (links : List Link) (finish : Cursor),
      table.Regular →
      (inlineRegion ⟨table, limit, Kind.all⟩ body).Sequence levels (inlineStart name body) first
        links finish →
      finish.rest = Text.space ++ Delimiters.braces.inline.closing →
      (levels + 1 : Int) ≤ limit →
      ∃ tree, Grouped first links tree ∧
        (∀ other, Grouped first links other → other = tree) ∧
        (read ⟨table, limit, Kind.all⟩ name .braces (inlineSource body)).result =
          .ok ⟨tree, []⟩) ∧
    (∀ (limit : Int) (name body : Text) (levels : Nat) (first : Node) (links : List Link)
      (finish : Cursor) (filters : List Text),
      (inlineRegion ⟨.standard, limit, Kind.all⟩ body).Sequence levels (inlineStart name body)
        first links finish →
      (∀ filter ∈ filters, Text.IsName filter) →
      finish.rest = Region.filterText filters ++
        (Text.space ++ Delimiters.braces.inline.closing) →
      (levels + 1 : Int) ≤ limit →
      ∃ tree, Grouped first links tree ∧
        (∀ other, Grouped first links other → other = tree) ∧
        (read ⟨.standard, limit, Kind.all⟩ name .braces (inlineSource body)).result =
          .ok ⟨Region.filtered finish tree filters, []⟩) ∧
    ∀ (limit : Int) (name body : Text) (place : Cursor),
      (inlineStart name body).Leads place →
      (∀ between, (inlineStart name body).Leads between → between.Leads place →
        (inlineRegion ⟨.standard, limit, Kind.all⟩ body).isDone between = false) →
      (inlineRegion ⟨.standard, limit, Kind.all⟩ body).OperatorBehindFilter place →
      ∀ template,
        (read ⟨.standard, limit, Kind.all⟩ name .braces (inlineSource body)).result ≠
          .ok template := by
  refine ⟨?_, ?_, ?_⟩
  · intro table limit name body levels first links finish regular sequence ends nested
    obtain ⟨tree, grouped⟩ := sequence.exists_grouped regular
    have success := read_sequence regular sequence ends nested grouped
    refine ⟨tree, grouped, ?_, success⟩
    intro other otherGrouped
    have otherSuccess := read_sequence regular sequence ends nested otherGrouped
    simpa using otherSuccess.symm.trans success
  · intro limit name body levels first links finish filters sequence named ends nested
    obtain ⟨tree, grouped⟩ := sequence.exists_grouped OperatorTable.regular_standard
    have success := read_filtered_sequence sequence named ends nested grouped
    refine ⟨tree, grouped, ?_, success⟩
    intro other otherGrouped
    have otherSuccess := read_filtered_sequence sequence named ends nested otherGrouped
    have equal := otherSuccess.symm.trans success
    simp only [Except.ok.injEq, Template.mk.injEq, and_true] at equal
    exact Region.eq_of_filtered_eq equal
  · intro limit name body place toPlace notDone stands template
    exact read_ne_ok_of_operatorBehindFilter toPlace notDone stands template

/-! ## Sequences of names as templates -/

/-- A table with an arrow that groups from the right. -/
def arrowTable : OperatorTable :=
  [⟨Text.of "=>", 2, .right, .binary⟩, .leftBinary "+" 3]

theorem regular_arrowTable : arrowTable.Regular where
  positive := by decide
  complete := by decide
  uniform := by decide

/-- Arrows around a sum. -/
def arrowBody : Text :=
  Text.of " a => b + c => d \x7d\x7d"

/-- A sum with a filter behind it. -/
def filteredBody : Text :=
  Text.of " a + b | f \x7d\x7d"

/-- A filter with a sum behind it. -/
def misplacedBody : Text :=
  Text.of " a | f + b \x7d\x7d"

/-- A variable that stands nowhere. -/
def variableOf (name : String) : Node :=
  .reference (Variable.reference ⟨⟨.synthetic [], Text.of name⟩, []⟩)

/-- An operator that stands nowhere, applied to its operands. -/
def operated (symbol : String) (left right : Node) : Node :=
  Node.binary (.synthetic []) (Text.of symbol) left right

theorem sequence_arrowBody :
    (inlineRegion ⟨arrowTable, 100, Kind.all⟩ arrowBody).Sequence 0 (inlineStart [] arrowBody)
      (Region.nameAt (inlineStart [] arrowBody) (Text.of "a"))
      (Region.linksAt ((inlineStart [] arrowBody).forward 2)
        [(⟨Text.of "=>", 2, .right, .binary⟩, Text.of "b"), (.leftBinary "+" 3, Text.of "c"),
          (⟨Text.of "=>", 2, .right, .binary⟩, Text.of "d")])
      ((inlineStart [] arrowBody).forward 16) :=
  .of_names 0 (apart_inlineRegion _ _) regular_arrowTable (by decide) (by decide)
    ⟨by decide, by decide⟩ ⟨_, rfl⟩ (.inl (by decide))

theorem sequence_filteredBody :
    (inlineRegion ⟨.standard, 100, Kind.all⟩ filteredBody).Sequence 0
      (inlineStart [] filteredBody)
      (Region.nameAt (inlineStart [] filteredBody) (Text.of "a"))
      (Region.linksAt ((inlineStart [] filteredBody).forward 2)
        [(.leftBinary "+" 5, Text.of "b")])
      ((inlineStart [] filteredBody).forward 6) :=
  .of_names 0 (apart_inlineRegion _ _) OperatorTable.regular_standard (by decide)
    (by decide) ⟨by decide, by decide⟩ ⟨_, rfl⟩
    (.inr ⟨_, _, (Region.Meets.of_bar (apart_inlineRegion _ _) rfl rfl).1, nofun⟩)

/-- The operator behind the filter stands behind the first name, and the region is
not over before. -/
theorem operatorBehindFilter_misplacedBody :
    (inlineStart [] misplacedBody).Leads ((inlineStart [] misplacedBody).forward 2) ∧
      (∀ between, (inlineStart [] misplacedBody).Leads between →
        between.Leads ((inlineStart [] misplacedBody).forward 2) →
          (inlineRegion ⟨.standard, 100, Kind.all⟩ misplacedBody).isDone between = false) ∧
      (inlineRegion ⟨.standard, 100, Kind.all⟩ misplacedBody).OperatorBehindFilter
        ((inlineStart [] misplacedBody).forward 2) := by
  let start := inlineStart [] misplacedBody
  have apart := apart_inlineRegion ⟨.standard, 100, Kind.all⟩ misplacedBody
  have first := @Region.Continues.of_spelled_word _ start (start.forward 2) _ (Text.of "a") apart
    ⟨by decide, by decide⟩ Text.isBlank_space (by decide)
    (Text.isWordRest_of_head?_space _)
  have symbol := (Region.Meets.of_bar apart rfl (show (start.forward 2).rest = _ from rfl)).1
  have filter := @Region.Continues.of_spelled_word _ ((start.forward 2).forward 2)
    (start.forward 6) _ (Text.of "f") apart ⟨by decide, by decide⟩
    Text.isBlank_space (by decide) (Text.isWordRest_of_head?_space _)
  have following := @Region.Continues.of_spelled_operator _ (start.forward 6) (start.forward 8) _
    (Text.of "+") apart ⟨by decide, by decide⟩ Text.isBlank_space
    (by decide) ⟨_, rfl⟩
  refine ⟨.single first.2 nofun, ?_, ⟨_, _, _, _, _, _, symbol.2, rfl, filter.2, rfl, following,
    rfl, .leftBinary "+" 5, by decide, rfl⟩⟩
  intro between toBetween toPlace
  rcases toBetween.eq_or_behind first.2 with rfl | behind
  · exact first.1
  rcases behind.eq_or_shorter with rfl | shorter
  · exact symbol.1
  rcases toPlace.eq_or_shorter with same | longer
  · exact absurd (same ▸ shorter) (Nat.lt_irrefl _)
  · exact absurd (Nat.lt_trans shorter longer) (Nat.lt_irrefl _)

/-- Arrows group from the right and are weaker than a sum, a filter takes the
whole sum before it, and a sum cannot follow a filter. -/
theorem read_operators_of_names :
    (∃ tree, (read ⟨arrowTable, 100, Kind.all⟩ [] .braces (inlineSource arrowBody)).result =
        .ok ⟨tree, []⟩ ∧
      tree.same (operated "=>" (variableOf "a") (operated "=>"
        (operated "+" (variableOf "b") (variableOf "c")) (variableOf "d"))) = true) ∧
    (∃ tree, (read ⟨.standard, 100, Kind.all⟩ [] .braces (inlineSource filteredBody)).result =
        .ok ⟨tree, []⟩ ∧
      tree.same (Node.call (.synthetic []) (Text.of "f")
        (operated "+" (variableOf "a") (variableOf "b"))) = true) ∧
    ∀ template, (read ⟨.standard, 100, Kind.all⟩ [] .braces
      (inlineSource misplacedBody)).result ≠ .ok template := by
  refine ⟨?_, ?_, ?_⟩
  · let start := inlineStart [] arrowBody
    obtain ⟨tree, _, unique, success⟩ := read_operators.1 arrowTable 100 [] arrowBody 0 _ _ _
      regular_arrowTable sequence_arrowBody rfl (by decide)
    -- The first arrow is split off, then the last one, and the sum is left.
    have sum := @Grouped.split (Region.nameAt (start.forward 5) (Text.of "b")) _ _ [] []
      ⟨.leftBinary "+" 3, (start.forward 8).position,
        Region.nameAt (start.forward 9) (Text.of "c")⟩
      (by decide) (by decide) (by decide) .operand .operand
    have last := @Grouped.split _ _ _ _ [] ⟨⟨Text.of "=>", 2, .right, .binary⟩,
        (start.forward 12).position, Region.nameAt (start.forward 14) (Text.of "d")⟩
      (by decide) (by decide) (by decide) sum .operand
    have whole := @Grouped.split (Region.nameAt start (Text.of "a")) _ _ [] _
      ⟨⟨Text.of "=>", 2, .right, .binary⟩, (start.forward 3).position, _⟩
      (by decide) (by decide) (by decide) .operand last
    refine ⟨tree, success, ?_⟩
    rw [← unique _ whole]
    decide +kernel
  · let start := inlineStart [] filteredBody
    obtain ⟨tree, _, unique, success⟩ := read_operators.2.1 100 [] filteredBody 0 _ _ _
      [Text.of "f"] sequence_filteredBody (by decide) rfl (by decide)
    have whole := @Grouped.split (Region.nameAt start (Text.of "a")) _ _ [] []
      ⟨.leftBinary "+" 5, (start.forward 3).position,
        Region.nameAt (start.forward 4) (Text.of "b")⟩
      (by decide) (by decide) (by decide) .operand .operand
    refine ⟨_, success, ?_⟩
    rw [← unique _ whole]
    decide +kernel
  · obtain ⟨toPlace, notDone, stands⟩ := operatorBehindFilter_misplacedBody
    exact read_operators.2.2 100 [] misplacedBody _ toPlace notDone stands

end Template

end Stencil
