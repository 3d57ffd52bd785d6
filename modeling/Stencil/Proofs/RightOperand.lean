import Stencil.Proofs.CallDepth
import Stencil.Proofs.Insertion

/-!
# Right operands and the limit on nesting

A right operand is an expression inside of an expression, but it is no level of
nesting.  Whether the limit still bounds the rules that are open at the same time
depends on the table of operators: it does if all binary operators group from the
left.  It does not if one of them groups from the right, because in a chain of such
operators every right operand reaches to the end of the chain.
-/

namespace Stencil

namespace Region

open Reading

/-- A number of expressions are open at the same time behind a cursor, each of them
but the first for a right operand of the one before it. -/
inductive Stacks (region : Region) : Nat → Int → Cursor → Prop
  | one
      {least : Int}
      {cursor : Cursor} :
      Stacks region 1 least cursor
  | more
      {count : Nat}
      {least : Int}
      {cursor middle behind : Cursor}
      {left : Node}
      {token : Token}
      {operator : Operator}
      (first : region.Reads .unary 0 cursor left middle)
      (meets : region.Meets middle token operator behind)
      (strong : least ≤ operator.precedence)
      (role : operator.role = .binary)
      (inside : Stacks region count operator.rightPrecedence behind) :
      Stacks region (count + 1) least cursor

/-- An operand that can be read is read, unless too few rules may be open. -/
theorem Reads.unary_eq_ok_or_exhausted
    {region : Region}
    {levels depth : Nat}
    {cursor finish : Cursor}
    {node : Node}
    (reads : region.Reads .unary levels cursor node finish)
    (allowed : (depth + levels : Int) ≤ region.grammar.limit)
    (enoughTurns : cursor.rest.length < region.grammar.turns)
    (calls : Nat) :
    region.unary calls depth cursor = .ok (node, finish) ∨
      region.unary calls depth cursor = .error .exhausted := by
  have succeeds := reads.succeeds (calls + (4 * cursor.rest.length + 4)) depth allowed
    enoughTurns (by omega)
  have kept := (@kept_of_rules region _ _ _ _ (le_refl region.grammar.limit) (Nat.le_refl _)
    (show calls ≤ calls + (4 * cursor.rest.length + 4) by omega)).2.1 depth cursor
  rcases kept with same | ⟨halt, failed, lifted⟩
  · exact .inl (same.symm.trans succeeds)
  · exact .inr (lifted.eq_exhausted ▸ failed)

/-- Fewer open rules than expressions that are open at the same time are too few. -/
theorem Stacks.expression_eq_exhausted
    {region : Region}
    {count depth : Nat}
    {least : Int}
    {cursor : Cursor}
    (stacked : region.Stacks count least cursor)
    (allowed : (depth : Int) ≤ region.grammar.limit)
    (enoughTurns : cursor.rest.length < region.grammar.turns)
    {calls : Nat}
    (few : calls < count) :
    region.expression calls depth least cursor = .error .exhausted := by
  induction stacked generalizing calls with
  | one =>
    obtain rfl : calls = 0 := by omega
    rw [expression]
  | more first meets strong role inside hypothesis =>
    cases calls with
    | zero => rw [expression]
    | succ calls =>
      have shorter := (first.passes rfl).2
      have shorterStill := meets.passes.2
      have behind := hypothesis (by omega) (show calls < _ by omega)
      rw [expression_succ]
      rcases first.unary_eq_ok_or_exhausted (by simpa using allowed) enoughTurns calls with
        success | exhausted
      · obtain ⟨turns, total⟩ : ∃ turns, region.grammar.turns = turns + 1 :=
          ⟨region.grammar.turns - 1, by omega⟩
        rw [success, ok_bind, total]
        dsimp only
        rw [meets.tail_binary strong role, behind]
        rfl
      · rw [exhausted]
        rfl

/-! ## Chains of one operator -/

/-- A name, and a number of times an operator and that name. -/
def chainText (operator : Operator) (name : Text) (count : Nat) : Text :=
  Text.space ++ name ++ linksText (List.replicate count (operator, name))

theorem chainText_succ (operator : Operator) (name : Text) (count : Nat) :
    chainText operator name (count + 1) =
      Text.space ++ name ++ (Text.space ++ operator.symbol ++ chainText operator name count) := by
  simp [chainText, linksText, List.replicate_succ]

/-- A chain of an operator that groups from the right is read as one expression, and every
link of it is one more expression inside of the others. -/
theorem exists_reads_of_chainText
    {region : Region}
    {operator : Operator}
    {name : Text}
    (apart : region.Apart)
    (admits : region.grammar.operators.Admits operator)
    (right : operator.associativity = .right)
    (named : name.IsName)
    {least : Int}
    (strong : least ≤ operator.precedence)
    {count : Nat}
    {cursor finish : Cursor}
    (spells : cursor.Spells (chainText operator name count) finish)
    (before : finish.IsBeforeSpace)
    (done : region.isDone finish = true) :
    (∃ node, region.Reads (.expression least) 0 cursor node finish) ∧
      region.Stacks (count + 1) least cursor := by
  induction count generalizing least cursor with
  | zero =>
    rw [chainText, List.replicate_zero, linksText, List.flatMap_nil, List.append_nil] at spells
    have operand := Reads.of_name 0 apart named spells before (.inl done)
    exact ⟨⟨_, .expression operand .none (.inl done)⟩, .one⟩
  | succ count hypothesis =>
    rw [chainText_succ] at spells
    obtain ⟨middle, word, others⟩ := spells.of_append
    obtain ⟨behind, marked, rest⟩ := others.of_append
    have spaced : (chainText operator name count).IsSpaced :=
      ⟨name ++ linksText _, List.append_assoc _ _ _⟩
    have next := Continues.of_spelled_operator apart marked Text.isBlank_space admits.whole
      (rest.isBeforeSpace spaced)
    have meets : region.Meets middle _ operator behind := ⟨next, rfl, admits.known⟩
    have operand := Reads.of_name 0 apart named word
      (marked.isBeforeSpace (Text.isSpaced_space _)) (.inr ⟨_, _, next, by simp⟩)
    -- The operator may stand in its own right operand, so the rest of the chain does.
    have same : operator.rightPrecedence = operator.precedence := by
      rw [Operator.rightPrecedence, right]
    obtain ⟨⟨node, inner⟩, stacked⟩ := hypothesis (le_of_eq same) rest
    exact ⟨⟨_, .expression operand (.binary meets strong admits.role inner .none) (.inl done)⟩,
      .more operand meets strong admits.role stacked⟩

end Region

/-- What stops the first rule stops both. -/
theorem Document.Rule.bind_of_error
    {first : Rule α}
    {state after : State}
    {halt : Halt}
    (stopped : first state = .error halt after)
    (second : α → Rule β) :
    (first >>= second) state = .error halt after := by
  simp only [bind, EStateM.bind, stopped]

namespace Template

open Document

/-! ## Inline expressions that are not read -/

section Unread

variable
  {table : OperatorTable}
  {limit : Int}
  {name body : Text}
  {calls : Nat}
  {halt : Halt}
  {after : State}

theorem insertion_of_expression_error
    (stopped : (inlineRegion ⟨table, limit, Kind.all⟩ body).expression calls 1 1
      (inlineStart name body) = .error halt) :
    ∃ after, insertion (grammarFor ⟨table, limit, Kind.all⟩ (inlineSource body)) 1 (calls + 1)
      (initial name .braces (inlineSource body)) = .error halt after := by
  let start := initial name .braces (inlineSource body)
  have failed : Rule.reading ((inlineRegion ⟨table, limit, Kind.all⟩ body).expression calls 1 1)
      { start with cursor := inlineStart name body } = .error halt
        { start with cursor := inlineStart name body } := by
    simp only [Rule.reading, stopped]
  exact ⟨_, Rule.bind_of_error failed _⟩

theorem parts_of_insertion_error
    (stopped : insertion (grammarFor ⟨table, limit, Kind.all⟩ (inlineSource body)) 1 calls
      (initial name .braces (inlineSource body)) = .error halt after) :
    parts (grammarFor ⟨table, limit, Kind.all⟩ (inlineSource body)) (calls + 1) 1
      (initial name .braces (inlineSource body)) = .error halt after := by
  have opens := kind?_inlineSource table limit name body
  have unread := State.isAtEnd_eq_false opens
  rw [parts, show (grammarFor ⟨table, limit, Kind.all⟩ (inlineSource body)).turns =
      (inlineSource body).length + 1 from rfl, collectParts, Rule.get_bind,
    if_neg (by simpa using unread), opens]
  exact Rule.bind_of_error stopped _

theorem document_of_parts_error
    (positive : 1 ≤ limit)
    (stopped : parts (grammarFor ⟨table, limit, Kind.all⟩ (inlineSource body)) calls 1
      (initial name .braces (inlineSource body)) = .error halt after) :
    document (grammarFor ⟨table, limit, Kind.all⟩ (inlineSource body)) (calls + 1) 0
      (initial name .braces (inlineSource body)) = .error halt after := by
  have nested : Reading.nest (grammarFor ⟨table, limit, Kind.all⟩ (inlineSource body)) 0
      (initial name .braces (inlineSource body)).cursor.position = .ok 1 :=
    Reading.nest_eq_ok.2 ⟨show (0 + 1 : Int) ≤ limit by omega, rfl⟩
  rw [document, Rule.get_bind, nested]
  exact Rule.bind_of_error stopped _

theorem readWithin_of_document_error
    (stopped : document (grammarFor ⟨table, limit, Kind.all⟩ (inlineSource body)) calls 0
      (initial name .braces (inlineSource body)) = .error halt after) :
    (readWithin calls ⟨table, limit, Kind.all⟩ name .braces (inlineSource body)).result =
      .error halt := by
  have failed : whole (grammarFor ⟨table, limit, Kind.all⟩ (inlineSource body)) calls name
      ⟨Cursor.start name (inlineSource body), .braces, [], []⟩ = .error halt after :=
    Rule.bind_of_error stopped _
  unfold readWithin
  dsimp only
  rw [failed]

/-- A source whose inline expression wants more open rules than there may be wants more. -/
theorem readWithin_inlineSource_eq_exhausted
    (positive : 1 ≤ limit)
    (exhausted : ∀ fewer ≤ calls, (inlineRegion ⟨table, limit, Kind.all⟩ body).expression fewer 1 1
      (inlineStart name body) = .error .exhausted) :
    (readWithin calls ⟨table, limit, Kind.all⟩ name .braces (inlineSource body)).result =
      .error .exhausted := by
  cases calls with
  | zero => exact readWithin_of_document_error (by rw [document]; rfl)
  | succ calls =>
    cases calls with
    | zero =>
      exact readWithin_of_document_error (document_of_parts_error positive (by rw [parts]; rfl))
    | succ calls =>
      cases calls with
      | zero =>
        exact readWithin_of_document_error (document_of_parts_error positive
          (parts_of_insertion_error rfl))
      | succ calls =>
        obtain ⟨after, stopped⟩ := insertion_of_expression_error (exhausted calls (by omega))
        exact readWithin_of_document_error (document_of_parts_error positive
          (parts_of_insertion_error stopped))

/-- A source whose inline expression is not read is not read, for the same reason. -/
theorem read_inlineSource_eq_error
    (positive : 1 ≤ limit)
    (stopped : ∀ calls, (inlineRegion ⟨table, limit, Kind.all⟩ body).expression (calls + 4) 1 1
      (inlineStart name body) = .error halt) :
    (read ⟨table, limit, Kind.all⟩ name .braces (inlineSource body)).result = .error halt := by
  obtain ⟨after, failed⟩ := insertion_of_expression_error
    (stopped (4 * (inlineSource body).length + 9))
  rw [← readWithin_callsFor]
  exact readWithin_of_document_error (document_of_parts_error positive
    (parts_of_insertion_error failed))

end Unread

/-- A chain of an operator that groups from the right, as an inline expression. -/
def chainBody (operator : Operator) (count : Nat) : Text :=
  Region.chainText operator (Text.of "a") count ++
    (Text.space ++ Delimiters.braces.inline.closing)

/-- However few levels are allowed, chains of an operator that groups from the right are
read, and each of their links opens one more expression inside of the others. -/
theorem read_chainBody
    {table : OperatorTable}
    {operator : Operator}
    {limit : Int}
    (admits : table.Admits operator)
    (right : operator.associativity = .right)
    (positive : 1 ≤ limit)
    (count : Nat) :
    (∃ template, (read ⟨table, limit, Kind.all⟩ [] .braces
        (inlineSource (chainBody operator count))).result = .ok template) ∧
      (inlineRegion ⟨table, limit, Kind.all⟩ (chainBody operator count)).Stacks (count + 1) 1
        (inlineStart [] (chainBody operator count)) := by
  have apart := apart_inlineRegion ⟨table, limit, Kind.all⟩ (chainBody operator count)
  have unread : (inlineStart [] (chainBody operator count)).rest = chainBody operator count :=
    Cursor.rest_forward_of_append rfl
  have spells := Cursor.spells_forward unread
  have ends := Cursor.rest_forward_of_append unread
  have done := apart.isDone_eq_true (by rw [ends]; exact (List.append_nil _).symm)
    Text.isBlank_space
  obtain ⟨⟨node, reads⟩, stacked⟩ := Region.exists_reads_of_chainText apart admits right
    (show (Text.of "a").IsName by decide) admits.positive spells ⟨_, ends⟩ done
  exact ⟨⟨_, read_inlineSource reads ends (by simpa using positive)⟩, stacked⟩

/-- Fewer open rules than links are too few for a chain. -/
theorem readWithin_chainBody
    {table : OperatorTable}
    {operator : Operator}
    {limit : Int}
    (admits : table.Admits operator)
    (right : operator.associativity = .right)
    (positive : 1 ≤ limit)
    (count : Nat) :
    (readWithin count ⟨table, limit, Kind.all⟩ [] .braces
      (inlineSource (chainBody operator count))).result = .error .exhausted := by
  obtain ⟨_, stacked⟩ := read_chainBody admits right positive count
  refine readWithin_inlineSource_eq_exhausted positive fun fewer few => ?_
  refine stacked.expression_eq_exhausted (show ((1 : Nat) : Int) ≤ limit by omega) ?_ (by omega)
  simp only [inlineStart, inlineRegion, grammarFor, Cursor.rest_forward, List.length_drop]
  exact Nat.lt_succ_of_le (Nat.sub_le _ _)

/-- The limit bounds the rules that are open at the same time for every table whose binary
operators group from the left.  For every other table it bounds nothing: there are
templates with any number of expressions inside of each other. -/
theorem read_within_tiers_or_unbounded
    (table : OperatorTable)
    (limit : Int) :
    (table.GroupsFromLeft → ∀ order name delimiters source,
      readWithin (((table.tiers 1).card + 4) * limit.toNat + 5) ⟨table, limit, order⟩ name
          delimiters source =
        read ⟨table, limit, order⟩ name delimiters source) ∧
    (¬ table.GroupsFromLeft → 1 ≤ limit → ∀ count, ∃ body template,
      (read ⟨table, limit, Kind.all⟩ [] .braces (inlineSource body)).result = .ok template ∧
      (inlineRegion ⟨table, limit, Kind.all⟩ body).Stacks (count + 1) 1 (inlineStart [] body) ∧
      (readWithin count ⟨table, limit, Kind.all⟩ [] .braces (inlineSource body)).result =
        .error .exhausted) := by
  constructor
  · intro left order name delimiters source
    have affords : Affords (grammarFor ⟨table, limit, order⟩ source) ((table.tiers 1).card + 4) :=
      ⟨left, by simp [grammarFor], by omega⟩
    exact readWithin_eq_read affords (le_refl _) name delimiters
  · intro notLeft positive count
    simp only [OperatorTable.GroupsFromLeft, not_forall] at notLeft
    obtain ⟨operator, admits, notLeft⟩ := notLeft
    have right : operator.associativity = .right := by
      cases side : operator.associativity with
      | left => exact absurd side notLeft
      | right => rfl
    obtain ⟨⟨template, success⟩, stacked⟩ := read_chainBody admits right positive count
    exact ⟨chainBody operator count, template, success, stacked,
      readWithin_chainBody admits right positive count⟩

/-- The standard operators with a minus sign that groups from the right. -/
def rightMinusTable : OperatorTable :=
  OperatorTable.standard.overlay [⟨Text.of "-", 5, .right, .binary⟩]

theorem admits_rightMinus : rightMinusTable.Admits ⟨Text.of "-", 5, .right, .binary⟩ where
  known := by decide
  whole := by decide
  role := rfl
  positive := by decide

/-- Forty-one open rules are enough for four levels of the standard operators; with a minus
sign that groups from the right no number is enough for a single level. -/
theorem read_within_tiers_of_minus :
    (∀ source, readWithin 41 { limit := 4 } [] .braces source =
      read { limit := 4 } [] .braces source) ∧
    ∀ count, ∃ body,
      (readWithin count ⟨rightMinusTable, 1, Kind.all⟩ [] .braces (inlineSource body)).result =
        .error .exhausted := by
  constructor
  · intro source
    exact (read_within_tiers_or_unbounded .standard 4).1
      (affords_standard 4 Kind.all []).left Kind.all [] .braces source
  · intro count
    obtain ⟨body, _, _, _, exhausted⟩ := (read_within_tiers_or_unbounded rightMinusTable 1).2
      (fun left => Associativity.noConfusion (left _ admits_rightMinus)) (le_refl 1) count
    exact ⟨body, exhausted⟩

/-- With a minus sign that groups from the right no number bounds the expressions that are
open at the same time, not even under a limit that allows for a single document. -/
theorem stacks_unbounded_of_rightMinus :
    ¬ ∃ bound, ∀ body template count,
      (read ⟨rightMinusTable, 1, Kind.all⟩ [] .braces (inlineSource body)).result =
        .ok template →
      (inlineRegion ⟨rightMinusTable, 1, Kind.all⟩ body).Stacks count 1 (inlineStart [] body) →
        count ≤ bound := by
  rintro ⟨bound, bounded⟩
  obtain ⟨⟨template, success⟩, stacked⟩ :=
    read_chainBody admits_rightMinus rfl (le_refl (1 : Int)) bound
  exact absurd (bounded _ template _ success stacked) (by omega)

end Template

end Stencil
