import Stencil.Proofs.Segment.Unique

/-!
# Ambiguous delimiters

Delimiters are ambiguous if and only if the opening delimiters of two kinds can stand at
one place of a text.  Where they are not, it does not matter in which order the kinds are
tried: the kind of region that opens at a cursor and the text before the next region are
the same.  Expressions do not depend on this order at all.
-/

namespace Stencil

namespace Delimiters

theorem overlap_of_common_text
    {left right text : Text}
    (first : left <+: text)
    (second : right <+: text) :
    overlap left right = true := by
  simp only [overlap, Bool.or_eq_true, List.isPrefixOf_iff_prefix]
  exact List.prefix_or_prefix_of_prefix first second

theorem exists_of_overlap
    {left right : Text}
    (overlaps : overlap left right = true) :
    ∃ text, left <+: text ∧ right <+: text := by
  simp only [overlap, Bool.or_eq_true, List.isPrefixOf_iff_prefix] at overlaps
  rcases overlaps with shorter | longer
  · exact ⟨right, shorter, List.prefix_refl right⟩
  · exact ⟨left, List.prefix_refl left, longer⟩

theorem ne_of_mem_orderedPairs
    {pair : Kind × Kind}
    (listed : pair ∈ orderedPairs Kind.all) :
    pair.1 ≠ pair.2 := by
  have checked : ∀ pair ∈ orderedPairs Kind.all, pair.1 ≠ pair.2 := by decide
  exact checked pair listed

/-- Delimiters have no ambiguities if and only if at no place of a text the opening
delimiters of two kinds stand. -/
theorem ambiguities_eq_nil_iff
    {delimiters : Delimiters} :
    delimiters.ambiguities = [] ↔
      ∀ (text : Text) (index : Nat) (kind other : Kind),
        (delimiters.pair kind).opening <+: text.drop index →
        (delimiters.pair other).opening <+: text.drop index → kind = other := by
  constructor
  · intro clear text index kind other first second
    by_contra different
    have apart := overlap_eq_false clear different
    rw [overlap_of_common_text first second] at apart
    cases apart
  · intro unique
    rw [ambiguities, List.filter_eq_nil_iff]
    intro pair listed overlaps
    obtain ⟨text, first, second⟩ := exists_of_overlap overlaps
    exact ne_of_mem_orderedPairs listed (unique text 0 pair.1 pair.2 first second)

end Delimiters

/-! ## Another order -/

/-- The grammar with another order of recognition. -/
def Grammar.ordered (grammar : Grammar) (order : List Kind) : Grammar :=
  { grammar with order := order }

/-- The region with another order of recognition. -/
def Region.ordered (region : Region) (order : List Kind) : Region :=
  { region with grammar := region.grammar.ordered order }

namespace Document.State

variable
  {state : State}
  {order other : List Kind}

/-- Without ambiguities, the kind of a region is the same in every order. -/
theorem kind?_of_perm
    (clear : state.delimiters.ambiguities = [])
    (permuted : order.Perm other) :
    state.kind? other = state.kind? order := by
  cases found : state.kind? order with
  | none =>
    refine List.find?_eq_none.2 fun kind listed => ?_
    exact List.find?_eq_none.1 found kind (permuted.mem_iff.2 listed)
  | some kind =>
    have listed := permuted.mem_iff.1 (List.mem_of_find?_eq_some found)
    exact kind?_eq_some clear listed (begins_of_kind? found)

theorem isAtTag_of_perm
    (clear : state.delimiters.ambiguities = [])
    (permuted : order.Perm other)
    (keyword : Text) :
    state.isAtTag other keyword = state.isAtTag order keyword := by
  rw [isAtTag, isAtTag, kind?_of_perm clear permuted]

end Document.State

theorem Text.beforeAny_of_perm
    {literals others : List Text}
    (permuted : literals.Perm others)
    (text : Text) :
    beforeAny others text = beforeAny literals text := by
  induction text with
  | nil => rfl
  | cons point rest hypothesis =>
    have same : (others.any fun literal => literal.isPrefixOf (point :: rest)) =
        literals.any fun literal => literal.isPrefixOf (point :: rest) := by
      rw [Bool.eq_iff_iff, List.any_eq_true, List.any_eq_true]
      simp only [permuted.mem_iff]
    rw [beforeAny, beforeAny, same, hypothesis]

/-- The text before the next region is the same in every order. -/
theorem Document.State.textRun_of_perm
    {order other : List Kind}
    (permuted : order.Perm other)
    (state : State) :
    state.textRun other = state.textRun order := by
  have openings : (state.delimiters.openings order).Perm (state.delimiters.openings other) :=
    permuted.map _
  simp only [textRun, Cursor.readBefore, Text.beforeAny_of_perm openings]

/-! ## Expressions in another order -/

namespace Region

variable
  {region : Region}
  {order : List Kind}

theorem identifier_ordered (calls : Nat) :
    (region.ordered order).identifier calls = region.identifier calls := by
  cases calls <;> rfl

theorem pathRest_ordered
    (name : Cursor → Except Halt (Identifier × Cursor))
    (turns : Nat) :
    (region.ordered order).pathRest name turns = region.pathRest name turns := by
  induction turns with
  | zero => rfl
  | succ turns hypothesis =>
    funext cursor
    rw [pathRest, pathRest, hypothesis]
    rfl

theorem path_ordered (calls : Nat) :
    (region.ordered order).path calls = region.path calls := by
  cases calls with
  | zero => rfl
  | succ calls =>
    funext cursor
    rw [path, path, identifier_ordered, pathRest_ordered]
    rfl

theorem pattern_ordered (calls : Nat) :
    (region.ordered order).pattern calls = region.pattern calls := by
  cases calls with
  | zero => rfl
  | succ calls =>
    funext cursor
    rw [pattern, pattern, path_ordered]
    rfl

theorem filterName_ordered
    (operator : Operator)
    (symbol : Token)
    (calls : Nat) :
    (region.ordered order).filterName operator symbol calls =
      region.filterName operator symbol calls := by
  cases calls <;> rfl

theorem operatorTail_ordered
    (filter : Operator → Token → Cursor → Except Halt (Text × Cursor))
    (operand : Int → Cursor → Except Halt (Node × Cursor))
    (least : Int)
    (turns : Nat) :
    (region.ordered order).operatorTail filter operand least turns =
      region.operatorTail filter operand least turns := by
  induction turns with
  | zero => rfl
  | succ turns hypothesis =>
    funext left cursor
    rw [operatorTail, operatorTail, hypothesis]
    rfl

/-- Expressions do not depend on the order, by induction on the rules that may be
open. -/
theorem rules_ordered (calls : Nat) :
    (region.ordered order).expression calls = region.expression calls ∧
      (region.ordered order).unary calls = region.unary calls ∧
      (region.ordered order).atom calls = region.atom calls := by
  induction calls with
  | zero =>
    refine ⟨?_, ?_, ?_⟩
    · funext depth least cursor
      rw [expression, expression]
    · funext depth cursor
      rw [unary, unary]
    · funext depth cursor
      rw [atom, atom]
  | succ calls hypothesis =>
    obtain ⟨ofExpression, ofUnary, ofAtom⟩ := hypothesis
    refine ⟨?_, ?_, ?_⟩
    · funext depth least cursor
      simp only [expression, ofExpression, ofUnary, filterName_ordered, operatorTail_ordered]
      rfl
    · funext depth cursor
      rw [unary, unary, ofUnary, ofAtom]
      rfl
    · funext depth cursor
      rw [atom, atom, ofExpression, path_ordered]
      rfl

end Region

end Stencil
