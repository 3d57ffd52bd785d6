import Stencil.Proofs.Allowance
import Stencil.Proofs.Slice

/-!
# Segments are unique

What stands at a cursor is determined by the text behind it: at most one kind of region,
expression, pattern or list of changes can be read there, and at most one state is behind
the next segment.  So of two states that can be reached from a third, one can be reached
from the other.
-/

namespace Stencil

/-! ## Kinds of regions -/

/-- Without ambiguities, no opening delimiter begins with another one. -/
theorem Delimiters.overlap_eq_false
    {delimiters : Delimiters}
    {kind other : Kind}
    (clear : delimiters.ambiguities = [])
    (different : kind ≠ other) :
    overlap (delimiters.pair kind).opening (delimiters.pair other).opening = false := by
  have listed : (kind, other) ∈ orderedPairs Kind.all ∨ (other, kind) ∈ orderedPairs Kind.all := by
    revert different
    cases kind <;> cases other <;> decide
  have apart := List.filter_eq_nil_iff.1 clear
  rw [← Bool.not_eq_true]
  rcases listed with before | behind
  · exact apart _ before
  · rw [overlap, Bool.or_comm]
    exact apart _ behind

/-- Without ambiguities, the kind of a region is the one whose opening delimiter is
seen. -/
theorem Document.State.kind?_eq_some
    {state : State}
    {order : List Kind}
    {kind : Kind}
    (clear : state.delimiters.ambiguities = [])
    (listed : kind ∈ order)
    (begins : (state.delimiters.pair kind).opening <+: state.cursor.rest) :
    state.kind? order = some kind := by
  cases found : state.kind? order with
  | none =>
    have absent := List.find?_eq_none.1 found kind listed
    exact absurd (List.isPrefixOf_iff_prefix.2 begins) absent
  | some other =>
    have begins' := State.begins_of_kind? found
    by_cases same : other = kind
    · rw [same]
    · have apart := Delimiters.overlap_eq_false clear same
      rw [Delimiters.overlap, Bool.or_eq_false_iff] at apart
      rcases List.prefix_or_prefix_of_prefix begins' begins with shorter | longer
      · rw [List.isPrefixOf_iff_prefix.2 shorter] at apart
        cases apart.1
      · rw [List.isPrefixOf_iff_prefix.2 longer] at apart
        cases apart.2

namespace Region

variable
  {region : Region}
  {cursor finish finish' : Cursor}

theorem Names.unique
    {others others' : List Identifier}
    (first : region.Names cursor others finish)
    (second : region.Names cursor others' finish') :
    others = others' ∧ finish = finish' := by
  have read := first.pathRest_eq_ok 0 _ (Nat.lt_succ_self _)
  rw [second.pathRest_eq_ok 0 _ (Nat.lt_succ_self _)] at read
  simpa [eq_comm] using read

theorem Path.unique
    {path path' : Variable}
    (first : region.Path cursor path finish)
    (second : region.Path cursor path' finish') :
    path = path' ∧ finish = finish' := by
  obtain ⟨first, others⟩ := path
  obtain ⟨first', others'⟩ := path'
  obtain ⟨middle, name, names⟩ := first
  obtain ⟨middle', name', names'⟩ := second
  rw [name, Except.ok.injEq, Prod.mk.injEq] at name'
  obtain ⟨rfl, rfl⟩ := name'
  obtain ⟨rfl, rfl⟩ := names.unique names'
  exact ⟨rfl, rfl⟩

/-- What can be read does not depend on the limit and the turns. -/
theorem Names.allowing
    {others : List Identifier}
    (names : region.Names cursor others finish)
    (limit : Int)
    (turns : Nat) :
    (region.allowing limit turns).Names cursor others finish := by
  induction names with
  | closed done => exact .closed done
  | other next noDot => exact .other next noDot
  | dot next isDot name rest hypothesis => exact .dot next isDot name hypothesis

theorem Reads.allowing
    {goal : Goal}
    {levels : Nat}
    {node : Node}
    (reads : region.Reads goal levels cursor node finish)
    (limit : Int)
    (turns : Nat) :
    (region.allowing limit turns).Reads goal levels cursor node finish := by
  induction reads with
  | expression first rest stops firstHypothesis restHypothesis =>
    exact .expression firstHypothesis restHypothesis stops
  | none => exact .none
  | filter meets strong role named rest hypothesis =>
    exact .filter meets strong role named hypothesis
  | binary meets strong role operand rest operandHypothesis restHypothesis =>
    exact .binary meets strong role operandHypothesis restHypothesis
  | operand next bare rest hypothesis => exact .operand next bare hypothesis
  | prefixed next before rest hypothesis => exact .prefixed next before hypothesis
  | parenthesised next opening inner closing hypothesis =>
    exact .parenthesised next opening hypothesis closing
  | literal next noOpening found => exact .literal next noOpening found
  | reference next isName noLiteral found =>
    obtain ⟨middle, name, others⟩ := found
    exact .reference next isName noLiteral ⟨middle, name, others.allowing limit turns⟩

/-- At most one expression can be read at a cursor, however many levels it may have. -/
theorem Reads.unique
    {least : Int}
    {levels levels' : Nat}
    {node node' : Node}
    (first : region.Reads (.expression least) levels cursor node finish)
    (second : region.Reads (.expression least) levels' cursor node' finish') :
    node = node' ∧ finish = finish' := by
  -- The rules are functions: a limit and turns that are enough for both readings give
  -- the same to both.
  have read {levels : Nat} {node : Node} {finish : Cursor}
      (reads : region.Reads (.expression least) levels cursor node finish) (limit : Int)
      (allowed : (levels : Int) ≤ limit) :
      (region.allowing limit (cursor.rest.length + 1)).expression
        (4 * cursor.rest.length + 5) 0 least cursor = .ok (node, finish) := by
    have fits : ((0 : Nat) + levels : Int) ≤ limit := by omega
    exact (reads.allowing limit (cursor.rest.length + 1)).succeeds _ 0 fits
      (Nat.lt_succ_self _) (Nat.le_refl _)
  have same := read first (levels + levels') (by omega)
  rw [read second (levels + levels') (by omega)] at same
  simpa [eq_comm] using same

theorem Matches.unique
    {pattern pattern' : Pattern}
    (first : region.Matches cursor pattern finish)
    (second : region.Matches cursor pattern' finish') :
    pattern = pattern' ∧ finish = finish' := by
  cases first with
  | wildcard next isWildcard =>
    cases second with
    | wildcard next' _ => exact ⟨rfl, (next.unique next').2⟩
    | literal next' noWildcard _ => simp [(next.unique next').1, noWildcard] at isWildcard
    | path next' noWildcard _ _ _ => simp [(next.unique next').1, noWildcard] at isWildcard
  | literal next noWildcard found =>
    cases second with
    | wildcard next' isWildcard => simp [← (next.unique next').1, noWildcard] at isWildcard
    | literal _ _ found' =>
      rw [found] at found'
      cases found'
      exact ⟨rfl, rfl⟩
    | path _ _ _ noLiteral _ =>
      rw [found] at noLiteral
      cases noLiteral
  | path next noWildcard _ noLiteral found =>
    cases second with
    | wildcard next' isWildcard => simp [← (next.unique next').1, noWildcard] at isWildcard
    | literal _ _ found' =>
      rw [noLiteral] at found'
      cases found'
    | path _ _ _ _ found' =>
      obtain ⟨rfl, rfl⟩ := found.unique found'
      exact ⟨rfl, rfl⟩

end Region

namespace Document

variable
  {region : Region}
  {cursor finish finish' : Cursor}

theorem Changes.unique
    {changes result result' : List (Kind × Value)}
    (first : Changes region changes cursor result finish)
    (second : Changes region changes cursor result' finish') :
    result = result' ∧ finish = finish' := by
  induction first with
  | last field done =>
    cases second with
    | last field' _ =>
      rw [field] at field'
      cases field'
      exact ⟨rfl, rfl⟩
    | more field' notDone _ _ =>
      rw [field] at field'
      cases field'
      rw [done] at notDone
      cases notDone
  | more field notDone separated rest hypothesis =>
    cases second with
    | last field' done =>
      rw [field] at field'
      cases field'
      rw [done] at notDone
      cases notDone
    | more field' _ separated' rest' =>
      rw [field] at field'
      cases field'
      rw [separated] at separated'
      cases separated'
      exact hypothesis rest'

/-! ## Tags -/

/-- The forms of tags. -/
inductive Tag.Form where
  | condition
  | further
  | scrutinee
  | alternative
  | loop
  | binding
  | inclusion
  | marker (word : Marker)
deriving DecidableEq

namespace Tag

/-- The form of a tag. -/
def form : Tag → Form
  | .condition _ => .condition
  | .further _ => .further
  | .scrutinee _ => .scrutinee
  | .alternative _ => .alternative
  | .loop _ _ => .loop
  | .binding _ _ => .binding
  | .inclusion _ _ => .inclusion
  | .marker word => .marker word

/-- The word of the tags of a form. -/
def Form.keyword : Form → Text
  | .condition => Text.of "if"
  | .further => Text.of "elif"
  | .scrutinee => Text.of "case"
  | .alternative => Text.of "when"
  | .loop => Text.of "for"
  | .binding => Text.of "let"
  | .inclusion => Text.of "include"
  | .marker word => word.keyword

/-- The form with a word. -/
def Form.ofKeyword? (keyword : Text) : Option Form :=
  [condition, further, scrutinee, alternative, loop, binding, inclusion, marker .otherwise,
    marker .endConditional, marker .endSelection, marker .endLoop, marker .endBinding].find?
    fun form => form.keyword == keyword

theorem Form.ofKeyword?_keyword (form : Form) : ofKeyword? form.keyword = some form := by
  cases form with
  | marker word => cases word <;> decide
  | _ => decide

theorem keyword_form (tag : Tag) : tag.form.keyword = tag.keyword := by
  cases tag <;> rfl

/-- The word of a tag determines its form. -/
theorem form_eq_of_keyword
    {tag : Tag}
    {form : Form}
    (sameWord : tag.keyword = form.keyword) :
    tag.form = form := by
  rw [← keyword_form] at sameWord
  have sameForm := congrArg Form.ofKeyword? sameWord
  rw [Form.ofKeyword?_keyword, Form.ofKeyword?_keyword] at sameForm
  exact Option.some.inj sameForm

/-- Behind a word, a tag is determined up to the levels of its content. -/
theorem Holds.unique
    {tag tag' : Tag}
    (first : tag.Holds region cursor finish)
    (second : tag'.Holds region cursor finish')
    (sameForm : tag.form = tag'.form) :
    finish = finish' ∧ ∀ (state : State) (opener : Position),
      state.noted opener tag = state.noted opener tag' := by
  cases first with
  | condition reads =>
    cases second with
    | condition reads' => exact ⟨(reads.unique reads').2, fun _ _ => rfl⟩
    | _ => cases sameForm
  | further reads =>
    cases second with
    | further reads' => exact ⟨(reads.unique reads').2, fun _ _ => rfl⟩
    | _ => cases sameForm
  | scrutinee reads =>
    cases second with
    | scrutinee reads' => exact ⟨(reads.unique reads').2, fun _ _ => rfl⟩
    | _ => cases sameForm
  | alternative matched =>
    cases second with
    | alternative matched' => exact ⟨(matched.unique matched').2, fun _ _ => rfl⟩
    | _ => cases sameForm
  | loop named joined iterated =>
    cases second with
    | loop named' joined' iterated' =>
      rw [named] at named'
      cases named'
      rw [joined] at joined'
      cases joined'
      exact ⟨(iterated.unique iterated').2, fun _ _ => rfl⟩
    | _ => cases sameForm
  | binding named signed reads =>
    cases second with
    | binding named' signed' reads' =>
      rw [named] at named'
      cases named'
      rw [signed] at signed'
      cases signed'
      exact ⟨(reads.unique reads').2, fun _ _ => rfl⟩
    | _ => cases sameForm
  | inclusion keyed alone =>
    cases second with
    | inclusion keyed' alone' =>
      rw [keyed] at keyed'
      cases keyed'
      rw [alone] at alone'
      cases alone'
      exact ⟨rfl, fun _ _ => rfl⟩
    | inclusionWith keyed' joined' _ =>
      rw [keyed] at keyed'
      cases keyed'
      rw [alone] at joined'
      cases joined'
    | _ => cases sameForm
  | inclusionWith keyed joined reads =>
    cases second with
    | inclusion keyed' alone' =>
      rw [keyed] at keyed'
      cases keyed'
      rw [joined] at alone'
      cases alone'
    | inclusionWith keyed' joined' reads' =>
      rw [keyed] at keyed'
      cases keyed'
      rw [joined] at joined'
      cases joined'
      exact ⟨(reads.unique reads').2, fun _ _ => rfl⟩
    | _ => cases sameForm
  | marker =>
    cases second with
    | marker => exact ⟨rfl, fun _ _ => rfl⟩
    | _ => cases sameForm

end Tag

/-! ## Segments -/

variable
  {grammar : Grammar}
  {state after after' : State}

/-- A tag is entered with one word only. -/
theorem openTag_unique
    {keyword keyword' : Text}
    {opener opener' : Position}
    {opened opened' : State}
    (first : openTag keyword state = .ok opener opened)
    (second : openTag keyword' state = .ok opener' opened') :
    keyword = keyword' ∧ opener = opener' ∧ opened = opened' := by
  have seen := tagKeyword?_of_openTag first
  rw [tagKeyword?_of_openTag second, Option.some.injEq] at seen
  subst seen
  rw [first] at second
  cases second
  exact ⟨rfl, rfl, rfl⟩

/-! The kind of region at a state tells which step can be taken there. -/

section Inversion

variable {segment : Segment}

theorem Step.text_inv
    (step : Step grammar state segment after)
    (noRegion : state.kind? grammar.order = none) :
    segment = .text state.cursor.position (state.textRun grammar.order).1 ∧
      after = { state with cursor := (state.textRun grammar.order).2 } := by
  cases step with
  | text => exact ⟨rfl, rfl⟩
  | insertion opens | comment opens | pragma opens | tag opens =>
    rw [noRegion] at opens
    cases opens

theorem Step.inline_inv
    (step : Step grammar state segment after)
    (isInline : state.kind? grammar.order = some .inline) :
    ∃ content : Content, ∃ finish behind,
      Region.Reads ⟨grammar, state.delimiters.inline.closing⟩ (.expression 1) content.levels
        (state.cursor.forward state.delimiters.inline.opening.length) content.node finish ∧
      Region.close ⟨grammar, state.delimiters.inline.closing⟩ finish = .ok ((), behind) ∧
      after = { state with cursor := behind } := by
  cases step with
  | insertion _ reads closes => exact ⟨_, _, _, reads, closes, rfl⟩
  | text _ opens | comment opens | pragma opens | tag opens =>
    rw [isInline] at opens
    cases opens

theorem Step.comment_inv
    (step : Step grammar state segment after)
    (isComment : state.kind? grammar.order = some .comment) :
    Document.comment state = .ok () after := by
  cases step with
  | comment _ skipped => exact skipped
  | text _ opens | insertion opens | pragma opens | tag opens =>
    rw [isComment] at opens
    cases opens

theorem Step.pragma_inv
    (step : Step grammar state segment after)
    (isPragma : state.kind? grammar.order = some .pragma) :
    ∃ changes delimiters finish behind,
      Changes ⟨grammar, state.delimiters.pragma.closing⟩ []
        (state.cursor.forward state.delimiters.pragma.opening.length) changes finish ∧
      Region.close ⟨grammar, state.delimiters.pragma.closing⟩ finish = .ok ((), behind) ∧
      state.delimiters.change changes = .ok delimiters ∧
      after = { state with
        cursor := behind
        delimiters := delimiters
        journal := .switched state.cursor.position changes ::
          (delimiters.warnings.reverse ++ state.journal) } := by
  cases step with
  | pragma _ listed closes changed => exact ⟨_, _, _, _, listed, closes, changed, rfl⟩
  | text _ opens | insertion opens | comment opens | tag opens =>
    rw [isPragma] at opens
    cases opens

theorem Step.block_inv
    (step : Step grammar state segment after)
    (isBlock : state.kind? grammar.order = some .block) :
    ∃ tag : Tag, ∃ opener opened finish behind,
      openTag tag.keyword state = .ok opener opened ∧
      tag.Holds (opened.tagRegion grammar) opened.cursor finish ∧
      (opened.tagRegion grammar).close finish = .ok ((), behind) ∧
      after = { opened.noted opener tag with cursor := behind } := by
  cases step with
  | tag _ entered holds closes => exact ⟨_, _, _, _, _, entered, holds, closes, rfl⟩
  | text _ opens | insertion opens | comment opens | pragma opens =>
    rw [isBlock] at opens
    cases opens

end Inversion

/-- The state behind the next segment is determined. -/
theorem Step.unique
    {segment segment' : Segment}
    (first : Step grammar state segment after)
    (second : Step grammar state segment' after') :
    after = after' := by
  cases first with
  | text _ noRegion => exact (second.text_inv noRegion).2.symm
  | insertion opens reads closes =>
    obtain ⟨_, _, _, reads', closes', rfl⟩ := second.inline_inv opens
    obtain ⟨_, rfl⟩ := reads.unique reads'
    rw [closes] at closes'
    cases closes'
    rfl
  | comment opens skipped =>
    have skipped' := second.comment_inv opens
    rw [skipped] at skipped'
    cases skipped'
    rfl
  | pragma opens listed closes changed =>
    obtain ⟨_, _, _, _, listed', closes', changed', rfl⟩ := second.pragma_inv opens
    obtain ⟨rfl, rfl⟩ := listed.unique listed'
    rw [closes] at closes'
    cases closes'
    rw [changed] at changed'
    cases changed'
    rfl
  | tag opens entered holds closes =>
    obtain ⟨_, _, _, _, _, entered', holds', closes', rfl⟩ := second.block_inv opens
    obtain ⟨sameWord, rfl, rfl⟩ := openTag_unique entered entered'
    rw [← Tag.keyword_form] at sameWord
    obtain ⟨rfl, sameNote⟩ := holds.unique holds' (Tag.form_eq_of_keyword sameWord.symm).symm
    rw [closes] at closes'
    cases closes'
    rw [sameNote]

/-- Of two states behind segments, one is behind the other. -/
theorem Steps.connected
    {front front' : List Segment}
    (first : Steps grammar state front after)
    (second : Steps grammar state front' after') :
    (∃ back, Steps grammar after back after') ∨ ∃ back, Steps grammar after' back after := by
  induction first generalizing front' with
  | nil => exact .inl ⟨front', second⟩
  | cons step steps hypothesis =>
    cases second with
    | nil => exact .inr ⟨_, .cons step steps⟩
    | cons step' steps' =>
      obtain rfl := step.unique step'
      exact hypothesis steps'

/-- Segments up to the end of a source are cut at every state that can be reached. -/
theorem Steps.exists_split
    {segments front : List Segment}
    {place final : State}
    (steps : Steps grammar state segments final)
    (ended : final.cursor.isAtEnd = true)
    (reached : Steps grammar state front place) :
    ∃ near far, segments = near ++ far ∧ Steps grammar state near place ∧
      Steps grammar place far final := by
  induction reached generalizing segments with
  | nil => exact ⟨[], segments, rfl, .nil, steps⟩
  | cons step _ hypothesis =>
    cases steps with
    | nil =>
      rw [Cursor.isAtEnd, List.isEmpty_iff] at ended
      have passed := step.passes.2
      rw [ended] at passed
      cases passed
    | cons step' steps' =>
      obtain rfl := step.unique step'
      obtain ⟨near, far, rfl, first, second⟩ := hypothesis steps'
      exact ⟨_ :: near, far, rfl, .cons step' first, second⟩

end Document

end Stencil
