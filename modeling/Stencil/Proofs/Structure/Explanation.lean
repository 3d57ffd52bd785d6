import Stencil.Proofs.Structure

/-!
# Derivations between states

What stands between two states of a source is explained by a form of the grammar
of documents if it can be cut into segments that are derived from the form, with
blank gaps only.  Explanations are put together as derivations are: the tag that
opens a block, its bodies and clauses, and the tag that ends it.
-/

namespace Stencil

namespace Document

/-! ## Lists of segments without open gaps -/

/-- The gaps of a list of segments are blank, and none is left open at its
end. -/
def Gapless (segments : List Segment) : Prop :=
  ∀ rest, gapsAreBlank (segments ++ rest) = gapsAreBlank rest

theorem Gapless.nil : Gapless [] :=
  fun _ => rfl

theorem Gapless.append
    {front back : List Segment}
    (near : Gapless front)
    (far : Gapless back) :
    Gapless (front ++ back) := by
  intro rest
  rw [List.append_assoc, near, far]

theorem Gapless.cons
    {segment : Segment}
    {rest : List Segment}
    (plain : segment.opensSelection = false)
    (gapless : Gapless rest) :
    Gapless (segment :: rest) := by
  intro others
  rw [List.cons_append, gapsAreBlank_cons_of_not_opens plain, gapless]

theorem Gapless.single
    {segment : Segment}
    (plain : segment.opensSelection = false) :
    Gapless [segment] :=
  .cons plain .nil

/-- A selection leaves no gap open if the segments before its alternatives are
blank. -/
theorem Gapless.selection
    {opener behind : Position}
    {subject : Content}
    {gap rest : List Segment}
    (noTag : ∀ segment ∈ gap, segment.isTag = false)
    (blank : gap.all Segment.isBlank = true)
    (begins : BeginsWithTag rest)
    (gapless : Gapless rest) :
    Gapless (.tag opener (.scrutinee subject) behind :: (gap ++ rest)) := by
  intro others
  rw [List.cons_append, List.append_assoc, gapsAreBlank_scrutinee noTag (begins.append others),
    blank, Bool.true_and, gapless]

/-! ## Derivations between states -/

/-- What stands between two states can be derived, with blank gaps. -/
def Explained
    (grammar : Grammar)
    (form : Form)
    (levels : Nat)
    (state after : State) : Prop :=
  ∃ segments, Steps grammar state segments after ∧ Derives form levels segments ∧
    Gapless segments

/-- An item that is one segment. -/
theorem Explained.single
    {grammar : Grammar}
    {form : Form}
    {levels : Nat}
    {state after : State}
    {segment : Segment}
    (step : Step grammar state segment after)
    (derives : Derives form levels [segment])
    (plain : segment.opensSelection = false) :
    Explained grammar form levels state after :=
  ⟨[segment], .single step, derives, .single plain⟩

theorem Content.fits (node : Node) (levels : Nat) : Content.levels ⟨node, levels⟩ ≤ levels :=
  Nat.le_refl levels

variable
  {grammar : Grammar}
  {levels : Nat}
  {state second third fourth fifth after : State}
  {opener last finish : Position}

theorem Explained.mono
    {form : Form}
    {more : Nat}
    (explained : Explained grammar form levels state after)
    (fewer : levels ≤ more) :
    Explained grammar form more state after := by
  obtain ⟨segments, steps, derives, gapless⟩ := explained
  exact ⟨segments, steps, derives.mono fewer, gapless⟩

/-- A form that may stand for nothing. -/
theorem Explained.nothing
    {form : Form}
    (derives : Derives form levels []) :
    Explained grammar form levels state state :=
  ⟨[], .nil, derives, .nil⟩

/-- An item and the items behind it. -/
theorem Explained.next
    {pieces others : List Piece}
    (item : Explained grammar (.item pieces) levels state second)
    (items : Explained grammar (.items others) levels second after) :
    Explained grammar (.items (pieces ++ others)) levels state after := by
  obtain ⟨front, near, first, nearGapless⟩ := item
  obtain ⟨back, far, rest, farGapless⟩ := items
  exact ⟨front ++ back, near.append far, .next first rest, nearGapless.append farGapless⟩

/-- The items of a document. -/
theorem Explained.wholeDocument
    {position : Position}
    {pieces : List Piece}
    (items : Explained grammar (.items pieces) levels state after) :
    Explained grammar (.document position (Node.sequenced position (Piece.joined pieces)))
      (levels + 1) state after := by
  obtain ⟨segments, steps, derives, gapless⟩ := items
  exact ⟨segments, steps, .document derives, gapless⟩

/-- The tag for all other cases and its body. -/
theorem Explained.default
    {body : Node}
    (step : Step grammar state (.tag opener (.marker .otherwise) second.cursor.position) second)
    (rest : Explained grammar (.document second.cursor.position body) levels second after) :
    Explained grammar (.otherwise (some body)) levels state after := by
  obtain ⟨segments, steps, derives, gapless⟩ := rest
  exact ⟨_, .cons step steps, .default derives, .cons rfl gapless⟩

/-- A further condition, its body and the conditions behind it. -/
theorem Explained.branch
    {test : Content}
    {body : Node}
    {branches : List (Node × Node)}
    (step : Step grammar state (.tag opener (.further test) second.cursor.position) second)
    (fits : test.levels ≤ levels)
    (first : Explained grammar (.document second.cursor.position body) levels second third)
    (others : Explained grammar (.branches branches) levels third after) :
    Explained grammar (.branches ((test.node, body) :: branches)) levels state after := by
  obtain ⟨bodySegments, bodySteps, bodyDerives, bodyGapless⟩ := first
  obtain ⟨segments, steps, derives, gapless⟩ := others
  exact ⟨_, .cons step (bodySteps.append steps), .branch fits bodyDerives derives,
    .cons rfl (bodyGapless.append gapless)⟩

/-- An alternative, its body and the alternatives behind it. -/
theorem Explained.alternative
    {pattern : Pattern}
    {body : Node}
    {alternatives : List (Pattern × Node)}
    (step : Step grammar state (.tag opener (.alternative pattern) second.cursor.position) second)
    (first : Explained grammar (.document second.cursor.position body) levels second third)
    (others : Explained grammar (.alternatives alternatives) levels third after) :
    Explained grammar (.alternatives ((pattern, body) :: alternatives)) levels state after := by
  obtain ⟨bodySegments, bodySteps, bodyDerives, bodyGapless⟩ := first
  obtain ⟨segments, steps, derives, gapless⟩ := others
  exact ⟨_, .cons step (bodySteps.append steps), .alternative bodyDerives derives,
    .cons rfl (bodyGapless.append gapless)⟩

theorem Explained.conditionalItem
    {test : Content}
    {body : Node}
    {branches : List (Node × Node)}
    {default : Option Node}
    (step : Step grammar state (.tag opener (.condition test) second.cursor.position) second)
    (fits : test.levels ≤ levels)
    (first : Explained grammar (.document second.cursor.position body) levels second third)
    (others : Explained grammar (.branches branches) levels third fourth)
    (rest : Explained grammar (.otherwise default) levels fourth fifth)
    (ends : Step grammar fifth (.tag last (.marker .endConditional) finish) after) :
    Explained grammar (.item [.part (Node.conditional ((test.node, body) :: branches) default)])
      levels state after := by
  obtain ⟨bodySegments, bodySteps, bodyDerives, bodyGapless⟩ := first
  obtain ⟨branchSegments, branchSteps, branchDerives, branchGapless⟩ := others
  obtain ⟨defaultSegments, defaultSteps, defaultDerives, defaultGapless⟩ := rest
  have steps := bodySteps.append (branchSteps.append (defaultSteps.append (.single ends)))
  refine ⟨_, .cons step steps, .conditional fits bodyDerives branchDerives defaultDerives,
    .cons rfl ?_⟩
  exact bodyGapless.append (branchGapless.append (defaultGapless.append (.single rfl)))

theorem Explained.selectionItem
    {subject : Content}
    {gap : List Segment}
    {alternatives : List (Pattern × Node)}
    {default : Option Node}
    (step : Step grammar state (.tag opener (.scrutinee subject) second.cursor.position) second)
    (fits : subject.levels ≤ levels)
    (gapSteps : Steps grammar second gap third)
    (noTag : ∀ segment ∈ gap, segment.isTag = false)
    (blank : gap.all Segment.isBlank = true)
    (cases : Explained grammar (.alternatives alternatives) levels third fourth)
    (rest : Explained grammar (.otherwise default) levels fourth fifth)
    (ends : Step grammar fifth (.tag last (.marker .endSelection) finish) after) :
    Explained grammar (.item [.part (Node.selected subject.node alternatives default)]) levels
      state after := by
  obtain ⟨caseSegments, caseSteps, caseDerives, caseGapless⟩ := cases
  obtain ⟨defaultSegments, defaultSteps, defaultDerives, defaultGapless⟩ := rest
  have steps := gapSteps.append (caseSteps.append (defaultSteps.append (.single ends)))
  refine ⟨_, .cons step steps, .selection fits noTag caseDerives defaultDerives,
    .selection noTag blank ?_ ?_⟩
  · exact caseDerives.clause_append rfl (defaultDerives.clause_append rfl .cons)
  · exact caseGapless.append (defaultGapless.append (.single rfl))

theorem Explained.loopItem
    {item : Identifier}
    {source : Variable}
    {body : Node}
    {default : Option Node}
    (step : Step grammar state (.tag opener (.loop item source) second.cursor.position) second)
    (each : Explained grammar (.document second.cursor.position body) levels second third)
    (rest : Explained grammar (.otherwise default) levels third fourth)
    (ends : Step grammar fourth (.tag last (.marker .endLoop) finish) after) :
    Explained grammar (.item [.part (.loop opener item source.reference body default)]) levels state
      after := by
  obtain ⟨bodySegments, bodySteps, bodyDerives, bodyGapless⟩ := each
  obtain ⟨defaultSegments, defaultSteps, defaultDerives, defaultGapless⟩ := rest
  have steps := bodySteps.append (defaultSteps.append (.single ends))
  refine ⟨_, .cons step steps, .loop bodyDerives defaultDerives, .cons rfl ?_⟩
  exact bodyGapless.append (defaultGapless.append (.single rfl))

theorem Explained.bindingItem
    {name : Identifier}
    {value : Content}
    {body : Node}
    (step : Step grammar state (.tag opener (.binding name value) second.cursor.position) second)
    (fits : value.levels ≤ levels)
    (scope : Explained grammar (.document second.cursor.position body) levels second third)
    (ends : Step grammar third (.tag last (.marker .endBinding) finish) after) :
    Explained grammar (.item [.part (.binding opener name value.node body)]) levels state
      after := by
  obtain ⟨bodySegments, bodySteps, bodyDerives, bodyGapless⟩ := scope
  refine ⟨_, .cons step (bodySteps.append (.single ends)), .binding fits bodyDerives,
    .cons rfl ?_⟩
  exact bodyGapless.append (.single rfl)

end Document

end Stencil
