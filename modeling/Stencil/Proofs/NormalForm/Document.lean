import Stencil.Proofs.NormalForm.Expression

/-!
# Documents in normal form

Every constructor that documents are put together with keeps the normal form: text
is merged with text before it, a single part stands for itself, and conditions
become selections.  So what is derived from segments in normal form is in normal
form, and every segment that is read is.
-/

namespace Stencil

/-! ## Parts -/

namespace Node

variable {table : OperatorTable}

/-- A part before others that are apart is apart from them once texts are merged. -/
theorem textsApart_merged
    {part : Node}
    {parts : List Node}
    (separate : textsApart parts = true) :
    textsApart (merged [part] parts) = true := by
  cases partText : part.isText with
  | false =>
    rw [merged_singleton_of_not_isText partText]
    cases parts with
    | nil => rfl
    | cons next rest => simpa [textsApart, partText] using separate
  | true =>
    obtain ⟨position, run, rfl⟩ := exists_of_isText partText
    cases parts with
    | nil => rfl
    | cons next rest =>
      cases nextText : next.isText with
      | false =>
        rw [merged_of_head? (by rintro first ⟨⟩; exact nextText)]
        simpa [textsApart, nextText] using separate
      | true =>
        obtain ⟨second, more, rfl⟩ := exists_of_isText nextText
        cases rest with
        | nil => rfl
        | cons third others => simpa [merged, textsApart, isText] using separate

/-- Merging texts keeps parts in normal form. -/
theorem isNormal_merged
    {part : Node}
    {parts : List Node}
    (first : part.IsNormal table)
    (others : ∀ other ∈ parts, other.IsNormal table) :
    ∀ other ∈ merged [part] parts, other.IsNormal table := by
  unfold merged
  split
  · rename_i position run second more rest last
    obtain rfl : part = .text position run := by simpa using last
    rw [List.dropLast_singleton, List.nil_append, List.forall_mem_cons]
    refine ⟨.text ?_, (List.forall_mem_cons.1 others).2⟩
    cases first with
    | text notEmpty => simp [notEmpty]
    | expression isPure => cases isPure
  · exact List.forall_mem_append.2 ⟨List.forall_mem_singleton.2 first, others⟩

/-- Parts that are apart and flat are in normal form as one node. -/
theorem isNormal_sequenced
    {position : Position}
    {parts : List Node}
    (flat : ∀ part ∈ parts, part.isSequence = false)
    (separate : textsApart parts = true)
    (each : ∀ part ∈ parts, part.IsNormal table) :
    (sequenced position parts).IsNormal table := by
  unfold sequenced
  split
  · exact each _ List.mem_cons_self
  · rename_i parts notSingle
    refine .sequence ?_ flat separate each
    intro single
    obtain ⟨part, rfl⟩ := List.length_eq_one_iff.1 single
    exact notSingle part rfl

theorem isNormal_nothing : nothing.IsNormal table :=
  .sequence (by simp) (by simp) rfl (by simp)

/-- A conditional is in normal form if its conditions are expressions and its bodies
are in normal form. -/
theorem isNormal_conditional
    {branches : List (Node × Node)}
    {default : Option Node}
    (tests : ∀ branch ∈ branches, branch.1.IsPure table ∧ branch.2.IsNormal table)
    (last : ∀ body ∈ default, body.IsNormal table) :
    (conditional branches default).IsNormal table := by
  induction branches with
  | nil =>
    cases default with
    | none => exact isNormal_nothing
    | some body => exact last body rfl
  | cons branch branches hypothesis =>
    rw [List.forall_mem_cons] at tests
    obtain ⟨⟨test, body⟩, others⟩ := tests
    refine .selection test ?_ ?_
    · simp [truth, Pattern.IsNormal]
    · exact List.forall_mem_cons.2 ⟨body, List.forall_mem_singleton.2 (hypothesis others)⟩

theorem isNormal_selected
    {subject : Node}
    {alternatives : List (Pattern × Node)}
    {default : Option Node}
    (compared : subject.IsPure table)
    (cases : ∀ alternative ∈ alternatives,
      alternative.1.IsNormal ∧ alternative.2.IsNormal table)
    (last : ∀ body ∈ default, body.IsNormal table) :
    (selected subject alternatives default).IsNormal table := by
  refine .selection compared ?_ ?_
  · refine List.forall_mem_append.2 ⟨fun alternative member => (cases alternative member).1, ?_⟩
    cases default <;> simp [Pattern.IsNormal]
  · refine List.forall_mem_append.2 ⟨fun alternative member => (cases alternative member).2, ?_⟩
    cases default with
    | none => simp
    | some body => simpa using last body rfl

end Node

namespace Document

variable {table : OperatorTable}

/-- A piece is text that is not empty or a part in normal form. -/
def Piece.IsNormal (table : OperatorTable) (piece : Piece) : Prop :=
  piece.IsPlain ∧ piece.node.IsNormal table

/-- The parts of a document in normal form. -/
theorem Piece.isNormal_joined
    {pieces : List Piece}
    (normal : ∀ piece ∈ pieces, piece.IsNormal table) :
    Node.textsApart (joined pieces) = true ∧ ∀ part ∈ joined pieces, part.IsNormal table := by
  induction pieces with
  | nil => exact ⟨rfl, by simp [joined]⟩
  | cons piece pieces hypothesis =>
    rw [List.forall_mem_cons] at normal
    obtain ⟨separate, each⟩ := hypothesis normal.2
    have plain : ∀ other ∈ pieces, other.IsPlain := fun other member => (normal.2 other member).1
    have alone : joined [piece] = [piece.node] := by
      cases piece <;> rfl
    rw [← List.singleton_append, joined_append plain, alone]
    exact ⟨Node.textsApart_merged separate, Node.isNormal_merged normal.1.2 each⟩

theorem Piece.isNormal_sequenced
    {pieces : List Piece}
    (normal : ∀ piece ∈ pieces, piece.IsNormal table)
    (position : Position) :
    (Node.sequenced position (joined pieces)).IsNormal table := by
  obtain ⟨separate, each⟩ := isNormal_joined normal
  refine Node.isNormal_sequenced ?_ separate each
  intro part member
  exact isSequence_foldl_added (fun piece inside => (normal piece inside).1) (by simp) part
    (List.mem_reverse.1 member)

/-! ## Segments -/

/-- What a tag holds is in normal form. -/
def Tag.IsNormal (table : OperatorTable) : Tag → Prop
  | .condition test => test.node.IsPure table
  | .further test => test.node.IsPure table
  | .scrutinee subject => subject.node.IsPure table
  | .alternative pattern => pattern.IsNormal
  | .loop item source => item.name.IsName ∧ source.IsNamed
  | .binding name value => name.name.IsName ∧ value.node.IsPure table
  | .inclusion _ context => ∀ content ∈ context, content.node.IsPure table
  | .marker _ => True

/-- What a segment holds is in normal form. -/
def Segment.IsNormal (table : OperatorTable) : Segment → Prop
  | .text _ run => run ≠ []
  | .insertion content => content.node.IsPure table
  | .comment => True
  | .pragma => True
  | .tag _ held _ => held.IsNormal table

theorem Tag.Holds.isNormal
    {region : Region}
    {tag : Tag}
    {cursor finish : Cursor}
    (lexical : region.grammar.operators.IsLexical)
    (holds : tag.Holds region cursor finish) :
    tag.IsNormal region.grammar.operators := by
  cases holds with
  | condition reads => exact reads.isPure lexical (by simp [Region.Goal.given])
  | further reads => exact reads.isPure lexical (by simp [Region.Goal.given])
  | scrutinee reads => exact reads.isPure lexical (by simp [Region.Goal.given])
  | alternative matched => exact matched.isNormal
  | loop named joined iterated => exact ⟨Region.identifier_isName named, iterated.isNamed⟩
  | binding named signed reads =>
    exact ⟨Region.identifier_isName named, reads.isPure lexical (by simp [Region.Goal.given])⟩
  | inclusion keyed alone => simp [Tag.IsNormal]
  | inclusionWith keyed joined reads =>
    have context := reads.isPure lexical (by simp [Region.Goal.given])
    simpa [Tag.IsNormal] using context
  | marker => trivial

theorem Step.isNormal
    {grammar : Grammar}
    {state after : State}
    {segment : Segment}
    (lexical : grammar.operators.IsLexical)
    (step : Step grammar state segment after) :
    segment.IsNormal grammar.operators := by
  cases step with
  | text unread noRegion => exact State.textRun_ne_nil unread noRegion
  | insertion opens reads closes => exact reads.isPure lexical (by simp [Region.Goal.given])
  | comment => trivial
  | pragma => trivial
  | tag opens entered holds closes => exact holds.isNormal lexical

theorem Steps.isNormal
    {grammar : Grammar}
    {state after : State}
    {segments : List Segment}
    (lexical : grammar.operators.IsLexical)
    (steps : Steps grammar state segments after) :
    ∀ segment ∈ segments, segment.IsNormal grammar.operators := by
  induction steps with
  | nil => simp
  | cons step _ hypothesis => exact List.forall_mem_cons.2 ⟨step.isNormal lexical, hypothesis⟩

/-! ## Derived trees -/

/-- What a form stands for is in normal form. -/
def Form.IsNormal (table : OperatorTable) : Form → Prop
  | .item pieces => ∀ piece ∈ pieces, piece.IsNormal table
  | .items pieces => ∀ piece ∈ pieces, piece.IsNormal table
  | .document _ node => node.IsNormal table
  | .branches tests => ∀ branch ∈ tests, branch.1.IsPure table ∧ branch.2.IsNormal table
  | .alternatives cases =>
    ∀ alternative ∈ cases, alternative.1.IsNormal ∧ alternative.2.IsNormal table
  | .otherwise body => ∀ node ∈ body, node.IsNormal table

/-- One part of its own as the pieces of an item. -/
theorem Piece.isNormal_part
    {node : Node}
    (single : node.IsSingle)
    (normal : node.IsNormal table) :
    ∀ piece ∈ [Piece.part node], piece.IsNormal table :=
  List.forall_mem_singleton.2 ⟨single, normal⟩

/-- What is derived from segments in normal form is in normal form. -/
theorem Derives.isNormal
    {form : Form}
    {levels : Nat}
    {segments : List Segment}
    (derives : Derives form levels segments)
    (normal : ∀ segment ∈ segments, segment.IsNormal table) :
    form.IsNormal table := by
  induction derives with
  | text => exact List.forall_mem_singleton.2 ⟨trivial, .text (normal _ List.mem_cons_self)⟩
  | insertion fits =>
    have isPure := normal _ List.mem_cons_self
    exact Piece.isNormal_part isPure.isSingle (.expression isPure)
  | comment => simp [Form.IsNormal]
  | pragma => simp [Form.IsNormal]
  | inclusion fits =>
    have context := normal _ List.mem_cons_self
    refine Piece.isNormal_part ⟨rfl, rfl⟩ (.inclusion ?_)
    simpa [Segment.IsNormal, Tag.IsNormal] using context
  | conditional fits first others rest firstHypothesis othersHypothesis restHypothesis =>
    simp only [List.forall_mem_cons, List.forall_mem_append] at normal
    obtain ⟨test, inBody, inBranches, inDefault, _⟩ := normal
    refine Piece.isNormal_part ⟨rfl, rfl⟩
      (Node.isNormal_conditional ?_ (restHypothesis inDefault))
    exact List.forall_mem_cons.2 ⟨⟨test, firstHypothesis inBody⟩, othersHypothesis inBranches⟩
  | selection fits noTag cases rest casesHypothesis restHypothesis =>
    simp only [List.forall_mem_cons, List.forall_mem_append] at normal
    obtain ⟨subject, _, inCases, inDefault, _⟩ := normal
    exact Piece.isNormal_part ⟨rfl, rfl⟩ (Node.isNormal_selected subject
      (casesHypothesis inCases) (restHypothesis inDefault))
  | loop each rest eachHypothesis restHypothesis =>
    simp only [List.forall_mem_cons, List.forall_mem_append] at normal
    obtain ⟨named, inBody, inDefault, _⟩ := normal
    exact Piece.isNormal_part ⟨rfl, rfl⟩ (.loop named.1 named.2 (eachHypothesis inBody)
      (restHypothesis inDefault))
  | binding fits scope hypothesis =>
    simp only [List.forall_mem_cons, List.forall_mem_append] at normal
    obtain ⟨bound, inBody, _⟩ := normal
    exact Piece.isNormal_part ⟨rfl, rfl⟩ (.binding bound.1 bound.2 (hypothesis inBody))
  | nothing => simp [Form.IsNormal]
  | next first rest firstHypothesis restHypothesis =>
    rw [List.forall_mem_append] at normal
    exact List.forall_mem_append.2 ⟨firstHypothesis normal.1, restHypothesis normal.2⟩
  | document items hypothesis => exact Piece.isNormal_sequenced (hypothesis normal) _
  | noBranch => simp [Form.IsNormal]
  | branch fits first others firstHypothesis othersHypothesis =>
    simp only [List.forall_mem_cons, List.forall_mem_append] at normal
    obtain ⟨test, inBody, inBranches⟩ := normal
    exact List.forall_mem_cons.2 ⟨⟨test, firstHypothesis inBody⟩, othersHypothesis inBranches⟩
  | noAlternative => simp [Form.IsNormal]
  | alternative first others firstHypothesis othersHypothesis =>
    simp only [List.forall_mem_cons, List.forall_mem_append] at normal
    obtain ⟨pattern, inBody, inCases⟩ := normal
    exact List.forall_mem_cons.2 ⟨⟨pattern, firstHypothesis inBody⟩, othersHypothesis inCases⟩
  | noDefault => simp [Form.IsNormal]
  | default rest hypothesis =>
    rw [List.forall_mem_cons] at normal
    simpa [Form.IsNormal] using hypothesis normal.2

end Document

end Stencil
