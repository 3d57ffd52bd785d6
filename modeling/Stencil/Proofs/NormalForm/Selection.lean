import Mathlib.Data.List.Forall2
import Stencil.Proofs.NormalForm.Document

/-!
# Where selections come from

Conditions and scrutinees both become selections.  The selections of a tree, taken
from the root to the leaves, come from the tags of conditions and scrutinees in the
order of the source; the selection of a condition is between true and false.
-/

namespace Stencil

namespace Node

mutual

/-- The scrutinees and the patterns of the selections of a tree, from the root to the
leaves and from the left to the right. -/
def selections : Node → List (Node × List Pattern)
  | .text _ _ => []
  | .literal _ _ => []
  | .reference _ => []
  | .function _ _ => []
  | .apply _ callee argument => selections callee ++ selections argument
  | .selection _ scrutinee alternatives =>
    (scrutinee, alternatives.map Prod.fst) ::
      (selections scrutinee ++ alternativeSelections alternatives)
  | .loop _ _ _ body otherwise => selections body ++ optionalSelections otherwise
  | .binding _ _ value body => selections value ++ selections body
  | .inclusion _ _ context => optionalSelections context
  | .sequence _ parts => partSelections parts
  | .bare _ => []

/-- The selections of an optional tree. -/
def optionalSelections : Option Node → List (Node × List Pattern)
  | none => []
  | some node => selections node

/-- The selections of a list of trees. -/
def partSelections : List Node → List (Node × List Pattern)
  | [] => []
  | part :: rest => selections part ++ partSelections rest

/-- The selections of a list of alternatives. -/
def alternativeSelections : List (Pattern × Node) → List (Node × List Pattern)
  | [] => []
  | (_, body) :: rest => selections body ++ alternativeSelections rest

end

theorem partSelections_append (front back : List Node) :
    partSelections (front ++ back) = partSelections front ++ partSelections back := by
  induction front with
  | nil => simp [partSelections]
  | cons part front hypothesis => simp [partSelections, hypothesis]

theorem alternativeSelections_append (front back : List (Pattern × Node)) :
    alternativeSelections (front ++ back) =
      alternativeSelections front ++ alternativeSelections back := by
  induction front with
  | nil => simp [alternativeSelections]
  | cons alternative front hypothesis => simp [alternativeSelections, hypothesis]

/-- An expression holds no selection. -/
theorem IsPure.selections_eq_nil
    {table : OperatorTable}
    {node : Node}
    (isPure : node.IsPure table) :
    node.selections = [] := by
  induction isPure with
  | literal => rw [selections]
  | reference named => rw [selections]
  | call known notBinary given hypothesis => simp [selections, hypothesis]
  | binary known first second firstHypothesis secondHypothesis =>
    simp [selections, firstHypothesis, secondHypothesis]

@[simp] theorem selections_sequenced (position : Position) (parts : List Node) :
    (sequenced position parts).selections = partSelections parts := by
  unfold sequenced
  split
  · simp [partSelections]
  · rw [selections]

/-- The selection of a condition is between true and false. -/
theorem selections_conditional_cons
    (test body : Node)
    (branches : List (Node × Node))
    (otherwise : Option Node) :
    (conditional ((test, body) :: branches) otherwise).selections =
      (test, [truth true, truth false]) :: (test.selections ++
        (body.selections ++ (conditional branches otherwise).selections)) := by
  have folded : conditional ((test, body) :: branches) otherwise =
      choice test body (conditional branches otherwise) := rfl
  rw [folded, choice, selections]
  simp [alternativeSelections]

theorem selections_selected
    (scrutinee : Node)
    (alternatives : List (Pattern × Node))
    (otherwise : Option Node) :
    (selected scrutinee alternatives otherwise).selections =
      (scrutinee, alternatives.map Prod.fst ++ (otherwise.map fun _ => .wildcard).toList) ::
        (scrutinee.selections ++
          (alternativeSelections alternatives ++ optionalSelections otherwise)) := by
  rw [selected, selections, alternativeSelections_append]
  cases otherwise <;> simp [alternativeSelections, optionalSelections]

end Node

namespace Document

/-- A tag that a selection comes from. -/
inductive Opener where
  /-- The tag of a condition. -/
  | condition (test : Node)
  /-- The tag of a scrutinee. -/
  | scrutinee (subject : Node)

/-- The selection of a tag: a scrutinee is compared with some patterns, and a
condition with true and false. -/
inductive Opener.Opens : Opener → Node × List Pattern → Prop
  | condition
      {test : Node} :
      Opens (.condition test) (test, [Node.truth true, Node.truth false])
  | scrutinee
      {subject : Node}
      {patterns : List Pattern} :
      Opens (.scrutinee subject) (subject, patterns)

/-- The tag that a selection comes from, if a segment is one. -/
def Segment.opener? : Segment → Option Opener
  | .tag _ (.condition test) _ => some (.condition test.node)
  | .tag _ (.further test) _ => some (.condition test.node)
  | .tag _ (.scrutinee subject) _ => some (.scrutinee subject.node)
  | _ => none

/-- The tags that selections come from, in the order of the source. -/
def openers (segments : List Segment) : List Opener :=
  segments.filterMap Segment.opener?

@[simp] theorem openers_nil : openers [] = [] :=
  rfl

@[simp] theorem openers_cons (segment : Segment) (rest : List Segment) :
    openers (segment :: rest) = segment.opener?.toList ++ openers rest := by
  rw [openers, List.filterMap_cons]
  cases segment.opener? <;> rfl

@[simp] theorem openers_append (front back : List Segment) :
    openers (front ++ back) = openers front ++ openers back :=
  List.filterMap_append

theorem openers_of_noTag
    {segments : List Segment}
    (noTag : ∀ segment ∈ segments, segment.isTag = false) :
    openers segments = [] := by
  rw [openers, List.filterMap_eq_nil_iff]
  intro segment member
  have plain := noTag segment member
  cases segment with
  | tag => cases plain
  | _ => rfl

/-- The selections of a piece of a document. -/
def Piece.selections : Piece → List (Node × List Pattern)
  | .text _ _ => []
  | .part node => node.selections

theorem partSelections_appendText (position : Position) (run : Text) (parts : List Node) :
    Node.partSelections (appendText position run parts).reverse =
      Node.partSelections parts.reverse := by
  unfold appendText
  split <;> simp [Node.partSelections_append, Node.partSelections, Node.selections]

/-- Joining pieces keeps their selections. -/
theorem Piece.partSelections_foldl_added (pieces : List Piece) (parts : List Node) :
    Node.partSelections (pieces.foldl added parts).reverse =
      Node.partSelections parts.reverse ++ pieces.flatMap selections := by
  induction pieces generalizing parts with
  | nil => simp
  | cons piece pieces hypothesis =>
    rw [List.foldl_cons, hypothesis, List.flatMap_cons]
    cases piece with
    | text position run => simp [added, selections, partSelections_appendText]
    | part node => simp [added, selections, Node.partSelections_append, Node.partSelections]

theorem Piece.partSelections_joined (pieces : List Piece) :
    Node.partSelections (joined pieces) = pieces.flatMap selections := by
  rw [joined, partSelections_foldl_added]
  rfl

/-- The selections of what a form stands for. -/
def Form.selections : Form → List (Node × List Pattern)
  | .item pieces => pieces.flatMap Piece.selections
  | .items pieces => pieces.flatMap Piece.selections
  | .document _ node => node.selections
  | .branches tests => (Node.conditional tests none).selections
  | .alternatives cases => Node.alternativeSelections cases
  | .otherwise body => Node.optionalSelections body

/-- The last body of a conditional adds its selections behind those of the
branches. -/
theorem selections_conditional
    (branches : List (Node × Node))
    (otherwise : Option Node) :
    (Node.conditional branches otherwise).selections =
      (Node.conditional branches none).selections ++ Node.optionalSelections otherwise := by
  induction branches with
  | nil =>
    cases otherwise <;>
      simp [Node.conditional, Node.nothing, Node.selections, Node.partSelections,
        Node.optionalSelections]
  | cons branch branches hypothesis =>
    rw [Node.selections_conditional_cons, Node.selections_conditional_cons, hypothesis]
    simp

/-- Tags before other tags open the selections of both. -/
theorem opens_append
    {front back : List Opener}
    {first second : List (Node × List Pattern)}
    (near : List.Forall₂ Opener.Opens front first)
    (far : List.Forall₂ Opener.Opens back second) :
    List.Forall₂ Opener.Opens (front ++ back) (first ++ second) :=
  List.rel_append near far

/-- The selections of a derived tree come from the tags, in their order. -/
theorem Derives.opens
    {table : OperatorTable}
    {form : Form}
    {levels : Nat}
    {segments : List Segment}
    (derives : Derives form levels segments)
    (normal : ∀ segment ∈ segments, segment.IsNormal table) :
    List.Forall₂ Opener.Opens (openers segments) form.selections := by
  induction derives with
  | text => exact .nil
  | insertion fits =>
    have isPure := normal _ List.mem_cons_self
    simp [Form.selections, Piece.selections, openers, Segment.opener?, isPure.selections_eq_nil]
  | comment => exact .nil
  | pragma => exact .nil
  | @inclusion _ _ _ _ context fits =>
    have isPure := normal _ List.mem_cons_self
    cases context with
    | none => exact .nil
    | some content =>
      have none := (isPure content rfl).selections_eq_nil
      simp [Form.selections, Piece.selections, Node.selections, Node.optionalSelections, openers,
        Segment.opener?, none]
  | @conditional _ _ _ _ _ _ _ branches default _ _ _ _ _ _ _ firstHypothesis othersHypothesis
      restHypothesis =>
    simp only [List.forall_mem_cons, List.forall_mem_append] at normal
    obtain ⟨test, inBody, inBranches, inDefault, _⟩ := normal
    have bodies := opens_append (firstHypothesis inBody)
      (opens_append (othersHypothesis inBranches) (restHypothesis inDefault))
    simpa [Form.selections, Piece.selections, Segment.opener?, Node.selections_conditional_cons,
      test.selections_eq_nil, selections_conditional branches default] using ⟨.condition, bodies⟩
  | selection fits noTag cases rest casesHypothesis restHypothesis =>
    simp only [List.forall_mem_cons, List.forall_mem_append] at normal
    obtain ⟨subject, _, inCases, inDefault, _⟩ := normal
    have bodies := opens_append (casesHypothesis inCases) (restHypothesis inDefault)
    simpa [Form.selections, Piece.selections, Segment.opener?, Node.selections_selected,
      subject.selections_eq_nil, openers_of_noTag noTag] using ⟨.scrutinee, bodies⟩
  | loop each rest eachHypothesis restHypothesis =>
    simp only [List.forall_mem_cons, List.forall_mem_append] at normal
    obtain ⟨_, inBody, inDefault, _⟩ := normal
    simpa [Form.selections, Piece.selections, Segment.opener?, Node.selections] using
      opens_append (eachHypothesis inBody) (restHypothesis inDefault)
  | binding fits scope hypothesis =>
    simp only [List.forall_mem_cons, List.forall_mem_append] at normal
    obtain ⟨bound, inBody, _⟩ := normal
    simpa [Form.selections, Piece.selections, Segment.opener?, Node.selections,
      bound.2.selections_eq_nil] using hypothesis inBody
  | nothing => exact .nil
  | next first rest firstHypothesis restHypothesis =>
    rw [List.forall_mem_append] at normal
    simpa [Form.selections] using
      opens_append (firstHypothesis normal.1) (restHypothesis normal.2)
  | document items hypothesis =>
    simpa [Form.selections, Piece.partSelections_joined] using hypothesis normal
  | noBranch =>
    simp [Form.selections, Node.conditional, Node.nothing, Node.selections, Node.partSelections]
  | branch fits first others firstHypothesis othersHypothesis =>
    simp only [List.forall_mem_cons, List.forall_mem_append] at normal
    obtain ⟨test, inBody, inBranches⟩ := normal
    have bodies := opens_append (firstHypothesis inBody) (othersHypothesis inBranches)
    simpa [Form.selections, Segment.opener?, Node.selections_conditional_cons,
      test.selections_eq_nil] using ⟨.condition, bodies⟩
  | noAlternative => exact .nil
  | alternative first others firstHypothesis othersHypothesis =>
    simp only [List.forall_mem_cons, List.forall_mem_append] at normal
    obtain ⟨pattern, inBody, inCases⟩ := normal
    simpa [Form.selections, Segment.opener?, Node.alternativeSelections] using
      opens_append (firstHypothesis inBody) (othersHypothesis inCases)
  | noDefault => exact .nil
  | default rest hypothesis =>
    rw [List.forall_mem_cons] at normal
    simpa [Form.selections, Segment.opener?, Node.optionalSelections] using hypothesis normal.2

end Document

end Stencil
