import Stencil.Proofs.Structure

/-!
# Moving positions

A relocation changes the positions of a source and keeps what stands nowhere in
it.  A tree, a segment or a form is moved by changing all its positions.  Moving
commutes with everything that trees are put together by, so a derivation that is
moved is a derivation.
-/

namespace Stencil

/-- A change of positions that keeps those of what stands nowhere. -/
structure Relocation where
  /-- The new position. -/
  map : Position → Position
  /-- What stands nowhere still does. -/
  map_synthetic : ∀ label, map (.synthetic label) = .synthetic label

/-- Every position stays. -/
def Relocation.stay : Relocation :=
  ⟨id, fun _ => rfl⟩

/-- A name at its new position. -/
def Identifier.moved (relocation : Relocation) (identifier : Identifier) : Identifier :=
  ⟨relocation.map identifier.position, identifier.name⟩

/-- A path at its new position. -/
def Variable.moved (relocation : Relocation) (path : Variable) : Variable :=
  ⟨path.first.moved relocation, path.others.map (Identifier.moved relocation)⟩

/-- A reference at its new position. -/
def Reference.moved (relocation : Relocation) (path : Reference) : Reference :=
  ⟨path.toVariable.moved relocation, relocation.map path.position⟩

/-- A pattern at its new position. -/
def Pattern.moved (relocation : Relocation) : Pattern → Pattern
  | .path names => .path (names.moved relocation)
  | pattern => pattern

theorem Variable.moved_stay (path : Variable) : path.moved .stay = path := by
  have others : path.others.map (Identifier.moved .stay) = path.others := List.map_id _
  rw [Variable.moved, others]
  rfl

theorem Reference.moved_stay (path : Reference) : path.moved .stay = path := by
  rw [Reference.moved, Variable.moved_stay]
  rfl

@[simp] theorem Variable.moved_reference (relocation : Relocation) (path : Variable) :
    path.reference.moved relocation = (path.moved relocation).reference :=
  rfl

theorem Pattern.moved_stay (pattern : Pattern) : pattern.moved .stay = pattern := by
  cases pattern with
  | path names => rw [Pattern.moved, Variable.moved_stay]
  | _ => rfl

namespace Node

mutual

/-- A tree at its new position. -/
def moved (relocation : Relocation) : Node → Node
  | .text position content => .text (relocation.map position) content
  | .literal position value => .literal (relocation.map position) value
  | .reference names => .reference (names.moved relocation)
  | .function position name => .function (relocation.map position) (name.moved relocation)
  | .apply position callee argument =>
    .apply (relocation.map position) (moved relocation callee) (moved relocation argument)
  | .selection position scrutinee alternatives =>
    .selection (relocation.map position) (moved relocation scrutinee)
      (alternativesMoved relocation alternatives)
  | .loop position item source body otherwise =>
    .loop (relocation.map position) (item.moved relocation) (source.moved relocation)
      (moved relocation body) (optionalMoved relocation otherwise)
  | .binding position name value body =>
    .binding (relocation.map position) (name.moved relocation) (moved relocation value)
      (moved relocation body)
  | .inclusion position key context =>
    .inclusion (relocation.map position) key (optionalMoved relocation context)
  | .sequence position parts => .sequence (relocation.map position) (partsMoved relocation parts)
  | .bare position => .bare (relocation.map position)

/-- An optional tree at its new position. -/
def optionalMoved (relocation : Relocation) : Option Node → Option Node
  | none => none
  | some node => some (moved relocation node)

/-- Trees at their new positions. -/
def partsMoved (relocation : Relocation) : List Node → List Node
  | [] => []
  | part :: rest => moved relocation part :: partsMoved relocation rest

/-- Alternatives at their new positions. -/
def alternativesMoved (relocation : Relocation) : List (Pattern × Node) → List (Pattern × Node)
  | [] => []
  | (pattern, body) :: rest =>
    (pattern.moved relocation, moved relocation body) :: alternativesMoved relocation rest

end

variable (relocation : Relocation)

@[simp] theorem optionalMoved_eq_map (node : Option Node) :
    optionalMoved relocation node = node.map (moved relocation) := by
  cases node with
  | none => rw [optionalMoved]; rfl
  | some node => rw [optionalMoved]; rfl

@[simp] theorem partsMoved_eq_map (parts : List Node) :
    partsMoved relocation parts = parts.map (moved relocation) := by
  induction parts with
  | nil => rw [partsMoved]; rfl
  | cons part rest hypothesis => rw [partsMoved, hypothesis]; rfl

@[simp] theorem alternativesMoved_eq_map (alternatives : List (Pattern × Node)) :
    alternativesMoved relocation alternatives =
      alternatives.map (Prod.map (Pattern.moved relocation) (moved relocation)) := by
  induction alternatives with
  | nil => rw [alternativesMoved]; rfl
  | cons alternative rest hypothesis => rw [alternativesMoved, hypothesis]; rfl

theorem position_moved (node : Node) :
    (node.moved relocation).position = relocation.map node.position := by
  cases node <;> rw [moved] <;> rfl

mutual

theorem moved_stay (node : Node) : moved .stay node = node := by
  match node with
  | .text .. => rw [moved]; rfl
  | .literal .. => rw [moved]; rfl
  | .reference names => rw [moved, Reference.moved_stay]
  | .function .. => rw [moved]; rfl
  | .apply _ callee argument => rw [moved, moved_stay callee, moved_stay argument]; rfl
  | .selection _ scrutinee alternatives =>
    rw [moved, moved_stay scrutinee, alternativesMoved_stay alternatives]; rfl
  | .loop _ _ source body otherwise =>
    rw [moved, Reference.moved_stay, moved_stay body, optionalMoved_stay otherwise]; rfl
  | .binding _ _ value body => rw [moved, moved_stay value, moved_stay body]; rfl
  | .inclusion _ _ context => rw [moved, optionalMoved_stay context]; rfl
  | .sequence _ parts => rw [moved, partsMoved_stay parts]; rfl
  | .bare _ => rw [moved]; rfl

theorem optionalMoved_stay (node : Option Node) : optionalMoved .stay node = node := by
  match node with
  | none => rw [optionalMoved]
  | some node => rw [optionalMoved, moved_stay node]

theorem partsMoved_stay (parts : List Node) : partsMoved .stay parts = parts := by
  match parts with
  | [] => rw [partsMoved]
  | part :: rest => rw [partsMoved, moved_stay part, partsMoved_stay rest]

theorem alternativesMoved_stay (alternatives : List (Pattern × Node)) :
    alternativesMoved .stay alternatives = alternatives := by
  match alternatives with
  | [] => rw [alternativesMoved]
  | (pattern, body) :: rest =>
    rw [alternativesMoved, moved_stay body, alternativesMoved_stay rest, Pattern.moved_stay]

end

/-! ## Moving what trees are put together by -/

theorem moved_call (position : Position) (name : Text) (argument : Node) :
    (call position name argument).moved relocation =
      call (relocation.map position) name (argument.moved relocation) := by
  simp only [call, moved, Identifier.moved]

theorem moved_binary (position : Position) (symbol : Text) (left right : Node) :
    (binary position symbol left right).moved relocation =
      binary (relocation.map position) symbol (left.moved relocation)
        (right.moved relocation) := by
  simp only [binary, moved, moved_call]

theorem moved_sequenced (position : Position) (parts : List Node) :
    (sequenced position parts).moved relocation =
      sequenced (relocation.map position) (parts.map (moved relocation)) := by
  match parts with
  | [] => simp [sequenced, moved]
  | [part] => rfl
  | first :: second :: rest => simp [sequenced, moved]

theorem moved_selected
    (scrutinee : Node)
    (alternatives : List (Pattern × Node))
    (otherwise : Option Node) :
    (selected scrutinee alternatives otherwise).moved relocation =
      selected (scrutinee.moved relocation)
        (alternatives.map (Prod.map (Pattern.moved relocation) (moved relocation)))
        (otherwise.map (moved relocation)) := by
  rw [selected, moved, selected, position_moved, alternativesMoved_eq_map, List.map_append]
  cases otherwise <;> rfl

theorem moved_conditional (branches : List (Node × Node)) (otherwise : Option Node) :
    (conditional branches otherwise).moved relocation =
      conditional (branches.map (Prod.map (moved relocation) (moved relocation)))
        (otherwise.map (moved relocation)) := by
  induction branches with
  | nil =>
    cases otherwise with
    | none => simp [conditional, nothing, moved, relocation.map_synthetic]
    | some body => rfl
  | cons branch branches hypothesis =>
    have folded : conditional (branch :: branches) otherwise =
        choice branch.1 branch.2 (conditional branches otherwise) := rfl
    rw [folded, choice, moved, alternativesMoved_eq_map, List.map_cons, List.map_cons, List.map_nil,
      Prod.map_apply, Prod.map_apply, hypothesis, ← position_moved]
    rfl

end Node

namespace Document

/-- An expression at its new position. -/
def Content.moved (relocation : Relocation) (content : Content) : Content :=
  ⟨content.node.moved relocation, content.levels⟩

/-- What a tag says, at its new position. -/
def Tag.moved (relocation : Relocation) : Tag → Tag
  | .condition test => .condition (test.moved relocation)
  | .further test => .further (test.moved relocation)
  | .scrutinee subject => .scrutinee (subject.moved relocation)
  | .alternative pattern => .alternative (pattern.moved relocation)
  | .loop item source => .loop (item.moved relocation) (source.moved relocation)
  | .binding name value => .binding (name.moved relocation) (value.moved relocation)
  | .inclusion key context => .inclusion key (context.map (Content.moved relocation))
  | .marker word => .marker word

/-- A segment at its new position. -/
def Segment.moved (relocation : Relocation) : Segment → Segment
  | .text position run => .text (relocation.map position) run
  | .insertion content => .insertion (content.moved relocation)
  | .comment => .comment
  | .pragma => .pragma
  | .tag opener held behind =>
    .tag (relocation.map opener) (held.moved relocation) (relocation.map behind)

/-- A piece of a document at its new position. -/
def Piece.moved (relocation : Relocation) : Piece → Piece
  | .text position run => .text (relocation.map position) run
  | .part node => .part (node.moved relocation)

/-- What segments are derived from, at its new position. -/
def Form.moved (relocation : Relocation) : Form → Form
  | .item pieces => .item (pieces.map (Piece.moved relocation))
  | .items pieces => .items (pieces.map (Piece.moved relocation))
  | .document position node => .document (relocation.map position) (node.moved relocation)
  | .branches tests =>
    .branches (tests.map (Prod.map (Node.moved relocation) (Node.moved relocation)))
  | .alternatives cases =>
    .alternatives (cases.map (Prod.map (Pattern.moved relocation) (Node.moved relocation)))
  | .otherwise body => .otherwise (body.map (Node.moved relocation))

variable (relocation : Relocation)

theorem Content.moved_fits
    {content : Content}
    {levels : Nat}
    (fits : content.levels ≤ levels) :
    (content.moved relocation).levels ≤ levels :=
  fits

theorem Tag.keyword_moved (tag : Tag) : (tag.moved relocation).keyword = tag.keyword := by
  cases tag <;> rfl

@[simp] theorem Segment.isTag_moved (segment : Segment) :
    (segment.moved relocation).isTag = segment.isTag := by
  cases segment <;> rfl

@[simp] theorem Segment.isBlank_moved (segment : Segment) :
    (segment.moved relocation).isBlank = segment.isBlank := by
  cases segment <;> rfl

@[simp] theorem Segment.opensSelection_moved (segment : Segment) :
    (segment.moved relocation).opensSelection = segment.opensSelection := by
  cases segment with
  | tag opener held behind => cases held <;> rfl
  | _ => rfl

theorem Content.moved_stay (content : Content) : content.moved .stay = content := by
  rw [Content.moved, Node.moved_stay]

theorem Tag.moved_stay (tag : Tag) : tag.moved .stay = tag := by
  cases tag with
  | inclusion key context => cases context <;> simp [Tag.moved, Content.moved_stay]
  | alternative pattern => rw [Tag.moved, Pattern.moved_stay]
  | loop item source => rw [Tag.moved, Variable.moved_stay]; rfl
  | binding name value => rw [Tag.moved, Content.moved_stay]; rfl
  | marker word => rfl
  | _ => rw [Tag.moved, Content.moved_stay]

theorem Segment.moved_stay (segment : Segment) : segment.moved .stay = segment := by
  cases segment with
  | insertion content => rw [Segment.moved, Content.moved_stay]
  | tag opener held behind => rw [Segment.moved, Tag.moved_stay]; rfl
  | _ => rfl

theorem Segment.map_moved_stay (segments : List Segment) :
    segments.map (Segment.moved .stay) = segments := by
  rw [List.map_congr_left fun segment _ => Segment.moved_stay segment, List.map_id']

/-- Gaps are blank wherever they stand. -/
theorem gapsAreBlank_moved (segments : List Segment) :
    gapsAreBlank (segments.map (Segment.moved relocation)) = gapsAreBlank segments := by
  induction segments with
  | nil => rfl
  | cons segment segments hypothesis =>
    simp only [List.map_cons, gapsAreBlank, Segment.opensSelection_moved, hypothesis,
      List.takeWhile_map, List.all_map]
    congr 2
    · simp [Function.comp_def]

theorem appendText_moved (position : Position) (run : Text) (parts : List Node) :
    appendText (relocation.map position) run (parts.map (Node.moved relocation)) =
      (appendText position run parts).map (Node.moved relocation) := by
  cases parts with
  | nil => simp [appendText, Node.moved]
  | cons part parts => cases part <;> simp [appendText, Node.moved]

theorem Piece.foldl_added_moved (pieces : List Piece) (parts : List Node) :
    (pieces.map (Piece.moved relocation)).foldl added (parts.map (Node.moved relocation)) =
      (pieces.foldl added parts).map (Node.moved relocation) := by
  induction pieces generalizing parts with
  | nil => rfl
  | cons piece pieces hypothesis =>
    rw [List.map_cons, List.foldl_cons, List.foldl_cons, ← hypothesis]
    cases piece with
    | text position run => rw [Piece.moved, added, added, appendText_moved]
    | part node => rfl

theorem Piece.joined_moved (pieces : List Piece) :
    joined (pieces.map (Piece.moved relocation)) =
      (joined pieces).map (Node.moved relocation) := by
  have folded := Piece.foldl_added_moved relocation pieces []
  rw [List.map_nil] at folded
  rw [joined, joined, folded, List.map_reverse]

/-- A derivation that is moved is a derivation. -/
theorem Derives.moved
    {form : Form}
    {levels : Nat}
    {segments : List Segment}
    (derives : Derives form levels segments) :
    Derives (form.moved relocation) levels (segments.map (Segment.moved relocation)) := by
  induction derives with
  | text => exact .text
  | insertion fits => exact .insertion (Content.moved_fits relocation fits)
  | comment => exact .comment
  | pragma => exact .pragma
  | @inclusion levels opener behind key context fits =>
    have inner : (context.map Content.node).map (Node.moved relocation) =
        (context.map (Content.moved relocation)).map Content.node := by
      cases context <;> rfl
    have fits' : ∀ content ∈ context.map (Content.moved relocation),
        content.levels ≤ levels := by
      intro content member
      obtain ⟨given, inside, rfl⟩ := Option.map_eq_some_iff.1 member
      exact fits given inside
    simp only [Form.moved, List.map_cons, List.map_nil, Piece.moved, Node.moved,
      Node.optionalMoved_eq_map, inner]
    exact .inclusion fits'
  | conditional fits first others rest firstHypothesis othersHypothesis restHypothesis =>
    simp only [Form.moved, List.map_cons, List.map_nil, List.map_append, Piece.moved,
      Node.moved_conditional]
    exact .conditional (Content.moved_fits relocation fits) firstHypothesis othersHypothesis
      restHypothesis
  | selection fits noTag cases rest casesHypothesis restHypothesis =>
    simp only [Form.moved, List.map_cons, List.map_nil, List.map_append, Piece.moved,
      Node.moved_selected]
    refine .selection (Content.moved_fits relocation fits) ?_ casesHypothesis restHypothesis
    simpa using noTag
  | loop each rest eachHypothesis restHypothesis =>
    simp only [Form.moved, List.map_cons, List.map_nil, List.map_append, Piece.moved, Node.moved,
      Node.optionalMoved_eq_map, Variable.moved_reference]
    exact .loop eachHypothesis restHypothesis
  | binding fits scope hypothesis =>
    simp only [Form.moved, List.map_cons, List.map_nil, List.map_append, Piece.moved, Node.moved]
    exact .binding (Content.moved_fits relocation fits) hypothesis
  | nothing => exact .nothing
  | next first rest firstHypothesis restHypothesis =>
    simp only [Form.moved, List.map_append]
    exact .next firstHypothesis restHypothesis
  | document items hypothesis =>
    rw [Form.moved, Node.moved_sequenced, ← Piece.joined_moved]
    exact .document hypothesis
  | noBranch => exact .noBranch
  | branch fits first others firstHypothesis othersHypothesis =>
    simp only [List.map_cons, List.map_append]
    exact .branch (Content.moved_fits relocation fits) firstHypothesis othersHypothesis
  | noAlternative => exact .noAlternative
  | alternative first others firstHypothesis othersHypothesis =>
    simp only [List.map_cons, List.map_append]
    exact .alternative firstHypothesis othersHypothesis
  | noDefault => exact .noDefault
  | default rest hypothesis => exact .default hypothesis

end Document

end Stencil
