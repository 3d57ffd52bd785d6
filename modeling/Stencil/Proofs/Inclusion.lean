import Stencil.Proofs.Acceptance

/-!
# The includes of a template

While a source is read, every include tag is registered as soon as its key is
known; the tree is put together later.  The main statement is that both agree:
the includes of a template are the inclusions of its tree in the order of the
source, grouped by their keys.
-/

namespace Stencil

namespace Node

mutual

/-- The keys and positions of the inclusions of a tree, from the root to the
leaves and from the left to the right. -/
def inclusions : Node → List (Text × Position)
  | .text _ _ => []
  | .literal _ _ => []
  | .reference _ => []
  | .function _ _ => []
  | .apply _ callee argument => inclusions callee ++ inclusions argument
  | .selection _ scrutinee alternatives =>
    inclusions scrutinee ++ alternativeInclusions alternatives
  | .loop _ _ _ body otherwise => inclusions body ++ optionalInclusions otherwise
  | .binding _ _ value body => inclusions value ++ inclusions body
  | .inclusion position key context => (key, position) :: optionalInclusions context
  | .sequence _ parts => partInclusions parts
  | .bare _ => []

/-- The inclusions of an optional tree. -/
def optionalInclusions : Option Node → List (Text × Position)
  | none => []
  | some node => inclusions node

/-- The inclusions of a list of trees. -/
def partInclusions : List Node → List (Text × Position)
  | [] => []
  | part :: rest => inclusions part ++ partInclusions rest

/-- The inclusions of a list of alternatives. -/
def alternativeInclusions : List (Pattern × Node) → List (Text × Position)
  | [] => []
  | (_, body) :: rest => inclusions body ++ alternativeInclusions rest

end

theorem partInclusions_append (front back : List Node) :
    partInclusions (front ++ back) = partInclusions front ++ partInclusions back := by
  induction front with
  | nil => simp [partInclusions]
  | cons part front hypothesis => simp [partInclusions, hypothesis]

example (position : Position) (key : Text) :
    partInclusions ([.text position []] ++ [.inclusion position key none]) = [(key, position)] := by
  cbv

theorem alternativeInclusions_append (front back : List (Pattern × Node)) :
    alternativeInclusions (front ++ back) =
      alternativeInclusions front ++ alternativeInclusions back := by
  induction front with
  | nil => simp [alternativeInclusions]
  | cons alternative front hypothesis => simp [alternativeInclusions, hypothesis]

@[simp] theorem inclusions_call (position : Position) (name : Text) (argument : Node) :
    (call position name argument).inclusions = argument.inclusions := by
  simp [call, inclusions]

@[simp] theorem inclusions_binary (position : Position) (symbol : Text) (left right : Node) :
    (binary position symbol left right).inclusions = left.inclusions ++ right.inclusions := by
  simp [binary, inclusions]

@[simp] theorem inclusions_sequenced (position : Position) (parts : List Node) :
    (sequenced position parts).inclusions = partInclusions parts := by
  unfold sequenced
  split
  · simp [partInclusions]
  · rw [inclusions]

@[simp] theorem inclusions_selected
    (scrutinee : Node)
    (alternatives : List (Pattern × Node))
    (otherwise : Option Node) :
    (selected scrutinee alternatives otherwise).inclusions =
      scrutinee.inclusions ++
        (alternativeInclusions alternatives ++ optionalInclusions otherwise) := by
  rw [selected, inclusions, alternativeInclusions_append]
  cases otherwise <;> simp [alternativeInclusions, optionalInclusions]

/-- A conditional holds the inclusions of its branches and of its last body. -/
@[simp] theorem inclusions_conditional
    (branches : List (Node × Node))
    (otherwise : Option Node) :
    (conditional branches otherwise).inclusions =
      branches.flatMap (fun branch => branch.1.inclusions ++ branch.2.inclusions) ++
        optionalInclusions otherwise := by
  induction branches with
  | nil =>
    cases otherwise with
    | none => simp [conditional, nothing, inclusions, partInclusions, optionalInclusions]
    | some body => simp [conditional, optionalInclusions]
  | cons branch branches hypothesis =>
    have folded : conditional (branch :: branches) otherwise =
        choice branch.1 branch.2 (conditional branches otherwise) := rfl
    rw [folded, choice, inclusions, alternativeInclusions, alternativeInclusions,
      alternativeInclusions, hypothesis]
    simp

end Node

/-! ## Grouping -/

namespace Includes

/-- Tags grouped by their keys, the keys in the order of their first tags. -/
def grouped (tags : List (Text × Position)) : Includes :=
  (tags.map Prod.fst).eraseDups.map fun key =>
    (key, (tags.filter fun tag => tag.1 == key).map Prod.snd)

/-- The first key takes its tags, and the others are grouped without them. -/
theorem grouped_cons (key : Text) (position : Position) (tags : List (Text × Position)) :
    grouped ((key, position) :: tags) =
      (key, position :: (tags.filter fun tag => tag.1 == key).map Prod.snd) ::
        grouped (tags.filter fun tag => !tag.1 == key) := by
  have others : (tags.map Prod.fst).filter (fun other => !other == key) =
      (tags.filter fun tag => !tag.1 == key).map Prod.fst := by
    rw [List.filter_map]
    rfl
  simp only [grouped, List.map_cons, List.eraseDups_cons, others, List.filter_cons,
    beq_self_eq_true, if_true, List.cons.injEq, true_and]
  apply List.map_congr_left
  intro other member
  simp only [List.mem_eraseDups, List.mem_map, List.mem_filter] at member
  obtain ⟨tag, ⟨_, differs⟩, rfl⟩ := member
  have differs' : ¬ key = tag.1 := by
    rintro rfl
    simp at differs
  rw [List.filter_filter]
  simp only [beq_iff_eq, differs', if_false, Prod.mk.injEq, true_and]
  congr 1
  apply List.filter_congr
  intro candidate _
  by_cases same : candidate.1 = tag.1
  · simp [same, Ne.symm differs']
  · simp [same]

/-- The includes with more tags, one after the other. -/
def registerAll (includes : Includes) (tags : List (Text × Position)) : Includes :=
  tags.foldl (fun known tag => register tag.1 tag.2 known) includes

/-- Registering tags behind a first key takes the tags of this key out. -/
theorem registerAll_cons
    (tags : List (Text × Position))
    (key : Text)
    (positions : List Position)
    (rest : Includes) :
    registerAll ((key, positions) :: rest) tags =
      (key, positions ++ (tags.filter fun tag => tag.1 == key).map Prod.snd) ::
        registerAll rest (tags.filter fun tag => !tag.1 == key) := by
  induction tags generalizing positions rest with
  | nil => simp [registerAll]
  | cons tag tags hypothesis =>
    simp only [registerAll] at hypothesis
    by_cases same : key = tag.1
    · subst same
      simp [registerAll, register, hypothesis]
    · simp [registerAll, register, hypothesis, same, Ne.symm same]

/-- Registering tags one after the other groups them. -/
theorem registerAll_nil (tags : List (Text × Position)) : registerAll [] tags = grouped tags := by
  match tags with
  | [] => rfl
  | (key, position) :: tags =>
    have smaller : (tags.filter fun tag => !tag.1 == key).length < tags.length + 1 :=
      Nat.lt_succ_of_le (List.length_filter_le _ _)
    have first : registerAll [] ((key, position) :: tags) =
        registerAll [(key, [position])] tags := rfl
    rw [first, registerAll_cons, registerAll_nil, grouped_cons]
    rfl
termination_by tags.length

/-- Each tag belongs to exactly one group. -/
theorem flatMap_grouped_perm (tags : List (Text × Position)) :
    ((grouped tags).flatMap fun group => group.2.map fun position => (group.1, position)).Perm
      tags := by
  match tags with
  | [] => exact .refl _
  | (key, position) :: tags =>
    have smaller : (tags.filter fun tag => !tag.1 == key).length < tags.length + 1 :=
      Nat.lt_succ_of_le (List.length_filter_le _ _)
    have others := flatMap_grouped_perm (tags.filter fun tag => !tag.1 == key)
    have own : ((tags.filter fun tag => tag.1 == key).map Prod.snd).map (fun at' => (key, at')) =
        tags.filter fun tag => tag.1 == key := by
      rw [List.map_map]
      refine (List.map_congr_left ?_).trans (List.map_id _)
      intro tag member
      simp only [List.mem_filter, beq_iff_eq] at member
      simp [← member.2]
    rw [grouped_cons, List.flatMap_cons, List.map_cons, own]
    exact .cons _ ((List.Perm.append_left _ others).trans (List.filter_append_perm _ tags))
termination_by tags.length

end Includes

/-! ## Expressions hold no inclusions -/

namespace Region

/-- The left operand that a goal starts with, if it has one. -/
def Goal.given : Goal → Option Node
  | .operators _ left => some left
  | _ => none

/-- What holds of literals and references and goes on through applications holds of
every expression. -/
theorem Reads.forall_node
    {motive : Node → Prop}
    (ofLiteral : ∀ position value, motive (.literal position value))
    (ofReference : ∀ names, motive (.reference names))
    (ofCall : ∀ position name argument, motive argument →
      motive (Node.call position name argument))
    (ofBinary : ∀ position symbol left right, motive left → motive right →
      motive (Node.binary position symbol left right))
    {region : Region}
    {goal : Goal}
    {levels : Nat}
    {cursor finish : Cursor}
    {node : Node}
    (reads : region.Reads goal levels cursor node finish)
    (given : ∀ left ∈ goal.given, motive left) :
    motive node := by
  induction reads with
  | expression first rest stops firstHypothesis restHypothesis =>
    apply restHypothesis
    rintro left ⟨⟩
    exact firstHypothesis (by simp [Goal.given])
  | none => exact given _ rfl
  | filter meets strong role named rest hypothesis =>
    apply hypothesis
    rintro left ⟨⟩
    exact ofCall _ _ _ (given _ rfl)
  | binary meets strong role operand rest operandHypothesis restHypothesis =>
    apply restHypothesis
    rintro left ⟨⟩
    exact ofBinary _ _ _ _ (given _ rfl) (operandHypothesis (by simp [Goal.given]))
  | operand next bare rest hypothesis => exact hypothesis (by simp [Goal.given])
  | prefixed next before rest hypothesis =>
    exact ofCall _ _ _ (hypothesis (by simp [Goal.given]))
  | parenthesised next opening inner closing hypothesis =>
    exact hypothesis (by simp [Goal.given])
  | literal next noOpening found => exact ofLiteral _ _
  | reference next isName noLiteral found => exact ofReference _

/-- An expression holds no inclusion. -/
theorem Reads.inclusions_eq_nil
    {region : Region}
    {goal : Goal}
    {levels : Nat}
    {cursor finish : Cursor}
    {node : Node}
    (reads : region.Reads goal levels cursor node finish)
    (given : ∀ left ∈ goal.given, left.inclusions = []) :
    node.inclusions = [] := by
  refine Reads.forall_node (motive := fun node => node.inclusions = []) ?_ ?_ ?_ ?_ reads given
  · intro position value
    rw [Node.inclusions]
  · intro names
    rw [Node.inclusions]
  · intro position name argument noInclusion
    rw [Node.inclusions_call, noInclusion]
  · intro position symbol left right noneLeft noneRight
    rw [Node.inclusions_binary, noneLeft, noneRight, List.append_nil]

end Region

/-! ## Inclusions along the source -/

namespace Document

namespace Segment

/-- The key and the position of an include tag. -/
def inclusion? : Segment → Option (Text × Position)
  | .tag opener (.inclusion key _) _ => some (key, opener)
  | _ => none

/-- The expressions of a segment. -/
def contents : Segment → List Content
  | .insertion content => [content]
  | .tag _ (.condition test) _ => [test]
  | .tag _ (.further test) _ => [test]
  | .tag _ (.scrutinee subject) _ => [subject]
  | .tag _ (.binding _ value) _ => [value]
  | .tag _ (.inclusion _ context) _ => context.toList
  | _ => []

end Segment

/-- The include tags of some segments. -/
def inclusionTags (segments : List Segment) : List (Text × Position) :=
  segments.filterMap Segment.inclusion?

/-- The expressions of a step hold no inclusions. -/
theorem Step.contents_inclusions
    {grammar : Grammar}
    {state after : State}
    {segment : Segment}
    (step : Step grammar state segment after)
    (content : Content)
    (member : content ∈ segment.contents) :
    content.node.inclusions = [] := by
  have plain {region : Region} {content : Content} {cursor finish : Cursor}
      (reads : region.Reads (.expression 1) content.levels cursor content.node finish) :
      content.node.inclusions = [] :=
    reads.inclusions_eq_nil (by simp [Region.Goal.given])
  cases step with
  | text => simp [Segment.contents] at member
  | insertion opens reads closes =>
    obtain rfl : content = _ := by simpa [Segment.contents] using member
    exact plain reads
  | comment => simp [Segment.contents] at member
  | pragma => simp [Segment.contents] at member
  | tag opens entered holds closes =>
    cases holds with
    | condition reads | further reads | scrutinee reads | binding _ _ reads
    | inclusionWith _ _ reads =>
      obtain rfl : content = _ := by simpa [Segment.contents] using member
      exact plain reads
    | alternative | loop | inclusion | marker => simp [Segment.contents] at member

/-- A step registers its include tag and nothing else. -/
theorem Step.includes_eq
    {grammar : Grammar}
    {state after : State}
    {segment : Segment}
    (step : Step grammar state segment after) :
    after.includes = state.includes.registerAll segment.inclusion?.toList := by
  cases step with
  | text => rfl
  | insertion => rfl
  | comment opens skipped =>
    obtain ⟨_, _, _, rfl⟩ := comment_eq_ok.1 skipped
    rfl
  | pragma => rfl
  | tag opens entered holds closes =>
    obtain ⟨_, _, _, _, _, _, _, rfl⟩ := openTag_eq_ok.1 entered
    cases holds <;> rfl

/-- The includes behind some segments are those before them and their tags. -/
theorem Steps.includes_eq
    {grammar : Grammar}
    {state after : State}
    {segments : List Segment}
    (steps : Steps grammar state segments after) :
    after.includes = state.includes.registerAll (inclusionTags segments) := by
  induction steps with
  | nil => rfl
  | @cons first second third segment rest step steps hypothesis =>
    rw [hypothesis, step.includes_eq]
    cases tag : segment.inclusion? <;> simp [inclusionTags, tag, Includes.registerAll]

/-- An include tag begins where its step does. -/
theorem Step.inclusion?_position
    {grammar : Grammar}
    {state after : State}
    {segment : Segment}
    {tag : Text × Position}
    (step : Step grammar state segment after)
    (isInclusion : segment.inclusion? = some tag) :
    tag.2 = state.cursor.position := by
  cases step with
  | tag opens entered holds closes =>
    obtain ⟨rfl, _⟩ := openTag_eq_ok.1 entered
    cases holds <;> simp_all [Segment.inclusion?]
    all_goals rw [← isInclusion]
  | _ => simp [Segment.inclusion?] at isInclusion

end Document

namespace Cursor

/-- Bytes are passed with the code points. -/
theorem Passes.offset_lt
    {origin target : Cursor}
    (passes : origin.Passes target) :
    origin.offset < target.offset := by
  obtain ⟨⟨count, rfl⟩, shorter⟩ := passes
  rw [rest_forward, List.length_drop] at shorter
  obtain ⟨point, rest, unread⟩ : ∃ point rest, origin.rest = point :: rest :=
    List.exists_cons_of_length_pos (by omega)
  obtain ⟨count, rfl⟩ : ∃ fewer, count = fewer + 1 := ⟨count - 1, by omega⟩
  rw [offset_forward, unread, List.take_succ_cons]
  have positive := point.utf8Width_pos
  simp only [Text.utf8Width, List.foldr_cons]
  omega

end Cursor

namespace Document

/-- Include tags stand one behind the other. -/
theorem Steps.pairwise_offset_lt
    {grammar : Grammar}
    {state after : State}
    {segments : List Segment}
    (steps : Steps grammar state segments after) :
    (∀ tag ∈ inclusionTags segments, state.cursor.offset ≤ tag.2.offset) ∧
      (inclusionTags segments).Pairwise fun first second =>
        first.2.offset < second.2.offset := by
  induction steps with
  | nil => simp [inclusionTags]
  | @cons first second third segment rest step steps hypothesis =>
    have passed := step.passes.offset_lt
    obtain ⟨later, ordered⟩ := hypothesis
    have later' : ∀ tag ∈ inclusionTags rest, first.cursor.offset < tag.2.offset :=
      fun tag member => Nat.lt_of_lt_of_le passed (later tag member)
    cases found : segment.inclusion? with
    | none =>
      have same : inclusionTags (segment :: rest) = inclusionTags rest := by
        simp [inclusionTags, found]
      rw [same]
      exact ⟨fun tag member => Nat.le_of_lt (later' tag member), ordered⟩
    | some tag =>
      have more : inclusionTags (segment :: rest) = tag :: inclusionTags rest := by
        simp [inclusionTags, found]
      have here : tag.2.offset = first.cursor.offset := by
        rw [step.inclusion?_position found]
        rfl
      rw [more]
      constructor
      · intro other member
        rcases List.mem_cons.1 member with rfl | member
        · exact Nat.le_of_eq here.symm
        · exact Nat.le_of_lt (later' other member)
      · rw [List.pairwise_cons]
        refine ⟨fun other member => ?_, ordered⟩
        rw [here]
        exact later' other member

/-! ## Inclusions of derived trees -/

/-- The inclusions of a piece of a document. -/
def Piece.inclusions : Piece → List (Text × Position)
  | .text _ _ => []
  | .part node => node.inclusions

theorem partInclusions_appendText
    (position : Position)
    (run : Text)
    (parts : List Node) :
    Node.partInclusions (appendText position run parts).reverse =
      Node.partInclusions parts.reverse := by
  unfold appendText
  split <;>
    simp [Node.partInclusions_append, Node.partInclusions, Node.inclusions]

/-- Joining pieces keeps their inclusions. -/
theorem Piece.partInclusions_foldl_added (pieces : List Piece) (parts : List Node) :
    Node.partInclusions (pieces.foldl added parts).reverse =
      Node.partInclusions parts.reverse ++ pieces.flatMap inclusions := by
  induction pieces generalizing parts with
  | nil => simp
  | cons piece pieces hypothesis =>
    rw [List.foldl_cons, hypothesis, List.flatMap_cons]
    cases piece with
    | text position run => simp [added, inclusions, partInclusions_appendText]
    | part node =>
      simp [added, inclusions, Node.partInclusions_append, Node.partInclusions]

theorem Piece.partInclusions_joined (pieces : List Piece) :
    Node.partInclusions (joined pieces) = pieces.flatMap inclusions := by
  rw [joined, partInclusions_foldl_added]
  rfl

/-- The inclusions of what a form stands for. -/
def Form.inclusions : Form → List (Text × Position)
  | .item pieces => pieces.flatMap Piece.inclusions
  | .items pieces => pieces.flatMap Piece.inclusions
  | .document _ node => node.inclusions
  | .branches tests => tests.flatMap fun test => test.1.inclusions ++ test.2.inclusions
  | .alternatives cases => Node.alternativeInclusions cases
  | .otherwise body => Node.optionalInclusions body

@[simp] theorem inclusionTags_nil : inclusionTags [] = [] :=
  rfl

@[simp] theorem inclusionTags_cons (segment : Segment) (rest : List Segment) :
    inclusionTags (segment :: rest) = segment.inclusion?.toList ++ inclusionTags rest := by
  cases found : segment.inclusion? <;> simp [inclusionTags, found]

@[simp] theorem inclusionTags_append (front back : List Segment) :
    inclusionTags (front ++ back) = inclusionTags front ++ inclusionTags back :=
  List.filterMap_append

/-- Segments that are no tags hold no include tag. -/
theorem inclusionTags_of_noTag
    {gap : List Segment}
    (noTag : ∀ segment ∈ gap, segment.isTag = false) :
    inclusionTags gap = [] := by
  rw [inclusionTags, List.filterMap_eq_nil_iff]
  intro segment member
  have := noTag segment member
  cases segment with
  | tag opener tag behind => simp [Segment.isTag] at this
  | _ => rfl

/-- The tree of a derivation holds the inclusions of the tags in their order. -/
theorem Derives.inclusions_eq
    {form : Form}
    {levels : Nat}
    {segments : List Segment}
    (derives : Derives form levels segments)
    (plain : ∀ segment ∈ segments, ∀ content ∈ segment.contents, content.node.inclusions = []) :
    form.inclusions = inclusionTags segments := by
  induction derives with
  | text => rfl
  | insertion fits =>
    have content := plain _ List.mem_cons_self _ List.mem_cons_self
    simp [Form.inclusions, Piece.inclusions, Segment.inclusion?, content]
  | comment => rfl
  | pragma => rfl
  | @inclusion levels opener behind key context fits =>
    cases context with
    | none => rfl
    | some content =>
      have inner := plain _ List.mem_cons_self content List.mem_cons_self
      simp [Form.inclusions, Piece.inclusions, Segment.inclusion?, Node.inclusions,
        Node.optionalInclusions, inner]
  | conditional fits first others rest firstHypothesis othersHypothesis restHypothesis =>
    simp only [List.forall_mem_cons, List.forall_mem_append] at plain
    obtain ⟨test, bodyPlain, branchesPlain, defaultPlain, _⟩ := plain
    have bodyTags := firstHypothesis bodyPlain
    have branchTags := othersHypothesis branchesPlain
    have defaultTags := restHypothesis defaultPlain
    have inner := test _ List.mem_cons_self
    simp only [Form.inclusions] at bodyTags branchTags defaultTags
    simp [Form.inclusions, Piece.inclusions, Segment.inclusion?, inner, bodyTags, branchTags,
      defaultTags]
  | selection fits noTag cases rest casesHypothesis restHypothesis =>
    simp only [List.forall_mem_cons, List.forall_mem_append] at plain
    obtain ⟨subject, _, casesPlain, defaultPlain, _⟩ := plain
    have caseTags := casesHypothesis casesPlain
    have defaultTags := restHypothesis defaultPlain
    have inner := subject _ List.mem_cons_self
    simp only [Form.inclusions] at caseTags defaultTags
    simp [Form.inclusions, Piece.inclusions, Segment.inclusion?, inner, caseTags, defaultTags,
      inclusionTags_of_noTag noTag]
  | loop each rest eachHypothesis restHypothesis =>
    simp only [List.forall_mem_cons, List.forall_mem_append] at plain
    obtain ⟨_, bodyPlain, defaultPlain, _⟩ := plain
    have bodyTags := eachHypothesis bodyPlain
    have defaultTags := restHypothesis defaultPlain
    simp only [Form.inclusions] at bodyTags defaultTags
    simp [Form.inclusions, Piece.inclusions, Segment.inclusion?, Node.inclusions, bodyTags,
      defaultTags]
  | binding fits scope hypothesis =>
    simp only [List.forall_mem_cons, List.forall_mem_append] at plain
    obtain ⟨value, bodyPlain, _⟩ := plain
    have bodyTags := hypothesis bodyPlain
    have inner := value _ List.mem_cons_self
    simp only [Form.inclusions] at bodyTags
    simp [Form.inclusions, Piece.inclusions, Segment.inclusion?, Node.inclusions, bodyTags, inner]
  | nothing => rfl
  | next first rest firstHypothesis restHypothesis =>
    simp only [List.forall_mem_append] at plain
    rw [inclusionTags_append, ← firstHypothesis plain.1, ← restHypothesis plain.2]
    simp [Form.inclusions]
  | document items hypothesis =>
    rw [← hypothesis plain]
    simp [Form.inclusions, Piece.partInclusions_joined]
  | noBranch => rfl
  | branch fits first others firstHypothesis othersHypothesis =>
    simp only [List.forall_mem_cons, List.forall_mem_append] at plain
    obtain ⟨test, bodyPlain, branchesPlain⟩ := plain
    have bodyTags := firstHypothesis bodyPlain
    have branchTags := othersHypothesis branchesPlain
    have inner := test _ List.mem_cons_self
    simp only [Form.inclusions] at bodyTags branchTags
    simp [Form.inclusions, Segment.inclusion?, inner, bodyTags, branchTags]
  | noAlternative => rfl
  | alternative first others firstHypothesis othersHypothesis =>
    simp only [List.forall_mem_cons, List.forall_mem_append] at plain
    obtain ⟨_, bodyPlain, casesPlain⟩ := plain
    have bodyTags := firstHypothesis bodyPlain
    have caseTags := othersHypothesis casesPlain
    simp only [Form.inclusions] at bodyTags caseTags
    simp [Form.inclusions, Segment.inclusion?, Node.alternativeInclusions, bodyTags, caseTags]
  | noDefault => rfl
  | default rest hypothesis =>
    simp only [List.forall_mem_cons] at plain
    have bodyTags := hypothesis plain.2
    simp only [Form.inclusions] at bodyTags
    simp [Form.inclusions, Segment.inclusion?, Node.optionalInclusions, bodyTags]

theorem Steps.contents_inclusions
    {grammar : Grammar}
    {state after : State}
    {segments : List Segment}
    (steps : Steps grammar state segments after) :
    ∀ segment ∈ segments, ∀ content ∈ segment.contents, content.node.inclusions = [] := by
  induction steps with
  | nil => simp
  | cons step _ hypothesis => exact List.forall_mem_cons.2 ⟨step.contents_inclusions, hypothesis⟩

end Document

/-! ## Templates -/

namespace Includes

/-- No group is empty. -/
theorem grouped_ne_nil
    {tags : List (Text × Position)}
    {group : Text × List Position}
    (member : group ∈ grouped tags) :
    group.2 ≠ [] := by
  simp only [grouped, List.mem_map, List.mem_eraseDups] at member
  obtain ⟨key, ⟨tag, isTag, rfl⟩, rfl⟩ := member
  exact List.ne_nil_of_mem (List.mem_map.2 ⟨tag, List.mem_filter.2 ⟨isTag, by simp⟩, rfl⟩)

/-- A group keeps the order of its tags. -/
theorem grouped_pairwise
    {tags : List (Text × Position)}
    {relation : Position → Position → Prop}
    (ordered : tags.Pairwise fun first second => relation first.2 second.2)
    {group : Text × List Position}
    (member : group ∈ grouped tags) :
    group.2.Pairwise relation := by
  simp only [grouped, List.mem_map] at member
  obtain ⟨key, _, rfl⟩ := member
  exact List.pairwise_map.2 (ordered.filter _)

end Includes

namespace Template

open Document

/-- The includes of a template are the inclusions of its tree, grouped by their
keys: each of them stands in exactly one group, no group is empty, and the tags
stand in the order of the source, in all and in each group. -/
theorem includes_eq_grouped_inclusions
    (options : Options)
    (name : Text)
    (delimiters : Delimiters)
    (source : Text)
    (template : Template)
    (success : (read options name delimiters source).result = .ok template) :
    template.includes = Includes.grouped template.root.inclusions ∧
      (template.includes.flatMap fun group => group.2.map fun position => (group.1, position)).Perm
        template.root.inclusions ∧
      (∀ group ∈ template.includes, group.2 ≠ []) ∧
      (template.root.inclusions.Pairwise fun first second => first.2.offset < second.2.offset) ∧
      ∀ group ∈ template.includes, group.2.Pairwise fun first second =>
        first.offset < second.offset := by
  obtain ⟨segments, levels, final, arises⟩ := arises_of_read success
  have inTree : template.root.inclusions = inclusionTags segments :=
    arises.derives.inclusions_eq arises.steps.contents_inclusions
  have ordered := arises.steps.pairwise_offset_lt.2
  have registered : template.includes = Includes.grouped template.root.inclusions := by
    rw [← arises.includes, arises.steps.includes_eq, inTree]
    exact Includes.registerAll_nil _
  rw [← inTree] at ordered
  rw [registered]
  exact ⟨rfl, Includes.flatMap_grouped_perm _, fun _ => Includes.grouped_ne_nil, ordered,
    fun _ => Includes.grouped_pairwise ordered⟩

/-- Includes behind each other, in the body of a loop and behind its other case. -/
theorem includes_of_loop :
    ∃ template,
      (read {} [] .braces (Text.of ("\x7b% include \"a\" %\x7d\x7b% for x in y %\x7d" ++
        "\x7b% include \"b\" %\x7d\x7b% else %\x7d\x7b% include \"a\" with z %\x7d" ++
        "\x7b% endfor %\x7d"))).result = .ok template ∧
      template.includes = Includes.grouped template.root.inclusions ∧
      template.includes.map (fun group => (group.1, group.2.map Position.offset)) =
        [(Text.of "a", [0, 60]), (Text.of "b", [33])] := by
  have evaluated : (read {} [] .braces (Text.of ("\x7b% include \"a\" %\x7d" ++
      "\x7b% for x in y %\x7d\x7b% include \"b\" %\x7d\x7b% else %\x7d" ++
      "\x7b% include \"a\" with z %\x7d\x7b% endfor %\x7d"))).result.toOption.map
        (fun template => template.includes.map fun group =>
          (group.1, group.2.map Position.offset)) =
      some [(Text.of "a", [0, 60]), (Text.of "b", [33])] := by
    decide +kernel
  obtain ⟨template, read, listed⟩ := Option.map_eq_some_iff.1 evaluated
  have success := Reading.toOption_eq_some.1 read
  exact ⟨template, success,
    (includes_eq_grouped_inclusions {} [] .braces _ template success).1, listed⟩

end Template

end Stencil
