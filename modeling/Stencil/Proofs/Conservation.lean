import Stencil.Proofs.Inclusion
import Stencil.Proofs.Slice

/-!
# No text is lost

A source that is read to a template is a concatenation of slices, one for each
segment: runs of text in which no active opening delimiter occurs, and regions
between the delimiters of their kind.  The texts of the tree, one behind the
other, are the text slices in the order of the source, without the blank ones
between the tag that opens a selection and the tag that follows it.  A source
without any opening delimiter is its own only text.
-/

namespace Stencil

/-! ## Texts of a tree -/

namespace Node

mutual

/-- The texts of a tree, one behind the other, from the root to the leaves and from
the left to the right. -/
def prose : Node → Text
  | .text _ content => content
  | .literal _ _ => []
  | .reference _ => []
  | .function _ _ => []
  | .apply _ callee argument => prose callee ++ prose argument
  | .selection _ scrutinee alternatives => prose scrutinee ++ alternativeProse alternatives
  | .loop _ _ _ body otherwise => prose body ++ optionalProse otherwise
  | .binding _ _ value body => prose value ++ prose body
  | .inclusion _ _ context => optionalProse context
  | .sequence _ parts => partProse parts
  | .bare _ => []

/-- The texts of an optional tree. -/
def optionalProse : Option Node → Text
  | none => []
  | some node => prose node

/-- The texts of a list of trees. -/
def partProse : List Node → Text
  | [] => []
  | part :: rest => prose part ++ partProse rest

/-- The texts of a list of alternatives. -/
def alternativeProse : List (Pattern × Node) → Text
  | [] => []
  | (_, body) :: rest => prose body ++ alternativeProse rest

end

theorem partProse_append (front back : List Node) :
    partProse (front ++ back) = partProse front ++ partProse back := by
  induction front with
  | nil => simp [partProse]
  | cons part front hypothesis => simp [partProse, hypothesis]

example (position : Position) (first second : Text) :
    partProse ([.text position first] ++ [.text position second]) = first ++ (second ++ []) := by
  cbv

theorem alternativeProse_append (front back : List (Pattern × Node)) :
    alternativeProse (front ++ back) = alternativeProse front ++ alternativeProse back := by
  induction front with
  | nil => simp [alternativeProse]
  | cons alternative front hypothesis => simp [alternativeProse, hypothesis]

@[simp] theorem prose_call (position : Position) (name : Text) (argument : Node) :
    (call position name argument).prose = argument.prose := by
  simp [call, prose]

@[simp] theorem prose_binary (position : Position) (symbol : Text) (left right : Node) :
    (binary position symbol left right).prose = left.prose ++ right.prose := by
  simp [binary, prose]

@[simp] theorem prose_sequenced (position : Position) (parts : List Node) :
    (sequenced position parts).prose = partProse parts := by
  unfold sequenced
  split
  · simp [partProse]
  · rw [prose]

@[simp] theorem prose_selected
    (scrutinee : Node)
    (alternatives : List (Pattern × Node))
    (otherwise : Option Node) :
    (selected scrutinee alternatives otherwise).prose =
      scrutinee.prose ++ (alternativeProse alternatives ++ optionalProse otherwise) := by
  rw [selected, prose, alternativeProse_append]
  cases otherwise <;> simp [alternativeProse, optionalProse]

/-- A conditional holds the texts of its branches and of its last body. -/
@[simp] theorem prose_conditional
    (branches : List (Node × Node))
    (otherwise : Option Node) :
    (conditional branches otherwise).prose =
      branches.flatMap (fun branch => branch.1.prose ++ branch.2.prose) ++
        optionalProse otherwise := by
  induction branches with
  | nil =>
    cases otherwise with
    | none => simp [conditional, nothing, prose, partProse, optionalProse]
    | some body => simp [conditional, optionalProse]
  | cons branch branches hypothesis =>
    have folded : conditional (branch :: branches) otherwise =
        choice branch.1 branch.2 (conditional branches otherwise) := rfl
    rw [folded, choice, prose, alternativeProse, alternativeProse, alternativeProse, hypothesis]
    simp

end Node

namespace Region

/-- An expression holds no text. -/
theorem Reads.prose_eq_nil
    {region : Region}
    {goal : Goal}
    {levels : Nat}
    {cursor finish : Cursor}
    {node : Node}
    (reads : region.Reads goal levels cursor node finish)
    (given : ∀ left ∈ goal.given, left.prose = []) :
    node.prose = [] := by
  refine Reads.forall_node (motive := fun node => node.prose = []) ?_ ?_ ?_ ?_ reads given
  · intro position value
    rw [Node.prose]
  · intro names
    rw [Node.prose]
  · intro position name argument noText
    rw [Node.prose_call, noText]
  · intro position symbol left right noneLeft noneRight
    rw [Node.prose_binary, noneLeft, noneRight, List.append_nil]

end Region

namespace Document

/-- The expressions of a segment are read by the rules for expressions. -/
theorem Step.contents_read
    {grammar : Grammar}
    {state after : State}
    {segment : Segment}
    (step : Step grammar state segment after) :
    ∀ content ∈ segment.contents, ∃ region cursor finish,
      Region.Reads region (.expression 1) content.levels cursor content.node finish := by
  cases step with
  | insertion opens reads closes => simpa [Segment.contents] using ⟨_, _, _, reads⟩
  | tag opens entered holds closes =>
    cases holds with
    | condition reads => simpa [Segment.contents] using ⟨_, _, _, reads⟩
    | further reads => simpa [Segment.contents] using ⟨_, _, _, reads⟩
    | scrutinee reads => simpa [Segment.contents] using ⟨_, _, _, reads⟩
    | binding named signed reads => simpa [Segment.contents] using ⟨_, _, _, reads⟩
    | inclusionWith keyed joined reads => simpa [Segment.contents] using ⟨_, _, _, reads⟩
    | _ => simp [Segment.contents]
  | _ => simp [Segment.contents]

theorem Steps.contents_read
    {grammar : Grammar}
    {state after : State}
    {segments : List Segment}
    (steps : Steps grammar state segments after) :
    ∀ segment ∈ segments, ∀ content ∈ segment.contents, ∃ region cursor finish,
      Region.Reads region (.expression 1) content.levels cursor content.node finish := by
  induction steps with
  | nil => simp
  | cons step _ hypothesis => exact List.forall_mem_cons.2 ⟨step.contents_read, hypothesis⟩

theorem Steps.contents_prose
    {grammar : Grammar}
    {state after : State}
    {segments : List Segment}
    (steps : Steps grammar state segments after) :
    ∀ segment ∈ segments, ∀ content ∈ segment.contents, content.node.prose = [] := by
  intro segment inside content member
  obtain ⟨region, cursor, finish, reads⟩ := steps.contents_read segment inside content member
  exact reads.prose_eq_nil (by simp [Region.Goal.given])

/-! ## Texts along the source -/

/-- Whether a gap between the tag that opens a selection and the next tag is open
behind a segment. -/
def Segment.gapBehind (inGap : Bool) (segment : Segment) : Bool :=
  if segment.isTag then segment.opensSelection else inGap

/-- The text of a segment; blank text in a gap does not count. -/
def Segment.keptText (inGap : Bool) : Segment → Text
  | .text _ run => if inGap && run.isBlank then [] else run
  | _ => []

/-- The texts of some segments, one behind the other, without the blank ones that
stand between a tag that opens a selection and the tag that follows it. -/
def keptText : Bool → List Segment → Text
  | _, [] => []
  | inGap, segment :: rest => segment.keptText inGap ++ keptText (segment.gapBehind inGap) rest

/-- A gap ends with the next tag. -/
theorem keptText_of_beginsWithTag
    {segments : List Segment}
    (begins : BeginsWithTag segments)
    (inGap : Bool) :
    keptText inGap segments = keptText false segments := by
  obtain ⟨tag, rest, rfl, isTag⟩ := begins
  cases tag with
  | tag opener held behind => rfl
  | _ => cases isTag

/-- Nothing is kept of blank segments in a gap. -/
theorem keptText_of_blank
    {gap : List Segment}
    (noTag : ∀ segment ∈ gap, segment.isTag = false)
    (blank : gap.all Segment.isBlank = true)
    (rest : List Segment) :
    keptText true (gap ++ rest) = keptText true rest := by
  induction gap with
  | nil => rfl
  | cons segment gap hypothesis =>
    rw [List.forall_mem_cons] at noTag
    rw [List.all_cons, Bool.and_eq_true] at blank
    have nothingKept : segment.keptText true = [] := by
      cases segment with
      | text position run =>
        have isBlank : run.isBlank = true := blank.1
        simp [Segment.keptText, isBlank]
      | _ => rfl
    have stillOpen : segment.gapBehind true = true := by
      simp [Segment.gapBehind, noTag.1]
    rw [List.cons_append, keptText, nothingKept, stillOpen, hypothesis noTag.2 blank.2]
    rfl

/-- Nothing is kept of the gap behind a tag that opens a selection. -/
theorem keptText_scrutinee
    {opener behind : Position}
    {subject : Content}
    {gap rest : List Segment}
    (noTag : ∀ segment ∈ gap, segment.isTag = false)
    (blank : gap.all Segment.isBlank = true)
    (begins : BeginsWithTag rest) :
    keptText false (.tag opener (.scrutinee subject) behind :: (gap ++ rest)) =
      keptText false rest := by
  have entered : keptText false (.tag opener (.scrutinee subject) behind :: (gap ++ rest)) =
      keptText true (gap ++ rest) := rfl
  rw [entered, keptText_of_blank noTag blank, keptText_of_beginsWithTag begins]

/-- The texts of a piece of a document. -/
def Piece.prose : Piece → Text
  | .text _ run => run
  | .part node => node.prose

theorem partProse_appendText (position : Position) (run : Text) (parts : List Node) :
    Node.partProse (appendText position run parts).reverse =
      Node.partProse parts.reverse ++ run := by
  unfold appendText
  split <;> simp [Node.partProse_append, Node.partProse, Node.prose]

/-- Joining pieces keeps their texts. -/
theorem Piece.partProse_foldl_added (pieces : List Piece) (parts : List Node) :
    Node.partProse (pieces.foldl added parts).reverse =
      Node.partProse parts.reverse ++ pieces.flatMap prose := by
  induction pieces generalizing parts with
  | nil => simp
  | cons piece pieces hypothesis =>
    rw [List.foldl_cons, hypothesis, List.flatMap_cons]
    cases piece with
    | text position run => simp [added, prose, partProse_appendText]
    | part node => simp [added, prose, Node.partProse_append, Node.partProse]

theorem Piece.partProse_joined (pieces : List Piece) :
    Node.partProse (joined pieces) = pieces.flatMap prose := by
  rw [joined, partProse_foldl_added]
  rfl

/-- The texts of what a form stands for. -/
def Form.prose : Form → Text
  | .item pieces => pieces.flatMap Piece.prose
  | .items pieces => pieces.flatMap Piece.prose
  | .document _ node => node.prose
  | .branches tests => tests.flatMap fun test => test.1.prose ++ test.2.prose
  | .alternatives cases => Node.alternativeProse cases
  | .otherwise body => Node.optionalProse body

theorem keptText_tag
    {opener behind : Position}
    {tag : Tag}
    (plain : (Segment.tag opener tag behind).opensSelection = false)
    (inGap : Bool)
    (rest : List Segment) :
    keptText inGap (.tag opener tag behind :: rest) = keptText false rest := by
  rw [keptText, Segment.gapBehind, plain]
  rfl

/-- The tree of a derivation holds the texts of the segments in their order, up to
the blank ones in gaps. -/
theorem Derives.prose_append
    {form : Form}
    {levels : Nat}
    {segments : List Segment}
    (derives : Derives form levels segments)
    (plain : ∀ segment ∈ segments, ∀ content ∈ segment.contents, content.node.prose = [])
    (blank : gapsAreBlank segments = true)
    (rest : List Segment) :
    keptText false (segments ++ rest) = form.prose ++ keptText false rest := by
  induction derives generalizing rest with
  | text => simp [keptText, Segment.keptText, Segment.gapBehind, Segment.isTag, Form.prose,
      Piece.prose]
  | insertion fits =>
    have content := plain _ List.mem_cons_self _ List.mem_cons_self
    simp [keptText, Segment.keptText, Segment.gapBehind, Segment.isTag, Form.prose, Piece.prose,
      content]
  | comment => simp [keptText, Segment.keptText, Segment.gapBehind, Segment.isTag, Form.prose]
  | pragma => simp [keptText, Segment.keptText, Segment.gapBehind, Segment.isTag, Form.prose]
  | @inclusion levels opener behind key context fits =>
    have inner : Node.optionalProse (context.map Content.node) = [] := by
      cases context with
      | none => rfl
      | some content => exact plain _ List.mem_cons_self content List.mem_cons_self
    rw [List.singleton_append, keptText_tag rfl]
    simp [Form.prose, Piece.prose, Node.prose, inner]
  | conditional fits first others rest' firstHypothesis othersHypothesis restHypothesis =>
    simp only [List.forall_mem_cons, List.forall_mem_append] at plain
    obtain ⟨test, bodyPlain, branchesPlain, defaultPlain, _⟩ := plain
    rw [gapsAreBlank_cons_of_not_opens rfl] at blank
    obtain ⟨bodyBlank, blank⟩ := gapsAreBlank_of_append blank
    obtain ⟨branchesBlank, blank⟩ := gapsAreBlank_of_append blank
    obtain ⟨defaultBlank, _⟩ := gapsAreBlank_of_append blank
    have inner := test _ List.mem_cons_self
    rw [List.cons_append, keptText_tag rfl]
    simp only [List.append_assoc]
    rw [firstHypothesis bodyPlain bodyBlank, othersHypothesis branchesPlain branchesBlank,
      restHypothesis defaultPlain defaultBlank, List.singleton_append, keptText_tag rfl]
    simp [Form.prose, Piece.prose, inner]
  | @selection _ _ _ last finish _ _ _ gap caseSegments defaultSegments _ noTag cases rest'
      casesHypothesis restHypothesis =>
    simp only [List.forall_mem_cons, List.forall_mem_append] at plain
    obtain ⟨subject, _, casesPlain, defaultPlain, _⟩ := plain
    have begins (more : List Segment) : BeginsWithTag (caseSegments ++ (defaultSegments ++
        (.tag last (.marker .endSelection) finish :: more))) :=
      cases.clause_append rfl (rest'.clause_append rfl .cons)
    rw [gapsAreBlank_scrutinee noTag (begins []), Bool.and_eq_true] at blank
    obtain ⟨gapBlank, blank⟩ := blank
    obtain ⟨casesBlank, blank⟩ := gapsAreBlank_of_append blank
    obtain ⟨defaultBlank, _⟩ := gapsAreBlank_of_append blank
    have inner := subject _ List.mem_cons_self
    simp only [List.cons_append, List.append_assoc, List.nil_append]
    rw [keptText_scrutinee noTag gapBlank (begins rest), casesHypothesis casesPlain casesBlank,
      restHypothesis defaultPlain defaultBlank, keptText_tag rfl]
    simp [Form.prose, Piece.prose, inner]
  | loop each rest' eachHypothesis restHypothesis =>
    simp only [List.forall_mem_cons, List.forall_mem_append] at plain
    obtain ⟨_, bodyPlain, defaultPlain, _⟩ := plain
    rw [gapsAreBlank_cons_of_not_opens rfl] at blank
    obtain ⟨bodyBlank, blank⟩ := gapsAreBlank_of_append blank
    obtain ⟨defaultBlank, _⟩ := gapsAreBlank_of_append blank
    rw [List.cons_append, keptText_tag rfl]
    simp only [List.append_assoc]
    rw [eachHypothesis bodyPlain bodyBlank, restHypothesis defaultPlain defaultBlank,
      List.singleton_append, keptText_tag rfl]
    simp [Form.prose, Piece.prose, Node.prose]
  | binding fits scope hypothesis =>
    simp only [List.forall_mem_cons, List.forall_mem_append] at plain
    obtain ⟨value, bodyPlain, _⟩ := plain
    rw [gapsAreBlank_cons_of_not_opens rfl] at blank
    obtain ⟨bodyBlank, _⟩ := gapsAreBlank_of_append blank
    have inner := value _ List.mem_cons_self
    rw [List.cons_append, keptText_tag rfl, List.append_assoc, hypothesis bodyPlain bodyBlank,
      List.singleton_append, keptText_tag rfl]
    simp [Form.prose, Piece.prose, Node.prose, inner]
  | nothing => rfl
  | next first rest' firstHypothesis restHypothesis =>
    simp only [List.forall_mem_append] at plain
    obtain ⟨frontBlank, backBlank⟩ := gapsAreBlank_of_append blank
    rw [List.append_assoc, firstHypothesis plain.1 frontBlank, restHypothesis plain.2 backBlank]
    simp [Form.prose]
  | document items hypothesis =>
    rw [hypothesis plain blank]
    simp [Form.prose, Piece.partProse_joined]
  | noBranch => rfl
  | branch fits first others firstHypothesis othersHypothesis =>
    simp only [List.forall_mem_cons, List.forall_mem_append] at plain
    obtain ⟨test, bodyPlain, branchesPlain⟩ := plain
    rw [gapsAreBlank_cons_of_not_opens rfl] at blank
    obtain ⟨bodyBlank, branchesBlank⟩ := gapsAreBlank_of_append blank
    have inner := test _ List.mem_cons_self
    rw [List.cons_append, keptText_tag rfl, List.append_assoc,
      firstHypothesis bodyPlain bodyBlank, othersHypothesis branchesPlain branchesBlank]
    simp [Form.prose, inner]
  | noAlternative => rfl
  | alternative first others firstHypothesis othersHypothesis =>
    simp only [List.forall_mem_cons, List.forall_mem_append] at plain
    obtain ⟨_, bodyPlain, casesPlain⟩ := plain
    rw [gapsAreBlank_cons_of_not_opens rfl] at blank
    obtain ⟨bodyBlank, casesBlank⟩ := gapsAreBlank_of_append blank
    rw [List.cons_append, keptText_tag rfl, List.append_assoc,
      firstHypothesis bodyPlain bodyBlank, othersHypothesis casesPlain casesBlank]
    simp [Form.prose, Node.alternativeProse]
  | noDefault => rfl
  | default rest' hypothesis =>
    simp only [List.forall_mem_cons] at plain
    rw [gapsAreBlank_cons_of_not_opens rfl] at blank
    rw [List.cons_append, keptText_tag rfl, hypothesis plain.2 blank]
    simp [Form.prose, Node.optionalProse]

end Document

namespace Template

open Document

/-- The template of a source that is nothing but text. -/
def plain (name source : Text) : Template where
  root :=
    if source = [] then .sequence (Cursor.start name source).position []
    else .text (Cursor.start name source).position source
  includes := []

/-- A source without any opening delimiter is one segment of text, or none. -/
theorem arises_plain
    {options : Options}
    {source : Text}
    {delimiters : Delimiters}
    (name : Text)
    (noOpening : ∀ kind ∈ options.order, ¬ (delimiters.pair kind).opening <:+: source)
    (allowed : 1 ≤ options.limit) :
    ∃ segments final, Arises options name delimiters source (plain name source) segments 1
      final := by
  by_cases isEmpty : source = []
  · subst isEmpty
    exact ⟨[], initial name delimiters [], .nil, rfl, .document .nothing, rfl, allowed, rfl⟩
  · have unread : (initial name delimiters source).cursor.isAtEnd = false := by
      simpa [initial, Cursor.start, Cursor.isAtEnd] using isEmpty
    have noRegion : (initial name delimiters source).kind? options.order = none := by
      simp only [State.kind?, List.find?_eq_none, Cursor.startsWith, List.isPrefixOf_iff_prefix]
      exact fun kind member begins => noOpening kind member begins.isInfix
    have wholeRun : (initial name delimiters source).textRun options.order =
        (source, (Cursor.start name source).forward source.length) := by
      have notInside : ∀ literal ∈ delimiters.openings options.order, ¬ literal <:+: source := by
        intro literal member
        obtain ⟨kind, inOrder, rfl⟩ := List.mem_map.1 member
        exact noOpening kind inOrder
      have everything : Text.beforeAny (delimiters.openings options.order) source = source :=
        Text.beforeAny_eq_self notInside
      simp only [State.textRun, Cursor.readBefore, initial, Cursor.start, everything]
    have step : Step (grammarFor options source) (initial name delimiters source) _ _ :=
      .text unread noRegion
    have run : ((initial name delimiters source).textRun
        (grammarFor options source).order).1 = source := congrArg Prod.fst wholeRun
    have behind : ((initial name delimiters source).textRun
        (grammarFor options source).order).2 = (Cursor.start name source).forward source.length :=
      congrArg Prod.snd wholeRun
    rw [run, behind] at step
    refine ⟨_, _, .single step, ?_, ?_, rfl, allowed, rfl⟩
    · simp [Cursor.isAtEnd, Cursor.start]
    · have derives : Derives (.document (Cursor.start name source).position
          (Node.sequenced (Cursor.start name source).position (Piece.joined
            [.text (Cursor.start name source).position source]))) 1
          [.text (Cursor.start name source).position source] :=
        .document (.next .text .nothing)
      have isText : (plain name source).root =
          .text (Cursor.start name source).position source := if_neg isEmpty
      rw [isText]
      exact derives

/-- No text is lost, added or moved.  A source that is read is a concatenation of the
slices that its segments take, each of them text without any opening delimiter that is
active there or a region between the delimiters of its kind; the texts of the tree, one
behind the other, are those of the text slices, without the blank ones between the tag
that opens a selection and the tag that follows it.  A source without any opening
delimiter is read to itself. -/
theorem read_conserves_text
    (options : Options)
    (name : Text)
    (delimiters : Delimiters)
    (source : Text) :
    (∀ template, (read options name delimiters source).result = .ok template →
      ∃ slices levels final,
        Arises options name delimiters source template (slices.map Slice.segment) levels final ∧
        Sliced (grammarFor options source) (initial name delimiters source) slices final ∧
        source = slices.flatMap Slice.content ∧
        template.root.prose = keptText false (slices.map Slice.segment)) ∧
    ((∀ kind ∈ options.order, ¬ (delimiters.pair kind).opening <:+: source) →
      ∀ template, (read options name delimiters source).result = .ok template ↔
        1 ≤ options.limit ∧ template = plain name source) := by
  refine ⟨fun template success => ?_, fun noOpening template => ⟨fun success => ?_, ?_⟩⟩
  · obtain ⟨segments, levels, final, arises⟩ := arises_of_read success
    obtain ⟨slices, rfl, sliced⟩ := arises.steps.exists_sliced
    have nothingLeft : final.cursor.rest = [] := by
      simpa [Cursor.isAtEnd] using arises.ended
    refine ⟨slices, levels, final, arises, sliced, ?_, ?_⟩
    · have taken := sliced.rest_eq
      rwa [nothingLeft, List.append_nil] at taken
    · have texts := arises.derives.prose_append arises.steps.contents_prose arises.gaps []
      simpa [Form.prose, keptText] using texts.symm
  · obtain ⟨segments, levels, final, arises⟩ := arises_of_read success
    have positive := arises.derives.levels_pos
    have allowed : 1 ≤ options.limit := by
      have nested := arises.nested
      omega
    obtain ⟨_, _, plainArises⟩ := arises_plain name noOpening allowed
    rw [plainArises.read_eq_ok] at success
    exact ⟨allowed, (Except.ok.inj success).symm⟩
  · rintro ⟨allowed, rfl⟩
    obtain ⟨_, _, plainArises⟩ := arises_plain name noOpening allowed
    exact plainArises.read_eq_ok

/-- A comment, a selection and a change of delimiters between texts. -/
def mixedSource : Text :=
  Text.of ("a\x7b# #\x7db\x7b%case x%\x7d \x7b%when y%\x7d c\x7b%endcase%\x7d" ++
    "\x7b!inline=(\"<\",\">\")!\x7d\x7b\x7b<d>")

/-- Of the text between the regions only the blank behind the scrutinee is left
out. -/
theorem read_conserves_text_of_mixedSource :
    ∃ template slices final,
      (read {} (Text.of "t") .braces mixedSource).result = .ok template ∧
      Sliced (grammarFor {} mixedSource) (initial (Text.of "t") .braces mixedSource) slices
        final ∧
      mixedSource = slices.flatMap Slice.content ∧
      template.root.prose = keptText false (slices.map Slice.segment) ∧
      template.root.prose = Text.of "ab c\x7b\x7b" ∧
      (read {} (Text.of "t") .braces (Text.of "\x7b a \x7d")).result =
        .ok (plain (Text.of "t") (Text.of "\x7b a \x7d")) := by
  have texts : (read {} (Text.of "t") .braces mixedSource).result.toOption.map
      (fun template => template.root.prose) = some (Text.of "ab c\x7b\x7b") := by
    decide +kernel
  obtain ⟨template, read, prose⟩ := Option.map_eq_some_iff.1 texts
  have success := Reading.toOption_eq_some.1 read
  obtain ⟨slices, _, final, _, sliced, whole, kept⟩ :=
    (read_conserves_text {} (Text.of "t") .braces mixedSource).1 template success
  refine ⟨template, slices, final, success, sliced, whole, kept, prose, ?_⟩
  have noOpening : ∀ kind ∈ Kind.all,
      ¬ (Delimiters.braces.pair kind).opening <:+: Text.of "\x7b a \x7d" := by
    decide
  exact ((read_conserves_text {} (Text.of "t") .braces _).2 noOpening _).2 ⟨by decide, rfl⟩

end Template

end Stencil
