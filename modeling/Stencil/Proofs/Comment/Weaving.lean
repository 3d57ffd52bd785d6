import Stencil.Proofs.Concatenation.Boundary
import Stencil.Proofs.Relocation.Erasure

/-!
# Comments between segments

Comments may be woven into segments: behind each segment some may follow, and one may
cut a text in two.  The segments then derive the same as before, up to positions: a
comment is an item that gives nothing, wherever a document is open, and the halves of
a text are joined again.  Gaps stay blank and includes are the same.
-/

namespace Stencil

namespace Document

/-- Some comments. -/
def comments (count : Nat) : List Segment :=
  List.replicate count .comment

/-- Segments at new positions, with comments woven in. -/
inductive Woven : List Segment → List Segment → Prop
  | nil : Woven [] []
  | cons
      {relocation : Relocation}
      {segment : Segment}
      {rest target : List Segment}
      (keeps : relocation.KeepsNames)
      (count : Nat)
      (woven : Woven rest target) :
      Woven (segment :: rest) (segment.moved relocation :: (comments count ++ target))
  | cut
      {position behind : Position}
      {run more : Text}
      {rest target : List Segment}
      (woven : Woven rest target) :
      Woven (.text position (run ++ more) :: rest)
        (.text position run :: .comment :: .text behind more :: target)

theorem noTag_comments (count : Nat) :
    ∀ segment ∈ comments count, segment.isTag = false := by
  intro segment member
  rw [List.eq_of_mem_replicate member]
  rfl

namespace Woven

variable
  {segments front back target : List Segment}
  {relocation : Relocation}

theorem of_moved
    (keeps : relocation.KeepsNames)
    (segments : List Segment) :
    Woven segments (segments.map (Segment.moved relocation)) := by
  induction segments with
  | nil => exact .nil
  | cons segment segments hypothesis => exact .cons keeps 0 hypothesis

theorem append
    {front' back' : List Segment}
    (first : Woven front front')
    (second : Woven back back') :
    Woven (front ++ back) (front' ++ back') := by
  induction first with
  | nil => exact second
  | cons keeps count _ hypothesis =>
    rw [List.cons_append, List.cons_append, List.append_assoc]
    exact .cons keeps count hypothesis
  | cut _ hypothesis => exact .cut hypothesis

/-- What is woven into segments is woven into each part of them; comments between two
parts belong to the first. -/
theorem of_append (woven : Woven (front ++ back) target) :
    ∃ front' back', target = front' ++ back' ∧ Woven front front' ∧ Woven back back' := by
  induction front generalizing target with
  | nil => exact ⟨[], target, rfl, .nil, woven⟩
  | cons segment front hypothesis =>
    cases woven with
    | cons keeps count woven =>
      obtain ⟨front', back', rfl, first, second⟩ := hypothesis woven
      refine ⟨_, back', ?_, .cons keeps count first, second⟩
      rw [List.cons_append, List.append_assoc]
    | cut woven =>
      obtain ⟨front', back', rfl, first, second⟩ := hypothesis woven
      exact ⟨_, back', rfl, .cut first, second⟩

theorem of_tag
    {opener behind : Position}
    {tag : Tag}
    {rest : List Segment}
    (woven : Woven (.tag opener tag behind :: rest) target) :
    ∃ relocation count target', relocation.KeepsNames ∧ Woven rest target' ∧
      target = .tag (relocation.map opener) (tag.moved relocation) (relocation.map behind) ::
        (comments count ++ target') := by
  cases woven with
  | cons keeps count woven => exact ⟨_, count, _, keeps, woven, rfl⟩

theorem of_last_tag
    {opener behind : Position}
    {tag : Tag}
    (woven : Woven [.tag opener tag behind] target) :
    ∃ relocation count,
      target = .tag (relocation.map opener) (tag.moved relocation) (relocation.map behind) ::
        comments count := by
  obtain ⟨relocation, count, target', _, nothing, rfl⟩ := woven.of_tag
  cases nothing
  exact ⟨relocation, count, by rw [List.append_nil]⟩

theorem noTag
    (woven : Woven segments target)
    (noTag : ∀ segment ∈ segments, segment.isTag = false) :
    ∀ segment ∈ target, segment.isTag = false := by
  induction woven with
  | nil => exact noTag
  | @cons relocation segment rest target keeps count woven hypothesis =>
    rw [List.forall_mem_cons] at noTag
    rw [List.forall_mem_cons, List.forall_mem_append]
    exact ⟨(Segment.isTag_moved relocation segment).trans noTag.1, noTag_comments count,
      hypothesis noTag.2⟩
  | cut woven hypothesis =>
    rw [List.forall_mem_cons] at noTag
    simp only [List.forall_mem_cons]
    exact ⟨rfl, rfl, rfl, hypothesis noTag.2⟩

/-! ## Gaps and includes -/

theorem takeWhile_comments (count : Nat) (rest : List Segment) :
    (comments count ++ rest).takeWhile (fun other => !other.isTag) =
      comments count ++ rest.takeWhile fun other => !other.isTag := by
  apply List.takeWhile_append_of_pos
  intro segment member
  rw [noTag_comments count segment member]
  rfl

theorem all_isBlank_comments (count : Nat) :
    (comments count).all Segment.isBlank = true := by
  rw [List.all_eq_true]
  intro segment member
  rw [List.eq_of_mem_replicate member]
  rfl

/-- What stands before the first tag stays blank. -/
theorem all_isBlank
    (woven : Woven segments target)
    (blank : (segments.takeWhile fun other => !other.isTag).all Segment.isBlank = true) :
    (target.takeWhile fun other => !other.isTag).all Segment.isBlank = true := by
  induction woven with
  | nil => exact blank
  | @cons relocation segment rest target keeps count woven hypothesis =>
    rw [List.takeWhile_cons] at blank ⊢
    rw [Segment.isTag_moved]
    cases isTag : segment.isTag with
    | true => simp
    | false =>
      simp only [isTag, Bool.not_false, if_true, List.all_cons, Bool.and_eq_true] at blank
      simp only [Bool.not_false, if_true, takeWhile_comments, List.all_cons, List.all_append,
        Segment.isBlank_moved, all_isBlank_comments, blank.1, hypothesis blank.2, Bool.and_self]
  | @cut position behind run more rest target woven hypothesis =>
    simp only [List.takeWhile_cons, Segment.isTag, Bool.not_false, if_true, List.all_cons,
      Segment.isBlank, Bool.and_eq_true] at blank ⊢
    obtain ⟨wholeBlank, restBlank⟩ := blank
    rw [Text.isBlank, List.all_append, Bool.and_eq_true] at wholeBlank
    exact ⟨wholeBlank.1, trivial, wholeBlank.2, hypothesis restBlank⟩

theorem gapsAreBlank_comments (count : Nat) (rest : List Segment) :
    gapsAreBlank (comments count ++ rest) = gapsAreBlank rest :=
  gapsAreBlank_append_of_noTag (noTag_comments count) rest

/-- Gaps with comments in them are blank. -/
theorem gapsAreBlank
    (woven : Woven segments target)
    (blank : Document.gapsAreBlank segments = true) :
    Document.gapsAreBlank target = true := by
  induction woven with
  | nil => exact blank
  | @cons relocation segment rest target keeps count woven hypothesis =>
    rw [Document.gapsAreBlank, Bool.and_eq_true, Bool.or_eq_true] at blank ⊢
    rw [Segment.opensSelection_moved, gapsAreBlank_comments, takeWhile_comments, List.all_append,
      all_isBlank_comments, Bool.true_and]
    exact ⟨blank.1.imp_right woven.all_isBlank, hypothesis blank.2⟩
  | cut woven hypothesis =>
    rw [gapsAreBlank_cons_of_not_opens rfl] at blank
    rw [gapsAreBlank_cons_of_not_opens rfl, gapsAreBlank_cons_of_not_opens rfl,
      gapsAreBlank_cons_of_not_opens rfl]
    exact hypothesis blank

theorem inclusionTags_cons (segment : Segment) (rest : List Segment) :
    inclusionTags (segment :: rest) = inclusionTags [segment] ++ inclusionTags rest := by
  rw [← List.singleton_append, inclusionTags, List.filterMap_append]
  rfl

theorem inclusionTags_comments (count : Nat) (rest : List Segment) :
    inclusionTags (comments count ++ rest) = inclusionTags rest := by
  rw [inclusionTags, List.filterMap_append, comments, List.filterMap_replicate_of_none rfl]
  rfl

/-- The same includes are met. -/
theorem inclusionTags_erase (woven : Woven segments target) :
    (inclusionTags target).map (Prod.map id Relocation.erase.map) =
      (inclusionTags segments).map (Prod.map id Relocation.erase.map) := by
  induction woven with
  | nil => rfl
  | @cons relocation segment rest target keeps count woven hypothesis =>
    have moved := inclusionTags_moved relocation [segment]
    have same : (inclusionTags [segment.moved relocation]).map
        (Prod.map id Relocation.erase.map) =
          (inclusionTags [segment]).map (Prod.map id Relocation.erase.map) := by
      rw [List.map_singleton] at moved
      rw [moved, List.map_map]
      refine List.map_congr_left fun tag _ => ?_
      exact Prod.ext rfl (keeps.erase_map tag.2)
    rw [inclusionTags_cons, inclusionTags_cons segment, inclusionTags_comments, List.map_append,
      List.map_append, same, hypothesis]
  | cut woven hypothesis => exact hypothesis

end Woven

/-! ## Derivations -/

/-- Pieces and others give the same parts up to positions, whatever stands before
them. -/
def Piece.Alike (pieces others : List Piece) : Prop :=
  ∀ parts, (others.map (Piece.moved .erase)).foldl added parts =
    (pieces.map (Piece.moved .erase)).foldl added parts

namespace Piece.Alike

variable {pieces others : List Piece}

theorem of_moved
    {relocation : Relocation}
    (keeps : relocation.KeepsNames)
    (pieces : List Piece) :
    Alike pieces (pieces.map (Piece.moved relocation)) := by
  intro parts
  simp only [List.map_map, Function.comp_def, Piece.erase_moved keeps]

theorem part
    {node node' : Node}
    (same : node'.moved .erase = node.moved .erase) :
    Alike [.part node] [.part node'] := by
  intro parts
  simp only [List.map_cons, List.map_nil, Piece.moved, same]

/-- A text is the same as its halves. -/
theorem cut
    (position behind : Position)
    (run more : Text) :
    Alike [.text position (run ++ more)] [.text position run, .text behind more] := by
  intro parts
  simp only [List.map_cons, List.map_nil, Piece.moved, List.foldl_cons, List.foldl_nil, added,
    appendText_appendText]

theorem append
    {pieces' others' : List Piece}
    (first : Alike pieces pieces')
    (second : Alike others others') :
    Alike (pieces ++ others) (pieces' ++ others') := by
  intro parts
  rw [List.map_append, List.map_append, List.foldl_append, List.foldl_append, second, first]

theorem joined (alike : Alike pieces others) :
    (Piece.joined others).map (Node.moved .erase) =
      (Piece.joined pieces).map (Node.moved .erase) := by
  rw [← Piece.joined_moved, ← Piece.joined_moved, Piece.joined, Piece.joined, alike]

end Piece.Alike

/-- Segments derive what a form says, up to positions.  An item may become several, and
a document may begin anywhere and with comments. -/
def Form.Becomes (levels : Nat) (target : List Segment) : Form → Prop
  | .item pieces => ∃ others, Derives (.items others) levels target ∧ Piece.Alike pieces others
  | .items pieces => ∃ others, Derives (.items others) levels target ∧ Piece.Alike pieces others
  | .document position node => ∀ position' count,
      Relocation.erase.map position' = Relocation.erase.map position →
      ∃ node', Derives (.document position' node') levels (comments count ++ target) ∧
        node'.moved .erase = node.moved .erase
  | .branches tests => ∃ tests', Derives (.branches tests') levels target ∧
      tests'.map (Prod.map (Node.moved .erase) (Node.moved .erase)) =
        tests.map (Prod.map (Node.moved .erase) (Node.moved .erase))
  | .alternatives cases => ∃ cases', Derives (.alternatives cases') levels target ∧
      cases'.map (Prod.map (Pattern.moved .erase) (Node.moved .erase)) =
        cases.map (Prod.map (Pattern.moved .erase) (Node.moved .erase))
  | .otherwise body => ∃ body', Derives (.otherwise body') levels target ∧
      body'.map (Node.moved .erase) = body.map (Node.moved .erase)

theorem Derives.comments (count levels : Nat) :
    Derives (.items []) levels (Document.comments count) := by
  induction count with
  | zero => exact .nothing
  | succ count hypothesis => exact .next .comment hypothesis

variable
  {levels : Nat}
  {pieces others : List Piece}
  {front back target : List Segment}

/-- An item with comments behind it. -/
theorem Derives.commented
    (item : Derives (.item pieces) levels front)
    (count : Nat) :
    Derives (.items pieces) levels (front ++ Document.comments count) := by
  have items := Derives.next item (Derives.comments count levels)
  rwa [List.append_nil] at items

theorem Derives.items_append
    (first : Derives (.items pieces) levels front)
    (second : Derives (.items others) levels back) :
    Derives (.items (pieces ++ others)) levels (front ++ back) := by
  induction first using Derives.items_induction with
  | nothing => exact second
  | next item rest hypothesis =>
    rw [List.append_assoc, List.append_assoc]
    exact .next item hypothesis

/-- A segment that is an item by itself. -/
theorem Derives.becomes_of_single
    {segment : Segment}
    (item : Derives (.item pieces) levels [segment])
    (woven : Woven [segment] target)
    (isRegion : segment.kind?.isSome = true) :
    (Form.item pieces).Becomes levels target := by
  cases woven with
  | cons keeps count nothing =>
    cases nothing
    rw [List.append_nil]
    exact ⟨_, (item.moved _).commented count, .of_moved keeps pieces⟩
  | cut => cases isRegion

section Blocks

variable
  {opener behind last finish : Position}
  {body : Node}
  {default : Option Node}
  {bodySegments defaultSegments : List Segment}

/-- A conditional with comments woven in, given what its parts become. -/
theorem Form.Becomes.conditional
    {test : Content}
    {branches : List (Node × Node)}
    {branchSegments : List Segment}
    (fits : test.levels ≤ levels)
    (first : ∀ {within}, Woven bodySegments within →
      (Form.document behind body).Becomes levels within)
    (others : ∀ {within}, Woven branchSegments within →
      (Form.branches branches).Becomes levels within)
    (rest : ∀ {within}, Woven defaultSegments within →
      (Form.otherwise default).Becomes levels within)
    (woven : Woven (.tag opener (.condition test) behind :: (bodySegments ++ (branchSegments ++
      (defaultSegments ++ [.tag last (.marker .endConditional) finish])))) target) :
    (Form.item [.part (Node.conditional ((test.node, body) :: branches) default)]).Becomes levels
      target := by
  obtain ⟨relocation, count, _, keeps, inside, rfl⟩ := woven.of_tag
  obtain ⟨_, _, rfl, inBody, behindBody⟩ := inside.of_append
  obtain ⟨_, _, rfl, inBranches, behindBranches⟩ := behindBody.of_append
  obtain ⟨_, _, rfl, inDefault, atEnd⟩ := behindBranches.of_append
  obtain ⟨relocation', more, rfl⟩ := atEnd.of_last_tag
  obtain ⟨body', first', sameBody⟩ :=
    first inBody (relocation.map behind) count (keeps.erase_map behind)
  obtain ⟨branches', others', sameBranches⟩ := others inBranches
  obtain ⟨default', rest', sameDefault⟩ := rest inDefault
  have item := @Derives.conditional _ (relocation.map opener) _ (relocation'.map last)
    (relocation'.map finish) _ _ _ _ _ _ _ (Content.moved_fits relocation fits) first' others'
    rest'
  have items := item.commented more
  simp only [List.append_assoc, List.cons_append, List.nil_append] at items
  refine ⟨_, items, .part ?_⟩
  rw [Node.moved_conditional, Node.moved_conditional, sameDefault, List.map_cons, List.map_cons,
    sameBranches, Prod.map_apply, Prod.map_apply, sameBody, Content.moved,
    Node.erase_moved keeps]

/-- A selection with comments woven in, given what its clauses become. -/
theorem Form.Becomes.selection
    {subject : Content}
    {alternatives : List (Pattern × Node)}
    {gap alternativeSegments : List Segment}
    (fits : subject.levels ≤ levels)
    (noTag : ∀ segment ∈ gap, segment.isTag = false)
    (cases : ∀ {within}, Woven alternativeSegments within →
      (Form.alternatives alternatives).Becomes levels within)
    (rest : ∀ {within}, Woven defaultSegments within →
      (Form.otherwise default).Becomes levels within)
    (woven : Woven (.tag opener (.scrutinee subject) behind :: (gap ++ (alternativeSegments ++
      (defaultSegments ++ [.tag last (.marker .endSelection) finish])))) target) :
    (Form.item [.part (Node.selected subject.node alternatives default)]).Becomes levels
      target := by
  obtain ⟨relocation, count, _, keeps, inside, rfl⟩ := woven.of_tag
  obtain ⟨_, _, rfl, inGap, behindGap⟩ := inside.of_append
  obtain ⟨_, _, rfl, inCases, behindCases⟩ := behindGap.of_append
  obtain ⟨_, _, rfl, inDefault, atEnd⟩ := behindCases.of_append
  obtain ⟨relocation', more, rfl⟩ := atEnd.of_last_tag
  obtain ⟨cases', casesDerived, sameCases⟩ := cases inCases
  obtain ⟨default', rest', sameDefault⟩ := rest inDefault
  have noTag' := List.forall_mem_append.2 ⟨noTag_comments count, inGap.noTag noTag⟩
  have item := @Derives.selection _ (relocation.map opener) (relocation.map behind)
    (relocation'.map last) (relocation'.map finish) _ _ _ _ _ _
    (Content.moved_fits relocation fits) noTag' casesDerived rest'
  have items := item.commented more
  simp only [List.append_assoc, List.cons_append, List.nil_append] at items
  refine ⟨_, items, .part ?_⟩
  rw [Node.moved_selected, Node.moved_selected, sameDefault, sameCases, Content.moved,
    Node.erase_moved keeps]

/-- A loop with comments woven in, given what its parts become. -/
theorem Form.Becomes.loop
    {item : Identifier}
    {source : Variable}
    (each : ∀ {within}, Woven bodySegments within →
      (Form.document behind body).Becomes levels within)
    (rest : ∀ {within}, Woven defaultSegments within →
      (Form.otherwise default).Becomes levels within)
    (woven : Woven (.tag opener (.loop item source) behind :: (bodySegments ++
      (defaultSegments ++ [.tag last (.marker .endLoop) finish]))) target) :
    (Form.item [.part (.loop opener item source.reference body default)]).Becomes levels target := by
  obtain ⟨relocation, count, _, keeps, inside, rfl⟩ := woven.of_tag
  obtain ⟨_, _, rfl, inBody, behindBody⟩ := inside.of_append
  obtain ⟨_, _, rfl, inDefault, atEnd⟩ := behindBody.of_append
  obtain ⟨relocation', more, rfl⟩ := atEnd.of_last_tag
  obtain ⟨body', each', sameBody⟩ :=
    each inBody (relocation.map behind) count (keeps.erase_map behind)
  obtain ⟨default', rest', sameDefault⟩ := rest inDefault
  have loop := @Derives.loop _ (relocation.map opener) _ (relocation'.map last)
    (relocation'.map finish) (item.moved relocation) (source.moved relocation) _ _ _ _ each' rest'
  have items := loop.commented more
  simp only [List.append_assoc, List.cons_append, List.nil_append] at items
  refine ⟨_, items, .part ?_⟩
  simp only [Node.moved, Node.optionalMoved_eq_map, sameBody, sameDefault, keeps.erase_map,
    Identifier.erase_moved keeps, Variable.moved_reference, Variable.erase_moved keeps]

/-- A binding with comments woven in, given what its body becomes. -/
theorem Form.Becomes.binding
    {name : Identifier}
    {value : Content}
    (fits : value.levels ≤ levels)
    (scope : ∀ {within}, Woven bodySegments within →
      (Form.document behind body).Becomes levels within)
    (woven : Woven (.tag opener (.binding name value) behind :: (bodySegments ++
      [.tag last (.marker .endBinding) finish])) target) :
    (Form.item [.part (.binding opener name value.node body)]).Becomes levels target := by
  obtain ⟨relocation, count, _, keeps, inside, rfl⟩ := woven.of_tag
  obtain ⟨_, _, rfl, inBody, atEnd⟩ := inside.of_append
  obtain ⟨relocation', more, rfl⟩ := atEnd.of_last_tag
  obtain ⟨body', scope', sameBody⟩ :=
    scope inBody (relocation.map behind) count (keeps.erase_map behind)
  have item := @Derives.binding _ (relocation.map opener) _ (relocation'.map last)
    (relocation'.map finish) (name.moved relocation) _ _ _ (Content.moved_fits relocation fits)
    scope'
  have items := item.commented more
  simp only [List.append_assoc, List.cons_append, List.nil_append] at items
  refine ⟨_, items, .part ?_⟩
  simp only [Node.moved, sameBody, keeps.erase_map, Identifier.erase_moved keeps, Content.moved,
    Node.erase_moved keeps]

end Blocks

/-- What segments derive, they derive with comments woven in. -/
theorem Derives.becomes
    {form : Form}
    {segments : List Segment}
    (derives : Derives form levels segments)
    (woven : Woven segments target) :
    form.Becomes levels target := by
  induction derives generalizing target with
  | @text levels position run =>
    cases woven with
    | cons keeps count nothing =>
      cases nothing
      rw [List.append_nil]
      exact ⟨_, (Derives.text.moved _).commented count, .of_moved keeps _⟩
    | @cut _ behind run more _ _ nothing =>
      cases nothing
      exact ⟨_, .next .text (.next .comment (.next .text .nothing)), .cut position behind run more⟩
  | insertion fits => exact becomes_of_single (.insertion fits) woven rfl
  | comment => exact becomes_of_single .comment woven rfl
  | pragma => exact becomes_of_single .pragma woven rfl
  | inclusion fits => exact becomes_of_single (.inclusion fits) woven rfl
  | conditional fits _ _ _ firstHypothesis othersHypothesis restHypothesis =>
    exact .conditional fits firstHypothesis othersHypothesis restHypothesis woven
  | selection fits noTag _ _ casesHypothesis restHypothesis =>
    exact .selection fits noTag casesHypothesis restHypothesis woven
  | loop _ _ eachHypothesis restHypothesis => exact .loop eachHypothesis restHypothesis woven
  | binding fits _ scopeHypothesis => exact .binding fits scopeHypothesis woven
  | nothing =>
    cases woven
    exact ⟨[], .nothing, fun _ => rfl⟩
  | next first rest firstHypothesis restHypothesis =>
    obtain ⟨_, _, rfl, inFirst, inRest⟩ := woven.of_append
    obtain ⟨pieces', first', alike⟩ := firstHypothesis inFirst
    obtain ⟨others', rest', alikeRest⟩ := restHypothesis inRest
    exact ⟨pieces' ++ others', first'.items_append rest', alike.append alikeRest⟩
  | document items hypothesis =>
    intro position' count samePosition
    obtain ⟨others, items', alike⟩ := hypothesis woven
    refine ⟨_, .document ((Derives.comments count _).items_append items'), ?_⟩
    rw [Node.moved_sequenced, Node.moved_sequenced, List.nil_append, alike.joined, samePosition]
  | noBranch =>
    cases woven
    exact ⟨[], .noBranch, rfl⟩
  | @branch _ opener behind test body branches _ _ fits first others firstHypothesis
      othersHypothesis =>
    obtain ⟨relocation, count, _, keeps, inside, rfl⟩ := woven.of_tag
    obtain ⟨_, _, rfl, inBody, inBranches⟩ := inside.of_append
    obtain ⟨body', first', sameBody⟩ :=
      firstHypothesis inBody (relocation.map behind) count (keeps.erase_map behind)
    obtain ⟨branches', others', sameBranches⟩ := othersHypothesis inBranches
    rw [← List.append_assoc]
    refine ⟨_, .branch (Content.moved_fits relocation fits) first' others', ?_⟩
    rw [List.map_cons, List.map_cons, sameBranches, Prod.map_apply, Prod.map_apply, sameBody,
      Content.moved, Node.erase_moved keeps]
  | noAlternative =>
    cases woven
    exact ⟨[], .noAlternative, rfl⟩
  | @alternative _ opener behind pattern body alternatives _ _ first others firstHypothesis
      othersHypothesis =>
    obtain ⟨relocation, count, _, keeps, inside, rfl⟩ := woven.of_tag
    obtain ⟨_, _, rfl, inBody, inOthers⟩ := inside.of_append
    obtain ⟨body', first', sameBody⟩ :=
      firstHypothesis inBody (relocation.map behind) count (keeps.erase_map behind)
    obtain ⟨alternatives', others', sameOthers⟩ := othersHypothesis inOthers
    rw [← List.append_assoc]
    refine ⟨_, .alternative first' others', ?_⟩
    rw [List.map_cons, List.map_cons, sameOthers, Prod.map_apply, Prod.map_apply, sameBody,
      Pattern.erase_moved keeps]
  | noDefault =>
    cases woven
    exact ⟨none, .noDefault, rfl⟩
  | @default _ opener behind body _ rest hypothesis =>
    obtain ⟨relocation, count, _, keeps, inside, rfl⟩ := woven.of_tag
    obtain ⟨body', rest', sameBody⟩ :=
      hypothesis inside (relocation.map behind) count (keeps.erase_map behind)
    exact ⟨some body', .default rest', congrArg some sameBody⟩

end Document

end Stencil
