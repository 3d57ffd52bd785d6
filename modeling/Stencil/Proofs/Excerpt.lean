import Stencil.Proofs.Limit
import Stencil.Proofs.Printer.Segment
import Stencil.Proofs.Relocation.Erasure
import Stencil.Proofs.Concatenation

/-!
# Excerpts of a source

The condition of a tag and the body of a block are texts that can be read on their own.
Where such a text stands in a longer source it is read to the same tree at its new
position: a condition because the closing delimiter ends it, and a body because a tag
follows and no opening delimiter reaches from the body into that tag.
-/

namespace Stencil

/-- A text with the tree that it is read to on its own. -/
structure Excerpt where
  /-- The text. -/
  text : Text
  /-- The tree. -/
  tree : Node

/-- What stands behind the word of a tag that holds an expression. -/
def Delimiters.testText (delimiters : Delimiters) (test : Text) : Text :=
  Text.space ++ test ++ (Text.space ++ delimiters.block.closing)

namespace Delimiters

/-- The named delimiters. -/
def IsPreset (delimiters : Delimiters) : Prop :=
  delimiters = .braces ∨ delimiters = .alternate

variable {delimiters : Delimiters}

theorem IsPreset.legible (preset : delimiters.IsPreset) : delimiters.Legible := by
  rcases preset with rfl | rfl
  · exact legible_braces
  · exact legible_alternate

/-- An opening delimiter that begins before a tag does not end behind the opening delimiter
of the tag. -/
theorem IsPreset.length_opening (preset : delimiters.IsPreset) (kind : Kind) :
    (delimiters.pair kind).opening.length ≤ delimiters.block.opening.length + 1 := by
  rcases preset with rfl | rfl <;> cases kind <;> decide

theorem IsPreset.begins_of_isBlank
    (preset : delimiters.IsPreset)
    {point : CodePoint}
    (blank : point.isBlank = true) :
    delimiters.begins point = false := by
  let marks : Text := Text.of "\x7b<@"
  have noneBlank : (marks.all fun mark => !mark.isBlank) = true := by decide
  rw [Bool.eq_false_iff]
  intro begins
  have isMark : point ∈ marks := by
    rcases preset with rfl | rfl <;>
      simp [marks, Delimiters.begins, openings, Kind.all, pair, braces, alternate, Text.of]
        at begins ⊢ <;>
      tauto
  simpa [blank] using List.all_eq_true.1 noneBlank point isMark

/-- What an opening delimiter begins with has a character that begins it. -/
theorem exists_begins
    {kind : Kind}
    {front back : Text}
    (opens : (delimiters.pair kind).opening = front ++ back)
    (notEmpty : front ≠ []) :
    ∃ point ∈ front, delimiters.begins point = true := by
  obtain ⟨point, others, rfl⟩ := List.exists_cons_of_ne_nil notEmpty
  refine ⟨point, List.mem_cons_self, List.any_eq_true.2 ⟨_, delimiters.mem_openings kind, ?_⟩⟩
  rw [opens]
  exact beq_self_eq_true _

end Delimiters

namespace Template

open Document

/-- A text is an expression on its own, up to the closing delimiter of a tag. -/
def IsTest
    (options : Options)
    (name : Text)
    (delimiters : Delimiters)
    (test : Excerpt) : Prop :=
  let content := delimiters.testText test.text
  let region : Region := ⟨grammarFor options content, delimiters.block.closing⟩
  ∃ finish behind,
    region.expression (callsFor content) 0 1 (Cursor.start name content) =
      .ok (test.tree, finish) ∧
    region.close finish = .ok ((), behind) ∧ behind.rest = []

/-- A text is a template on its own, and can be followed by a tag. -/
structure IsBody
    (options : Options)
    (name : Text)
    (delimiters : Delimiters)
    (body : Excerpt) : Prop where
  /-- It is read to its tree. -/
  read : ∃ includes, (read options name delimiters body.text).result = .ok ⟨body.tree, includes⟩
  /-- No pragma in it changes the delimiters. -/
  unchanged : ∀ active index, Origin.Active ⟨options, name, delimiters, body.text⟩ active index →
    active = delimiters
  /-- No opening delimiter begins in it and ends in the tag behind it. -/
  apart : ∀ kind, ¬ Text.Straddles (delimiters.pair kind).opening body.text
    delimiters.block.opening

end Template

namespace Document

/-! ## Gaps that are moved -/

/-- Whether a gap is blank does not depend on positions. -/
theorem gapsAreBlank_moved_append
    (relocation : Relocation)
    (segments rest : List Segment) :
    gapsAreBlank (segments.map (Segment.moved relocation) ++ rest) =
      gapsAreBlank (segments ++ rest) := by
  have sameGap (segments : List Segment) :
      ((segments.map (Segment.moved relocation) ++ rest).takeWhile
        fun other => !other.isTag).all Segment.isBlank =
        ((segments ++ rest).takeWhile fun other => !other.isTag).all Segment.isBlank := by
    induction segments with
    | nil => rfl
    | cons segment segments hypothesis =>
      simp only [List.map_cons, List.cons_append, List.takeWhile_cons, Segment.isTag_moved]
      split
      · simp only [List.all_cons, Segment.isBlank_moved, hypothesis]
      · rfl
  induction segments with
  | nil => rfl
  | cons segment segments hypothesis =>
    simp only [List.map_cons, List.cons_append, gapsAreBlank, Segment.opensSelection_moved,
      sameGap, hypothesis]

theorem Gapless.moved
    {segments : List Segment}
    (gapless : Gapless segments)
    (relocation : Relocation) :
    Gapless (segments.map (Segment.moved relocation)) :=
  fun rest => (gapsAreBlank_moved_append relocation segments rest).trans (gapless rest)

/-! ## Standing before a text -/

/-- A state stands in a source before a text, with some delimiters. -/
structure State.Stands
    (name source : Text)
    (delimiters : Delimiters)
    (rest : Text)
    (state : State) : Prop where
  /-- The state belongs to the source. -/
  reached : (Cursor.start name source).Reaches state.cursor
  /-- The delimiters are active. -/
  active : state.delimiters = delimiters
  /-- The text is unread. -/
  unread : state.cursor.rest = rest

variable
  {operators : OperatorTable}
  {limit lower : Int}
  {name source : Text}
  {delimiters : Delimiters}
  {state : State}
  {rest : Text}

theorem State.Stands.of_isAt
    {text : Text}
    {after : State}
    (stands : state.Stands name source delimiters (text ++ rest))
    (isAt : after.IsAt delimiters (state.cursor.forward text.length)) :
    after.Stands name source delimiters rest where
  reached := by
    rw [isAt.2]
    exact stands.reached.trans (Cursor.reaches_forward _ _)
  active := isAt.1
  unread := by
    rw [isAt.2]
    exact Cursor.rest_forward_of_append stands.unread

theorem State.Stands.spells
    {text : Text}
    (stands : state.Stands name source delimiters (text ++ rest)) :
    state.cursor.Spells text (state.cursor.forward text.length) :=
  Cursor.spells_forward stands.unread

/-! ## Tags -/

/-- A kind of tag that holds an expression and nothing else. -/
structure HoldsExpression (tag : Content → Tag) (word : String) : Prop where
  /-- The word is a word. -/
  whole : Style.identifier.IsLexeme (Text.of word)
  /-- It is the word of the tag. -/
  keyword : ∀ content, (tag content).keyword = Text.of word
  /-- An expression is all that the tag has to hold. -/
  holds : ∀ {region : Region} {content : Content} {start stop : Cursor},
    region.Reads (.expression 1) content.levels start content.node stop →
      (tag content).Holds region start stop

theorem holdsExpression_condition : HoldsExpression .condition "if" :=
  ⟨by decide, fun _ => rfl, .condition⟩

theorem holdsExpression_further : HoldsExpression .further "elif" :=
  ⟨by decide, fun _ => rfl, .further⟩

theorem holdsExpression_scrutinee : HoldsExpression .scrutinee "case" :=
  ⟨by decide, fun _ => rfl, .scrutinee⟩

/-- What is an expression on its own is one where it stands, up to the same closing
delimiter. -/
theorem reads_of_isTest
    {test : Excerpt}
    {start : Cursor}
    (isTest : Template.IsTest ⟨operators, lower, Kind.all⟩ name delimiters test)
    (reached : (Cursor.start name source).Reaches start)
    (unread : start.rest = delimiters.testText test.text ++ rest)
    (limit : Int) :
    let region : Region :=
      ⟨Template.grammarFor ⟨operators, limit, Kind.all⟩ source, delimiters.block.closing⟩
    ∃ relocation finish behind, relocation.KeepsNames ∧
      region.Reads (.expression 1) lower.toNat start (test.tree.moved relocation) finish ∧
      region.close finish = .ok ((), behind) ∧ behind.rest = rest := by
  obtain ⟨last, own, expression, closes, atEnd⟩ := isTest
  have swaps := Cursor.swaps_nil_iff_moves.2 (reached.moves unread)
  have notEmpty := delimiters.block.closing_ne_nil
  have within : ([] : Text).length ≤ own.rest.length := Nat.zero_le _
  have reads := (Region.Reads.of_rules _ _).1 expression
  obtain ⟨finish, reads', onward⟩ := (Region.swapping _ _ _ _ (source.length + 1)).reads reads
    swaps (.of_close notEmpty closes within)
  obtain ⟨behind, closes', further⟩ := Region.close_swaps notEmpty closes onward within
  have levels : (Template.grammarFor ⟨operators, lower, Kind.all⟩
      (delimiters.testText test.text)).levelsBelow 0 = lower.toNat := by
    simp [Grammar.levelsBelow, Template.grammarFor]
  refine ⟨_, finish, behind, Relocation.keepsNames_behind _, levels ▸ reads'.within limit, closes', ?_⟩
  rw [(Cursor.swaps_nil_iff_moves.1 further).rest, atEnd, List.nil_append]

/-- What is an expression on its own is one in a tag. -/
theorem Step.of_isTest
    {tag : Content → Tag}
    {word : String}
    {test : Excerpt}
    (legible : delimiters.Legible)
    (holdsExpression : HoldsExpression tag word)
    (isTest : Template.IsTest ⟨operators, lower, Kind.all⟩ name delimiters test)
    (stands : state.Stands name source delimiters
      (Layout.tagText delimiters word (Text.space ++ test.text) ++ rest)) :
    ∃ relocation after, relocation.KeepsNames ∧ after.Stands name source delimiters rest ∧
      Step (Template.grammarFor ⟨operators, limit, Kind.all⟩ source) state
        (.tag state.cursor.position (tag ⟨test.tree.moved relocation, lower.toNat⟩)
          after.cursor.position) after := by
  obtain ⟨start, front, back⟩ := stands.spells.of_append
  have unread : start.rest = delimiters.testText test.text ++ rest := by
    rw [back.1, Cursor.rest_forward_of_append stands.unread]
    rfl
  have reached : (Cursor.start name source).Reaches start := by
    rw [front.2]
    exact stands.reached.trans (Cursor.reaches_forward _ _)
  have before : start.IsBeforeSpace :=
    ⟨_, unread.trans (by rw [Delimiters.testText, List.append_assoc, List.append_assoc])⟩
  obtain ⟨relocation, finish, behind, keeps, reads, closes, ends⟩ :=
    reads_of_isTest isTest reached unread limit
  have order : (Template.grammarFor ⟨operators, limit, Kind.all⟩ source).order = Kind.all := rfl
  obtain ⟨opens, entered⟩ :=
    openTag_of_spells order legible stands.active holdsExpression.whole front before
  obtain rfl := stands.active
  rw [← holdsExpression.keyword ⟨test.tree.moved relocation, lower.toNat⟩] at entered
  have step := Step.tag opens entered (holdsExpression.holds reads) closes
  refine ⟨relocation, _, keeps, ⟨stands.reached.trans step.passes.1, ?_, ends⟩, step⟩
  simp

/-- A tag without anything but its word stands before what follows it. -/
theorem Step.of_marker
    {word : String}
    (marker : Marker)
    (legible : delimiters.Legible)
    (keyword : marker.keyword = Text.of word)
    (whole : Style.identifier.IsLexeme (Text.of word))
    (stands : state.Stands name source delimiters (Layout.tagText delimiters word [] ++ rest)) :
    ∃ after, after.Stands name source delimiters rest ∧
      Step (Template.grammarFor ⟨operators, limit, Kind.all⟩ source) state
        (.tag state.cursor.position (.marker marker) after.cursor.position) after := by
  have order : (Template.grammarFor ⟨operators, limit, Kind.all⟩ source).order = Kind.all := rfl
  obtain ⟨after, isAt, step⟩ :=
    Step.of_markerText marker order legible stands.active keyword whole stands.spells
  exact ⟨after, stands.of_isAt isAt, step⟩

/-- Blanks before a tag are text. -/
theorem Steps.of_blank
    {gap tail : Text}
    (preset : delimiters.IsPreset)
    (blank : gap.isBlank = true)
    (begins : delimiters.block.opening <+: tail)
    (stands : state.Stands name source delimiters (gap ++ tail)) :
    ∃ segments after, after.Stands name source delimiters tail ∧
      Steps (Template.grammarFor ⟨operators, limit, Kind.all⟩ source) state segments after ∧
      (∀ segment ∈ segments, segment.isTag = false) ∧
      segments.all Segment.isBlank = true := by
  by_cases notEmpty : gap = []
  · subst notEmpty
    exact ⟨[], state, stands, .nil, by simp, rfl⟩
  · have plain : ∀ point ∈ gap, delimiters.begins point = false := fun point member =>
      preset.begins_of_isBlank (List.all_eq_true.1 blank point member)
    have interrupts : delimiters.Interrupts (state.cursor.forward gap.length).rest := by
      obtain ⟨more, rfl⟩ := begins
      exact .inr ⟨.block, more, Cursor.rest_forward_of_append stands.unread⟩
    have step : Step (Template.grammarFor ⟨operators, limit, Kind.all⟩ source) state _ _ :=
      .of_text rfl stands.active notEmpty plain stands.spells interrupts
    have isAt : State.IsAt { state with cursor := state.cursor.forward gap.length } delimiters
        (state.cursor.forward gap.length) := ⟨stands.active, rfl⟩
    refine ⟨_, _, stands.of_isAt isAt, .single step, ?_, ?_⟩
    · simp [Segment.isTag]
    · simp [Segment.isBlank, blank]

/-! ## Bodies -/

/-- Where a body stands before a tag, no opening delimiter reaches into the tag. -/
theorem apart_of_isBody
    {options : Template.Options}
    {body : Excerpt}
    {tail : Text}
    {front : List Segment}
    {middle : State}
    (preset : delimiters.IsPreset)
    (isBody : Template.IsBody options name delimiters body)
    (begins : delimiters.block.opening <+: tail)
    (steps : Steps (Template.grammarFor options body.text)
      (Template.initial name delimiters body.text) front middle) :
    middle.Apart options.order tail := by
  have attained : Template.Origin.Attains ⟨options, name, delimiters, body.text⟩ middle :=
    ⟨front, steps⟩
  have active : middle.delimiters = delimiters :=
    isBody.unchanged _ _ ⟨middle, attained, rfl, rfl⟩
  rintro kind _ ⟨before, behind, some, behindSome, whole, ends, starts⟩
  rw [active] at whole
  refine isBody.apart kind ⟨before, behind, some, behindSome, whole, ?_, ?_⟩
  · refine ends.trans ?_
    rw [attained.has.eq_ofIndex.2.2]
    exact List.drop_suffix _ _
  · refine List.prefix_of_prefix_length_le starts begins ?_
    have short := preset.length_opening kind
    have positive := List.length_pos_iff.2 some
    rw [whole, List.length_append] at short
    omega

/-- What is a template on its own is a document before a tag. -/
theorem Explained.of_isBody
    {body : Excerpt}
    {tail : Text}
    (preset : delimiters.IsPreset)
    (isBody : Template.IsBody ⟨operators, lower, Kind.all⟩ name delimiters body)
    (begins : delimiters.block.opening <+: tail)
    (stands : state.Stands name source delimiters (body.text ++ tail)) :
    ∃ relocation after, relocation.KeepsNames ∧ after.Stands name source delimiters tail ∧
      Explained (Template.grammarFor ⟨operators, limit, Kind.all⟩ source)
        (.document state.cursor.position (body.tree.moved relocation)) lower.toNat state after := by
  obtain ⟨includes, success⟩ := isBody.read
  obtain ⟨final, document, atEnd, _⟩ := Template.read_eq_ok_iff_document.1 success
  obtain ⟨segments, steps, derives, gapless⟩ := (Explained.of_rules _ _).1 document
  have moves := stands.reached.moves stands.unread
  have nothingLeft : final.cursor.rest = [] := by simpa [Cursor.isAtEnd] using atEnd
  have swaps : State.Swaps _ [] tail (Template.initial name delimiters body.text) state :=
    ⟨Cursor.swaps_nil_iff_moves.2 moves, stands.active⟩
  have unchanged : final.delimiters = delimiters :=
    isBody.unchanged _ _ ⟨final, ⟨segments, steps⟩, rfl, rfl⟩
  have ended : final.EndsBefore Kind.all [] tail := by
    rintro rest ⟨shared, unread, rfl⟩
    rw [nothingLeft, List.append_nil] at unread
    rw [← unread, List.nil_append, unchanged]
    exact .inr ⟨_, delimiters.mem_openings .block, begins⟩
  obtain ⟨after, steps', onward⟩ := steps.swaps swaps
    (fun further => (apart_of_isBody preset isBody begins further).apartBefore)
    (Nat.zero_le _) (fun _ _ _ _ => ended) (source.length + 1)
  have levels : (Template.grammarFor ⟨operators, lower, Kind.all⟩ body.text).levelsBelow 0 =
      lower.toNat := by
    simp [Grammar.levelsBelow, Template.grammarFor]
  refine ⟨_, after, Relocation.keepsNames_behind (source.take state.cursor.index), ⟨?_, ?_, ?_⟩,
    segments.map (Segment.moved _), steps'.within limit, ?_, gapless.moved _⟩
  · exact stands.reached.trans steps'.reaches
  · rw [onward.delimiters, unchanged]
  · rw [(Cursor.swaps_nil_iff_moves.1 onward.cursor).rest, nothingLeft, List.nil_append]
  · have moved := derives.moved (.behind (source.take state.cursor.index))
    rw [levels] at moved
    rw [moves.here]
    exact moved

end Document

namespace Template

open Document

/-- A source is read if all of it is explained by a document. -/
theorem exists_read_of_explained
    {options : Options}
    {name source : Text}
    {delimiters : Delimiters}
    {node : Node}
    {after : State}
    (explained : Explained (grammarFor options source)
      (.document (Cursor.start name source).position node) options.limit.toNat
      (initial name delimiters source) after)
    (atEnd : after.cursor.rest = []) :
    ∃ template, (read options name delimiters source).result = .ok template ∧
      template.root = node := by
  obtain ⟨segments, steps, derives, gapless⟩ := explained
  have positive := derives.levels_pos
  refine ⟨⟨node, after.includes⟩, Arises.read_eq_ok ⟨steps, ?_, derives, ?_, ?_, rfl⟩, rfl⟩
  · rw [Cursor.isAtEnd, atEnd]
    rfl
  · simpa [gapsAreBlank] using gapless []
  · omega

theorem stands_initial (name source : Text) (delimiters : Delimiters) :
    (initial name delimiters source).Stands name source delimiters (source ++ []) :=
  ⟨.refl _, rfl, (List.append_nil source).symm⟩

/-- A text without a character that begins a delimiter is a body. -/
theorem isBody_of_text
    {operators : OperatorTable}
    {limit : Int}
    {delimiters : Delimiters}
    {text : Text}
    (name : Text)
    (positive : 1 ≤ limit)
    (notEmpty : text ≠ [])
    (plain : ∀ point ∈ text, delimiters.begins point = false) :
    IsBody ⟨operators, limit, Kind.all⟩ name delimiters
      ⟨text, .text (Cursor.start name text).position text⟩ := by
  have outside : ∀ point ∈ text, delimiters.begins point ≠ true := fun point member =>
    Bool.eq_false_iff.1 (plain point member)
  have stands := stands_initial name text delimiters
  have spells := stands.spells
  have nothingLeft : ((Cursor.start name text).forward text.length).rest = [] :=
    Cursor.rest_forward_of_append stands.unread
  have step : Step (grammarFor ⟨operators, limit, Kind.all⟩ text)
      (initial name delimiters text) _ _ :=
    .of_text rfl rfl notEmpty plain spells (.inl nothingLeft)
  have item : Explained _ (.item [.text (Cursor.start name text).position text]) 0 _ _ :=
    .single step .text rfl
  have document : Explained _ (.document (Cursor.start name text).position
      (.text (Cursor.start name text).position text)) 1 _ _ :=
    (item.next (.nothing .nothing)).wholeDocument
  have enough : 1 ≤ limit.toNat := by omega
  obtain ⟨template, success, isRoot⟩ :=
    exists_read_of_explained (document.mono enough) nothingLeft
  refine ⟨⟨template.includes, ?_⟩, fun active index isActive => ?_, fun kind straddles => ?_⟩
  · simp only [success, ← isRoot]
  · refine isActive.eq_of_noPragma fun isInfix => ?_
    have opens : (delimiters.pair .pragma).opening = delimiters.pragma.opening ++ [] :=
      (List.append_nil _).symm
    obtain ⟨point, member, begins⟩ :=
      Delimiters.exists_begins opens delimiters.pragma.opening_ne_nil
    exact outside point (isInfix.subset member) begins
  · obtain ⟨front, back, frontSome, _, opens, ends, _⟩ := straddles
    obtain ⟨point, member, begins⟩ := Delimiters.exists_begins opens frontSome
    exact outside point (ends.subset member) begins

end Template

end Stencil
