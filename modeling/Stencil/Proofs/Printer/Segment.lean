import Stencil.Proofs.Printer.Expression
import Stencil.Proofs.Segment

/-!
# Written segments are cut out again

Text, inline expressions and tags that were written one after the other are the
segments that a source is cut into.  Text has to be followed by a region or by
nothing, since it would go on otherwise.
-/

namespace Stencil

/-! ## Delimiters -/

/-- Inline regions and tags are recognised by their opening delimiters, and their
closing delimiters are taken for nothing else. -/
structure Delimiters.Legible (delimiters : Delimiters) : Prop where
  /-- What begins like an inline region is one. -/
  inlineOpens : ∀ rest, (Kind.all.find? fun kind =>
    (delimiters.pair kind).opening.isPrefixOf (delimiters.inline.opening ++ rest)) = some .inline
  /-- What begins like a tag is one. -/
  blockOpens : ∀ rest, (Kind.all.find? fun kind =>
    (delimiters.pair kind).opening.isPrefixOf (delimiters.block.opening ++ rest)) = some .block
  /-- Inline regions end where they should. -/
  inlineApart : ∀ grammar, Region.Apart ⟨grammar, delimiters.inline.closing⟩
  /-- Tags end where they should. -/
  blockApart : ∀ grammar, Region.Apart ⟨grammar, delimiters.block.closing⟩

namespace Delimiters

theorem legible_braces : braces.Legible where
  inlineOpens := fun _ => rfl
  blockOpens := fun _ => rfl
  inlineApart := fun _ => ⟨⟨_, _, rfl, by decide, by decide⟩, fun _ => rfl⟩
  blockApart := fun _ => ⟨⟨_, _, rfl, by decide, by decide⟩, fun _ => rfl⟩

theorem legible_alternate : alternate.Legible where
  inlineOpens := fun _ => rfl
  blockOpens := fun _ => rfl
  inlineApart := fun _ => ⟨⟨_, _, rfl, by decide, by decide⟩, fun _ => rfl⟩
  blockApart := fun _ => ⟨⟨_, _, rfl, by decide, by decide⟩, fun _ => rfl⟩

/-- Text ends before what follows: a region begins there, or nothing follows. -/
def Interrupts (delimiters : Delimiters) (rest : Text) : Prop :=
  rest = [] ∨ ∃ kind more, rest = (delimiters.pair kind).opening ++ more

theorem mem_openings (delimiters : Delimiters) (kind : Kind) :
    (delimiters.pair kind).opening ∈ delimiters.openings Kind.all := by
  cases kind <;> simp [openings, Kind.all]

/-- No region opens at a character that begins no opening delimiter. -/
theorem isPrefixOf_eq_false_of_begins
    {delimiters : Delimiters}
    {point : CodePoint}
    (plain : delimiters.begins point = false)
    (kind : Kind)
    (rest : Text) :
    (delimiters.pair kind).opening.isPrefixOf (point :: rest) = false := by
  obtain ⟨first, others, whole⟩ :=
    List.exists_cons_of_ne_nil (delimiters.pair kind).opening_ne_nil
  have differs := List.any_eq_false.1 plain _ (delimiters.mem_openings kind)
  rw [whole] at differs ⊢
  have apart : (first == point) = false := by simpa using differs
  rw [List.isPrefixOf_cons_cons, apart, Bool.false_and]

/-- Text is read up to the next region. -/
theorem beforeAny_append
    {delimiters : Delimiters}
    {content rest : Text}
    (plain : ∀ point ∈ content, delimiters.begins point = false)
    (interrupts : delimiters.Interrupts rest) :
    (content ++ rest).beforeAny (delimiters.openings Kind.all) = content := by
  induction content with
  | nil =>
    rcases interrupts with rfl | ⟨kind, more, rfl⟩
    · rfl
    · obtain ⟨first, others, whole⟩ :=
        List.exists_cons_of_ne_nil (delimiters.pair kind).opening_ne_nil
      have opens : ((delimiters.openings Kind.all).any fun opening =>
          opening.isPrefixOf ((delimiters.pair kind).opening ++ more)) = true := by
        refine List.any_eq_true.2 ⟨_, delimiters.mem_openings kind, ?_⟩
        exact List.isPrefixOf_iff_prefix.2 (List.prefix_append _ _)
      rw [whole, List.cons_append] at opens ⊢
      rw [List.nil_append, Text.beforeAny, if_pos opens]
  | cons point content hypothesis =>
    obtain ⟨first, others⟩ := List.forall_mem_cons.1 plain
    have none : ((delimiters.openings Kind.all).any fun opening =>
        opening.isPrefixOf (point :: (content ++ rest))) = false := by
      rw [List.any_eq_false]
      intro opening member
      obtain ⟨kind, _, rfl⟩ := List.mem_map.1 member
      simp [isPrefixOf_eq_false_of_begins first kind]
    rw [List.cons_append, Text.beforeAny, none, hypothesis others]
    rfl

end Delimiters

namespace Document

variable
  {grammar : Grammar}
  {layout : Layout}
  {delimiters : Delimiters}
  {state : State}
  {finish : Cursor}

/-- A state stands at a cursor with some delimiters. -/
def State.IsAt (state : State) (delimiters : Delimiters) (cursor : Cursor) : Prop :=
  state.delimiters = delimiters ∧ state.cursor = cursor

/-- Text is a segment. -/
theorem Step.of_text
    {content : Text}
    (order : grammar.order = Kind.all)
    (active : state.delimiters = delimiters)
    (notEmpty : content ≠ [])
    (plain : ∀ point ∈ content, delimiters.begins point = false)
    (spells : state.cursor.Spells content finish)
    (interrupts : delimiters.Interrupts finish.rest) :
    Step grammar state (.text state.cursor.position content) { state with cursor := finish } := by
  subst active
  have run : state.textRun grammar.order = (content, finish) := by
    rw [State.textRun, Cursor.readBefore, order, spells.1,
      Delimiters.beforeAny_append plain interrupts, ← spells.2]
  obtain ⟨point, others, rfl⟩ := List.exists_cons_of_ne_nil notEmpty
  obtain ⟨first, _⟩ := List.forall_mem_cons.1 plain
  have unread : state.cursor.isAtEnd = false := by
    rw [Cursor.isAtEnd, spells.1]
    rfl
  have noRegion : state.kind? grammar.order = none := by
    rw [State.kind?, List.find?_eq_none]
    intro kind _
    rw [Cursor.startsWith, spells.1, List.cons_append,
      Delimiters.isPrefixOf_eq_false_of_begins first kind]
    exact Bool.false_ne_true
  have step := Step.text unread noRegion
  rwa [run] at step

/-- An inline expression is a segment. -/
theorem Step.of_insertionText
    {node : Node}
    (order : grammar.order = Kind.all)
    (standard : grammar.operators = .standard)
    (legible : delimiters.Legible)
    (active : state.delimiters = delimiters)
    (expression : node.IsExpression)
    (spells : state.cursor.Spells (layout.insertionText delimiters node) finish) :
    ∃ tree, tree.same node = true ∧
      Step grammar state (.insertion ⟨tree, layout.expressionLevels node⟩)
        { state with cursor := finish } := by
  subst active
  obtain ⟨start, opened, rest⟩ := spells.of_append
  obtain ⟨stop, inner, closed⟩ := rest.of_append
  have apart := legible.inlineApart grammar
  have opens : state.kind? grammar.order = some .inline := by
    rw [State.kind?, order]
    simp only [Cursor.startsWith, opened.1]
    exact legible.inlineOpens start.rest
  obtain ⟨done, closes⟩ := apart.close_of_spells closed
  obtain ⟨tree, reads, same⟩ := expression.recovers_expressionText apart standard inner
    (closed.isBeforeSpace (Text.isSpaced_space _)) done
  rw [opened.2] at reads
  exact ⟨tree, same, .insertion opens reads closes⟩

/-- A tag is entered behind its word, before a space. -/
theorem openTag_of_spells
    {word : String}
    {start : Cursor}
    (order : grammar.order = Kind.all)
    (legible : delimiters.Legible)
    (active : state.delimiters = delimiters)
    (whole : Style.identifier.IsLexeme (Text.of word))
    (spells : state.cursor.Spells (delimiters.block.opening ++ (Text.space ++ Text.of word)) start)
    (before : start.IsBeforeSpace) :
    state.kind? grammar.order = some .block ∧
      openTag (Text.of word) state = .ok state.cursor.position { state with
        cursor := start
        journal := .opened (Text.of word) state.cursor.position :: state.journal } := by
  subst active
  obtain ⟨behind, opened, named⟩ := spells.of_append
  have opens : state.kind? grammar.order = some .block := by
    rw [State.kind?, order]
    simp only [Cursor.startsWith, opened.1]
    exact legible.blockOpens behind.rest
  have next := Region.Continues.of_spelled_word (legible.blockApart grammar) named
    Text.isBlank_space whole before.isWordRest_eq_false
  exact ⟨opens, openTag_eq_ok.2 ⟨rfl, behind, _, start, opened.consume?_eq_some, next.2,
    by simp [Token.isWord, Token.located], rfl⟩⟩

/-- A tag is a segment if it holds what is written behind its word. -/
theorem Step.of_tagText
    {word : String}
    {content : Text}
    (property : Tag → Prop)
    (order : grammar.order = Kind.all)
    (legible : delimiters.Legible)
    (active : state.delimiters = delimiters)
    (whole : Style.identifier.IsLexeme (Text.of word))
    (spaced : content = [] ∨ content.IsSpaced)
    (spells : state.cursor.Spells (Layout.tagText delimiters word content) finish)
    (holds : ∀ {start stop : Cursor} (region : Region), region.Apart → region.grammar = grammar →
      start.Spells content stop → stop.IsBeforeSpace → region.isDone stop = true →
        ∃ tag : Tag, tag.keyword = Text.of word ∧ tag.Holds region start stop ∧ property tag) :
    ∃ tag after, property tag ∧ after.IsAt delimiters finish ∧
      Step grammar state (.tag state.cursor.position tag after.cursor.position) after := by
  subst active
  obtain ⟨start, front, back⟩ := spells.of_append
  obtain ⟨stop, inner, closed⟩ := back.of_append
  have apart := legible.blockApart grammar
  obtain ⟨done, closes⟩ := apart.close_of_spells closed
  have beforeClosing := closed.isBeforeSpace (Text.isSpaced_space _)
  have beforeContent : start.IsBeforeSpace := by
    rcases spaced with rfl | spaced
    · rwa [inner.eq_of_nil] at beforeClosing
    · exact inner.isBeforeSpace spaced
  obtain ⟨tag, keyword, held, isTag⟩ := holds _ apart rfl inner beforeClosing done
  obtain ⟨opens, entered⟩ := openTag_of_spells order legible rfl whole front beforeContent
  rw [← keyword] at entered
  refine ⟨tag, { State.noted _ state.cursor.position tag with cursor := finish }, isTag, ?_,
    .tag opens entered held closes⟩
  exact ⟨by simp, rfl⟩

/-- A tag without anything but its word is a segment. -/
theorem Step.of_markerText
    {word : String}
    (marker : Marker)
    (order : grammar.order = Kind.all)
    (legible : delimiters.Legible)
    (active : state.delimiters = delimiters)
    (keyword : marker.keyword = Text.of word)
    (whole : Style.identifier.IsLexeme (Text.of word))
    (spells : state.cursor.Spells (Layout.tagText delimiters word []) finish) :
    ∃ after, after.IsAt delimiters finish ∧
      Step grammar state (.tag state.cursor.position (.marker marker) after.cursor.position)
        after := by
  obtain ⟨tag, after, rfl, isAt, step⟩ := Step.of_tagText (· = .marker marker) order legible active
    whole (.inl rfl) spells fun region _ _ inner _ _ =>
      ⟨.marker marker, keyword, by rw [inner.eq_of_nil]; exact .marker, rfl⟩
  exact ⟨after, isAt, step⟩

/-! ## What tags hold -/

section Holds

variable
  {region : Region}
  {start stop : Cursor}
  (apart : region.Apart)
  (before : stop.IsBeforeSpace)
  (done : region.isDone stop = true)

include apart

/-- A name is spelled before a space. -/
theorem identifier_of_spells
    {name : Identifier}
    {behind : Cursor}
    (named : name.name.IsName)
    (spells : start.Spells (Text.space ++ name.name) behind)
    (spaced : behind.IsBeforeSpace) :
    ∃ found, region.identifier 1 start = .ok (found, behind) ∧ found.same name = true := by
  have next := Region.Continues.of_spelled_word apart spells Text.isBlank_space named.1
    spaced.isWordRest_eq_false
  refine ⟨_, Region.identifier_eq_ok.2 ⟨_, next, rfl, named.2, rfl⟩, ?_⟩
  simp [Identifier.same, Token.located]

include before done

theorem Tag.Holds.of_loopText
    {item : Identifier}
    {source : Variable}
    (named : item.name.IsName)
    (writable : source.IsWritable)
    (spells : start.Spells (layout.loopText item source) stop) :
    ∃ item' source', Tag.Holds region (.loop item' source') start stop ∧
      item'.same item = true ∧ source'.same source = true := by
  obtain ⟨middle, near, far⟩ := spells.of_append
  obtain ⟨behind, word, path⟩ := far.of_append
  obtain ⟨item', isName, itemSame⟩ := identifier_of_spells apart named near
    (far.isBeforeSpace ((Text.isSpaced_space _).append _))
  have next := Region.Continues.of_spelled_word apart word Text.isBlank_space (by decide)
    (path.isBeforeSpace (layout.isSpaced_pathText source)).isWordRest_eq_false
  obtain ⟨source', isPath, sourceSame, _⟩ :=
    Region.Path.of_pathText apart writable path before (.inl done)
  exact ⟨item', source', .loop isName (Region.keyword_eq_ok.2 ⟨next, rfl⟩) isPath, itemSame,
    sourceSame⟩

omit apart before done in
/-- A sign of equality is spelled before a space. -/
theorem bindingSign_of_spells
    {name : Text}
    {cursor behind : Cursor}
    (spells : cursor.Spells (Text.space ++ Text.of "=") behind)
    (spaced : behind.IsBeforeSpace) :
    bindingSign name cursor = .ok ((), behind) := by
  obtain ⟨here, blank, sign⟩ := spells.of_append
  have skipped : cursor.skipBlanks = here := by
    rw [Cursor.skipBlanks_eq blank.1 Text.isBlank_space, blank.2]
    exact ⟨_, _, sign.1, by decide⟩
  have single : here.startsWith (Text.of "==") = false := by
    obtain ⟨rest, unread⟩ := spaced
    rw [Cursor.startsWith, sign.1, unread]
    rfl
  simp only [bindingSign, skipped, single, Bool.false_eq_true, if_false, sign.consume?_eq_some]

theorem Tag.Holds.of_bindingText
    {name : Identifier}
    {value : Node}
    (standard : region.grammar.operators = .standard)
    (named : name.name.IsName)
    (expression : value.IsExpression)
    (spells : start.Spells (layout.bindingText name value) stop) :
    ∃ name' value', Tag.Holds region
        (.binding name' ⟨value', layout.expressionLevels value⟩) start stop ∧
      name'.same name = true ∧ value'.same value = true := by
  obtain ⟨middle, near, far⟩ := spells.of_append
  obtain ⟨behind, sign, rest⟩ := far.of_append
  obtain ⟨name', isName, nameSame⟩ := identifier_of_spells apart named near
    (far.isBeforeSpace ((Text.isSpaced_space _).append _))
  have signed := @bindingSign_of_spells name'.name _ _ sign
    (rest.isBeforeSpace (expression.isSpaced_expressionText layout))
  obtain ⟨value', reads, valueSame⟩ :=
    expression.recovers_expressionText apart standard rest before done
  exact ⟨name', value', .binding isName signed reads, nameSame, valueSame⟩

theorem Tag.Holds.of_inclusionText
    {key : Text}
    {context : Option Node}
    (standard : region.grammar.operators = .standard)
    (given : ∀ value ∈ context, value.IsExpression)
    (spells : start.Spells (layout.inclusionText key context) stop) :
    ∃ context' : Option Content, Tag.Holds region (.inclusion key context') start stop ∧
      (∀ content ∈ context',
        content.levels ≤ (context.map layout.expressionLevels).getD 0) ∧
      Node.sameOptional (context'.map Content.node) context = true := by
  obtain ⟨middle, near, far⟩ := spells.of_append
  have next := Region.Continues.of_spelled_string apart near Text.isBlank_space
  have keyed : inclusionKey region start = .ok (key, middle) := by
    simp [inclusionKey, next.2, next.1, Token.located, pure, Except.pure]
  cases context with
  | none =>
    obtain rfl := far.eq_of_nil
    have alone : withContext region stop = .ok (false, stop) := by
      simp [withContext, done]
    exact ⟨none, .inclusion keyed alone, by simp, by simp [Node.sameOptional]⟩
  | some value =>
    have expression := given value rfl
    obtain ⟨behind, word, rest⟩ := far.of_append
    have follows := Region.Continues.of_spelled_word apart word Text.isBlank_space
      (by decide)
      (rest.isBeforeSpace (expression.isSpaced_expressionText layout)).isWordRest_eq_false
    have joined : withContext region middle = .ok (true, behind) := by
      simp [withContext, follows.2, follows.1, Token.isWord, Token.located, pure, Except.pure]
    obtain ⟨tree, reads, same⟩ :=
      expression.recovers_expressionText apart standard rest before done
    refine ⟨some ⟨tree, layout.expressionLevels value⟩, .inclusionWith keyed joined reads, ?_, ?_⟩
    · rintro content ⟨⟩
      exact Nat.le_refl _
    · rw [Option.map_some, Node.sameOptional, same]

end Holds

end Document

end Stencil
