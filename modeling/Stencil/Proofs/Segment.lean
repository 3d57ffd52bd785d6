import Stencil.Proofs.Phrase.Rules

/-!
# Segments of a source

A source can be cut from left to right into text, inline expressions, comments,
pragmas and tags without any knowledge of how blocks are nested.  A step reads
one segment with the delimiters that are active at its place; only a pragma
changes them.  The content of a tag is read by the word of the tag alone.
-/

namespace Stencil

namespace Document

/-- An expression of a region and a number of levels that is enough for its
parentheses and prefix operators. -/
structure Content where
  /-- The tree. -/
  node : Node
  /-- How many levels may be nested. -/
  levels : Nat

/-- The tags that hold nothing but their word. -/
inductive Marker where
  /-- The body for all other cases follows. -/
  | otherwise
  /-- A conditional ends. -/
  | endConditional
  /-- A selection ends. -/
  | endSelection
  /-- A loop ends. -/
  | endLoop
  /-- A binding ends. -/
  | endBinding
deriving DecidableEq

/-- The word of a tag that holds nothing else. -/
def Marker.keyword : Marker → Text
  | .otherwise => Text.of "else"
  | .endConditional => Text.of "endif"
  | .endSelection => Text.of "endcase"
  | .endLoop => Text.of "endfor"
  | .endBinding => Text.of "endlet"

/-- What a tag says. -/
inductive Tag where
  /-- The first condition of a conditional. -/
  | condition (test : Content)
  /-- A further condition. -/
  | further (test : Content)
  /-- The value that a selection compares. -/
  | scrutinee (subject : Content)
  /-- An alternative of a selection. -/
  | alternative (pattern : Pattern)
  /-- The item and the source of a loop. -/
  | loop (item : Identifier) (source : Variable)
  /-- A name and its value. -/
  | binding (name : Identifier) (value : Content)
  /-- The key of an included template and its context. -/
  | inclusion (key : Text) (context : Option Content)
  /-- Nothing but a word. -/
  | marker (word : Marker)

/-- The word of a tag. -/
def Tag.keyword : Tag → Text
  | .condition _ => Text.of "if"
  | .further _ => Text.of "elif"
  | .scrutinee _ => Text.of "case"
  | .alternative _ => Text.of "when"
  | .loop _ _ => Text.of "for"
  | .binding _ _ => Text.of "let"
  | .inclusion _ _ => Text.of "include"
  | .marker word => word.keyword

/-- A piece of a source. -/
inductive Segment where
  /-- Text up to the next region. -/
  | text (position : Position) (run : Text)
  /-- An inline expression. -/
  | insertion (content : Content)
  /-- A comment. -/
  | comment
  /-- A change of delimiters. -/
  | pragma
  /-- A tag, with the position of its opening delimiter and the one behind its
  closing delimiter. -/
  | tag (opener : Position) (tag : Tag) (behind : Position)

namespace Segment

/-- Whether a segment is a tag. -/
def isTag : Segment → Bool
  | .tag _ _ _ => true
  | _ => false

/-- Whether a segment is a comment or text without anything but blanks. -/
def isBlank : Segment → Bool
  | .text _ run => run.isBlank
  | .comment => true
  | _ => false

/-- Whether a segment is the tag that opens a selection. -/
def opensSelection : Segment → Bool
  | .tag _ (.scrutinee _) _ => true
  | _ => false

end Segment

/-- Between the tag that opens a selection and the tag that follows it there are
only blank text and comments. -/
def gapsAreBlank : List Segment → Bool
  | [] => true
  | segment :: rest =>
    (!segment.opensSelection || (rest.takeWhile fun other => !other.isTag).all Segment.isBlank) &&
      gapsAreBlank rest

/-- What a tag holds behind its word, between two cursors of its region. -/
inductive Tag.Holds (region : Region) : Tag → Cursor → Cursor → Prop
  | condition
      {test : Content}
      {cursor finish : Cursor}
      (reads : region.Reads (.expression 1) test.levels cursor test.node finish) :
      Holds region (.condition test) cursor finish
  | further
      {test : Content}
      {cursor finish : Cursor}
      (reads : region.Reads (.expression 1) test.levels cursor test.node finish) :
      Holds region (.further test) cursor finish
  | scrutinee
      {subject : Content}
      {cursor finish : Cursor}
      (reads : region.Reads (.expression 1) subject.levels cursor subject.node finish) :
      Holds region (.scrutinee subject) cursor finish
  | alternative
      {pattern : Pattern}
      {cursor finish : Cursor}
      (matched : region.Matches cursor pattern finish) :
      Holds region (.alternative pattern) cursor finish
  | loop
      {item : Identifier}
      {source : Variable}
      {word : Token}
      {cursor middle behind finish : Cursor}
      (named : region.identifier 1 cursor = .ok (item, middle))
      (joined : region.keyword (Text.of "in") middle = .ok (word, behind))
      (iterated : region.Path behind source finish) :
      Holds region (.loop item source) cursor finish
  | binding
      {name : Identifier}
      {value : Content}
      {cursor middle behind finish : Cursor}
      (named : region.identifier 1 cursor = .ok (name, middle))
      (signed : bindingSign name.name middle = .ok ((), behind))
      (reads : region.Reads (.expression 1) value.levels behind value.node finish) :
      Holds region (.binding name value) cursor finish
  | inclusion
      {key : Text}
      {cursor middle finish : Cursor}
      (keyed : inclusionKey region cursor = .ok (key, middle))
      (alone : withContext region middle = .ok (false, finish)) :
      Holds region (.inclusion key none) cursor finish
  | inclusionWith
      {key : Text}
      {context : Content}
      {cursor middle behind finish : Cursor}
      (keyed : inclusionKey region cursor = .ok (key, middle))
      (joined : withContext region middle = .ok (true, behind))
      (reads : region.Reads (.expression 1) context.levels behind context.node finish) :
      Holds region (.inclusion key (some context)) cursor finish
  | marker
      {word : Marker}
      {cursor : Cursor} :
      Holds region (.marker word) cursor cursor

/-- The state with what a tag leaves in it besides the cursor. -/
def State.noted (state : State) (opener : Position) : Tag → State
  | .inclusion key _ => { state with
      includes := state.includes.register key opener
      journal := .registered key opener :: state.journal }
  | _ => state

@[simp] theorem State.delimiters_noted (state : State) (opener : Position) (tag : Tag) :
    (state.noted opener tag).delimiters = state.delimiters := by
  cases tag <;> rfl

/-- Changes of delimiters as a pragma lists them, added to others. -/
inductive Changes (region : Region) :
    List (Kind × Value) → Cursor → List (Kind × Value) → Cursor → Prop
  | last
      {changes : List (Kind × Value)}
      {kind : Kind}
      {value : Value}
      {cursor finish : Cursor}
      (field : pragmaField region cursor = .ok ((kind, value), finish))
      (done : region.isDone finish = true) :
      Changes region changes cursor (putChange kind value changes) finish
  | more
      {changes result : List (Kind × Value)}
      {kind : Kind}
      {value : Value}
      {comma : Token}
      {cursor middle behind finish : Cursor}
      (field : pragmaField region cursor = .ok ((kind, value), middle))
      (notDone : region.isDone middle = false)
      (separated : Reading.expect .comma (.literal (Text.of ",")) middle = .ok (comma, behind))
      (rest : Changes region (putChange kind value changes) behind result finish) :
      Changes region changes cursor result finish

/-- One segment stands at the cursor of a state, and the state behind it. -/
inductive Step (grammar : Grammar) : State → Segment → State → Prop
  | text
      {state : State}
      (unread : state.cursor.isAtEnd = false)
      (noRegion : state.kind? grammar.order = none) :
      Step grammar state
        (.text state.cursor.position (state.textRun grammar.order).1)
        { state with cursor := (state.textRun grammar.order).2 }
  | insertion
      {state : State}
      {content : Content}
      {finish behind : Cursor}
      (opens : state.kind? grammar.order = some .inline)
      (reads : Region.Reads ⟨grammar, state.delimiters.inline.closing⟩ (.expression 1)
        content.levels (state.cursor.forward state.delimiters.inline.opening.length)
        content.node finish)
      (closes : Region.close ⟨grammar, state.delimiters.inline.closing⟩ finish =
        .ok ((), behind)) :
      Step grammar state (.insertion content) { state with cursor := behind }
  | comment
      {state after : State}
      (opens : state.kind? grammar.order = some .comment)
      (skipped : comment state = .ok () after) :
      Step grammar state .comment after
  | pragma
      {state : State}
      {changes : List (Kind × Value)}
      {delimiters : Delimiters}
      {finish behind : Cursor}
      (opens : state.kind? grammar.order = some .pragma)
      (listed : Changes ⟨grammar, state.delimiters.pragma.closing⟩ []
        (state.cursor.forward state.delimiters.pragma.opening.length) changes finish)
      (closes : Region.close ⟨grammar, state.delimiters.pragma.closing⟩ finish =
        .ok ((), behind))
      (changed : state.delimiters.change changes = .ok delimiters) :
      Step grammar state .pragma { state with
        cursor := behind
        delimiters := delimiters
        journal := .switched state.cursor.position changes ::
          (delimiters.warnings.reverse ++ state.journal) }
  | tag
      {state opened : State}
      {opener : Position}
      {tag : Tag}
      {finish behind : Cursor}
      (opens : state.kind? grammar.order = some .block)
      (entered : openTag tag.keyword state = .ok opener opened)
      (holds : tag.Holds (opened.tagRegion grammar) opened.cursor finish)
      (closes : (opened.tagRegion grammar).close finish = .ok ((), behind)) :
      Step grammar state (.tag opener tag behind.position)
        { opened.noted opener tag with cursor := behind }

/-- The segments of a source between two states. -/
inductive Steps (grammar : Grammar) : State → List Segment → State → Prop
  | nil {state : State} : Steps grammar state [] state
  | cons
      {first second third : State}
      {segment : Segment}
      {rest : List Segment}
      (step : Step grammar first segment second)
      (steps : Steps grammar second rest third) :
      Steps grammar first (segment :: rest) third

theorem Steps.single
    {grammar : Grammar}
    {state after : State}
    {segment : Segment}
    (step : Step grammar state segment after) :
    Steps grammar state [segment] after :=
  .cons step .nil

theorem Steps.append
    {grammar : Grammar}
    {first second third : State}
    {front back : List Segment}
    (near : Steps grammar first front second)
    (far : Steps grammar second back third) :
    Steps grammar first (front ++ back) third := by
  induction near with
  | nil => exact far
  | cons step _ hypothesis => exact .cons step (hypothesis far)

/-- Segments that stand one after the other are read one after the other. -/
theorem Steps.of_append
    {grammar : Grammar}
    {first third : State}
    {front back : List Segment}
    (steps : Steps grammar first (front ++ back) third) :
    ∃ second, Steps grammar first front second ∧ Steps grammar second back third := by
  induction front generalizing first with
  | nil => exact ⟨first, .nil, steps⟩
  | cons segment front hypothesis =>
    cases steps with
    | cons step steps =>
      obtain ⟨second, near, far⟩ := hypothesis steps
      exact ⟨second, .cons step near, far⟩

theorem Steps.of_cons
    {grammar : Grammar}
    {first third : State}
    {segment : Segment}
    {rest : List Segment}
    (steps : Steps grammar first (segment :: rest) third) :
    ∃ second, Step grammar first segment second ∧ Steps grammar second rest third := by
  cases steps with
  | cons step steps => exact ⟨_, step, steps⟩

/-! ## Forward only -/

/-- A tag is entered behind its opening delimiter and its word. -/
theorem openTag_eq_ok
    {keyword : Text}
    {state opened : State}
    {opener : Position} :
    openTag keyword state = .ok opener opened ↔
      opener = state.cursor.position ∧ ∃ behind token finish,
        state.cursor.consume? state.delimiters.block.opening = some behind ∧
        Reading.token behind = .ok (token, finish) ∧ token.isWord keyword = true ∧
        opened = { state with
          cursor := finish
          journal := .opened keyword opener :: state.journal } := by
  simp only [openTag, Rule.get_bind]
  constructor
  · intro success
    cases consumed : state.cursor.consume? state.delimiters.block.opening with
    | none => simp [consumed] at success
    | some behind =>
      simp only [consumed, Rule.move_bind, Rule.bind_eq_ok, Rule.reading_eq_ok] at success
      obtain ⟨token, middle, ⟨finish, scanned, rfl⟩, success⟩ := success
      by_cases isWord : token.isWord keyword = true
      · simp only [isWord, if_true, Rule.log_bind, Rule.pure_eq_ok] at success
        obtain ⟨rfl, rfl⟩ := success
        exact ⟨rfl, behind, token, finish, rfl, scanned, isWord, rfl⟩
      · simp [isWord] at success
  · rintro ⟨rfl, behind, token, finish, consumed, scanned, isWord, rfl⟩
    have read : Rule.reading Reading.token { state with cursor := behind } =
        .ok token { state with cursor := finish } :=
      Rule.reading_eq_ok.2 ⟨finish, scanned, rfl⟩
    simp only [consumed, Rule.move_bind, Rule.bind_of_ok read, isWord, if_true]
    rfl

/-- A tag that is entered was seen before. -/
theorem tagKeyword?_of_openTag
    {keyword : Text}
    {state opened : State}
    {opener : Position}
    (entered : openTag keyword state = .ok opener opened) :
    state.tagKeyword? = some keyword := by
  obtain ⟨_, behind, token, finish, consumed, scanned, isWord, _⟩ := openTag_eq_ok.1 entered
  simp only [Token.isWord, Bool.and_eq_true, decide_eq_true_eq, beq_iff_eq] at isWord
  rw [Reading.token_eq_ok] at scanned
  simp [State.tagKeyword?, consumed, scanned, isWord]

theorem passes_of_openTag
    {keyword : Text}
    {state opened : State}
    {opener : Position}
    (entered : openTag keyword state = .ok opener opened) :
    state.cursor.Passes opened.cursor := by
  obtain ⟨_, behind, token, finish, consumed, scanned, isWord, rfl⟩ := openTag_eq_ok.1 entered
  simp only [Token.isWord, Bool.and_eq_true, decide_eq_true_eq] at isWord
  have passesOpening := Cursor.passes_of_consume? state.delimiters.block.opening_ne_nil consumed
  exact passesOpening.trans (Reading.token_passes scanned (by simp [isWord.1]))

theorem expect_passes
    {kind : Token.Kind}
    {expected : Expectation}
    {cursor behind : Cursor}
    {found : Token}
    (success : Reading.expect kind expected cursor = .ok (found, behind))
    (notFinish : kind ≠ .finish) :
    cursor.Passes behind := by
  obtain ⟨scanned, rfl⟩ := Reading.expect_eq_ok.1 success
  exact Reading.token_passes scanned notFinish

theorem pragmaField_passes
    {region : Region}
    {cursor finish : Cursor}
    {change : Kind × Value}
    (success : pragmaField region cursor = .ok (change, finish)) :
    cursor.Passes finish := by
  simp only [pragmaField, Reading.bind_eq_ok, Prod.exists] at success
  obtain ⟨token, behind, scanned, success⟩ := success
  split at success
  · simp at success
  · rename_i isName
    simp only [ne_eq, decide_not, Bool.or_eq_true, Bool.not_eq_eq_eq_not, Bool.not_true,
      decide_eq_false_iff_not, not_or, Decidable.not_not, Bool.not_eq_true] at isName
    split at success
    · simp at success
    · simp only [Reading.bind_eq_ok, Prod.exists, Reading.pure_eq_ok, Prod.mk.injEq] at success
      obtain ⟨_, _, sign, _, _, left, _, _, opening, _, _, comma, _, _, closing, _, _, right,
        _, rfl⟩ := success
      obtain ⟨sign, isSign⟩ := Reading.expectOperator_eq_ok.1 sign
      simp only [Token.isOperator, Bool.and_eq_true, decide_eq_true_eq] at isSign
      have passesName := Reading.token_passes scanned (by simp [isName.1])
      have passesSign := passesName.trans (Reading.token_passes sign (by simp [isSign.1]))
      have passesLeft := passesSign.trans (expect_passes left Token.Kind.noConfusion)
      have passesOpening := passesLeft.trans (expect_passes opening Token.Kind.noConfusion)
      have passesComma := passesOpening.trans (expect_passes comma Token.Kind.noConfusion)
      have passesClosing := passesComma.trans (expect_passes closing Token.Kind.noConfusion)
      exact passesClosing.trans (expect_passes right Token.Kind.noConfusion)

theorem Changes.passes
    {region : Region}
    {changes result : List (Kind × Value)}
    {cursor finish : Cursor}
    (listed : Changes region changes cursor result finish) :
    cursor.Passes finish := by
  induction listed with
  | last field done => exact pragmaField_passes field
  | more field notDone separated rest hypothesis =>
    have passesComma := expect_passes separated Token.Kind.noConfusion
    exact ((pragmaField_passes field).trans passesComma).trans hypothesis

theorem inclusionKey_passes
    {region : Region}
    {cursor finish : Cursor}
    {key : Text}
    (success : inclusionKey region cursor = .ok (key, finish)) :
    cursor.Passes finish := by
  simp only [inclusionKey, Reading.bind_eq_ok, Prod.exists] at success
  obtain ⟨token, behind, scanned, success⟩ := success
  split at success
  · simp at success
  · rename_i isKey
    simp only [ne_eq, decide_not, Bool.or_eq_true, Bool.not_eq_eq_eq_not, Bool.not_true,
      decide_eq_false_iff_not, not_or, Decidable.not_not, Bool.not_eq_true] at isKey
    simp only [Reading.pure_eq_ok, Prod.mk.injEq] at success
    obtain ⟨_, rfl⟩ := success
    exact Reading.token_passes scanned (by simp [isKey.1])

theorem withContext_reaches
    {region : Region}
    {cursor finish : Cursor}
    {follows : Bool}
    (success : withContext region cursor = .ok (follows, finish)) :
    cursor.Reaches finish := by
  simp only [withContext] at success
  split at success
  · simp only [Except.ok.injEq, Prod.mk.injEq] at success
    obtain ⟨_, rfl⟩ := success
    exact .refl _
  · simp only [Reading.bind_eq_ok, Prod.exists] at success
    obtain ⟨token, behind, scanned, success⟩ := success
    split at success
    · rename_i isWord
      simp only [Token.isWord, Bool.and_eq_true, decide_eq_true_eq] at isWord
      simp only [Reading.pure_eq_ok, Prod.mk.injEq] at success
      obtain ⟨_, rfl⟩ := success
      exact (Reading.token_passes scanned (by simp [isWord.1])).1
    · simp only [Reading.pure_eq_ok, Prod.mk.injEq] at success
      obtain ⟨_, rfl⟩ := success
      exact .refl _

theorem bindingSign_eq_ok
    {name : Text}
    {cursor finish : Cursor} :
    bindingSign name cursor = .ok ((), finish) ↔
      cursor.skipBlanks.startsWith (Text.of "==") = false ∧
        cursor.skipBlanks.consume? (Text.of "=") = some finish := by
  simp only [bindingSign]
  cases doubled : cursor.skipBlanks.startsWith (Text.of "==") with
  | true => simp [Reading.bind_eq_ok]
  | false =>
    simp only [Bool.false_eq_true, if_false, true_and]
    split
    · rename_i behind consumed
      simp [consumed]
    · rename_i absent
      simp [absent, Reading.bind_eq_ok]

theorem bindingSign_passes
    {name : Text}
    {cursor finish : Cursor}
    (success : bindingSign name cursor = .ok ((), finish)) :
    cursor.Passes finish :=
  (Cursor.reaches_skipBlanks cursor).trans_passes
    (Cursor.passes_of_consume? (by decide) (bindingSign_eq_ok.1 success).2)

theorem keyword_passes
    {region : Region}
    {word : Text}
    {cursor behind : Cursor}
    {token : Token}
    (success : region.keyword word cursor = .ok (token, behind)) :
    cursor.Passes behind := by
  obtain ⟨next, isWord⟩ := Region.keyword_eq_ok.1 success
  simp only [Token.isWord, Bool.and_eq_true, decide_eq_true_eq] at isWord
  exact next.passes (by simp [isWord.1])

theorem Tag.Holds.reaches
    {region : Region}
    {tag : Tag}
    {cursor finish : Cursor}
    (holds : tag.Holds region cursor finish) :
    cursor.Reaches finish := by
  cases holds with
  | condition reads => exact reads.progress.1
  | further reads => exact reads.progress.1
  | scrutinee reads => exact reads.progress.1
  | alternative matched => exact matched.passes.1
  | loop named joined iterated =>
    have passesWord := (Region.identifier_passes named).trans (keyword_passes joined)
    exact (passesWord.trans iterated.passes).1
  | binding named signed reads =>
    have passesSign := (Region.identifier_passes named).trans (bindingSign_passes signed)
    exact passesSign.1.trans reads.progress.1
  | inclusion keyed alone => exact (inclusionKey_passes keyed).1.trans (withContext_reaches alone)
  | inclusionWith keyed joined reads =>
    have reachesContext := (inclusionKey_passes keyed).1.trans (withContext_reaches joined)
    exact reachesContext.trans reads.progress.1
  | marker => exact .refl _

theorem comment_eq_ok
    {state after : State} :
    comment state = .ok () after ↔
      ∃ before behind,
        (state.cursor.forward state.delimiters.comment.opening.length).readThrough?
          state.delimiters.comment.closing = some (before, behind) ∧
        after = { state with cursor := behind } := by
  simp only [comment, Rule.get_bind]
  cases through : (state.cursor.forward state.delimiters.comment.opening.length).readThrough?
      state.delimiters.comment.closing with
  | none => simp
  | some found =>
    obtain ⟨before, behind⟩ := found
    simp only [Rule.move_eq_ok, Option.some.injEq, Prod.mk.injEq]
    constructor
    · rintro rfl
      exact ⟨before, behind, ⟨rfl, rfl⟩, rfl⟩
    · rintro ⟨_, _, ⟨rfl, rfl⟩, rfl⟩
      rfl

/-- Where a region opens, the source is not at its end. -/
theorem State.rest_ne_nil
    {state : State}
    {order : List Kind}
    {kind : Kind}
    (opens : state.kind? order = some kind) :
    state.cursor.rest ≠ [] := by
  have begins := List.find?_some opens
  simp only [Cursor.startsWith, List.isPrefixOf_iff_prefix] at begins
  intro atEnd
  rw [atEnd, List.prefix_nil] at begins
  exact (state.delimiters.pair kind).opening_ne_nil begins

theorem State.isAtEnd_eq_false
    {state : State}
    {order : List Kind}
    {kind : Kind}
    (opens : state.kind? order = some kind) :
    state.cursor.isAtEnd = false := by
  simpa [Cursor.isAtEnd] using State.rest_ne_nil opens

/-- Where no region opens, there is text. -/
theorem State.textRun_ne_nil
    {state : State}
    {order : List Kind}
    (unread : state.cursor.isAtEnd = false)
    (noRegion : state.kind? order = none) :
    (state.textRun order).1 ≠ [] := by
  simp only [Cursor.isAtEnd, List.isEmpty_eq_false_iff] at unread
  simp only [State.kind?, List.find?_eq_none, Cursor.startsWith] at noRegion
  obtain ⟨point, rest, begins⟩ := List.exists_cons_of_ne_nil unread
  simp only [State.textRun, Cursor.readBefore, begins, Text.beforeAny]
  rw [if_neg]
  · exact List.cons_ne_nil _ _
  · simpa [Delimiters.openings, begins] using noRegion

/-- Every segment passes some text. -/
theorem Step.passes
    {grammar : Grammar}
    {state after : State}
    {segment : Segment}
    (step : Step grammar state segment after) :
    state.cursor.Passes after.cursor := by
  cases step with
  | text unread noRegion =>
    have positive := List.length_pos_iff.2 (State.textRun_ne_nil unread noRegion)
    exact Cursor.passes_forward positive (by simpa [Cursor.isAtEnd] using unread)
  | insertion opens reads closes =>
    have passesContent := (Cursor.reaches_forward _ _).trans_passes (reads.passes rfl)
    exact passesContent.trans (Region.close_passes state.delimiters.inline.closing_ne_nil closes)
  | comment opens skipped =>
    have positive := List.length_pos_iff.2 state.delimiters.comment.opening_ne_nil
    have passesOpening := Cursor.passes_forward positive (State.rest_ne_nil opens)
    obtain ⟨before, behind, through, rfl⟩ := comment_eq_ok.1 skipped
    exact passesOpening.trans_reaches (Cursor.reaches_of_readThrough? through)
  | pragma opens listed closes changed =>
    have passesContent := (Cursor.reaches_forward _ _).trans_passes listed.passes
    exact passesContent.trans (Region.close_passes state.delimiters.pragma.closing_ne_nil closes)
  | tag opens entered holds closes =>
    have reachesContent := (passes_of_openTag entered).trans_reaches holds.reaches
    exact reachesContent.trans (Region.close_passes (Pair.closing_ne_nil _) closes)

theorem Steps.reaches
    {grammar : Grammar}
    {state after : State}
    {segments : List Segment}
    (steps : Steps grammar state segments after) :
    state.cursor.Reaches after.cursor := by
  induction steps with
  | nil => exact .refl _
  | cons step _ hypothesis => exact step.passes.1.trans hypothesis

end Document

end Stencil
