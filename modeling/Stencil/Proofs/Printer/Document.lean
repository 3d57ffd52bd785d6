import Stencil.Proofs.Printer.Segment
import Stencil.Proofs.Structure.Explanation

/-!
# Written documents are read back

The source of a tree is cut into segments, and the segments are derived from a
document whose tree differs from the first one in positions only.  The proof
follows the tree: a part becomes one item of a document, and the body of a block
becomes a document of its own.  Text may stand anywhere in a document as long as
a region or the end follows it, which is where parts that are no text come in.
-/

namespace Stencil

/-! ## Trees that differ in positions -/

namespace Node

theorem isText_of_same
    {tree node : Node}
    (same : tree.same node = true) :
    tree.isText = node.isText := by
  cases tree with
  | text => cases node <;> simp_all [Node.same, isText]
  | _ =>
    cases node with
    | text => simp [Node.same] at same
    | _ => rfl

theorem length_of_sameParts
    {trees nodes : List Node}
    (same : sameParts trees nodes = true) :
    trees.length = nodes.length := by
  induction trees generalizing nodes with
  | nil => cases nodes <;> simp_all [sameParts]
  | cons tree trees hypothesis =>
    cases nodes with
    | nil => simp [sameParts] at same
    | cons node nodes =>
      rw [sameParts, Bool.and_eq_true] at same
      rw [List.length_cons, List.length_cons, hypothesis same.2]

theorem textsApart_of_sameParts
    {trees nodes : List Node}
    (same : sameParts trees nodes = true)
    (separate : textsApart nodes = true) :
    textsApart trees = true := by
  induction trees generalizing nodes with
  | nil => rfl
  | cons tree trees hypothesis =>
    cases nodes with
    | nil => simp [sameParts] at same
    | cons node nodes =>
      rw [sameParts, Bool.and_eq_true] at same
      cases trees with
      | nil => rfl
      | cons second trees =>
        cases nodes with
        | nil => simp [sameParts] at same
        | cons other nodes =>
          have next := same.2
          rw [sameParts, Bool.and_eq_true] at next
          rw [textsApart, Bool.and_eq_true] at separate ⊢
          rw [isText_of_same same.1, isText_of_same next.1]
          exact ⟨separate.1, hypothesis same.2 separate.2⟩

end Node

namespace Document

/-! ## Pieces -/

namespace Piece

theorem added_of_not_text
    {piece : Piece}
    {parts : List Node}
    (first : ∀ part ∈ parts.head?, ¬ (part.isText = true ∧ piece.node.isText = true)) :
    added parts piece = piece.node :: parts := by
  cases piece with
  | part node => rfl
  | text position run =>
    cases parts with
    | nil => rfl
    | cons part parts =>
      have noText : ¬ part.isText = true := fun isText => first part rfl ⟨isText, rfl⟩
      cases part with
      | text => exact absurd rfl noText
      | _ => rfl

/-- Pieces stay apart if no text stands behind text. -/
theorem foldl_added
    {pieces : List Piece}
    {parts : List Node}
    (separate : Node.textsApart (pieces.map node) = true)
    (first : ∀ part ∈ parts.head?, ∀ piece ∈ pieces.head?,
      ¬ (part.isText = true ∧ piece.node.isText = true)) :
    pieces.foldl added parts = (pieces.map node).reverse ++ parts := by
  induction pieces generalizing parts with
  | nil => rfl
  | cons piece pieces hypothesis =>
    have start : added parts piece = piece.node :: parts :=
      added_of_not_text fun part isFirst => first part isFirst piece rfl
    rw [List.foldl_cons, start, List.map_cons, List.reverse_cons, List.append_assoc,
      List.singleton_append]
    cases pieces with
    | nil => rfl
    | cons second pieces =>
      rw [List.map_cons, List.map_cons, Node.textsApart, Bool.and_eq_true] at separate
      refine hypothesis separate.2 ?_
      rintro part ⟨⟩ other ⟨⟩ ⟨isText, nextIsText⟩
      simp [isText, nextIsText] at separate

theorem joined_eq
    {pieces : List Piece}
    (separate : Node.textsApart (pieces.map node) = true) :
    joined pieces = pieces.map node := by
  rw [joined, foldl_added separate (by simp), List.append_nil, List.reverse_reverse]

end Piece

/-! ## Parts and documents -/

/-- The source of a tree is explained by a part or a document with the same tree.
Text has to be followed by a region or by nothing. -/
def Recovers
    (grammar : Grammar)
    (layout : Layout)
    (delimiters : Delimiters) : Node.Layer → Node → Prop
  | .part, node => ∀ ⦃levels : Nat⦄ ⦃state : State⦄ ⦃finish : Cursor⦄,
      layout.nodeLevels node ≤ levels → state.delimiters = delimiters →
      state.cursor.Spells (layout.nodeText delimiters node) finish →
      (node.isText = true → delimiters.Interrupts finish.rest) →
      ∃ piece after, after.IsAt delimiters finish ∧
        Explained grammar (.item [piece]) levels state after ∧ piece.node.same node = true
  | .document, node => ∀ ⦃levels : Nat⦄ ⦃state : State⦄ ⦃finish : Cursor⦄,
      layout.nodeLevels node + 1 ≤ levels → state.delimiters = delimiters →
      state.cursor.Spells (layout.nodeText delimiters node) finish →
      delimiters.Interrupts finish.rest →
      ∃ tree after, after.IsAt delimiters finish ∧
        Explained grammar (.document state.cursor.position tree) levels state after ∧
        tree.same node = true

theorem interrupts_tagText
    (delimiters : Delimiters)
    (word : String)
    (content rest : Text) :
    delimiters.Interrupts (Layout.tagText delimiters word content ++ rest) := by
  rw [Layout.tagText, List.append_assoc, List.append_assoc]
  exact .inr ⟨.block, _, rfl⟩

/-- Expressions are written as inline regions. -/
theorem nodeText_of_isExpression
    {node : Node}
    (layout : Layout)
    (delimiters : Delimiters)
    (expression : node.IsExpression) :
    layout.nodeText delimiters node = layout.insertionText delimiters node ∧
      layout.nodeLevels node = layout.expressionLevels node ∧ node.isText = false := by
  cases expression <;> simp [Layout.nodeText, Layout.nodeLevels, Node.isText]

example (layout : Layout) (delimiters : Delimiters) (position : Position) :
    layout.nodeText delimiters (.literal position (.boolean true)) =
        layout.insertionText delimiters (.literal position (.boolean true)) ∧
      layout.nodeLevels (.literal position (.boolean true)) =
        layout.expressionLevels (.literal position (.boolean true)) := by
  cbv

/-- What is no text begins with an opening delimiter. -/
theorem interrupts_nodeText
    {delimiters : Delimiters}
    {node : Node}
    (layout : Layout)
    (part : node.IsTemplate delimiters .part)
    (noText : node.isText = false)
    (rest : Text) :
    delimiters.Interrupts (layout.nodeText delimiters node ++ rest) := by
  cases part with
  | text notEmpty plain => simp [Node.isText] at noText
  | insertion expression =>
    rw [(nodeText_of_isExpression layout delimiters expression).1, Layout.insertionText,
      List.append_assoc]
    exact .inr ⟨.inline, _, rfl⟩
  | selection | loop | binding =>
    rw [Layout.nodeText, List.append_assoc]
    exact interrupts_tagText _ _ _ _
  | inclusion =>
    rw [Layout.nodeText]
    exact interrupts_tagText _ _ _ _

section Lists

variable
  {grammar : Grammar}
  {layout : Layout}
  {delimiters : Delimiters}
  {levels : Nat}
  {state : State}
  {finish : Cursor}
  (order : grammar.order = Kind.all)
  (legible : delimiters.Legible)
  (active : state.delimiters = delimiters)

include active

/-- Parts one behind the other are the items of a document. -/
theorem Recovers.of_partsText
    {parts : List Node}
    (templates : ∀ part ∈ parts, part.IsTemplate delimiters .part)
    (each : ∀ part ∈ parts, Recovers grammar layout delimiters .part part)
    (separate : Node.textsApart parts = true)
    (fits : layout.partsLevels parts ≤ levels)
    (spells : state.cursor.Spells (layout.partsText delimiters parts) finish)
    (interrupts : delimiters.Interrupts finish.rest) :
    ∃ pieces after, after.IsAt delimiters finish ∧
      Explained grammar (.items pieces) levels state after ∧
      Node.sameParts (pieces.map Piece.node) parts = true := by
  induction parts generalizing state with
  | nil =>
    rw [Layout.partsText] at spells
    obtain rfl := spells.eq_of_nil
    exact ⟨[], state, ⟨active, rfl⟩, .nothing .nothing, by simp [Node.sameParts]⟩
  | cons part parts hypothesis =>
    rw [Layout.partsText] at spells
    rw [Layout.partsLevels, Nat.max_le] at fits
    obtain ⟨_, otherTemplates⟩ := List.forall_mem_cons.1 templates
    obtain ⟨firstPart, otherParts⟩ := List.forall_mem_cons.1 each
    obtain ⟨middle, near, far⟩ := spells.of_append
    -- Behind text there is a part that is no text, or the document ends.
    have interrupted : part.isText = true → delimiters.Interrupts middle.rest := by
      intro isText
      rw [far.1]
      cases parts with
      | nil =>
        rw [Layout.partsText]
        exact interrupts
      | cons second parts =>
        rw [Node.textsApart, isText, Bool.true_and, Bool.and_eq_true, Bool.not_eq_true'] at separate
        rw [Layout.partsText, List.append_assoc]
        exact interrupts_nodeText layout (otherTemplates second List.mem_cons_self) separate.1 _
    have separateRest : Node.textsApart parts = true := by
      cases parts with
      | nil => rfl
      | cons second parts =>
        rw [Node.textsApart, Bool.and_eq_true] at separate
        exact separate.2
    obtain ⟨piece, second, ⟨activeRest, rfl⟩, item, same⟩ :=
      firstPart fits.1 active near interrupted
    obtain ⟨pieces, after, isAt, items, othersSame⟩ :=
      hypothesis activeRest otherTemplates otherParts separateRest fits.2 far
    refine ⟨piece :: pieces, after, isAt, item.next items, ?_⟩
    rw [List.map_cons, Node.sameParts, same, othersSame]
    rfl

include order legible

/-- The body for all other cases, if there is one. -/
theorem Recovers.of_otherwiseText
    {otherwise : Option Node}
    (bodies : ∀ body ∈ otherwise, Recovers grammar layout delimiters .document body)
    (fits : layout.otherwiseLevels otherwise ≤ levels)
    (spells : state.cursor.Spells (layout.otherwiseText delimiters otherwise) finish)
    (interrupts : delimiters.Interrupts finish.rest) :
    ∃ default after, after.IsAt delimiters finish ∧
      Explained grammar (.otherwise default) levels state after ∧
      Node.sameOptional default otherwise = true := by
  cases otherwise with
  | none =>
    rw [Layout.otherwiseText] at spells
    obtain rfl := spells.eq_of_nil
    exact ⟨none, state, ⟨active, rfl⟩, .nothing .noDefault, by simp [Node.sameOptional]⟩
  | some body =>
    rw [Layout.otherwiseText] at spells
    rw [Layout.otherwiseLevels] at fits
    obtain ⟨middle, near, far⟩ := spells.of_append
    obtain ⟨second, ⟨activeBody, rfl⟩, step⟩ :=
      Step.of_markerText .otherwise order legible active rfl (by decide) near
    obtain ⟨tree, after, isAt, explained, same⟩ := bodies body rfl fits activeBody far interrupts
    exact ⟨some tree, after, isAt, .default step explained, by rw [Node.sameOptional, same]⟩

/-- The alternatives of a selection with their bodies. -/
theorem Recovers.of_alternativesText
    {alternatives : List (Pattern × Node)}
    (patterns : ∀ alternative ∈ alternatives, alternative.1.IsWritable)
    (bodies : ∀ alternative ∈ alternatives,
      Recovers grammar layout delimiters .document alternative.2)
    (fits : layout.alternativesLevels alternatives ≤ levels)
    (spells : state.cursor.Spells (layout.alternativesText delimiters alternatives) finish)
    (interrupts : delimiters.Interrupts finish.rest) :
    ∃ cases after, after.IsAt delimiters finish ∧
      Explained grammar (.alternatives cases) levels state after ∧
      Node.sameAlternatives cases alternatives = true := by
  induction alternatives generalizing state with
  | nil =>
    rw [Layout.alternativesText] at spells
    obtain rfl := spells.eq_of_nil
    exact ⟨[], state, ⟨active, rfl⟩, .nothing .noAlternative, by simp [Node.sameAlternatives]⟩
  | cons alternative alternatives hypothesis =>
    obtain ⟨pattern, body⟩ := alternative
    rw [Layout.alternativesText] at spells
    rw [Layout.alternativesLevels, Nat.max_le] at fits
    obtain ⟨firstPattern, otherPatterns⟩ := List.forall_mem_cons.1 patterns
    obtain ⟨firstBody, otherBodies⟩ := List.forall_mem_cons.1 bodies
    obtain ⟨middle, near, far⟩ := spells.of_append
    obtain ⟨behind, within, rest⟩ := far.of_append
    obtain ⟨tag, second, ⟨pattern', rfl, patternSame⟩, ⟨activeBody, rfl⟩, step⟩ :=
      Step.of_tagText (fun tag => ∃ pattern', tag = .alternative pattern' ∧
        pattern'.same pattern = true) order legible active (by decide)
        (.inr (layout.isSpaced_patternText pattern)) near
        fun region apart _ inner before done => by
          obtain ⟨tree, matched, same⟩ :=
            Region.Matches.of_patternText apart firstPattern inner before done
          exact ⟨.alternative tree, rfl, .alternative matched, tree, rfl, same⟩
    have interrupted : delimiters.Interrupts behind.rest := by
      rw [rest.1]
      cases alternatives with
      | nil =>
        rw [Layout.alternativesText]
        exact interrupts
      | cons =>
        rw [Layout.alternativesText, List.append_assoc]
        exact interrupts_tagText _ _ _ _
    obtain ⟨tree, third, ⟨activeRest, rfl⟩, explained, same⟩ :=
      firstBody fits.1 activeBody within interrupted
    obtain ⟨cases, after, isAt, others, othersSame⟩ :=
      hypothesis activeRest otherPatterns otherBodies fits.2 rest
    refine ⟨(pattern', tree) :: cases, after, isAt, .alternative step explained others, ?_⟩
    rw [Node.sameAlternatives, patternSame, same, othersSame]
    rfl

end Lists

section Parts

variable
  {grammar : Grammar}
  {layout : Layout}
  {delimiters : Delimiters}
  (order : grammar.order = Kind.all)
  (standard : grammar.operators = .standard)
  (legible : delimiters.Legible)

include order

/-- Text is a part. -/
theorem Recovers.of_text
    {position : Position}
    {content : Text}
    (notEmpty : content ≠ [])
    (plain : ∀ point ∈ content, delimiters.begins point = false) :
    Recovers grammar layout delimiters .part (.text position content) := by
  intro levels state finish fits active spells interrupts
  rw [Layout.nodeText] at spells
  have step := Step.of_text order active notEmpty plain spells (interrupts rfl)
  refine ⟨.text state.cursor.position content, { state with cursor := finish }, ⟨active, rfl⟩,
    Explained.single step .text rfl, ?_⟩
  simp [Piece.node, Node.same]

include legible

/-- A loop is a part. -/
theorem Recovers.of_loop
    {position : Position}
    {item : Identifier}
    {source : Reference}
    {body : Node}
    {otherwise : Option Node}
    (named : item.name.IsName)
    (iterated : source.toVariable.IsWritable)
    (each : Recovers grammar layout delimiters .document body)
    (none : ∀ other ∈ otherwise, Recovers grammar layout delimiters .document other) :
    Recovers grammar layout delimiters .part (.loop position item source body otherwise) := by
  intro levels state finish fits active spells _
  rw [Layout.nodeText] at spells
  rw [Layout.nodeLevels, Nat.max_le] at fits
  obtain ⟨middle, near, far⟩ := spells.of_append
  obtain ⟨behind, within, rest⟩ := far.of_append
  obtain ⟨last, others, ended⟩ := rest.of_append
  obtain ⟨tag, second, ⟨found, path, rfl, itemSame, sourceSame⟩, ⟨activeBody, rfl⟩, step⟩ :=
    Step.of_tagText (fun tag => ∃ found path, tag = .loop found path ∧
        found.same item = true ∧ path.same source.toVariable = true)
      order legible active (by decide)
      (.inr ((Text.isSpaced_space _).append _)) near
      fun region apart _ inner before done => by
        obtain ⟨found, path, holds, itemSame, sourceSame⟩ :=
          Tag.Holds.of_loopText apart before done named iterated inner
        exact ⟨_, rfl, holds, found, path, rfl, itemSame, sourceSame⟩
  have interrupts : delimiters.Interrupts behind.rest := by
    rw [rest.1]
    cases otherwise with
    | none =>
      rw [Layout.otherwiseText, List.nil_append]
      exact interrupts_tagText _ _ _ _
    | some other =>
      rw [Layout.otherwiseText, List.append_assoc, List.append_assoc]
      exact interrupts_tagText _ _ _ _
  have interruptsEnd : delimiters.Interrupts last.rest := by
    rw [ended.1]
    exact interrupts_tagText _ _ _ _
  obtain ⟨tree, third, ⟨activeRest, rfl⟩, explained, same⟩ :=
    each fits.1 activeBody within interrupts
  obtain ⟨default, fourth, ⟨activeEnd, rfl⟩, otherwiseExplained, defaultSame⟩ :=
    Recovers.of_otherwiseText order legible activeRest none fits.2 others interruptsEnd
  obtain ⟨after, isAt, ends⟩ :=
    Step.of_markerText .endLoop order legible activeEnd rfl (by decide) ended
  refine ⟨.part (.loop _ found path.reference tree default), after, isAt,
    .loopItem step explained otherwiseExplained ends, ?_⟩
  have referenceSame : path.reference.same source = true := sourceSame
  simp [Piece.node, Node.same, itemSame, referenceSame, same, defaultSame]

include standard

/-- An inline expression is a part. -/
theorem Recovers.of_insertion
    {node : Node}
    (expression : node.IsExpression) :
    Recovers grammar layout delimiters .part node := by
  intro levels state finish fits active spells _
  obtain ⟨text, nesting, _⟩ := nodeText_of_isExpression layout delimiters expression
  rw [text] at spells
  rw [nesting] at fits
  obtain ⟨tree, same, step⟩ :=
    Step.of_insertionText order standard legible active expression spells
  have within : Content.levels ⟨tree, layout.expressionLevels node⟩ ≤ levels := fits
  exact ⟨.part tree, { state with cursor := finish }, ⟨active, rfl⟩,
    Explained.single step (.insertion within) rfl, same⟩

/-- A selection is a part. -/
theorem Recovers.of_selection
    {position : Position}
    {scrutinee : Node}
    {alternatives : List (Pattern × Node)}
    (subject : scrutinee.IsExpression)
    (patterns : ∀ alternative ∈ alternatives, alternative.1.IsWritable)
    (bodies : ∀ alternative ∈ alternatives,
      Recovers grammar layout delimiters .document alternative.2) :
    Recovers grammar layout delimiters .part (.selection position scrutinee alternatives) := by
  intro levels state finish fits active spells _
  rw [Layout.nodeText] at spells
  rw [Layout.nodeLevels, Nat.max_le] at fits
  obtain ⟨middle, near, far⟩ := spells.of_append
  obtain ⟨behind, within, rest⟩ := far.of_append
  obtain ⟨tag, second, ⟨tree, rfl, same⟩, ⟨activeCases, rfl⟩, step⟩ :=
    Step.of_tagText (fun tag => ∃ tree,
        tag = .scrutinee ⟨tree, layout.expressionLevels scrutinee⟩ ∧ tree.same scrutinee = true)
      order legible active (by decide)
      (.inr (subject.isSpaced_expressionText layout)) near
      fun region apart isGrammar inner before done => by
        obtain ⟨tree, reads, same⟩ := subject.recovers_expressionText apart
          (by rw [isGrammar]; exact standard) inner before done
        exact ⟨.scrutinee ⟨tree, _⟩, rfl, .scrutinee reads, tree, rfl, same⟩
  have interrupts : delimiters.Interrupts behind.rest := by
    rw [rest.1]
    exact interrupts_tagText _ _ _ _
  obtain ⟨cases, third, ⟨activeEnd, rfl⟩, explained, casesSame⟩ :=
    Recovers.of_alternativesText order legible activeCases patterns bodies fits.2 within interrupts
  obtain ⟨after, isAt, ends⟩ :=
    Step.of_markerText .endSelection order legible activeEnd rfl (by decide) rest
  refine ⟨.part (Node.selected tree cases none), after, isAt,
    .selectionItem step fits.1 .nil (by simp) rfl explained (.nothing .noDefault) ends, ?_⟩
  simp [Piece.node, Node.selected, Node.same, same, casesSame]

/-- A binding is a part. -/
theorem Recovers.of_binding
    {position : Position}
    {name : Identifier}
    {value body : Node}
    (named : name.name.IsName)
    (bound : value.IsExpression)
    (scope : Recovers grammar layout delimiters .document body) :
    Recovers grammar layout delimiters .part (.binding position name value body) := by
  intro levels state finish fits active spells _
  rw [Layout.nodeText] at spells
  rw [Layout.nodeLevels, Nat.max_le] at fits
  obtain ⟨middle, near, far⟩ := spells.of_append
  obtain ⟨behind, within, rest⟩ := far.of_append
  obtain ⟨tag, second, ⟨found, tree, rfl, nameSame, valueSame⟩, ⟨activeBody, rfl⟩, step⟩ :=
    Step.of_tagText (fun tag => ∃ found tree,
        tag = .binding found ⟨tree, layout.expressionLevels value⟩ ∧
          found.same name = true ∧ tree.same value = true)
      order legible active (by decide)
      (.inr ((Text.isSpaced_space _).append _)) near
      fun region apart isGrammar inner before done => by
        obtain ⟨found, tree, holds, nameSame, valueSame⟩ := Tag.Holds.of_bindingText apart before
          done (by rw [isGrammar]; exact standard) named bound inner
        exact ⟨_, rfl, holds, found, tree, rfl, nameSame, valueSame⟩
  have interrupts : delimiters.Interrupts behind.rest := by
    rw [rest.1]
    exact interrupts_tagText _ _ _ _
  obtain ⟨result, third, ⟨activeEnd, rfl⟩, explained, same⟩ :=
    scope fits.2 activeBody within interrupts
  obtain ⟨after, isAt, ends⟩ :=
    Step.of_markerText .endBinding order legible activeEnd rfl (by decide) rest
  refine ⟨.part (.binding _ found tree result), after, isAt,
    .bindingItem step fits.1 explained ends, ?_⟩
  simp [Piece.node, Node.same, nameSame, valueSame, same]

/-- An include is a part. -/
theorem Recovers.of_inclusion
    {position : Position}
    {key : Text}
    {context : Option Node}
    (given : ∀ value ∈ context, value.IsExpression) :
    Recovers grammar layout delimiters .part (.inclusion position key context) := by
  intro levels state finish fits active spells _
  rw [Layout.nodeText] at spells
  rw [Layout.nodeLevels] at fits
  obtain ⟨tag, after, ⟨content, rfl, within, same⟩, isAt, step⟩ :=
    Step.of_tagText (fun tag => ∃ content : Option Content, tag = .inclusion key content ∧
        (∀ value ∈ content, value.levels ≤ (context.map layout.expressionLevels).getD 0) ∧
        Node.sameOptional (content.map Content.node) context = true)
      order legible active (by decide)
      (.inr ((Text.isSpaced_space _).append _)) spells
      fun region apart isGrammar inner before done => by
        obtain ⟨content, holds, within, same⟩ := Tag.Holds.of_inclusionText apart before done
          (by rw [isGrammar]; exact standard) given inner
        exact ⟨_, rfl, holds, content, rfl, within, same⟩
  have enough : ∀ value ∈ content, value.levels ≤ levels :=
    fun value member => Nat.le_trans (within value member) fits
  refine ⟨.part (.inclusion _ key (content.map Content.node)), after, isAt,
    .single step (.inclusion enough) rfl, ?_⟩
  simp [Piece.node, Node.same, same]

end Parts

/-- Any number of parts but one stays a sequence. -/
theorem sequenced_of_length_ne_one
    {parts : List Node}
    (several : parts.length ≠ 1)
    (position : Position) :
    Node.sequenced position parts = .sequence position parts := by
  match parts with
  | [] => rfl
  | [part] => exact absurd rfl several
  | first :: second :: rest => rfl

/-- Parts and documents are read back. -/
theorem Recovers.of_isTemplate
    {grammar : Grammar}
    {delimiters : Delimiters}
    {layer : Node.Layer}
    {node : Node}
    (layout : Layout)
    (order : grammar.order = Kind.all)
    (standard : grammar.operators = .standard)
    (legible : delimiters.Legible)
    (template : node.IsTemplate delimiters layer) :
    Recovers grammar layout delimiters layer node := by
  induction template with
  | text notEmpty plain => exact .of_text order notEmpty plain
  | insertion expression => exact .of_insertion order standard legible expression
  | selection subject patterns _ bodies =>
    exact .of_selection order standard legible subject patterns bodies
  | loop named iterated _ _ each none => exact .of_loop order legible named iterated each none
  | binding named bound _ scope => exact .of_binding order standard legible named bound scope
  | inclusion given => exact .of_inclusion order standard legible given
  | single _ hypothesis =>
    intro levels state finish fits active spells interrupts
    obtain ⟨fewer, rfl⟩ : ∃ fewer, levels = fewer + 1 := ⟨levels - 1, by omega⟩
    obtain ⟨piece, after, isAt, item, same⟩ :=
      hypothesis (Nat.le_of_succ_le_succ fits) active spells fun _ => interrupts
    have items := item.next (.nothing .nothing)
    have joined : Piece.joined [piece] = [piece.node] := Piece.joined_eq rfl
    have document := @Explained.wholeDocument _ _ _ _ state.cursor.position _ items
    rw [List.append_nil, joined] at document
    exact ⟨piece.node, after, isAt, document, same⟩
  | @sequence position parts several templates separate hypothesis =>
    intro levels state finish fits active spells interrupts
    obtain ⟨fewer, rfl⟩ : ∃ fewer, levels = fewer + 1 := ⟨levels - 1, by omega⟩
    rw [Layout.nodeText] at spells
    rw [Layout.nodeLevels] at fits
    obtain ⟨pieces, after, isAt, items, same⟩ := Recovers.of_partsText active
      templates hypothesis separate (Nat.le_of_succ_le_succ fits) spells interrupts
    have joined := Piece.joined_eq (Node.textsApart_of_sameParts same separate)
    have length := Node.length_of_sameParts same
    have document := @Explained.wholeDocument _ _ _ _ state.cursor.position _ items
    rw [joined, sequenced_of_length_ne_one (by rw [length]; exact several)] at document
    exact ⟨_, after, isAt, document, by rw [Node.same, same]⟩

end Document

end Stencil
