import Stencil.Proofs.Concatenation.Boundary

/-!
# Reading a concatenation

Reading is compositional.  If a source is read to a template and no opening
delimiter reaches from it into a second source, then both together are read to a
template exactly if the second one is, under the delimiters that are active at
the end of the first.  The parts of the whole are then those of the first and
those of the second, and so are its includes.
-/

namespace Stencil

namespace Document

/-- Without a pragma the delimiters stay as they are. -/
theorem Steps.delimiters_eq
    {grammar : Grammar}
    {state after : State}
    {segments : List Segment}
    (steps : Steps grammar state segments after)
    (noPragma : ¬ state.delimiters.pragma.opening <:+: state.cursor.rest) :
    after.delimiters = state.delimiters := by
  induction steps with
  | nil => rfl
  | @cons first second third segment rest step steps hypothesis =>
    obtain ⟨content, split, _⟩ := step.exists_content.1
    have same : second.delimiters = first.delimiters := by
      refine step.exists_content.2 fun isPragma => noPragma ?_
      cases step with
      | pragma opens => exact (State.begins_of_kind? opens).isInfix
      | _ => cases isPragma
    have noneBehind : ¬ second.delimiters.pragma.opening <:+: second.cursor.rest := by
      rw [same]
      intro occurs
      refine noPragma (occurs.trans ?_)
      rw [split]
      exact (List.suffix_append _ _).isInfix
    rw [hypothesis noneBehind, same]

/-- No delimiter reaches into nothing. -/
theorem State.apart_nil (order : List Kind) (state : State) : state.Apart order [] := by
  rintro kind _ ⟨front, back, _, backSome, _, _, begins⟩
  exact backSome (List.prefix_nil.1 begins)

/-- The segments of a source are the same at another place, up to positions. -/
theorem Steps.relocated
    {grammar : Grammar}
    {relocation : Relocation}
    {state after destination : State}
    {segments : List Segment}
    (steps : Steps grammar state segments after)
    (moves : state.Moves relocation [] destination)
    (turns : Nat) :
    ∃ last, Steps (grammar.turning turns) destination
      (segments.map (Segment.moved relocation)) last ∧ after.Moves relocation [] last :=
  steps.moves moves (fun _ => State.apart_nil _ _) (fun _ _ _ _ => .inl rfl) turns

theorem State.Moves.isAtEnd
    {relocation : Relocation}
    {state destination : State}
    (moves : state.Moves relocation [] destination)
    (atEnd : state.cursor.isAtEnd = true) :
    destination.cursor.isAtEnd = true := by
  rw [Cursor.isAtEnd, List.isEmpty_iff] at atEnd ⊢
  rw [moves.cursor.rest, atEnd, List.nil_append]

end Document

namespace Cursor

/-- A text that stands somewhere in a source stands there as it does on its own, behind
what was read before it. -/
theorem Reaches.moves
    {name source excerpt more : Text}
    {cursor : Cursor}
    (reached : (start name source).Reaches cursor)
    (unread : cursor.rest = excerpt ++ more) :
    Moves (.behind (source.take cursor.index)) more (start name excerpt) cursor where
  rest := unread
  position count within := by
    have inside : count ≤ excerpt.length := within
    obtain ⟨before, _, isRest⟩ := Reaches.eq_ofIndex reached
    have index : (cursor.forward count).index = (source.take cursor.index).length + count := by
      rw [index_forward, unread, List.length_take_of_le before, List.length_append]
      omega
    have whole : source = source.take cursor.index ++ (excerpt ++ more) := by
      rw [← unread, isRest, List.take_append_drop]
    have position := (Reaches.eq_ofIndex
      (reached.trans (reaches_forward count cursor))).2.1
    conv_rhs at position => rw [whole]
    rw [position, index, Position.ofIndex_append, position_forward_start, Position.ofIndex,
      List.take_append_of_le_length inside]
    rfl

end Cursor

namespace Template

open Document

variable
  {options : Options}
  {name : Text}
  {delimiters : Delimiters}
  {first second : Text}
  {template : Template}
  {boundary : State}

/-- The segments of a template are items that give its parts and its includes. -/
theorem Arises.exists_items
    {source : Text}
    {segments : List Segment}
    {levels : Nat}
    {final : State}
    (arises : Arises options name delimiters source template segments levels final) :
    ∃ pieces fewer, levels = fewer + 1 ∧ Derives (.items pieces) fewer segments ∧
      (∀ piece ∈ pieces, piece.IsPlain) ∧
      template.root.parts = Piece.joined pieces ∧
      template.includes = Includes.grouped (inclusionTags segments) := by
  have includes : template.includes = Includes.grouped (inclusionTags segments) := by
    rw [← arises.includes, arises.steps.includes_eq]
    exact Includes.registerAll_nil _
  generalize isRoot : template.root = root
  have derives := arises.derives
  rw [isRoot] at derives
  cases derives with
  | @document fewer _ pieces _ items =>
    have plain := items.isPlain_of_items arises.steps.contents_isSingle
    exact ⟨pieces, fewer, rfl, items, plain, Piece.parts_sequenced_joined plain _, includes⟩

/-! ## The boundary -/

/-- A source stands behind another one. -/
theorem Origin.Has.moves_behind
    {cursor : Cursor}
    (stands : Origin.Has ⟨options, name, delimiters, first ++ second⟩ cursor)
    (unread : cursor.rest = second) :
    Cursor.Moves (.behind first) [] (Cursor.start name second) cursor := by
  have atBoundary : (first ++ second).take cursor.index = first := by
    obtain ⟨inside, _, rest⟩ := stands.eq_ofIndex
    have lengths := congrArg List.length (unread.symm.trans rest)
    rw [List.length_drop, List.length_append] at lengths
    rw [List.length_append] at inside
    have index : cursor.index = first.length := by omega
    rw [index, List.take_left]
  have moves := Cursor.Reaches.moves stands (unread.trans (List.append_nil second).symm)
  rwa [atBoundary] at moves

/-- What stands behind a text can be put at the beginning again. -/
theorem Origin.Has.moves_ahead
    {cursor : Cursor}
    (stands : Origin.Has ⟨options, name, delimiters, first ++ second⟩ cursor)
    (unread : cursor.rest = second) :
    Cursor.Moves (.ahead first) [] cursor (Cursor.start name second) where
  rest := by
    rw [unread, List.append_nil]
    rfl
  position count within := by
    rw [unread] at within
    have placed := Position.isSynthetic_ofIndex name second count
    rw [← Cursor.position_forward_start] at placed
    rw [(stands.moves_behind unread).position count within, Relocation.ahead_map_behind placed]

/-- A source with another end is read as before up to there. -/
theorem swaps_initial
    {before old : Text}
    (new : Text) :
    State.Swaps .stay old new (initial name delimiters (before ++ old))
      (initial name delimiters (before ++ new)) where
  cursor := {
    rest := ⟨before, rfl, rfl⟩
    position := by
      intro count within
      have inBefore : count ≤ before.length := by
        simp only [initial, Cursor.start, List.length_append] at within
        omega
      simp only [initial, Cursor.position_forward_start, Position.ofIndex,
        List.take_append_of_le_length inBefore]
      rfl }
  delimiters := rfl

/-- The first of two sources is read as before. -/
theorem moves_initial_append :
    State.Moves .stay second (initial name delimiters first)
      (initial name delimiters (first ++ second)) := by
  have swaps := @swaps_initial name delimiters first [] second
  rw [List.append_nil] at swaps
  exact ⟨Cursor.swaps_nil_iff_moves.1 swaps.cursor, swaps.delimiters⟩

/-- Reading two sources comes to the boundary between them, with what the first one
holds. -/
structure Junction
    (options : Options)
    (name : Text)
    (delimiters : Delimiters)
    (first second : Text)
    (template : Template)
    (boundary : State) : Prop where
  /-- The second source stands behind the boundary. -/
  unread : boundary.cursor.rest = second
  /-- A document may be opened. -/
  allowed : 1 ≤ options.limit
  /-- The loop over the parts, as the outermost document runs it, comes to the boundary
  with those of the template. -/
  collects : ∃ count pieces tags,
    Collects (grammarFor options (first ++ second)) (4 * (first ++ second).length + 14) 1 count
      pieces tags (initial name delimiters (first ++ second)) boundary ∧
    (∀ piece ∈ pieces, piece.IsPlain) ∧
    template.root.parts = Piece.joined pieces ∧
    template.includes = Includes.grouped tags

theorem exists_junction
    (success : (read options name delimiters first).result = .ok template)
    (apart : ∀ active index, Origin.Active ⟨options, name, delimiters, first⟩ active index →
      ∀ kind ∈ options.order,
        ¬ Text.Straddles (active.pair kind).opening (first.drop index) second) :
    ∃ boundary, Junction options name delimiters first second template boundary ∧
      boundary.delimiters = (read options name delimiters first).delimiters := by
  obtain ⟨segments, levels, final, arises⟩ := arises_of_read success
  obtain ⟨pieces, fewer, rfl, items, plain, isRoot, areIncludes⟩ := arises.exists_items
  have nested := arises.nested
  have allowed : ((1 : Nat) + fewer : Int) ≤ (grammarFor options first).limit := by
    simp only [grammarFor]
    omega
  have enoughTurns : (initial name delimiters (first ++ second)).cursor.rest.length <
      (first ++ second).length + 1 := Nat.lt_succ_self _
  have enough : 4 * (initial name delimiters (first ++ second)).cursor.rest.length + 5 ≤
      4 * (first ++ second).length + 14 := by
    simp only [initial, Cursor.start]
    omega
  have apartThere {front : List Segment} {middle : State}
      (steps : Steps (grammarFor options first) (initial name delimiters first) front middle) :
      middle.Apart (grammarFor options first).order second := by
    have attained : Origin.Attains ⟨options, name, delimiters, first⟩ middle := ⟨front, steps⟩
    intro kind inOrder
    rw [attained.has.eq_ofIndex.2.2]
    exact apart middle.delimiters middle.cursor.index ⟨middle, attained, rfl, rfl⟩ kind inOrder
  obtain ⟨boundary, count, reached, collects⟩ := items.collects_items arises.steps arises.gaps
    moves_initial_append apartThere allowed enoughTurns enough
  have nothingLeft : final.cursor.rest = [] := by simpa [Cursor.isAtEnd] using arises.ended
  refine ⟨boundary, ⟨?_, ?_, count, pieces, _, collects, plain, isRoot, areIncludes⟩, ?_⟩
  · rw [reached.cursor.rest, nothingLeft, List.nil_append]
  · omega
  · rw [reached.delimiters, delimiters_of_document arises.document_eq_ok arises.ended]

/-! ## Both sources -/

namespace Junction

variable {other joint : Template}

/-- If the second source is read, so are both together. -/
theorem read_both
    (junction : Junction options name delimiters first second template boundary)
    (success : (read options name boundary.delimiters second).result = .ok other) :
    ∃ joint, (read options name delimiters (first ++ second)).result = .ok joint ∧
      joint.root.parts = Node.merged template.root.parts
        (other.root.parts.map (Node.moved (.behind first))) ∧
      joint.includes = template.includes.merged (other.includes.moved (.behind first)) ∧
      (read options name delimiters (first ++ second)).delimiters =
        (read options name boundary.delimiters second).delimiters := by
  obtain ⟨count, pieces, tags, collects, plain, isRoot, areIncludes⟩ := junction.collects
  obtain ⟨segments, levels, final, arises⟩ := arises_of_read success
  obtain ⟨others, fewer, rfl, items, othersPlain, isOther, otherIncludes⟩ := arises.exists_items
  have stands : Origin.Has ⟨options, name, delimiters, first ++ second⟩ boundary.cursor :=
    collects.reaches
  have moves : State.Moves (.behind first) [] (initial name boundary.delimiters second) boundary :=
    ⟨stands.moves_behind junction.unread, rfl⟩
  obtain ⟨last, steps, ends⟩ : ∃ last, Steps (grammarFor options (first ++ second)) boundary
      (segments.map (Segment.moved (.behind first))) last ∧ final.Moves (.behind first) [] last :=
    arises.steps.relocated moves ((first ++ second).length + 1)
  have blank : gapsAreBlank (segments.map (Segment.moved (.behind first))) = true :=
    (gapsAreBlank_moved _ _).trans arises.gaps
  have allowed : ((1 : Nat) + fewer : Int) ≤ (grammarFor options (first ++ second)).limit := by
    have nested := arises.nested
    simp only [grammarFor]
    omega
  have shorter : boundary.cursor.rest.length ≤ (first ++ second).length :=
    collects.reaches.length_le
  have enough : 4 * boundary.cursor.rest.length + 5 ≤ 4 * (first ++ second).length + 14 := by
    omega
  obtain ⟨further, collectsOthers⟩ := (items.moved (.behind first)).collects steps blank allowed
    (Nat.lt_succ_of_le shorter) enough
  have collectsAll := collects.trans collectsOthers
  have nothingLeft := ends.isAtEnd arises.ended
  have document := collectsAll.document_eq_ok (.inl nothingLeft) junction.allowed
    (Nat.lt_succ_self _)
  have movedPlain : ∀ piece ∈ others.map (Piece.moved (.behind first)), piece.IsPlain := by
    intro piece member
    obtain ⟨given, inside, rfl⟩ := List.mem_map.1 member
    exact (othersPlain given inside).moved _
  have allPlain := List.forall_mem_append.2 ⟨plain, movedPlain⟩
  refine ⟨⟨_, last.includes⟩, read_eq_ok_iff_document.2 ⟨last, document, nothingLeft, rfl⟩,
    ?_, ?_, ?_⟩
  · refine (Piece.parts_sequenced_joined allPlain _).trans ?_
    rw [Piece.joined_append movedPlain, Piece.joined_moved, isRoot, isOther]
  · have registered := collectsAll.includes.trans (Includes.registerAll_nil _)
    rw [registered, Includes.grouped_append, inclusionTags_moved, Includes.grouped_moved,
      areIncludes, otherIncludes]
  · rw [delimiters_of_document document nothingLeft, ends.delimiters,
      delimiters_of_document arises.document_eq_ok arises.ended]

/-- If both sources together are read, so is the second one. -/
theorem read_second
    (junction : Junction options name delimiters first second template boundary)
    (success : (read options name delimiters (first ++ second)).result = .ok joint) :
    ∃ other, (read options name boundary.delimiters second).result = .ok other := by
  obtain ⟨count, pieces, tags, collects, _⟩ := junction.collects
  obtain ⟨final, document, atEnd, _⟩ := read_eq_ok_iff_document.1 success
  obtain ⟨_, parts, collected, _⟩ := document_eq_ok_iff_collect.1 document
  have shorter : count + boundary.cursor.rest.length ≤ (first ++ second).length := collects.fits
  obtain ⟨rounds, total⟩ : ∃ rounds,
      (grammarFor options (first ++ second)).turns = rounds + count :=
    ⟨(first ++ second).length + 1 - count, by simp only [grammarFor]; omega⟩
  -- A derivation of the whole is not known to split at the boundary, but the loop is a
  -- function: what it collects from the beginning it collects from the boundary.
  obtain ⟨extra, goesOn⟩ := collects.goesOn
  rw [total, goesOn] at collected
  obtain ⟨others, ⟨segments, steps, items, gapless⟩, _⟩ :=
    Explained.of_collectParts (Explained.of_rules _ _).2.2.1 collected
  have stands : Origin.Has ⟨options, name, delimiters, first ++ second⟩ boundary.cursor :=
    collects.reaches
  have moves : State.Moves (.ahead first) [] boundary (initial name boundary.delimiters second) :=
    ⟨stands.moves_ahead junction.unread, rfl⟩
  obtain ⟨last, steps', ends⟩ : ∃ last, Steps (grammarFor options second)
      (initial name boundary.delimiters second) (segments.map (Segment.moved (.ahead first))) last ∧
        final.Moves (.ahead first) [] last :=
    steps.relocated moves (second.length + 1)
  have arises : Arises options name boundary.delimiters second ⟨_, last.includes⟩
      (segments.map (Segment.moved (.ahead first))) _ last := {
    steps := steps'
    ended := ends.isAtEnd atEnd
    derives := .document (items.moved (.ahead first))
    gaps := by
      rw [gapsAreBlank_moved]
      simpa [gapsAreBlank] using gapless []
    nested := by
      have allowed := junction.allowed
      simp only [Grammar.levelsBelow, grammarFor]
      omega
    includes := rfl }
  exact ⟨_, arises.read_eq_ok⟩

end Junction

/-- Reading is compositional.  Let a source be read, and let no opening delimiter
that is active in it begin in the source and end in a second one.  Then both
together are read exactly if the second one is read under the delimiters that are
active at the end of the first.  The parts of the whole are those of the first
and those of the second, a text at the boundary being one; its includes are those
of the first with the ones of the second added; and the same delimiters are
active at its end. -/
theorem read_concatenation
    (options : Options)
    (name : Text)
    (delimiters : Delimiters)
    (first second : Text)
    (template : Template)
    (success : (read options name delimiters first).result = .ok template)
    (apart : ∀ active index, Origin.Active ⟨options, name, delimiters, first⟩ active index →
      ∀ kind ∈ options.order,
        ¬ Text.Straddles (active.pair kind).opening (first.drop index) second) :
    let whole := read options name delimiters (first ++ second)
    let rest := read options name (read options name delimiters first).delimiters second
    ((∃ joint, whole.result = .ok joint) ↔ ∃ other, rest.result = .ok other) ∧
      ∀ joint other, whole.result = .ok joint → rest.result = .ok other →
        joint.root.parts = Node.merged template.root.parts
          (other.root.parts.map (Node.moved (.behind first))) ∧
        joint.includes = template.includes.merged (other.includes.moved (.behind first)) ∧
        whole.delimiters = rest.delimiters := by
  obtain ⟨boundary, junction, sameDelimiters⟩ := exists_junction success apart
  intro whole rest
  have isRest : rest = read options name boundary.delimiters second := by rw [sameDelimiters]
  rw [isRest]
  refine ⟨⟨?_, ?_⟩, ?_⟩
  · rintro ⟨joint, read⟩
    exact junction.read_second read
  · rintro ⟨other, read⟩
    obtain ⟨joint, success, _⟩ := junction.read_both read
    exact ⟨joint, success⟩
  · intro joint other wholeRead restRead
    obtain ⟨same, success, parts, includes, ends⟩ := junction.read_both restRead
    obtain rfl : joint = same := Except.ok.inj (wholeRead.symm.trans success)
    exact ⟨parts, includes, ends⟩

/-- Without a pragma the delimiters stay as they are. -/
theorem Origin.Active.eq_of_noPragma
    {origin : Origin}
    {active : Delimiters}
    {index : Nat}
    (isActive : origin.Active active index)
    (noPragma : ¬ origin.delimiters.pragma.opening <:+: origin.source) :
    active = origin.delimiters := by
  obtain ⟨state, ⟨segments, steps⟩, rfl, rfl⟩ := isActive
  exact steps.delimiters_eq noPragma

/-- An include and a text. -/
def textBefore : Text :=
  Text.of "\x7b% include \"a\" %\x7d b"

/-- A text, an include and a change of delimiters. -/
def textBehind : Text :=
  Text.of "c\x7b% include \"a\" %\x7d\x7b!inline=(\"<\",\">\")!\x7d<d>"

/-- The text before the boundary and the one behind it are one text of the whole, and
both includes have the same key. -/
theorem read_concatenation_of_texts :
    ∃ template other joint,
      (read {} [] .braces textBefore).result = .ok template ∧
      (read {} [] .braces textBehind).result = .ok other ∧
      (read {} [] .braces (textBefore ++ textBehind)).result = .ok joint ∧
      joint.root.parts = Node.merged template.root.parts
        (other.root.parts.map (Node.moved (.behind textBefore))) ∧
      joint.includes = template.includes.merged (other.includes.moved (.behind textBefore)) ∧
      template.root.parts.length = 2 ∧ other.root.parts.length = 3 ∧
      joint.root.parts.length = 4 ∧ joint.includes.length = 1 := by
  have firstRead : (read {} [] .braces textBefore).result.toOption.map
      (fun template => template.root.parts.length) = some 2 := by
    decide +kernel
  have secondRead : (read {} [] .braces textBehind).result.toOption.map
      (fun template => template.root.parts.length) = some 3 := by
    decide +kernel
  have bothRead : (read {} [] .braces (textBefore ++ textBehind)).result.toOption.map
      (fun template => (template.root.parts.length, template.includes.length)) = some (4, 1) := by
    decide +kernel
  obtain ⟨template, first, firstLength⟩ := Option.map_eq_some_iff.1 firstRead
  obtain ⟨other, second, secondLength⟩ := Option.map_eq_some_iff.1 secondRead
  obtain ⟨joint, both, lengths⟩ := Option.map_eq_some_iff.1 bothRead
  rw [Reading.toOption_eq_some] at first second both
  have sameDelimiters : (read {} [] .braces textBefore).delimiters = .braces := by
    decide +kernel
  have noPragma : ¬ Delimiters.braces.pragma.opening <:+: textBefore := by
    decide +kernel
  have apart : ∀ kind ∈ Kind.all,
      ¬ Text.Straddles (Delimiters.braces.pair kind).opening textBefore textBehind := by
    decide +kernel
  have composed := read_concatenation {} [] .braces textBefore textBehind template first (by
    intro active index isActive kind inOrder straddles
    obtain rfl : active = .braces := isActive.eq_of_noPragma noPragma
    exact apart kind inOrder (straddles.of_suffix (List.drop_suffix index textBefore)))
  rw [sameDelimiters] at composed
  obtain ⟨parts, includes, _⟩ := composed.2 joint other both second
  obtain ⟨partCount, includeCount⟩ := Prod.mk.inj lengths
  exact ⟨template, other, joint, first, second, both, parts, includes, firstLength, secondLength,
    partCount, includeCount⟩

end Template

end Stencil
