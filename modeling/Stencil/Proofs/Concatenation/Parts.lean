import Mathlib.Data.List.Induction
import Stencil.Proofs.Conservation
import Stencil.Proofs.Relocation

/-!
# Putting two templates together

What the parts, the includes and the positions of two sources become when one is
written behind the other: a text at the end of the first and a text at the
beginning of the second are one, the includes of the second are added to those of
the first, and the positions of the second move behind the first.
-/

namespace Stencil

/-! ## Parts -/

namespace Node

/-- Whether a node stands for neighbouring parts. -/
def isSequence : Node → Bool
  | .sequence _ _ => true
  | _ => false

/-- A node is a part of its own: neither text nor neighbouring parts. -/
def IsSingle (node : Node) : Prop :=
  node.isText = false ∧ node.isSequence = false

/-- The neighbouring parts that a node stands for. -/
def parts : Node → List Node
  | .sequence _ parts => parts
  | node => [node]

theorem parts_sequenced
    {position : Position}
    {parts : List Node}
    (plain : ∀ part ∈ parts, part.isSequence = false) :
    (sequenced position parts).parts = parts := by
  match parts with
  | [] => rfl
  | [part] =>
    have noSequence := plain part List.mem_cons_self
    cases part <;> first | rfl | cases noSequence
  | _ :: _ :: _ => rfl

@[simp] theorem isText_moved (relocation : Relocation) (node : Node) :
    (node.moved relocation).isText = node.isText := by
  cases node <;> rfl

@[simp] theorem isSequence_moved (relocation : Relocation) (node : Node) :
    (node.moved relocation).isSequence = node.isSequence := by
  cases node <;> rfl

/-- Parts before other parts; a text at the end of the first and a text at the
beginning of the second are one. -/
def merged (front back : List Node) : List Node :=
  match front.getLast?, back with
  | some (.text position run), .text _ more :: rest =>
    front.dropLast ++ .text position (run ++ more) :: rest
  | _, _ => front ++ back

theorem merged_concat (front : List Node) (part : Node) (back : List Node) :
    merged (front ++ [part]) back = front ++ merged [part] back := by
  simp only [merged, List.getLast?_concat, List.getLast?_singleton, List.dropLast_concat]
  split
  · rfl
  · simp

theorem merged_singleton_of_not_isText
    {part : Node}
    (noText : part.isText = false)
    (back : List Node) :
    merged [part] back = part :: back := by
  cases part <;> first | rfl | cases noText

theorem merged_of_head?
    {back : List Node}
    (noText : ∀ first ∈ back.head?, first.isText = false)
    (front : List Node) :
    merged front back = front ++ back := by
  unfold merged
  split
  · exact absurd (noText _ rfl) (by simp [isText])
  · rfl

theorem exists_of_isText
    {node : Node}
    (isText : node.isText = true) :
    ∃ position run, node = .text position run := by
  cases node with
  | text position run => exact ⟨position, run, rfl⟩
  | _ => cases isText

/-- Merging with one part between does not depend on which is merged first. -/
theorem merged_merged_singleton (front : List Node) (part : Node) (back : List Node) :
    merged (merged front [part]) back = merged front (merged [part] back) := by
  rcases front.eq_nil_or_concat with rfl | ⟨front, last, rfl⟩
  · rfl
  rw [List.concat_eq_append, merged_concat, merged_concat]
  cases lastText : last.isText with
  | false =>
    rw [merged_singleton_of_not_isText lastText, merged_singleton_of_not_isText lastText,
      List.append_cons, merged_concat, List.append_assoc, List.singleton_append]
  | true =>
    obtain ⟨position, run, rfl⟩ := exists_of_isText lastText
    cases partText : part.isText with
    | false =>
      have noText {others : List Node} :
          ∀ first ∈ (part :: others).head?, first.isText = false := by
        rintro first ⟨⟩
        exact partText
      rw [merged_singleton_of_not_isText partText, merged_of_head? noText, merged_of_head? noText,
        ← List.append_assoc, merged_concat, merged_singleton_of_not_isText partText,
        List.append_assoc]
    | true =>
      obtain ⟨second, more, rfl⟩ := exists_of_isText partText
      have joined : merged [.text position run] [.text second more] =
        [.text position (run ++ more)] := rfl
      rw [joined, merged_concat]
      cases back with
      | nil => rfl
      | cons first back =>
        cases firstText : first.isText with
        | false =>
          have noText : ∀ other ∈ (first :: back).head?, other.isText = false := by
            rintro other ⟨⟩
            exact firstText
          rw [merged_of_head? noText, merged_of_head? noText]
          rfl
        | true =>
          obtain ⟨third, further, rfl⟩ := exists_of_isText firstText
          have moreJoined : merged [.text second more] (.text third further :: back) =
            .text second (more ++ further) :: back := rfl
          have allJoined (others : Text) :
              merged [.text position run] (.text second others :: back) =
                .text position (run ++ others) :: back := rfl
          rw [moreJoined, allJoined, ← List.append_assoc]
          rfl

end Node

namespace Document

/-- A piece is text or a part of its own. -/
def Piece.IsPlain : Piece → Prop
  | .text _ _ => True
  | .part node => node.IsSingle

theorem Piece.reverse_added
    {piece : Piece}
    (plain : piece.IsPlain)
    (parts : List Node) :
    (added parts piece).reverse = Node.merged parts.reverse [piece.node] := by
  cases piece with
  | text position run =>
    cases parts with
    | nil => rfl
    | cons last parts =>
      rw [List.reverse_cons, Node.merged_concat, Piece.added]
      cases lastText : last.isText with
      | false =>
        rw [Node.merged_singleton_of_not_isText lastText]
        cases last with
        | text => cases lastText
        | _ => simp [appendText, Piece.node]
      | true =>
        obtain ⟨start, content, rfl⟩ := Node.exists_of_isText lastText
        simp [appendText, Piece.node, Node.merged]
  | part node =>
    have noText : ∀ first ∈ [Piece.node (.part node)].head?, first.isText = false := by
      rintro first ⟨⟩
      exact plain.1
    rw [Node.merged_of_head? noText, Piece.added, List.reverse_cons]
    rfl

theorem Piece.reverse_foldl_added
    {pieces : List Piece}
    (plain : ∀ piece ∈ pieces, piece.IsPlain)
    (parts : List Node) :
    (pieces.foldl added parts).reverse = Node.merged parts.reverse (joined pieces) := by
  induction pieces generalizing parts with
  | nil => rw [List.foldl_nil, joined, List.foldl_nil, Node.merged_of_head? (by simp)]; simp
  | cons piece pieces hypothesis =>
    rw [List.forall_mem_cons] at plain
    have first : joined (piece :: pieces) = Node.merged [piece.node] (joined pieces) := by
      rw [joined, List.foldl_cons, hypothesis plain.2, reverse_added plain.1]
      rfl
    rw [List.foldl_cons, hypothesis plain.2, reverse_added plain.1, first,
      Node.merged_merged_singleton]

/-- The parts of some pieces and others behind them. -/
theorem Piece.joined_append
    {front back : List Piece}
    (plain : ∀ piece ∈ back, piece.IsPlain) :
    joined (front ++ back) = Node.merged (joined front) (joined back) := by
  rw [joined, List.foldl_append, reverse_foldl_added plain]
  rfl

theorem Piece.IsPlain.moved
    {piece : Piece}
    (plain : piece.IsPlain)
    (relocation : Relocation) :
    (piece.moved relocation).IsPlain := by
  cases piece with
  | text position run => trivial
  | part node =>
    exact ⟨(Node.isText_moved _ _).trans plain.1, (Node.isSequence_moved _ _).trans plain.2⟩

/-- Text and parts of their own stand for no neighbouring parts. -/
theorem Piece.isSequence_foldl_added
    {pieces : List Piece}
    (plain : ∀ piece ∈ pieces, piece.IsPlain)
    {parts : List Node}
    (before : ∀ part ∈ parts, part.isSequence = false) :
    ∀ part ∈ pieces.foldl added parts, part.isSequence = false := by
  induction pieces generalizing parts with
  | nil => exact before
  | cons piece pieces hypothesis =>
    rw [List.forall_mem_cons] at plain
    refine hypothesis plain.2 ?_
    cases piece with
    | text position run =>
      rw [added, appendText.eq_def]
      split
      · exact List.forall_mem_cons.2 ⟨rfl, (List.forall_mem_cons.1 before).2⟩
      · exact List.forall_mem_cons.2 ⟨rfl, before⟩
    | part node => exact List.forall_mem_cons.2 ⟨plain.1.2, before⟩

theorem Piece.parts_sequenced_joined
    {pieces : List Piece}
    (plain : ∀ piece ∈ pieces, piece.IsPlain)
    (position : Position) :
    (Node.sequenced position (joined pieces)).parts = joined pieces := by
  apply Node.parts_sequenced
  intro part member
  exact isSequence_foldl_added plain (by simp) part (List.mem_reverse.1 member)

end Document

namespace Region

/-- An expression is a part of its own. -/
theorem Reads.isSingle
    {region : Region}
    {goal : Goal}
    {levels : Nat}
    {cursor finish : Cursor}
    {node : Node}
    (reads : region.Reads goal levels cursor node finish)
    (given : ∀ left ∈ goal.given, left.IsSingle) :
    node.IsSingle := by
  refine Reads.forall_node (motive := Node.IsSingle) ?_ ?_ ?_ ?_ reads given
  all_goals intros; exact ⟨rfl, rfl⟩

end Region

namespace Document

theorem Steps.contents_isSingle
    {grammar : Grammar}
    {state after : State}
    {segments : List Segment}
    (steps : Steps grammar state segments after) :
    ∀ segment ∈ segments, ∀ content ∈ segment.contents, content.node.IsSingle := by
  intro segment inside content member
  obtain ⟨region, cursor, finish, reads⟩ := steps.contents_read segment inside content member
  exact reads.isSingle (by simp [Region.Goal.given])

/-- An item gives text or parts of their own. -/
theorem Derives.isPlain_of_item
    {pieces : List Piece}
    {levels : Nat}
    {segments : List Segment}
    (derives : Derives (.item pieces) levels segments)
    (single : ∀ segment ∈ segments, ∀ content ∈ segment.contents, content.node.IsSingle) :
    ∀ piece ∈ pieces, piece.IsPlain := by
  cases derives with
  | insertion fits =>
    have content := single _ List.mem_cons_self _ List.mem_cons_self
    simpa [Piece.IsPlain] using content
  | _ => simp [Piece.IsPlain, Node.IsSingle, Node.isText, Node.isSequence, Node.conditional,
      Node.choice, Node.selected]

/-- What holds of no items and goes on from the items behind an item holds of all
items of a document. -/
theorem Derives.items_induction
    {levels : Nat}
    {motive : (pieces : List Piece) → (segments : List Segment) →
      Derives (.items pieces) levels segments → Prop}
    (nothing : motive [] [] .nothing)
    (next : ∀ {pieces others : List Piece} {front back : List Segment}
      (first : Derives (.item pieces) levels front)
      (rest : Derives (.items others) levels back),
      motive others back rest → motive (pieces ++ others) (front ++ back) (.next first rest))
    {pieces : List Piece}
    {segments : List Segment}
    (derives : Derives (.items pieces) levels segments) :
    motive pieces segments derives := by
  have ofForm {form : Form} (derived : Derives form levels segments) :
      ∀ pieces derives, form = .items pieces → motive pieces segments derives := by
    clear derives
    induction derived with
    | nothing =>
      rintro pieces derives ⟨⟩
      exact nothing
    | next first rest _ hypothesis =>
      rintro pieces derives ⟨⟩
      exact next first rest (hypothesis nothing next _ rest rfl)
    | _ => rintro pieces derives ⟨⟩
  exact ofForm derives pieces derives rfl

/-- The items of a document give texts and parts of their own. -/
theorem Derives.isPlain_of_items
    {levels : Nat}
    {pieces : List Piece}
    {segments : List Segment}
    (derives : Derives (.items pieces) levels segments)
    (single : ∀ segment ∈ segments, ∀ content ∈ segment.contents, content.node.IsSingle) :
    ∀ piece ∈ pieces, piece.IsPlain := by
  induction derives using Derives.items_induction with
  | nothing => simp
  | next first rest hypothesis =>
    rw [List.forall_mem_append] at single ⊢
    exact ⟨first.isPlain_of_item single.1, hypothesis single.2⟩

end Document

/-! ## Includes -/

namespace Includes

/-- Includes at their new positions. -/
def moved (relocation : Relocation) (includes : Includes) : Includes :=
  includes.map fun group => (group.1, group.2.map relocation.map)

/-- The positions of the tags with a key. -/
def positionsOf (key : Text) (includes : Includes) : List Position :=
  (includes.lookup key).getD []

/-- Includes before other includes: the keys of the first with the positions of
both, and behind them the new keys of the second. -/
def merged (first second : Includes) : Includes :=
  (first.map fun group => (group.1, group.2 ++ second.positionsOf group.1)) ++
    second.filter fun group => !(first.map Prod.fst).contains group.1

theorem positionsOf_grouped (key : Text) (tags : List (Text × Position)) :
    (grouped tags).positionsOf key = (tags.filter fun tag => tag.1 == key).map Prod.snd := by
  match tags with
  | [] => rfl
  | (known, position) :: tags =>
    have smaller : (tags.filter fun tag => !tag.1 == known).length < tags.length + 1 :=
      Nat.lt_succ_of_le (List.length_filter_le _ _)
    have others := positionsOf_grouped key (tags.filter fun tag => !tag.1 == known)
    rw [positionsOf] at others ⊢
    rw [grouped_cons, List.lookup_cons]
    by_cases same : key = known
    · subst same
      simp
    · have differs : (key == known) = false := beq_false_of_ne same
      rw [differs]
      simp only [others, List.filter_filter, List.filter_cons, beq_iff_eq, Ne.symm same, if_false]
      congr 1
      apply List.filter_congr
      intro tag _
      by_cases here : tag.1 = key
      · simp [here, differs]
      · simp [here]
termination_by tags.length

/-- Grouping is local: the groups of some keys are those of their tags. -/
theorem grouped_filter (keep : Text → Bool) (tags : List (Text × Position)) :
    grouped (tags.filter fun tag => keep tag.1) =
      (grouped tags).filter fun group => keep group.1 := by
  match tags with
  | [] => rfl
  | (key, position) :: tags =>
    have smaller : (tags.filter fun tag => !tag.1 == key).length < tags.length + 1 :=
      Nat.lt_succ_of_le (List.length_filter_le _ _)
    have others := grouped_filter keep (tags.filter fun tag => !tag.1 == key)
    rw [List.filter_filter] at others
    rw [grouped_cons]
    cases kept : keep key with
    | true =>
      have own : (tags.filter fun tag => (tag.1 == key) && keep tag.1) =
          tags.filter fun tag => tag.1 == key := by
        apply List.filter_congr
        intro tag _
        by_cases here : tag.1 = key <;> simp [here, kept]
      have rest : (tags.filter fun tag => (!tag.1 == key) && keep tag.1) =
          tags.filter fun tag => keep tag.1 && !tag.1 == key := by
        simp only [Bool.and_comm]
      simp only [List.filter_cons, kept, if_true, grouped_cons, List.filter_filter, ← others, own,
        rest]
    | false =>
      have rest : (tags.filter fun tag => keep tag.1 && !tag.1 == key) =
          tags.filter fun tag => keep tag.1 := by
        apply List.filter_congr
        intro tag _
        by_cases here : tag.1 = key <;> simp [here, kept]
      simp only [List.filter_cons, kept, Bool.false_eq_true, if_false, ← others, rest]
termination_by tags.length

theorem key_ne_of_mem_grouped
    {key : Text}
    {tags : List (Text × Position)}
    {group : Text × List Position}
    (member : group ∈ grouped (tags.filter fun tag => !tag.1 == key)) :
    group.1 ≠ key := by
  simp only [grouped, List.mem_map, List.mem_eraseDups, List.mem_filter] at member
  obtain ⟨other, ⟨tag, ⟨_, differs⟩, rfl⟩, rfl⟩ := member
  simpa using differs

/-- Tags behind other tags are grouped with them. -/
theorem grouped_append (front back : List (Text × Position)) :
    grouped (front ++ back) = merged (grouped front) (grouped back) := by
  match front with
  | [] => exact (List.filter_eq_self.2 fun _ _ => rfl).symm
  | (key, position) :: front =>
    have smaller : (front.filter fun tag => !tag.1 == key).length < front.length + 1 :=
      Nat.lt_succ_of_le (List.length_filter_le _ _)
    have others := grouped_append (front.filter fun tag => !tag.1 == key)
      (back.filter fun tag => !tag.1 == key)
    rw [List.cons_append, grouped_cons, List.filter_append, List.filter_append, others,
      grouped_cons, merged, merged, List.map_cons, List.cons_append, positionsOf_grouped,
      List.map_append, List.cons_append]
    congr 2
    · apply List.map_congr_left
      intro group member
      have differs := key_ne_of_mem_grouped member
      have same : (back.filter fun tag => (tag.1 == group.1) && !tag.1 == key) =
          back.filter fun tag => tag.1 == group.1 := by
        apply List.filter_congr
        intro tag _
        by_cases here : tag.1 = group.1 <;> simp [here, differs]
      rw [positionsOf_grouped, positionsOf_grouped, List.filter_filter, same]
    · rw [grouped_filter (fun other => !other == key) back, List.filter_filter]
      apply List.filter_congr
      intro group _
      rw [List.map_cons, List.contains_cons, Bool.not_or, Bool.and_comm]
termination_by front.length

theorem grouped_moved (relocation : Relocation) (tags : List (Text × Position)) :
    grouped (tags.map (Prod.map id relocation.map)) = (grouped tags).moved relocation := by
  simp [grouped, moved, List.filter_map, Function.comp_def]

end Includes

namespace Document

theorem inclusionTags_moved (relocation : Relocation) (segments : List Segment) :
    inclusionTags (segments.map (Segment.moved relocation)) =
      (inclusionTags segments).map (Prod.map id relocation.map) := by
  rw [inclusionTags, inclusionTags, List.filterMap_map, List.map_filterMap]
  congr 1
  funext segment
  cases segment with
  | tag opener held behind => cases held <;> rfl
  | _ => rfl

end Document

/-! ## Positions -/

namespace Text

theorem newlines_append (front back : Text) :
    newlines (front ++ back) = newlines front + newlines back :=
  List.count_append

theorem utf8Width_append (front back : Text) :
    utf8Width (front ++ back) = utf8Width front + utf8Width back := by
  induction front with
  | nil => simp [utf8Width]
  | cons point front hypothesis =>
    simp only [utf8Width, List.cons_append, List.foldr_cons] at hypothesis ⊢
    omega

/-- The last line of a longer text is the one of what is behind, and goes back into
the text before it if there is no line feed behind. -/
theorem lastLine_append (front back : Text) :
    lastLine (front ++ back) =
      if newlines back = 0 then lastLine front ++ lastLine back else lastLine back := by
  induction back using List.reverseRecOn with
  | nil => simp [lastLine, newlines]
  | append_singleton back point hypothesis =>
    rw [← List.append_assoc, lastLine_concat, lastLine_concat, newlines_concat, hypothesis]
    by_cases isFeed : point = '\n'
    · simp [isFeed]
    · simp only [isFeed, if_false, Nat.add_zero]
      split
      · rw [List.append_assoc]
      · rfl

end Text

namespace Relocation

/-- The positions of a source when a text is written before it. -/
def behind (text : Text) : Relocation where
  map position :=
    if position.isSynthetic then position
    else
      { position with
        line := position.line + text.newlines
        column :=
          if position.line = 1 then position.column + text.lastLine.length else position.column
        offset := position.offset + text.utf8Width }
  map_synthetic _ := rfl

/-- The positions behind a text when the text is taken away. -/
def ahead (text : Text) : Relocation where
  map position :=
    if position.isSynthetic then position
    else
      { position with
        line := position.line - text.newlines
        column :=
          if position.line = 1 + text.newlines then position.column - text.lastLine.length
          else position.column
        offset := position.offset - text.utf8Width }
  map_synthetic _ := rfl

theorem ahead_map_behind
    {position : Position}
    (placed : position.isSynthetic = false)
    (text : Text) :
    (ahead text).map ((behind text).map position) = position := by
  have positive : position.line ≠ 0 := by simpa [Position.isSynthetic] using placed
  have moved : ((behind text).map position).isSynthetic = false := by
    simp [behind, Position.isSynthetic, positive]
  have firstLine : position.line + text.newlines = 1 + text.newlines ↔ position.line = 1 := by
    omega
  simp only [ahead, moved, Bool.false_eq_true, if_false]
  simp only [behind, placed, Bool.false_eq_true, if_false, Nat.add_sub_cancel, firstLine]
  split
  · rw [Nat.add_sub_cancel]
  · rfl

end Relocation

theorem Position.isSynthetic_ofIndex (name source : Text) (index : Nat) :
    (ofIndex name source index).isSynthetic = false := by
  simp [isSynthetic, ofIndex]

theorem Position.ofIndex_append (name front back : Text) (index : Nat) :
    ofIndex name (front ++ back) (front.length + index) =
      (Relocation.behind front).map (ofIndex name back index) := by
  have placed := isSynthetic_ofIndex name back index
  have firstLine : (ofIndex name back index).line = 1 ↔
      Text.newlines (back.take index) = 0 := by
    simp [ofIndex]
  simp only [Relocation.behind, placed, Bool.false_eq_true, if_false, firstLine]
  simp only [ofIndex, List.take_length_add_append, Text.newlines_append, Text.lastLine_append,
    Text.utf8Width_append]
  congr 1
  · omega
  · split
    · rw [List.length_append]
      omega
    · rfl
  · omega

end Stencil
