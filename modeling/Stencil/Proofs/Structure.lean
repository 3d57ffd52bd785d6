import Stencil.Proofs.Block

/-!
# The structure of documents

A document is a sequence of items: text, inline expressions, comments, pragmas,
includes, and blocks whose tags stand around further documents.  The grammar
below derives lists of segments; along with the segments it gives the tree that
they stand for and a number of levels that is enough for the documents,
parentheses and prefix operators that are nested in them.

    document    → item*
    item        → text | insertion | comment | pragma | inclusion
                | condition document branch* otherwise? endConditional
                | scrutinee gap alternative* otherwise? endSelection
                | loop document otherwise? endLoop
                | binding document endBinding
    branch      → further document
    alternative → pattern document
    otherwise   → else document

The gap behind a scrutinee is any run of segments that are no tags; which ones
are allowed there is not a matter of this grammar.
-/

namespace Stencil

/-- Whether a tree is text. -/
def Node.isText : Node → Bool
  | .text _ _ => true
  | _ => false

namespace Document

/-- What an item contributes to the parts of a document. -/
inductive Piece where
  /-- Text, which is joined to text before it. -/
  | text (position : Position) (run : Text)
  /-- A part of its own. -/
  | part (node : Node)

namespace Piece

/-- The part that a piece is unless it is joined to another one. -/
def node : Piece → Node
  | .text position run => .text position run
  | .part node => node

/-- Parts, the latest first, with one more piece. -/
def added (parts : List Node) : Piece → List Node
  | .text position run => appendText position run parts
  | .part node => node :: parts

/-- The parts of a document with some pieces. -/
def joined (pieces : List Piece) : List Node :=
  (pieces.foldl added []).reverse

end Piece

/-- What segments can be derived from, with what they stand for. -/
inductive Form where
  /-- One item of a document. -/
  | item (pieces : List Piece)
  /-- The items of a document. -/
  | items (pieces : List Piece)
  /-- A document that begins at a position. -/
  | document (position : Position) (node : Node)
  /-- The further conditions of a conditional with their bodies. -/
  | branches (branches : List (Node × Node))
  /-- The alternatives of a selection. -/
  | alternatives (alternatives : List (Pattern × Node))
  /-- The body for all other cases, if there is one. -/
  | otherwise (body : Option Node)

/-- The grammar of documents. -/
inductive Derives : Form → Nat → List Segment → Prop
  | text
      {levels : Nat}
      {position : Position}
      {run : Text} :
      Derives (.item [.text position run]) levels [.text position run]
  | insertion
      {levels : Nat}
      {content : Content}
      (fits : content.levels ≤ levels) :
      Derives (.item [.part content.node]) levels [.insertion content]
  | comment {levels : Nat} : Derives (.item []) levels [.comment]
  | pragma {levels : Nat} : Derives (.item []) levels [.pragma]
  | inclusion
      {levels : Nat}
      {opener behind : Position}
      {key : Text}
      {context : Option Content}
      (fits : ∀ content ∈ context, content.levels ≤ levels) :
      Derives (.item [.part (.inclusion opener key (context.map Content.node))]) levels
        [.tag opener (.inclusion key context) behind]
  | conditional
      {levels : Nat}
      {opener behind last finish : Position}
      {test : Content}
      {body : Node}
      {branches : List (Node × Node)}
      {default : Option Node}
      {bodySegments branchSegments defaultSegments : List Segment}
      (fits : test.levels ≤ levels)
      (first : Derives (.document behind body) levels bodySegments)
      (others : Derives (.branches branches) levels branchSegments)
      (rest : Derives (.otherwise default) levels defaultSegments) :
      Derives (.item [.part (Node.conditional ((test.node, body) :: branches) default)]) levels
        (.tag opener (.condition test) behind :: (bodySegments ++ (branchSegments ++
          (defaultSegments ++ [.tag last (.marker .endConditional) finish]))))
  | selection
      {levels : Nat}
      {opener behind last finish : Position}
      {subject : Content}
      {alternatives : List (Pattern × Node)}
      {default : Option Node}
      {gap alternativeSegments defaultSegments : List Segment}
      (fits : subject.levels ≤ levels)
      (noTag : ∀ segment ∈ gap, segment.isTag = false)
      (cases : Derives (.alternatives alternatives) levels alternativeSegments)
      (rest : Derives (.otherwise default) levels defaultSegments) :
      Derives (.item [.part (Node.selected subject.node alternatives default)]) levels
        (.tag opener (.scrutinee subject) behind :: (gap ++ (alternativeSegments ++
          (defaultSegments ++ [.tag last (.marker .endSelection) finish]))))
  | loop
      {levels : Nat}
      {opener behind last finish : Position}
      {item : Identifier}
      {source : Variable}
      {body : Node}
      {default : Option Node}
      {bodySegments defaultSegments : List Segment}
      (each : Derives (.document behind body) levels bodySegments)
      (rest : Derives (.otherwise default) levels defaultSegments) :
      Derives (.item [.part (.loop opener item source.reference body default)]) levels
        (.tag opener (.loop item source) behind :: (bodySegments ++
          (defaultSegments ++ [.tag last (.marker .endLoop) finish])))
  | binding
      {levels : Nat}
      {opener behind last finish : Position}
      {name : Identifier}
      {value : Content}
      {body : Node}
      {bodySegments : List Segment}
      (fits : value.levels ≤ levels)
      (scope : Derives (.document behind body) levels bodySegments) :
      Derives (.item [.part (.binding opener name value.node body)]) levels
        (.tag opener (.binding name value) behind :: (bodySegments ++
          [.tag last (.marker .endBinding) finish]))
  | nothing {levels : Nat} : Derives (.items []) levels []
  | next
      {levels : Nat}
      {pieces others : List Piece}
      {front back : List Segment}
      (first : Derives (.item pieces) levels front)
      (rest : Derives (.items others) levels back) :
      Derives (.items (pieces ++ others)) levels (front ++ back)
  | document
      {levels : Nat}
      {position : Position}
      {pieces : List Piece}
      {segments : List Segment}
      (items : Derives (.items pieces) levels segments) :
      Derives (.document position (Node.sequenced position (Piece.joined pieces)))
        (levels + 1) segments
  | noBranch {levels : Nat} : Derives (.branches []) levels []
  | branch
      {levels : Nat}
      {opener behind : Position}
      {test : Content}
      {body : Node}
      {branches : List (Node × Node)}
      {bodySegments branchSegments : List Segment}
      (fits : test.levels ≤ levels)
      (first : Derives (.document behind body) levels bodySegments)
      (others : Derives (.branches branches) levels branchSegments) :
      Derives (.branches ((test.node, body) :: branches)) levels
        (.tag opener (.further test) behind :: (bodySegments ++ branchSegments))
  | noAlternative {levels : Nat} : Derives (.alternatives []) levels []
  | alternative
      {levels : Nat}
      {opener behind : Position}
      {pattern : Pattern}
      {body : Node}
      {alternatives : List (Pattern × Node)}
      {bodySegments alternativeSegments : List Segment}
      (first : Derives (.document behind body) levels bodySegments)
      (others : Derives (.alternatives alternatives) levels alternativeSegments) :
      Derives (.alternatives ((pattern, body) :: alternatives)) levels
        (.tag opener (.alternative pattern) behind :: (bodySegments ++ alternativeSegments))
  | noDefault {levels : Nat} : Derives (.otherwise none) levels []
  | default
      {levels : Nat}
      {opener behind : Position}
      {body : Node}
      {bodySegments : List Segment}
      (rest : Derives (.document behind body) levels bodySegments) :
      Derives (.otherwise (some body)) levels
        (.tag opener (.marker .otherwise) behind :: bodySegments)

/-- A document takes a level. -/
theorem Derives.levels_pos
    {position : Position}
    {node : Node}
    {levels : Nat}
    {segments : List Segment}
    (derives : Derives (.document position node) levels segments) :
    0 < levels := by
  cases derives with
  | document items => exact Nat.succ_pos _

/-- What fits into a number of levels fits into more of them. -/
theorem Derives.mono
    {form : Form}
    {levels more : Nat}
    {segments : List Segment}
    (derives : Derives form levels segments)
    (fewer : levels ≤ more) :
    Derives form more segments := by
  induction derives generalizing more with
  | text => exact .text
  | insertion fits => exact .insertion (Nat.le_trans fits fewer)
  | comment => exact .comment
  | pragma => exact .pragma
  | inclusion fits =>
    exact .inclusion fun content member => Nat.le_trans (fits content member) fewer
  | conditional fits _ _ _ first others rest =>
    exact .conditional (Nat.le_trans fits fewer) (first fewer) (others fewer) (rest fewer)
  | selection fits noTag _ _ cases rest =>
    exact .selection (Nat.le_trans fits fewer) noTag (cases fewer) (rest fewer)
  | loop _ _ each rest => exact .loop (each fewer) (rest fewer)
  | binding fits _ scope => exact .binding (Nat.le_trans fits fewer) (scope fewer)
  | nothing => exact .nothing
  | next _ _ first rest => exact .next (first fewer) (rest fewer)
  | document _ items =>
    obtain ⟨larger, rfl⟩ : ∃ larger, more = larger + 1 := ⟨more - 1, by omega⟩
    exact .document (items (Nat.le_of_succ_le_succ fewer))
  | noBranch => exact .noBranch
  | branch fits _ _ first others =>
    exact .branch (Nat.le_trans fits fewer) (first fewer) (others fewer)
  | noAlternative => exact .noAlternative
  | alternative _ _ first others => exact .alternative (first fewer) (others fewer)
  | noDefault => exact .noDefault
  | default _ rest => exact .default (rest fewer)

/-! ## Clauses -/

/-- Whether a form is a list of clauses of a block, each with a tag before it. -/
def Form.isClause : Form → Bool
  | .branches _ => true
  | .alternatives _ => true
  | .otherwise _ => true
  | _ => false

/-- Clauses are missing or begin with a tag that ends the body before it. -/
theorem Derives.clause_cases
    {form : Form}
    {levels : Nat}
    {segments : List Segment}
    (derives : Derives form levels segments)
    (isClause : form.isClause = true) :
    segments = [] ∨ ∃ opener tag behind rest,
      segments = .tag opener tag behind :: rest ∧ tag.keyword ∈ terminators := by
  cases derives with
  | noBranch => exact .inl rfl
  | noAlternative => exact .inl rfl
  | noDefault => exact .inl rfl
  | branch => exact .inr ⟨_, _, _, _, rfl, by simp [Tag.keyword, terminators, words]⟩
  | alternative => exact .inr ⟨_, _, _, _, rfl, by simp [Tag.keyword, terminators, words]⟩
  | default =>
    exact .inr ⟨_, _, _, _, rfl, by simp [Tag.keyword, Marker.keyword, terminators, words]⟩
  | _ => simp [Form.isClause] at isClause

/-- A list of segments begins with a tag. -/
def BeginsWithTag (segments : List Segment) : Prop :=
  ∃ tag rest, segments = tag :: rest ∧ tag.isTag = true

theorem BeginsWithTag.cons
    {opener behind : Position}
    {tag : Tag}
    {rest : List Segment} :
    BeginsWithTag (.tag opener tag behind :: rest) :=
  ⟨_, rest, rfl, rfl⟩

theorem BeginsWithTag.append
    {segments : List Segment}
    (begins : BeginsWithTag segments)
    (more : List Segment) :
    BeginsWithTag (segments ++ more) := by
  obtain ⟨tag, rest, rfl, isTag⟩ := begins
  exact ⟨tag, rest ++ more, rfl, isTag⟩

theorem Derives.clause_append
    {form : Form}
    {levels : Nat}
    {front back : List Segment}
    (derives : Derives form levels front)
    (isClause : form.isClause = true)
    (begins : BeginsWithTag back) :
    BeginsWithTag (front ++ back) := by
  rcases derives.clause_cases isClause with rfl | ⟨opener, tag, behind, rest, rfl, _⟩
  · exact begins
  · exact .cons

/-! ## Gaps -/

theorem gapsAreBlank_cons_of_not_opens
    {segment : Segment}
    (plain : segment.opensSelection = false)
    (rest : List Segment) :
    gapsAreBlank (segment :: rest) = gapsAreBlank rest := by
  simp [gapsAreBlank, plain]

/-- Segments that are no tags open no gap. -/
theorem gapsAreBlank_append_of_noTag
    {gap : List Segment}
    (noTag : ∀ segment ∈ gap, segment.isTag = false)
    (rest : List Segment) :
    gapsAreBlank (gap ++ rest) = gapsAreBlank rest := by
  induction gap with
  | nil => rfl
  | cons segment gap hypothesis =>
    have plain : segment.opensSelection = false := by
      have := noTag segment List.mem_cons_self
      cases segment <;> simp_all [Segment.isTag, Segment.opensSelection]
    rw [List.cons_append, gapsAreBlank_cons_of_not_opens plain]
    exact hypothesis fun other member => noTag other (List.mem_cons_of_mem _ member)

/-- A gap reaches up to the next tag. -/
theorem gapsAreBlank_scrutinee
    {opener behind : Position}
    {subject : Content}
    {gap rest : List Segment}
    (noTag : ∀ segment ∈ gap, segment.isTag = false)
    (begins : BeginsWithTag rest) :
    gapsAreBlank (.tag opener (.scrutinee subject) behind :: (gap ++ rest)) =
      (gap.all Segment.isBlank && gapsAreBlank rest) := by
  obtain ⟨tag, rest, rfl, isTag⟩ := begins
  have reached : (gap ++ tag :: rest).takeWhile (fun other => !other.isTag) = gap := by
    rw [List.takeWhile_append_of_pos (by simpa using noTag)]
    simp [isTag]
  rw [gapsAreBlank, reached, gapsAreBlank_append_of_noTag noTag]
  simp [Segment.opensSelection]

/-- Parts of a list with blank gaps have blank gaps. -/
theorem gapsAreBlank_of_append
    {front back : List Segment}
    (blank : gapsAreBlank (front ++ back) = true) :
    gapsAreBlank front = true ∧ gapsAreBlank back = true := by
  induction front with
  | nil => exact ⟨rfl, blank⟩
  | cons segment front hypothesis =>
    simp only [List.cons_append, gapsAreBlank, Bool.and_eq_true, Bool.or_eq_true] at blank
    obtain ⟨gap, rest⟩ := blank
    obtain ⟨frontBlank, backBlank⟩ := hypothesis rest
    refine ⟨?_, backBlank⟩
    simp only [gapsAreBlank, Bool.and_eq_true, Bool.or_eq_true]
    refine ⟨?_, frontBlank⟩
    rcases gap with plain | reached
    · exact .inl plain
    · refine .inr ?_
      rw [List.all_eq_true] at reached ⊢
      intro other member
      apply reached
      rw [List.takeWhile_append]
      split
      · exact List.mem_append_left _ (List.takeWhile_subset _ member)
      · exact member

end Document

end Stencil
