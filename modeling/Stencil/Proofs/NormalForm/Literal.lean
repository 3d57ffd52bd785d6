import Stencil.Proofs.NormalForm.Document

/-!
# Where literals come from

The literals of a tree are those of its expressions and of its patterns.  A template
has no other literals than the ones that are written in its source, and the truth
values that conditions are compared with.  So whatever holds of truth values and of
all literals that can be written holds of every literal of a template.
-/

namespace Stencil

/-- The literal of a pattern, if it is one. -/
def Pattern.literals : Pattern → List Literal
  | .wildcard => []
  | .path _ => []
  | .literal value => [value]
  | .bare value => [value]

namespace Node

mutual

/-- The literals of a tree, those of patterns included. -/
def literals : Node → List Literal
  | .text _ _ => []
  | .literal _ value => [value]
  | .reference _ => []
  | .function _ _ => []
  | .apply _ callee argument => literals callee ++ literals argument
  | .selection _ scrutinee alternatives => literals scrutinee ++ alternativeLiterals alternatives
  | .loop _ _ _ body otherwise => literals body ++ optionalLiterals otherwise
  | .binding _ _ value body => literals value ++ literals body
  | .inclusion _ _ context => optionalLiterals context
  | .sequence _ parts => partLiterals parts
  | .bare _ => []

/-- The literals of an optional tree. -/
def optionalLiterals : Option Node → List Literal
  | none => []
  | some node => literals node

/-- The literals of a list of trees. -/
def partLiterals : List Node → List Literal
  | [] => []
  | part :: rest => literals part ++ partLiterals rest

/-- The literals of a list of alternatives. -/
def alternativeLiterals : List (Pattern × Node) → List Literal
  | [] => []
  | (pattern, body) :: rest => pattern.literals ++ literals body ++ alternativeLiterals rest

end

/-- Every literal of a tree has a property. -/
def Every (property : Literal → Prop) (node : Node) : Prop :=
  ∀ literal ∈ node.literals, property literal

section Every

variable {property : Literal → Prop}

theorem every_call
    {position : Position}
    {name : Text}
    {argument : Node} :
    (call position name argument).Every property ↔ argument.Every property := by
  simp [Every, call, literals]

theorem every_binary
    {position : Position}
    {symbol : Text}
    {left right : Node} :
    (binary position symbol left right).Every property ↔
      left.Every property ∧ right.Every property := by
  simp [Every, binary, call, literals, or_imp, forall_and]

example (position : Position) (symbol : Text) :
    (binary position symbol (.literal position (.boolean true))
      (.literal position (.text []))).literals = [.boolean true, .text []] := by
  cbv

theorem forall_mem_partLiterals
    {parts : List Node} :
    (∀ literal ∈ partLiterals parts, property literal) ↔ ∀ part ∈ parts, part.Every property := by
  induction parts with
  | nil => simp [partLiterals]
  | cons part parts hypothesis =>
    rw [partLiterals, List.forall_mem_append, hypothesis, List.forall_mem_cons, Every]

theorem forall_mem_alternativeLiterals
    {alternatives : List (Pattern × Node)} :
    (∀ literal ∈ alternativeLiterals alternatives, property literal) ↔
      ∀ alternative ∈ alternatives,
        (∀ literal ∈ alternative.1.literals, property literal) ∧
          alternative.2.Every property := by
  induction alternatives with
  | nil => simp [alternativeLiterals]
  | cons alternative alternatives hypothesis =>
    rw [alternativeLiterals, List.forall_mem_append, List.forall_mem_append, hypothesis,
      List.forall_mem_cons, Every]

theorem forall_mem_optionalLiterals
    {node : Option Node} :
    (∀ literal ∈ optionalLiterals node, property literal) ↔
      ∀ part ∈ node, part.Every property := by
  cases node <;> simp [optionalLiterals, Every]

theorem every_sequenced
    {position : Position}
    {parts : List Node} :
    (sequenced position parts).Every property ↔ ∀ part ∈ parts, part.Every property := by
  unfold sequenced
  split
  · simp
  · rw [Every, literals, forall_mem_partLiterals]

theorem every_selected
    {scrutinee : Node}
    {alternatives : List (Pattern × Node)}
    {otherwise : Option Node} :
    (selected scrutinee alternatives otherwise).Every property ↔
      scrutinee.Every property ∧
        (∀ alternative ∈ alternatives,
          (∀ literal ∈ alternative.1.literals, property literal) ∧
            alternative.2.Every property) ∧
        ∀ body ∈ otherwise, body.Every property := by
  rw [selected, Every, literals, List.forall_mem_append, forall_mem_alternativeLiterals,
    List.forall_mem_append, ← Every]
  cases otherwise <;> simp [Pattern.literals]

/-- Besides the literals of its branches a conditional has truth values. -/
theorem every_conditional
    {branches : List (Node × Node)}
    {otherwise : Option Node}
    (truth : ∀ flag, property (.boolean flag))
    (each : ∀ branch ∈ branches, branch.1.Every property ∧ branch.2.Every property)
    (last : ∀ body ∈ otherwise, body.Every property) :
    (conditional branches otherwise).Every property := by
  induction branches with
  | nil =>
    cases otherwise with
    | none => simp [conditional, nothing, Every, literals, partLiterals]
    | some body => exact last body rfl
  | cons branch branches hypothesis =>
    rw [List.forall_mem_cons] at each
    have rest := hypothesis each.2
    rw [show conditional (branch :: branches) otherwise =
      choice branch.1 branch.2 (conditional branches otherwise) from rfl, choice, Every, literals,
      List.forall_mem_append, forall_mem_alternativeLiterals]
    exact ⟨each.1.1, by simp [Node.truth, Pattern.literals, truth, each.1.2, rest]⟩

end Every

end Node

namespace Region

/-- A literal stands somewhere in a source. -/
def CanBeWritten (literal : Literal) : Prop :=
  ∃ cursor position finish, Written cursor position literal finish

variable
  {region : Region}
  {property : Literal → Prop}
  (written : ∀ literal, CanBeWritten literal → property literal)

include written

theorem property_of_literal?
    {cursor finish : Cursor}
    {position : Position}
    {literal : Literal}
    (found : literal? 1 cursor = .ok (some (position, literal), finish)) :
    property literal :=
  written literal ⟨_, _, _, .of_literal? found⟩

theorem Matches.every
    {cursor finish : Cursor}
    {pattern : Pattern}
    (matched : region.Matches cursor pattern finish) :
    ∀ literal ∈ pattern.literals, property literal := by
  cases matched with
  | wildcard => simp [Pattern.literals]
  | literal next noWildcard found =>
    simpa [Pattern.literals] using property_of_literal? written found
  | path => simp [Pattern.literals]

/-- An expression has no other literals than the ones that are written in it. -/
theorem Reads.every
    {goal : Goal}
    {levels : Nat}
    {cursor finish : Cursor}
    {node : Node}
    (reads : region.Reads goal levels cursor node finish)
    (given : ∀ left ∈ goal.given, left.Every property) :
    node.Every property := by
  induction reads with
  | expression first rest stops firstHypothesis restHypothesis =>
    have left := firstHypothesis (by simp [Goal.given])
    exact restHypothesis (by simpa [Goal.given] using left)
  | none => exact given _ rfl
  | filter meets strong role named rest hypothesis =>
    apply hypothesis
    rintro left ⟨⟩
    exact Node.every_call.2 (given _ rfl)
  | binary meets strong role operand rest operandHypothesis restHypothesis =>
    have right := operandHypothesis (by simp [Goal.given])
    apply restHypothesis
    rintro left ⟨⟩
    exact Node.every_binary.2 ⟨given _ rfl, right⟩
  | operand next bare rest hypothesis => exact hypothesis (by simp [Goal.given])
  | prefixed next before rest hypothesis =>
    exact Node.every_call.2 (hypothesis (by simp [Goal.given]))
  | parenthesised next opening inner closing hypothesis => exact hypothesis (by simp [Goal.given])
  | literal next noOpening found =>
    simpa [Node.Every, Node.literals] using property_of_literal? written found
  | reference => simp [Node.Every, Node.literals]

end Region

namespace Document

variable {property : Literal → Prop}

theorem Piece.mem_added
    {piece : Piece}
    {parts : List Node}
    {part : Node}
    (member : part ∈ added parts piece) :
    part.isText = true ∨ part ∈ parts ∨ piece = .part part := by
  cases piece with
  | part node =>
    rcases List.mem_cons.1 member with rfl | before
    · exact .inr (.inr rfl)
    · exact .inr (.inl before)
  | text position run =>
    simp only [added, appendText] at member
    split at member
    · rcases List.mem_cons.1 member with rfl | before
      · exact .inl rfl
      · exact .inr (.inl (List.mem_cons_of_mem _ before))
    · rcases List.mem_cons.1 member with rfl | before
      · exact .inl rfl
      · exact .inr (.inl before)

/-- A part of a document is text or a piece of its own. -/
theorem Piece.mem_joined
    {pieces : List Piece}
    {part : Node}
    (member : part ∈ joined pieces) :
    part.isText = true ∨ .part part ∈ pieces := by
  have general (parts : List Node) (inside : part ∈ pieces.foldl added parts) :
      part.isText = true ∨ part ∈ parts ∨ .part part ∈ pieces := by
    clear member
    induction pieces generalizing parts with
    | nil => exact .inr (.inl inside)
    | cons piece pieces hypothesis =>
      rcases hypothesis _ inside with isText | before | found
      · exact .inl isText
      · rcases mem_added before with isText | earlier | rfl
        · exact .inl isText
        · exact .inr (.inl earlier)
        · exact .inr (.inr List.mem_cons_self)
      · exact .inr (.inr (List.mem_cons_of_mem _ found))
  rcases general [] (List.mem_reverse.1 member) with isText | none | found
  · exact .inl isText
  · cases none
  · exact .inr found

/-- The literals of a document are those of its pieces. -/
theorem Piece.every_sequenced_joined
    {pieces : List Piece}
    (each : ∀ piece ∈ pieces, piece.node.Every property)
    (position : Position) :
    (Node.sequenced position (joined pieces)).Every property := by
  refine Node.every_sequenced.2 fun part member => ?_
  rcases mem_joined member with isText | found
  · obtain ⟨place, run, rfl⟩ := Node.exists_of_isText isText
    simp [Node.Every, Node.literals]
  · exact each _ found

/-! ## Segments -/

/-- Every literal of a tag has a property. -/
def Tag.Every (property : Literal → Prop) : Tag → Prop
  | .condition test => test.node.Every property
  | .further test => test.node.Every property
  | .scrutinee subject => subject.node.Every property
  | .alternative pattern => ∀ literal ∈ pattern.literals, property literal
  | .loop _ _ => True
  | .binding _ value => value.node.Every property
  | .inclusion _ context => ∀ content ∈ context, content.node.Every property
  | .marker _ => True

/-- Every literal of a segment has a property. -/
def Segment.Every (property : Literal → Prop) : Segment → Prop
  | .insertion content => content.node.Every property
  | .tag _ held _ => held.Every property
  | _ => True

section Written

variable (written : ∀ literal, Region.CanBeWritten literal → property literal)

include written

theorem Tag.Holds.every
    {region : Region}
    {tag : Tag}
    {cursor finish : Cursor}
    (holds : tag.Holds region cursor finish) :
    tag.Every property := by
  cases holds with
  | condition reads => exact reads.every written (by simp [Region.Goal.given])
  | further reads => exact reads.every written (by simp [Region.Goal.given])
  | scrutinee reads => exact reads.every written (by simp [Region.Goal.given])
  | alternative matched => exact matched.every written
  | loop => trivial
  | binding named signed reads => exact reads.every written (by simp [Region.Goal.given])
  | inclusion => simp [Tag.Every]
  | inclusionWith keyed joined reads =>
    have context := reads.every written (by simp [Region.Goal.given])
    simpa [Tag.Every] using context
  | marker => trivial

theorem Steps.every
    {grammar : Grammar}
    {state after : State}
    {segments : List Segment}
    (steps : Steps grammar state segments after) :
    ∀ segment ∈ segments, segment.Every property := by
  induction steps with
  | nil => simp
  | cons step _ hypothesis =>
    refine List.forall_mem_cons.2 ⟨?_, hypothesis⟩
    cases step with
    | text => trivial
    | insertion opens reads closes => exact reads.every written (by simp [Region.Goal.given])
    | comment => trivial
    | pragma => trivial
    | tag opens entered holds closes => exact holds.every written

end Written

/-! ## Derived trees -/

/-- Every literal of what a form stands for has a property. -/
def Form.Every (property : Literal → Prop) : Form → Prop
  | .item pieces => ∀ piece ∈ pieces, piece.node.Every property
  | .items pieces => ∀ piece ∈ pieces, piece.node.Every property
  | .document _ node => node.Every property
  | .branches tests => ∀ branch ∈ tests, branch.1.Every property ∧ branch.2.Every property
  | .alternatives cases => ∀ alternative ∈ cases,
    (∀ literal ∈ alternative.1.literals, property literal) ∧ alternative.2.Every property
  | .otherwise body => ∀ node ∈ body, node.Every property

/-- What is derived has the literals of the segments, and truth values. -/
theorem Derives.every
    {form : Form}
    {levels : Nat}
    {segments : List Segment}
    (derives : Derives form levels segments)
    (truth : ∀ flag, property (.boolean flag))
    (each : ∀ segment ∈ segments, segment.Every property) :
    form.Every property := by
  induction derives with
  | text => simp [Form.Every, Piece.node, Node.Every, Node.literals]
  | insertion fits => exact List.forall_mem_singleton.2 (each _ List.mem_cons_self)
  | comment => simp [Form.Every]
  | pragma => simp [Form.Every]
  | inclusion fits =>
    have context := each _ List.mem_cons_self
    refine List.forall_mem_singleton.2 (Node.forall_mem_optionalLiterals.2 ?_)
    simpa [Segment.Every, Tag.Every] using context
  | conditional fits first others rest firstHypothesis othersHypothesis restHypothesis =>
    simp only [List.forall_mem_cons, List.forall_mem_append] at each
    obtain ⟨test, inBody, inBranches, inDefault, _⟩ := each
    refine List.forall_mem_singleton.2
      (Node.every_conditional truth ?_ (restHypothesis inDefault))
    exact List.forall_mem_cons.2 ⟨⟨test, firstHypothesis inBody⟩, othersHypothesis inBranches⟩
  | selection fits noTag cases rest casesHypothesis restHypothesis =>
    simp only [List.forall_mem_cons, List.forall_mem_append] at each
    obtain ⟨subject, _, inCases, inDefault, _⟩ := each
    exact List.forall_mem_singleton.2
      (Node.every_selected.2 ⟨subject, casesHypothesis inCases, restHypothesis inDefault⟩)
  | loop body rest bodyHypothesis restHypothesis =>
    simp only [List.forall_mem_cons, List.forall_mem_append] at each
    obtain ⟨_, inBody, inDefault, _⟩ := each
    exact List.forall_mem_singleton.2 (List.forall_mem_append.2 ⟨bodyHypothesis inBody,
      Node.forall_mem_optionalLiterals.2 (restHypothesis inDefault)⟩)
  | binding fits scope hypothesis =>
    simp only [List.forall_mem_cons, List.forall_mem_append] at each
    obtain ⟨bound, inBody, _⟩ := each
    exact List.forall_mem_singleton.2 (List.forall_mem_append.2 ⟨bound, hypothesis inBody⟩)
  | nothing => simp [Form.Every]
  | next first rest firstHypothesis restHypothesis =>
    rw [List.forall_mem_append] at each
    exact List.forall_mem_append.2 ⟨firstHypothesis each.1, restHypothesis each.2⟩
  | document items hypothesis => exact Piece.every_sequenced_joined (hypothesis each) _
  | noBranch => simp [Form.Every]
  | branch fits first others firstHypothesis othersHypothesis =>
    simp only [List.forall_mem_cons, List.forall_mem_append] at each
    obtain ⟨test, inBody, inBranches⟩ := each
    exact List.forall_mem_cons.2 ⟨⟨test, firstHypothesis inBody⟩, othersHypothesis inBranches⟩
  | noAlternative => simp [Form.Every]
  | alternative first others firstHypothesis othersHypothesis =>
    simp only [List.forall_mem_cons, List.forall_mem_append] at each
    obtain ⟨pattern, inBody, inCases⟩ := each
    exact List.forall_mem_cons.2 ⟨⟨pattern, firstHypothesis inBody⟩, othersHypothesis inCases⟩
  | noDefault => simp [Form.Every]
  | default rest hypothesis =>
    rw [List.forall_mem_cons] at each
    simpa [Form.Every] using hypothesis each.2

end Document

namespace Template

open Document

/-- What holds of truth values and of all literals that can be written holds of every
literal of a template. -/
theorem every_of_read
    {property : Literal → Prop}
    {options : Options}
    {name source : Text}
    {delimiters : Delimiters}
    {template : Template}
    (success : (read options name delimiters source).result = .ok template)
    (truth : ∀ flag, property (.boolean flag))
    (written : ∀ literal, Region.CanBeWritten literal → property literal) :
    template.root.Every property := by
  obtain ⟨segments, levels, final, arises⟩ := arises_of_read success
  exact arises.derives.every truth (arises.steps.every written)

end Template

end Stencil
