import Stencil.Proofs.Equality
import Stencil.Proofs.Excerpt

/-!
# Conditionals are selections between true and false

A conditional with any number of conditions is read to the same tree as selections that
are nested in each other: each compares a condition with true and with false, and the
body for false is the selection of the next condition.  Of the tree that both have, every
assignment of truth values to the conditions selects the body of the first true condition,
or else what stands for all other cases.
-/

namespace Stencil

/-! ## What selections select -/

/-- Whether a value fits a pattern, given the values of variables. -/
def Pattern.fits (environment : Variable → Option Literal) (value : Literal) : Pattern → Bool
  | .wildcard => true
  | .path names => (environment names).any value.same
  | .literal known => value.same known
  | .bare known => value.same known

/-- A truth value for every condition, by the place of the condition in a chain and by its
tree. -/
abbrev Assignment := Nat → Node → Bool

/-- At a place, conditions that are equal up to positions have one value. -/
def Assignment.IsPositionBlind (assignment : Assignment) : Prop :=
  ∀ place left right, left.same right = true → assignment place left = assignment place right

namespace Node

/-- What a selection selects if its scrutinee has its assigned value: the body of the first
alternative whose pattern fits. -/
def selects?
    (environment : Variable → Option Literal)
    (assigned : Node → Bool) : Node → Option Node
  | .selection _ scrutinee alternatives =>
    (alternatives.find? fun alternative =>
      alternative.1.fits environment (.boolean (assigned scrutinee))).map Prod.snd
  | _ => none

/-- What a number of selections that are nested in each other select if their scrutinees have
their assigned values, the outermost at the first place. -/
def selectsAll? (environment : Variable → Option Literal) : Nat → Assignment → Node → Option Node
  | 0, _, node => some node
  | count + 1, assignment, node =>
    (node.selects? environment (assignment 0)).bind
      (selectsAll? environment count fun place => assignment (place + 1))

/-- A choice between two bodies is decided by its condition. -/
theorem selects?_choice
    (environment : Variable → Option Literal)
    (assigned : Node → Bool)
    (test whenTrue whenFalse : Node) :
    (choice test whenTrue whenFalse).selects? environment assigned =
      some (if assigned test then whenTrue else whenFalse) := by
  cases value : assigned test <;>
    simp [choice, selects?, value, truth, Pattern.fits, Literal.same]

end Node

/-- The values of conditions that are asked for: those up to the first true one. -/
def asked : List Bool → List Bool
  | [] => []
  | true :: _ => [true]
  | false :: values => false :: asked values

/-! ## Sources -/

/-- A condition and a body. -/
structure Branch where
  /-- The condition. -/
  test : Excerpt
  /-- The body. -/
  body : Excerpt

/-- The values that the conditions of some branches are assigned. -/
def Assignment.values (assignment : Assignment) (branches : List Branch) : List Bool :=
  branches.mapIdx fun place branch => assignment place branch.test.tree

/-- The tree that some values of conditions choose: the body of the first true condition,
or else the one for all other cases, which is nothing unless it is given. -/
def Branch.chosen (branches : List Branch) (default : Option Excerpt) (values : List Bool) : Node :=
  match (values.zip branches).find? Prod.fst with
  | some (_, branch) => branch.body.tree
  | none => (default.map Excerpt.tree).getD Node.nothing

namespace Delimiters

variable (delimiters : Delimiters)

/-- Further conditions with their bodies. -/
def branchesText : List Branch → Text
  | [] => []
  | branch :: branches =>
    Layout.tagText delimiters "elif" (Text.space ++ branch.test.text) ++
      (branch.body.text ++ branchesText branches)

/-- The body for all other cases, if there is one. -/
def defaultText : Option Excerpt → Text
  | none => []
  | some body => Layout.tagText delimiters "else" [] ++ body.text

/-- A conditional. -/
def conditionalText (first : Branch) (others : List Branch) (default : Option Excerpt) : Text :=
  Layout.tagText delimiters "if" (Text.space ++ first.test.text) ++
    (first.body.text ++ (delimiters.branchesText others ++
      (delimiters.defaultText default ++ Layout.tagText delimiters "endif" [])))

/-- The tag before the body for a truth value. -/
def truthText (flag : Bool) : Text :=
  Layout.tagText delimiters "when"
    (Text.space ++ if flag then Text.of "true" else Text.of "false")

/-- Selections between true and false that are nested in each other, with blanks between
the tags of a selection and its first alternative. -/
def selectionText (gap : Text) : List Branch → Option Excerpt → Text
  | [], none => []
  | [], some body => body.text
  | branch :: branches, default =>
    Layout.tagText delimiters "case" (Text.space ++ branch.test.text) ++
      (gap ++ (delimiters.truthText true ++ (branch.body.text ++ (delimiters.truthText false ++
        (selectionText gap branches default ++ Layout.tagText delimiters "endcase" [])))))

end Delimiters

namespace Template

/-- The conditions and bodies are read to their trees on their own, and nested selections
of them are not nested too deeply: each takes a level. -/
def Fits
    (operators : OperatorTable)
    (name : Text)
    (delimiters : Delimiters) : Int → List Branch → Option Excerpt → Prop
  | limit, [], none => 1 ≤ limit
  | limit, [], some body => IsBody ⟨operators, limit, Kind.all⟩ name delimiters body
  | limit, branch :: branches, default =>
    IsTest ⟨operators, limit - 1, Kind.all⟩ name delimiters branch.test ∧
      IsBody ⟨operators, limit - 1, Kind.all⟩ name delimiters branch.body ∧
      Fits operators name delimiters (limit - 1) branches default

end Template

/-- A condition and a body are read on their own with a number of levels. -/
def Branch.FitsInto
    (branch : Branch)
    (operators : OperatorTable)
    (name : Text)
    (delimiters : Delimiters)
    (levels : Nat) : Prop :=
  ∃ lower : Int, lower.toNat ≤ levels ∧
    Template.IsTest ⟨operators, lower, Kind.all⟩ name delimiters branch.test ∧
    Template.IsBody ⟨operators, lower, Kind.all⟩ name delimiters branch.body

/-! ## The tree of both -/

/-- The tree of nested choices between the bodies of conditions, wherever each of them
stands. -/
inductive IsCascade : List Branch → Option Excerpt → Node → Prop
  | nothing
      {position : Position} :
      IsCascade [] none (.sequence position [])
  | default
      {body : Excerpt}
      {relocation : Relocation}
      (keeps : relocation.KeepsNames) :
      IsCascade [] (some body) (body.tree.moved relocation)
  | branch
      {branch : Branch}
      {branches : List Branch}
      {default : Option Excerpt}
      {rest : Node}
      {ofTest ofBody : Relocation}
      (keepsTest : ofTest.KeepsNames)
      (keepsBody : ofBody.KeepsNames)
      (others : IsCascade branches default rest) :
      IsCascade (branch :: branches) default
        (Node.choice (branch.test.tree.moved ofTest) (branch.body.tree.moved ofBody) rest)

theorem Node.same_of_keepsNames
    {first second : Relocation}
    (former : first.KeepsNames)
    (latter : second.KeepsNames)
    (node : Node) :
    (node.moved first).same (node.moved second) = true := by
  have erased : (node.moved first).moved .erase = (node.moved second).moved .erase := by
    rw [erase_moved former, erase_moved latter]
  exact same_of_moved_eq _ _ erased

theorem Node.moved_same
    {relocation : Relocation}
    (keeps : relocation.KeepsNames)
    (node : Node) :
    (node.moved relocation).same node = true := by
  have same := Node.same_of_keepsNames keeps Relocation.keepsNames_stay node
  rwa [Node.moved_stay] at same

variable
  {branches : List Branch}
  {default : Option Excerpt}
  {left right node : Node}

/-- There is one such tree up to positions. -/
theorem IsCascade.same
    (first : IsCascade branches default left)
    (second : IsCascade branches default right) :
    left.same right = true := by
  induction first generalizing right with
  | nothing =>
    cases second
    simp [Node.same, Node.sameParts]
  | @default body _ keeps =>
    cases second with
    | default keeps' => exact body.tree.same_of_keepsNames keeps keeps'
  | @branch branch _ _ _ _ _ keepsTest keepsBody _ hypothesis =>
    cases second with
    | branch keepsTest' keepsBody' others' =>
      have sameTest := branch.test.tree.same_of_keepsNames keepsTest keepsTest'
      have sameBody := branch.body.tree.same_of_keepsNames keepsBody keepsBody'
      simp [Node.choice, Node.same, Node.sameAlternatives, Pattern.same, Node.truth, Literal.same,
        sameTest, sameBody, hypothesis others']

/-- The values of the conditions select the body of the first true one. -/
theorem IsCascade.selectsAll?_asked
    (chain : IsCascade branches default node)
    (environment : Variable → Option Literal)
    {assignment : Assignment}
    (blind : assignment.IsPositionBlind) :
    ∃ selected, node.selectsAll? environment (asked (assignment.values branches)).length
        assignment = some selected ∧
      selected.same (Branch.chosen branches default (assignment.values branches)) = true := by
  induction chain generalizing assignment with
  | nothing =>
    exact ⟨_, rfl, by simp [Assignment.values, Branch.chosen, Node.nothing, Node.same,
      Node.sameParts]⟩
  | @default body _ keeps => exact ⟨_, rfl, body.tree.moved_same keeps⟩
  | @branch branch branches default rest ofTest ofBody keepsTest keepsBody _ hypothesis =>
    -- The scrutinee is the condition at another place, so both have the same value.
    have here : assignment 0 (branch.test.tree.moved ofTest) = assignment 0 branch.test.tree :=
      blind 0 _ _ (branch.test.tree.moved_same keepsTest)
    let further : Assignment := fun place => assignment (place + 1)
    have values : assignment.values (branch :: branches) =
        assignment 0 branch.test.tree :: further.values branches := List.mapIdx_cons
    rw [values]
    cases value : assignment 0 branch.test.tree with
    | true =>
      refine ⟨_, ?_, branch.body.tree.moved_same keepsBody⟩
      simp [asked, Node.selectsAll?, Node.selects?_choice, here, value]
    | false =>
      obtain ⟨selected, selects, same⟩ := @hypothesis further fun place => blind (place + 1)
      refine ⟨selected, ?_, same⟩
      simpa [asked, Node.selectsAll?, Node.selects?_choice, here, value] using selects

/-- Conditions and bodies that are moved. -/
def Branch.Becomes (branch : Branch) (pair : Node × Node) : Prop :=
  ∃ ofTest ofBody : Relocation, ofTest.KeepsNames ∧ ofBody.KeepsNames ∧
    pair = (branch.test.tree.moved ofTest, branch.body.tree.moved ofBody)

theorem IsCascade.conditional
    {pairs : List (Node × Node)}
    {otherwise : Option Node}
    (become : List.Forall₂ Branch.Becomes branches pairs)
    (last : IsCascade [] default (otherwise.getD Node.nothing)) :
    IsCascade branches default (Node.conditional pairs otherwise) := by
  induction become with
  | nil => exact last
  | cons becomes _ hypothesis =>
    obtain ⟨ofTest, ofBody, keepsTest, keepsBody, rfl⟩ := becomes
    exact .branch keepsTest keepsBody hypothesis

namespace Document

variable
  {operators : OperatorTable}
  {limit lower : Int}
  {name source : Text}
  {delimiters : Delimiters}
  {state : State}
  {gap tail : Text}
  {levels : Nat}

theorem prefix_tagText (delimiters : Delimiters) (word : String) (content rest : Text) :
    delimiters.block.opening <+: Layout.tagText delimiters word content ++ rest := by
  rw [Layout.tagText, List.append_assoc, List.append_assoc]
  exact List.prefix_append _ _

theorem prefix_defaultText
    (default : Option Excerpt)
    (begins : delimiters.block.opening <+: tail) :
    delimiters.block.opening <+: delimiters.defaultText default ++ tail := by
  cases default with
  | none => exact begins
  | some body =>
    rw [Delimiters.defaultText, List.append_assoc]
    exact prefix_tagText _ _ _ _

theorem prefix_branchesText
    (branches : List Branch)
    (begins : delimiters.block.opening <+: tail) :
    delimiters.block.opening <+: delimiters.branchesText branches ++ tail := by
  cases branches with
  | nil => exact begins
  | cons branch branches =>
    rw [Delimiters.branchesText, List.append_assoc]
    exact prefix_tagText _ _ _ _

/-! ## The conditional -/

/-- Further conditions are clauses of a conditional. -/
theorem Explained.of_branchesText
    (preset : delimiters.IsPreset)
    (each : ∀ branch ∈ branches, branch.FitsInto operators name delimiters levels)
    (begins : delimiters.block.opening <+: tail)
    (stands : state.Stands name source delimiters (delimiters.branchesText branches ++ tail)) :
    ∃ pairs after, after.Stands name source delimiters tail ∧
      Explained (Template.grammarFor ⟨operators, limit, Kind.all⟩ source) (.branches pairs) levels
        state after ∧
      List.Forall₂ Branch.Becomes branches pairs := by
  induction branches generalizing state with
  | nil => exact ⟨[], state, stands, .nothing .noBranch, .nil⟩
  | cons branch branches hypothesis =>
    obtain ⟨⟨lower, fits, isTest, isBody⟩, others⟩ := List.forall_mem_cons.1 each
    rw [Delimiters.branchesText, List.append_assoc, List.append_assoc] at stands
    obtain ⟨ofTest, second, keepsTest, behindTest, step⟩ :=
      Step.of_isTest preset.legible holdsExpression_further isTest stands
    obtain ⟨ofBody, third, keepsBody, behindBody, body⟩ :=
      Explained.of_isBody preset isBody (prefix_branchesText branches begins) behindTest
    obtain ⟨pairs, after, behind, rest, become⟩ := hypothesis others behindBody
    exact ⟨_, after, behind, .branch step fits (body.mono fits) rest,
      .cons ⟨ofTest, ofBody, keepsTest, keepsBody, rfl⟩ become⟩

/-- The body for all other cases is a clause. -/
theorem Explained.of_defaultText
    (preset : delimiters.IsPreset)
    (fits : ∀ body ∈ default, ∃ lower : Int, lower.toNat ≤ levels ∧
      Template.IsBody ⟨operators, lower, Kind.all⟩ name delimiters body)
    (begins : delimiters.block.opening <+: tail)
    (stands : state.Stands name source delimiters (delimiters.defaultText default ++ tail)) :
    ∃ otherwise after, after.Stands name source delimiters tail ∧
      Explained (Template.grammarFor ⟨operators, limit, Kind.all⟩ source) (.otherwise otherwise)
        levels state after ∧
      IsCascade [] default (otherwise.getD Node.nothing) := by
  cases default with
  | none => exact ⟨none, state, stands, .nothing .noDefault, .nothing⟩
  | some body =>
    obtain ⟨lower, fewer, isBody⟩ := fits body rfl
    rw [Delimiters.defaultText, List.append_assoc] at stands
    obtain ⟨second, behindElse, step⟩ :=
      Step.of_marker .otherwise preset.legible rfl (by decide) stands
    obtain ⟨relocation, after, keeps, behind, explained⟩ :=
      Explained.of_isBody preset isBody begins behindElse
    exact ⟨_, after, behind, .default step (explained.mono fewer), .default keeps⟩

/-- A document that is one item. -/
theorem Explained.singleDocument
    {grammar : Grammar}
    {position : Position}
    {node : Node}
    {after : State}
    (item : Explained grammar (.item [.part node]) levels state after) :
    Explained grammar (.document position node) (levels + 1) state after :=
  (item.next (.nothing .nothing)).wholeDocument

/-- A conditional is a cascade of choices. -/
theorem Explained.of_conditionalText
    {first : Branch}
    {others : List Branch}
    (preset : delimiters.IsPreset)
    (each : ∀ branch ∈ first :: others, branch.FitsInto operators name delimiters levels)
    (fits : ∀ body ∈ default, ∃ lower : Int, lower.toNat ≤ levels ∧
      Template.IsBody ⟨operators, lower, Kind.all⟩ name delimiters body)
    (stands : state.Stands name source delimiters
      (delimiters.conditionalText first others default ++ tail))
    (limit : Int) :
    ∃ node after, after.Stands name source delimiters tail ∧
      Explained (Template.grammarFor ⟨operators, limit, Kind.all⟩ source) (.item [.part node])
        levels state after ∧
      IsCascade (first :: others) default node := by
  obtain ⟨⟨lower, fewer, isTest, isBody⟩, eachOther⟩ := List.forall_mem_cons.1 each
  simp only [Delimiters.conditionalText, List.append_assoc] at stands
  have atEnd : delimiters.block.opening <+: Layout.tagText delimiters "endif" [] ++ tail :=
    prefix_tagText _ _ _ _
  have atDefault := prefix_defaultText default atEnd
  obtain ⟨ofTest, second, keepsTest, behindTest, step⟩ :=
    Step.of_isTest preset.legible holdsExpression_condition isTest stands
  obtain ⟨ofBody, third, keepsBody, behindBody, body⟩ :=
    Explained.of_isBody preset isBody (prefix_branchesText others atDefault) behindTest
  obtain ⟨pairs, fourth, behindBranches, rest, become⟩ :=
    Explained.of_branchesText preset eachOther atDefault behindBody
  obtain ⟨otherwise, fifth, behindDefault, last, isLast⟩ :=
    Explained.of_defaultText preset fits atEnd behindBranches
  obtain ⟨after, behind, ends⟩ :=
    Step.of_marker .endConditional preset.legible rfl (by decide) behindDefault
  refine ⟨_, after, behind, .conditionalItem step fewer (body.mono fewer) rest last ends, ?_⟩
  exact .conditional (.cons ⟨ofTest, ofBody, keepsTest, keepsBody, rfl⟩ become) isLast

/-! ## Nested selections -/

/-- The tag of an alternative for a truth value. -/
theorem Step.of_truthText
    (flag : Bool)
    (legible : delimiters.Legible)
    (stands : state.Stands name source delimiters (delimiters.truthText flag ++ tail)) :
    ∃ after, after.Stands name source delimiters tail ∧
      Step (Template.grammarFor ⟨operators, limit, Kind.all⟩ source) state
        (.tag state.cursor.position (.alternative (Node.truth flag)) after.cursor.position)
        after := by
  have order : (Template.grammarFor ⟨operators, limit, Kind.all⟩ source).order = Kind.all := rfl
  let layout : Layout := ⟨[], rfl, false, .sparing⟩
  have written : delimiters.truthText flag =
      Layout.tagText delimiters "when" (layout.literalText (.boolean flag)) := by
    cases flag <;> rfl
  have writable : Literal.IsWritable (.boolean flag) := trivial
  rw [written] at stands
  obtain ⟨_, after, rfl, isAt, step⟩ :=
    Step.of_tagText (· = .alternative (Node.truth flag)) order legible stands.active (by decide)
      (.inr (layout.isSpaced_literalText _)) stands.spells fun region apart _ inner before _ => by
        obtain ⟨_, next, found, _, _, noWildcard⟩ :=
          Region.literal?_of_literalText apart writable inner before
        exact ⟨_, rfl, .alternative (.literal next noWildcard found), rfl⟩
  exact ⟨after, stands.of_isAt isAt, step⟩

/-- Selections between true and false are a cascade of choices. -/
theorem Explained.of_selectionText
    (preset : delimiters.IsPreset)
    (blank : gap.isBlank = true)
    (fits : Template.Fits operators name delimiters lower branches default)
    (begins : branches = [] → delimiters.block.opening <+: tail)
    (stands : state.Stands name source delimiters
      (delimiters.selectionText gap branches default ++ tail))
    (limit : Int) :
    ∃ node after, after.Stands name source delimiters tail ∧
      Explained (Template.grammarFor ⟨operators, limit, Kind.all⟩ source)
        (.document state.cursor.position node) lower.toNat state after ∧
      IsCascade branches default node := by
  -- By induction on the branches: the body for false is the selection of the other ones,
  -- which has one level less and a tag behind it.
  induction branches generalizing lower state tail with
  | nil =>
    cases default with
    | none =>
      obtain ⟨levels, positive⟩ : ∃ levels, lower.toNat = levels + 1 :=
        ⟨lower.toNat - 1, by have : 1 ≤ lower := fits; omega⟩
      refine ⟨.sequence state.cursor.position [], state, stands, ?_, .nothing⟩
      rw [positive]
      exact (Explained.nothing .nothing).wholeDocument
    | some body =>
      obtain ⟨relocation, after, keeps, behind, explained⟩ :=
        Explained.of_isBody preset fits (begins rfl) stands
      exact ⟨_, after, behind, explained, .default keeps⟩
  | cons branch branches hypothesis =>
    obtain ⟨isTest, isBody, fitsRest⟩ := fits
    simp only [Delimiters.selectionText, List.append_assoc] at stands
    obtain ⟨ofTest, second, keepsTest, behindTest, step⟩ :=
      Step.of_isTest preset.legible holdsExpression_scrutinee isTest stands
    obtain ⟨segments, third, behindGap, gapSteps, noTag, allBlank⟩ :=
      Steps.of_blank preset blank (prefix_tagText _ _ _ _) behindTest
    obtain ⟨fourth, behindTrue, whenTrue⟩ := Step.of_truthText true preset.legible behindGap
    obtain ⟨ofBody, fifth, keepsBody, behindBody, body⟩ :=
      Explained.of_isBody preset isBody (prefix_tagText _ _ _ _) behindTrue
    obtain ⟨sixth, behindFalse, whenFalse⟩ := Step.of_truthText false preset.legible behindBody
    obtain ⟨rest, seventh, behindRest, inner, others⟩ :=
      hypothesis fitsRest (fun _ => prefix_tagText _ _ _ _) behindFalse
    obtain ⟨after, behind, ends⟩ :=
      Step.of_marker .endSelection preset.legible rfl (by decide) behindRest
    have cases := Explained.alternative whenTrue body
      (.alternative whenFalse inner (.nothing .noAlternative))
    have item := Explained.selectionItem step (Nat.le_refl _) gapSteps noTag allBlank cases
      (.nothing .noDefault) ends
    -- The body takes a level itself, so the subtraction is not cut off at zero.
    have oneMore : lower.toNat = (lower - 1).toNat + 1 := by
      obtain ⟨_, _, derives, _⟩ := body
      have positive := derives.levels_pos
      omega
    refine ⟨_, after, behind, ?_, .branch keepsTest keepsBody others⟩
    rw [oneMore]
    exact item.singleDocument

end Document

namespace Template

open Document

variable
  {operators : OperatorTable}
  {limit : Int}
  {name : Text}
  {delimiters : Delimiters}

theorem Fits.fitsInto
    (fits : Fits operators name delimiters limit branches default) :
    ∀ branch ∈ branches, branch.FitsInto operators name delimiters (limit - 1).toNat := by
  induction branches generalizing limit with
  | nil => simp
  | cons branch branches hypothesis =>
    obtain ⟨isTest, isBody, rest⟩ := fits
    refine List.forall_mem_cons.2 ⟨⟨limit - 1, Nat.le_refl _, isTest, isBody⟩, ?_⟩
    intro other member
    obtain ⟨lower, fewer, otherFits⟩ := hypothesis rest other member
    exact ⟨lower, by omega, otherFits⟩

theorem Fits.exists_default
    (fits : Fits operators name delimiters limit branches default) :
    ∀ body ∈ default, ∃ lower : Int, lower.toNat ≤ limit.toNat ∧
      IsBody ⟨operators, lower, Kind.all⟩ name delimiters body := by
  induction branches generalizing limit with
  | nil =>
    rintro body ⟨⟩
    exact ⟨limit, Nat.le_refl _, fits⟩
  | cons branch branches hypothesis =>
    intro body isDefault
    obtain ⟨lower, fewer, isBody⟩ := hypothesis fits.2.2 body isDefault
    exact ⟨lower, by omega, isBody⟩

/-- A document takes a level. -/
theorem IsBody.one_le
    {options : Options}
    {body : Excerpt}
    (isBody : IsBody options name delimiters body) :
    1 ≤ options.limit := by
  obtain ⟨includes, success⟩ := isBody.read
  obtain ⟨segments, levels, final, arises⟩ := arises_of_read success
  have positive := arises.derives.levels_pos
  have nested := arises.nested
  omega

/-- A conditional is exactly selections between true and false that are nested in each
other.  Conditions and bodies that are read on their own, the bodies followed by tags and
all of it not nested too deeply, are read to the same tree when they are written as a
conditional and when they are written as nested selections.  For every assignment of truth
values to the conditions that tree selects the body of the first true condition, or the body
for all other cases if none is true, or nothing if there is no such body. -/
theorem read_conditional
    (operators : OperatorTable)
    (limit : Int)
    (name : Text)
    (delimiters : Delimiters)
    (preset : delimiters = .braces ∨ delimiters = .alternate)
    (gap : Text)
    (blank : gap.isBlank = true)
    (first : Branch)
    (others : List Branch)
    (default : Option Excerpt)
    (fits : Fits operators name delimiters limit (first :: others) default) :
    ∃ conditional selection,
      (read ⟨operators, limit, Kind.all⟩ name delimiters
        (delimiters.conditionalText first others default)).result = .ok conditional ∧
      (read ⟨operators, limit, Kind.all⟩ name delimiters
        (delimiters.selectionText gap (first :: others) default)).result = .ok selection ∧
      conditional.root.same selection.root = true ∧
      ∀ root ∈ [conditional.root, selection.root], ∀ environment (assignment : Assignment),
        assignment.IsPositionBlind →
          ∃ selected, root.selectsAll? environment
              (asked (assignment.values (first :: others))).length assignment = some selected ∧
            selected.same (Branch.chosen (first :: others) default
              (assignment.values (first :: others))) = true := by
  have oneMore : limit.toNat = (limit - 1).toNat + 1 := by
    have allowed : 1 ≤ limit - 1 := fits.2.1.one_le
    omega
  let ifText := delimiters.conditionalText first others default
  let caseText := delimiters.selectionText gap (first :: others) default
  obtain ⟨node, after, behind, item, cascade⟩ := Explained.of_conditionalText preset
    fits.fitsInto fits.2.2.exists_default (stands_initial name ifText delimiters) limit
  have explained : Explained _ (.document (Cursor.start name ifText).position node) _ _ _ :=
    item.singleDocument
  rw [← oneMore] at explained
  obtain ⟨conditional, conditionalRead, rfl⟩ := exists_read_of_explained explained behind.unread
  obtain ⟨other, last, behindOther, otherExplained, otherCascade⟩ := Explained.of_selectionText
    preset blank fits nofun (stands_initial name caseText delimiters) limit
  obtain ⟨selection, selectionRead, rfl⟩ :=
    exists_read_of_explained otherExplained behindOther.unread
  refine ⟨conditional, selection, conditionalRead, selectionRead, cascade.same otherCascade, ?_⟩
  intro root isRoot environment assignment blind
  have isCascade : IsCascade (first :: others) default root := by
    simp only [List.mem_cons, List.not_mem_nil, or_false] at isRoot
    rcases isRoot with rfl | rfl
    · exact cascade
    · exact otherCascade
  exact isCascade.selectsAll?_asked environment blind

/-! ## Letters -/

/-- A letter as a condition. -/
def letterTest (letter : String) : Excerpt :=
  ⟨Text.of letter, .reference (Variable.reference ⟨⟨⟨[], 1, 2, 1⟩, Text.of letter⟩, []⟩)⟩

/-- A letter as a body. -/
def letterBody (letter : String) : Excerpt :=
  ⟨Text.of letter, .text ⟨[], 1, 1, 0⟩ (Text.of letter)⟩

theorem isTest_letterTest (limit : Int) :
    ∀ letter ∈ ["a", "b"],
      IsTest ⟨.standard, limit, Kind.all⟩ [] .braces (letterTest letter) := by
  refine List.forall_mem_cons.2 ⟨⟨_, _, rfl, rfl, rfl⟩, List.forall_mem_cons.2 ⟨?_, nofun⟩⟩
  exact ⟨_, _, rfl, rfl, rfl⟩

theorem isBody_letterBody :
    ∀ limit ∈ [1, 2], ∀ letter ∈ ["x", "y", "z"],
      IsBody ⟨.standard, limit, Kind.all⟩ [] .braces (letterBody letter) := by
  intro limit isLimit letter isLetter
  have positive : 1 ≤ limit := by
    revert limit
    decide
  have plain : Text.of letter ≠ [] ∧
      ((Text.of letter).all fun point => !Delimiters.braces.begins point) = true := by
    revert letter
    decide
  refine isBody_of_text [] positive plain.1 fun point member => ?_
  simpa using List.all_eq_true.1 plain.2 point member

/-- Two conditions and a body for all other cases take three levels as selections. -/
theorem read_conditional_of_letters :
    let first : Branch := ⟨letterTest "a", letterBody "x"⟩
    let second : Branch := ⟨letterTest "b", letterBody "y"⟩
    Fits .standard [] .braces 3 [first, second] (some (letterBody "z")) ∧
      ∃ conditional selection,
        (read ⟨.standard, 3, Kind.all⟩ [] .braces
          (Delimiters.braces.conditionalText first [second] (some (letterBody "z")))).result =
          .ok conditional ∧
        (read ⟨.standard, 3, Kind.all⟩ [] .braces (Delimiters.braces.selectionText (Text.of "\n")
          [first, second] (some (letterBody "z")))).result = .ok selection ∧
        conditional.root.same selection.root = true ∧
        ∃ selected, conditional.root.selectsAll? (fun _ => none) 2
            (fun _ test => test.same (letterTest "b").tree) = some selected ∧
          selected.same (letterBody "y").tree = true := by
  intro first second
  have fits : Fits .standard [] .braces 3 [first, second] (some (letterBody "z")) := by
    refine ⟨isTest_letterTest 2 "a" (by decide), isBody_letterBody 2 (by decide) "x" (by decide),
      isTest_letterTest 1 "b" (by decide), isBody_letterBody 1 (by decide) "y" (by decide),
      isBody_letterBody 1 (by decide) "z" (by decide)⟩
  obtain ⟨conditional, selection, ifRead, caseRead, same, selects⟩ :=
    read_conditional .standard 3 [] .braces (.inl rfl) (Text.of "\n") (by decide) first [second]
      (some (letterBody "z")) fits
  let isSecond : Assignment := fun _ test => test.same (letterTest "b").tree
  have blind : isSecond.IsPositionBlind := by
    intro _ left right alike
    have equivalence := Node.same_equivalence
    exact Bool.eq_iff_iff.2 ⟨fun isLeft => equivalence.trans (equivalence.symm alike) isLeft,
      fun isRight => equivalence.trans alike isRight⟩
  have values : isSecond.values [first, second] = [false, true] := by decide +kernel
  have selected := selects _ List.mem_cons_self (fun _ => none) isSecond blind
  rw [values] at selected
  exact ⟨fits, conditional, selection, ifRead, caseRead, same, selected⟩

end Template

end Stencil
