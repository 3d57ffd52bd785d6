import Stencil.Proofs.Equality

/-!
# Equality of trees is a congruence

A congruence of trees is kept by all constructors of nodes, whatever the positions are.
It is then kept by everything that builds trees: calls, operators, sequences,
selections and conditions.  Equality of trees is a congruence and an equivalence.  It
holds between trees that differ in their positions alone, and beyond positions it
passes over the forms of numbers and nothing else.
-/

namespace Stencil

namespace Node

/-- Alternatives with the same pattern and related bodies. -/
abbrev AlternativesRelated (related : Node → Node → Prop) :
    List (Pattern × Node) → List (Pattern × Node) → Prop :=
  List.Forall₂ (AlternativeRelated (fun left right => left.same right = true) related)

/-- Every constructor gives related trees at any two positions, from the same names,
patterns and literals and from related trees. -/
structure IsCongruence (related : Node → Node → Prop) : Prop where
  /-- Text that is kept as it is. -/
  text : ∀ (first second : Position) (content : Text),
    related (.text first content) (.text second content)
  /-- A literal value. -/
  literal : ∀ (first second : Position) {left right : Literal},
    left.same right = true → related (.literal first left) (.literal second right)
  /-- The value of a variable. -/
  reference : ∀ {left right : Reference},
    left.same right = true → related (.reference left) (.reference right)
  /-- A function by its name. -/
  function : ∀ (first second : Position) {left right : Identifier},
    left.same right = true → related (.function first left) (.function second right)
  /-- A function applied to one argument. -/
  apply : ∀ (first second : Position) {callee callee' argument argument' : Node},
    related callee callee' → related argument argument' →
      related (.apply first callee argument) (.apply second callee' argument')
  /-- A choice between alternatives. -/
  selection : ∀ (first second : Position) {scrutinee scrutinee' : Node}
      {alternatives alternatives' : List (Pattern × Node)},
    related scrutinee scrutinee' → AlternativesRelated related alternatives alternatives' →
      related (.selection first scrutinee alternatives)
        (.selection second scrutinee' alternatives')
  /-- A body for each item of a variable. -/
  loop : ∀ (first second : Position) {item item' : Identifier} {source source' : Reference}
      {body body' : Node} {otherwise otherwise' : Option Node},
    item.same item' = true → source.same source' = true → related body body' →
      Option.Rel related otherwise otherwise' →
      related (.loop first item source body otherwise)
        (.loop second item' source' body' otherwise')
  /-- A body in which a name stands for a value. -/
  binding : ∀ (first second : Position) {name name' : Identifier}
      {value value' body body' : Node},
    name.same name' = true → related value value' → related body body' →
      related (.binding first name value body) (.binding second name' value' body')
  /-- Another template. -/
  inclusion : ∀ (first second : Position) (key : Text) {context context' : Option Node},
    Option.Rel related context context' →
      related (.inclusion first key context) (.inclusion second key context')
  /-- Neighbouring parts. -/
  sequence : ∀ (first second : Position) {parts parts' : List Node},
    List.Forall₂ related parts parts' →
      related (.sequence first parts) (.sequence second parts')
  /-- A node without content. -/
  bare : ∀ (first second : Position), related (.bare first) (.bare second)

/-- What builds trees from trees gives related trees from related ones. -/
structure IsKeptByBuilders (related : Node → Node → Prop) : Prop where
  /-- A reference to a path. -/
  reference : ∀ {left right : Variable}, left.same right = true →
    related (.reference left.reference) (.reference right.reference)
  /-- A named function applied to an argument. -/
  call : ∀ (first second : Position) (name : Text) {argument argument' : Node},
    related argument argument' → related (call first name argument) (call second name argument')
  /-- An operator applied to its two operands. -/
  binary : ∀ (first second : Position) (symbol : Text) {left left' right right' : Node},
    related left left' → related right right' →
      related (binary first symbol left right) (binary second symbol left' right')
  /-- A function applied to its arguments from the left. -/
  applied : ∀ {callee callee' : Node} {arguments arguments' : List Node},
    related callee callee' → List.Forall₂ related arguments arguments' →
      related (applied callee arguments) (applied callee' arguments')
  /-- No parts. -/
  nothing : related nothing nothing
  /-- Neighbouring parts as one node. -/
  sequenced : ∀ (first second : Position) {parts parts' : List Node},
    List.Forall₂ related parts parts' →
      related (sequenced first parts) (sequenced second parts')
  /-- The alternative for all other values. -/
  otherValues : ∀ {body body' : Node}, related body body' →
    AlternativesRelated related [(.wildcard, body)] [(.wildcard, body')]
  /-- The alternative for a truth value. -/
  truthValue : ∀ (flag : Bool) {body body' : Node}, related body body' →
    AlternativesRelated related [(truth flag, body)] [(truth flag, body')]
  /-- A selection with an alternative for all other values, if there is one. -/
  selected : ∀ {scrutinee scrutinee' : Node} {alternatives alternatives' : List (Pattern × Node)}
      {otherwise otherwise' : Option Node},
    related scrutinee scrutinee' → AlternativesRelated related alternatives alternatives' →
      Option.Rel related otherwise otherwise' →
      related (selected scrutinee alternatives otherwise)
        (selected scrutinee' alternatives' otherwise')
  /-- One condition. -/
  choice : ∀ {condition condition' yes yes' no no' : Node},
    related condition condition' → related yes yes' → related no no' →
      related (choice condition yes no) (choice condition' yes' no')
  /-- Conditions that are tried in order, and what to take if none is true. -/
  conditional : ∀ {branches branches' : List (Node × Node)} {otherwise otherwise' : Option Node},
    List.Forall₂ (fun left right => related left.1 right.1 ∧ related left.2 right.2)
        branches branches' →
      Option.Rel related otherwise otherwise' →
      related (conditional branches otherwise) (conditional branches' otherwise')

/-! ## Builders keep congruences -/

namespace IsCongruence

variable {related : Node → Node → Prop}

theorem call_related
    (congruence : IsCongruence related)
    (first second : Position)
    (name : Text)
    {argument argument' : Node}
    (arguments : related argument argument') :
    related (call first name argument) (call second name argument') := by
  have callee := congruence.function first second
    (Identifier.same_iff.2 rfl : (⟨first, name⟩ : Identifier).same ⟨second, name⟩ = true)
  exact congruence.apply first second callee arguments

theorem applied_related
    (congruence : IsCongruence related)
    {callee callee' : Node}
    {arguments arguments' : List Node}
    (callees : related callee callee')
    (relatedArguments : List.Forall₂ related arguments arguments') :
    related (applied callee arguments) (applied callee' arguments') := by
  -- The function grows with every argument, so it is general in the induction.
  induction relatedArguments generalizing callee callee' with
  | nil => exact callees
  | cons argument _ hypothesis =>
    exact hypothesis (congruence.apply callee.position callee'.position callees argument)

theorem sequenced_related
    (congruence : IsCongruence related)
    (first second : Position)
    {parts parts' : List Node}
    (relatedParts : List.Forall₂ related parts parts') :
    related (sequenced first parts) (sequenced second parts') := by
  cases relatedParts with
  | nil => exact congruence.sequence first second .nil
  | cons part others =>
    cases others with
    | nil => exact part
    | cons next others => exact congruence.sequence first second (.cons part (.cons next others))

theorem choice_related
    (congruence : IsCongruence related)
    {condition condition' yes yes' no no' : Node}
    (conditions : related condition condition')
    (bodies : related yes yes')
    (others : related no no') :
    related (choice condition yes no) (choice condition' yes' no') :=
  congruence.selection condition.position condition'.position conditions
    (.cons (.pair rfl bodies) (.cons (.pair rfl others) .nil))

theorem selected_related
    (congruence : IsCongruence related)
    {scrutinee scrutinee' : Node}
    {alternatives alternatives' : List (Pattern × Node)}
    {otherwise otherwise' : Option Node}
    (scrutinees : related scrutinee scrutinee')
    (relatedAlternatives : AlternativesRelated related alternatives alternatives')
    (others : Option.Rel related otherwise otherwise') :
    related (selected scrutinee alternatives otherwise)
      (selected scrutinee' alternatives' otherwise') := by
  refine congruence.selection scrutinee.position scrutinee'.position scrutinees ?_
  refine List.rel_append relatedAlternatives ?_
  cases others with
  | none => exact .nil
  | some body => exact .cons (.pair rfl body) .nil

theorem conditional_related
    (congruence : IsCongruence related)
    {branches branches' : List (Node × Node)}
    {otherwise otherwise' : Option Node}
    (relatedBranches :
      List.Forall₂ (fun left right => related left.1 right.1 ∧ related left.2 right.2)
        branches branches')
    (others : Option.Rel related otherwise otherwise') :
    related (conditional branches otherwise) (conditional branches' otherwise') := by
  induction relatedBranches with
  | nil =>
    cases others with
    | none => exact congruence.sequence _ _ .nil
    | some body => exact body
  | cons branch _ hypothesis => exact congruence.choice_related branch.1 branch.2 hypothesis

theorem isKeptByBuilders (congruence : IsCongruence related) : IsKeptByBuilders related where
  reference same := congruence.reference same
  call := congruence.call_related
  binary first second symbol _ _ _ _ left right :=
    congruence.apply first second (congruence.call_related first second symbol left) right
  applied := congruence.applied_related
  nothing := congruence.sequence _ _ .nil
  sequenced := congruence.sequenced_related
  otherValues body := .cons (.pair rfl body) .nil
  truthValue _ _ _ body := .cons (.pair (Pattern.same_iff_canonical_eq.2 rfl) body) .nil
  selected := congruence.selected_related
  choice := congruence.choice_related
  conditional := congruence.conditional_related

end IsCongruence

/-! ## Equality is one -/

theorem same_eq_equalUpTo :
    (fun left right : Node => left.same right = true) = EqualUpTo Literal.OneValue :=
  funext fun _ => funext fun _ => propext same_iff_equalUpTo

/-- Alternatives with the same patterns are related in the way trees are compared. -/
theorem alternativesRelated_eq :
    AlternativesRelated (EqualUpTo Literal.OneValue) =
      List.Forall₂ (AlternativeRelated (Pattern.EqualUpTo Literal.OneValue)
        (EqualUpTo Literal.OneValue)) := by
  have patterns : (fun left right : Pattern => left.same right = true) =
      Pattern.EqualUpTo Literal.OneValue :=
    funext fun _ => funext fun _ => propext Pattern.same_iff_equalUpTo
  rw [AlternativesRelated, patterns]

theorem same_isCongruence : IsCongruence fun left right => left.same right = true := by
  rw [same_eq_equalUpTo]
  exact {
    text := .text
    literal := fun first second _ _ same =>
      .literal first second (Literal.same_iff_oneValue.1 same)
    reference := fun same => .reference (Reference.same_iff.1 same)
    function := fun first second _ _ same =>
      .function first second (Identifier.same_iff.1 same)
    apply := fun first second _ _ _ _ => .apply first second
    selection := fun first second _ _ _ _ scrutinees alternatives =>
      .selection first second scrutinees (alternativesRelated_eq ▸ alternatives)
    loop := fun first second _ _ _ _ _ _ _ _ items sources =>
      .loop first second (Identifier.same_iff.1 items) (Reference.same_iff.1 sources)
    binding := fun first second _ _ _ _ _ _ names =>
      .binding first second (Identifier.same_iff.1 names)
    inclusion := fun first second key _ _ => .inclusion first second key
    sequence := fun first second _ _ => .sequence first second
    bare := .bare }

end Node

/-- Names that are the same one by one make the same path, or none if there are no names. -/
theorem Variable.same_ofNames
    {names names' : List Identifier}
    (sameNames : List.Forall₂ (fun left right => left.same right = true) names names') :
    (ofNames names = .error .noNames ∧ ofNames names' = .error .noNames) ∨
      ∃ path path', ofNames names = .ok path ∧ ofNames names' = .ok path' ∧
        path.same path' = true := by
  cases sameNames with
  | nil => exact .inl ⟨rfl, rfl⟩
  | @cons first first' others others' firsts rest =>
    refine .inr ⟨⟨first, others⟩, ⟨first', others'⟩, rfl, rfl, same_iff.2 ?_⟩
    have all : List.Forall₂ (fun left right : Identifier => left.same right = true)
        (first :: others) (first' :: others') := .cons firsts rest
    rw [← List.forall₂_eq_eq_eq, List.forall₂_map_left_iff, List.forall₂_map_right_iff]
    exact all.imp fun _ _ => Identifier.same_iff.1

/-- Equality of trees is an equivalence that everything trees are built by keeps.  Trees
that differ in their positions alone are the same.  Trees are the same exactly if they
have the same constructors, names, texts, keys, optional branches and alternatives in
order, with literals of one kind and one value in the same places; so `1.50` is `1.5`,
`1E+2` is `100` and `-0` is `0`. -/
theorem Node.same_isPositionBlindCongruence :
    (Equivalence fun left right : Node => left.same right = true) ∧
      (∀ left right : Node, left.EqualUpTo Eq right → left.same right = true) ∧
      (∀ left right : Node, left.same right = true ↔ left.EqualUpTo Literal.OneValue right) ∧
      (∀ left right : Pattern,
        left.same right = true ↔ left.EqualUpTo Literal.OneValue right) ∧
      (∀ left right : Literal, left.same right = true ↔ left.OneValue right) ∧
      ((Literal.number ⟨false, 150, -2⟩).same (.number ⟨false, 15, -1⟩) = true ∧
        (Literal.number ⟨false, 1, 2⟩).same (.number ⟨false, 100, 0⟩) = true ∧
        (Literal.number ⟨true, 0, 0⟩).same (.number ⟨false, 0, 0⟩) = true) ∧
      (IsCongruence fun left right => left.same right = true) ∧
      (IsKeptByBuilders fun left right => left.same right = true) ∧
      ∀ names names' : List Identifier,
        List.Forall₂ (fun left right => left.same right = true) names names' →
          (Variable.ofNames names = .error .noNames ∧
              Variable.ofNames names' = .error .noNames) ∨
            ∃ path path', Variable.ofNames names = .ok path ∧
              Variable.ofNames names' = .ok path' ∧ path.same path' = true := by
  refine ⟨same_equivalence, ?_, fun _ _ => same_iff_equalUpTo,
    fun _ _ => Pattern.same_iff_equalUpTo, fun _ _ => Literal.same_iff_oneValue, by decide,
    same_isCongruence, same_isCongruence.isKeptByBuilders, fun _ _ => Variable.same_ofNames⟩
  intro left right equal
  refine same_of_equalUpTo (fun literal literal' same => ?_) left right equal
  rw [same]
  exact Literal.same_iff_canonical_eq.2 rfl

end Stencil
