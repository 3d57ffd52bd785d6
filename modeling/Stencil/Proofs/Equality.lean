import Mathlib.Data.List.Forall2
import Mathlib.Data.Option.Defs
import Stencil.Node.Equality
import Stencil.Proofs.Decimal.Canonical

/-!
# What equality of trees compares

Trees are compared without their positions and with their numbers by value.  Two
descriptions of this are given.  A tree has a canonical form, which stands nowhere and
whose numbers do not end in zero, and trees are the same if they have one canonical
form.  Trees are also related constructor by constructor, with a relation of literals
as a parameter: with literals of one value this is equality, and with equal literals it
relates the trees that differ in their positions alone.
-/

namespace Stencil

/-! ## Canonical forms -/

/-- The position of what stands nowhere. -/
def Position.nowhere : Position :=
  .synthetic []

/-- The name without its position. -/
def Identifier.canonical (identifier : Identifier) : Identifier :=
  ⟨.nowhere, identifier.name⟩

/-- The path without the positions of its names. -/
def Variable.canonical (path : Variable) : Variable :=
  ⟨path.first.canonical, path.others.map Identifier.canonical⟩

/-- The reference without its position and those of its names. -/
def Reference.canonical (path : Reference) : Reference :=
  ⟨path.toVariable.canonical, .nowhere⟩

/-- The literal with a number in canonical form. -/
def Literal.canonical : Literal → Literal
  | .number value => .number value.canonical
  | other => other

/-- The pattern without positions and with a number in canonical form. -/
def Pattern.canonical : Pattern → Pattern
  | .wildcard => .wildcard
  | .path names => .path names.canonical
  | .literal held => .literal held.canonical
  | .bare held => .bare held.canonical

namespace Node

mutual

/-- The tree without positions and with its numbers in canonical form. -/
def canonical : Node → Node
  | .text _ content => .text .nowhere content
  | .literal _ held => .literal .nowhere held.canonical
  | .reference names => .reference names.canonical
  | .function _ name => .function .nowhere name.canonical
  | .apply _ callee argument => .apply .nowhere (canonical callee) (canonical argument)
  | .selection _ scrutinee alternatives =>
    .selection .nowhere (canonical scrutinee) (alternativesCanonical alternatives)
  | .loop _ item source body otherwise =>
    .loop .nowhere item.canonical source.canonical (canonical body) (optionalCanonical otherwise)
  | .binding _ name value body =>
    .binding .nowhere name.canonical (canonical value) (canonical body)
  | .inclusion _ key context => .inclusion .nowhere key (optionalCanonical context)
  | .sequence _ parts => .sequence .nowhere (partsCanonical parts)
  | .bare _ => .bare .nowhere

/-- The canonical form of an optional tree. -/
def optionalCanonical : Option Node → Option Node
  | none => none
  | some node => some (canonical node)

/-- The canonical forms of trees. -/
def partsCanonical : List Node → List Node
  | [] => []
  | part :: rest => canonical part :: partsCanonical rest

/-- The canonical forms of alternatives. -/
def alternativesCanonical : List (Pattern × Node) → List (Pattern × Node)
  | [] => []
  | (pattern, body) :: rest =>
    (pattern.canonical, canonical body) :: alternativesCanonical rest

end

end Node

theorem Identifier.same_iff
    {left right : Identifier} :
    left.same right = true ↔ left.name = right.name :=
  beq_iff_eq

theorem Identifier.same_iff_canonical_eq
    {left right : Identifier} :
    left.same right = true ↔ left.canonical = right.canonical := by
  simp [same_iff, canonical]

theorem Variable.same_iff
    {left right : Variable} :
    left.same right = true ↔
      left.names.map Identifier.name = right.names.map Identifier.name :=
  beq_iff_eq

/-- Names without positions are known by their texts. -/
theorem Identifier.map_canonical_eq_iff
    {left right : List Identifier} :
    left.map canonical = right.map canonical ↔
      left.map Identifier.name = right.map Identifier.name := by
  have injective : Function.Injective fun name : Text => (⟨.nowhere, name⟩ : Identifier) :=
    fun _ _ equal => (Identifier.mk.inj equal).2
  have composed : canonical = (fun name => ⟨.nowhere, name⟩) ∘ Identifier.name := rfl
  rw [composed, ← List.map_map, ← List.map_map, (List.map_injective_iff.2 injective).eq_iff]

theorem Variable.same_iff_canonical_eq
    {left right : Variable} :
    left.same right = true ↔ left.canonical = right.canonical := by
  rw [same_iff, ← Identifier.map_canonical_eq_iff]
  simp [names, canonical]

theorem Reference.same_iff
    {left right : Reference} :
    left.same right = true ↔
      left.names.map Identifier.name = right.names.map Identifier.name :=
  Variable.same_iff

theorem Reference.same_iff_canonical_eq
    {left right : Reference} :
    left.same right = true ↔ left.canonical = right.canonical := by
  simp [same, canonical, Variable.same_iff_canonical_eq]

theorem Literal.same_iff_canonical_eq
    {left right : Literal} :
    left.same right = true ↔ left.canonical = right.canonical := by
  cases left <;> cases right <;> simp [same, canonical]

theorem Pattern.same_iff_canonical_eq
    {left right : Pattern} :
    left.same right = true ↔ left.canonical = right.canonical := by
  cases left <;> cases right <;>
    simp [same, canonical, Variable.same_iff_canonical_eq, Literal.same_iff_canonical_eq]

namespace Node

mutual

/-- Trees are the same if and only if they have one canonical form. -/
theorem same_iff_canonical_eq
    (left right : Node) :
    left.same right = true ↔ left.canonical = right.canonical := by
  match left with
  | .text _ content => cases right <;> simp [same, canonical]
  | .literal _ held =>
    cases right <;> simp [same, canonical, Literal.same_iff_canonical_eq]
  | .reference names =>
    cases right <;> simp [same, canonical, Reference.same_iff_canonical_eq]
  | .function _ name =>
    cases right <;> simp [same, canonical, Identifier.same_iff_canonical_eq]
  | .apply _ callee argument =>
    cases right with
    | apply _ callee' argument' =>
      simp [same, canonical, same_iff_canonical_eq callee, same_iff_canonical_eq argument]
    | _ => simp [same, canonical]
  | .selection _ scrutinee alternatives =>
    cases right with
    | selection _ scrutinee' alternatives' =>
      simp [same, canonical, same_iff_canonical_eq scrutinee,
        sameAlternatives_iff_canonical_eq alternatives]
    | _ => simp [same, canonical]
  | .loop _ item source body otherwise =>
    cases right with
    | loop _ item' source' body' otherwise' =>
      simp [same, canonical, Identifier.same_iff_canonical_eq, Reference.same_iff_canonical_eq,
        same_iff_canonical_eq body, sameOptional_iff_canonical_eq otherwise, and_assoc]
    | _ => simp [same, canonical]
  | .binding _ name value body =>
    cases right with
    | binding _ name' value' body' =>
      simp [same, canonical, Identifier.same_iff_canonical_eq, same_iff_canonical_eq value,
        same_iff_canonical_eq body, and_assoc]
    | _ => simp [same, canonical]
  | .inclusion _ key context =>
    cases right with
    | inclusion _ key' context' =>
      simp [same, canonical, sameOptional_iff_canonical_eq context]
    | _ => simp [same, canonical]
  | .sequence _ parts =>
    cases right with
    | sequence _ parts' => simp [same, canonical, sameParts_iff_canonical_eq parts]
    | _ => simp [same, canonical]
  | .bare _ => cases right <;> simp [same, canonical]

theorem sameOptional_iff_canonical_eq
    (left right : Option Node) :
    sameOptional left right = true ↔ optionalCanonical left = optionalCanonical right := by
  match left, right with
  | none, none => simp [sameOptional]
  | none, some _ => simp [sameOptional, optionalCanonical]
  | some _, none => simp [sameOptional, optionalCanonical]
  | some left, some right => simp [sameOptional, optionalCanonical, same_iff_canonical_eq left]

theorem sameParts_iff_canonical_eq
    (left right : List Node) :
    sameParts left right = true ↔ partsCanonical left = partsCanonical right := by
  match left, right with
  | [], [] => simp [sameParts]
  | [], _ :: _ => simp [sameParts, partsCanonical]
  | _ :: _, [] => simp [sameParts, partsCanonical]
  | left :: lefts, right :: rights =>
    simp [sameParts, partsCanonical, same_iff_canonical_eq left,
      sameParts_iff_canonical_eq lefts]

theorem sameAlternatives_iff_canonical_eq
    (left right : List (Pattern × Node)) :
    sameAlternatives left right = true ↔
      alternativesCanonical left = alternativesCanonical right := by
  match left, right with
  | [], [] => simp [sameAlternatives]
  | [], _ :: _ => simp [sameAlternatives, alternativesCanonical]
  | _ :: _, [] => simp [sameAlternatives, alternativesCanonical]
  | (pattern, body) :: rest, (pattern', body') :: rest' =>
    simp [sameAlternatives, alternativesCanonical, Pattern.same_iff_canonical_eq,
      same_iff_canonical_eq body, sameAlternatives_iff_canonical_eq rest]

end

/-- Equality of trees is an equivalence. -/
theorem same_equivalence : Equivalence fun left right : Node => left.same right = true where
  refl node := (same_iff_canonical_eq node node).2 rfl
  symm {left right} same :=
    (same_iff_canonical_eq right left).2 ((same_iff_canonical_eq left right).1 same).symm
  trans {left middle right} first second :=
    (same_iff_canonical_eq left right).2
      (((same_iff_canonical_eq left middle).1 first).trans
        ((same_iff_canonical_eq middle right).1 second))

end Node

/-! ## Trees related constructor by constructor -/

/-- Literals of one kind with one value. -/
inductive Literal.OneValue : Literal → Literal → Prop
  /-- One truth value. -/
  | boolean (flag : Bool) : OneValue (.boolean flag) (.boolean flag)
  /-- Numbers that stand for one rational number. -/
  | number {left right : Decimal} (value : left.toRat = right.toRat) :
    OneValue (.number left) (.number right)
  /-- One text. -/
  | text (content : Text) : OneValue (.text content) (.text content)

/-- Patterns that differ in their positions and in related literals. -/
inductive Pattern.EqualUpTo (literals : Literal → Literal → Prop) : Pattern → Pattern → Prop
  /-- Any value. -/
  | wildcard : EqualUpTo literals .wildcard .wildcard
  /-- Paths of the same names. -/
  | path {left right : Variable}
      (names : left.names.map Identifier.name = right.names.map Identifier.name) :
    EqualUpTo literals (.path left) (.path right)
  /-- Related literals. -/
  | literal {left right : Literal} (related : literals left right) :
    EqualUpTo literals (.literal left) (.literal right)
  /-- Related literals that are not marked as patterns. -/
  | bare {left right : Literal} (related : literals left right) :
    EqualUpTo literals (.bare left) (.bare right)

/-- Alternatives with related patterns and related bodies. -/
inductive Node.AlternativeRelated
    (patterns : Pattern → Pattern → Prop)
    (bodies : Node → Node → Prop) : Pattern × Node → Pattern × Node → Prop
  /-- The patterns are related, and the bodies too. -/
  | pair {pattern pattern' : Pattern} {body body' : Node} (heads : patterns pattern pattern')
      (related : bodies body body') :
    AlternativeRelated patterns bodies (pattern, body) (pattern', body')

/-- Trees with the same constructors, names, texts, keys, optional branches and
alternatives in order, which differ in their positions and in related literals. -/
inductive Node.EqualUpTo (literals : Literal → Literal → Prop) : Node → Node → Prop
  /-- One text. -/
  | text (first second : Position) (content : Text) :
    EqualUpTo literals (.text first content) (.text second content)
  /-- Related literals. -/
  | literal (first second : Position) {left right : Literal} (related : literals left right) :
    EqualUpTo literals (.literal first left) (.literal second right)
  /-- References to the same names. -/
  | reference {left right : Reference}
      (names : left.names.map Identifier.name = right.names.map Identifier.name) :
    EqualUpTo literals (.reference left) (.reference right)
  /-- Functions of one name. -/
  | function (first second : Position) {left right : Identifier} (name : left.name = right.name) :
    EqualUpTo literals (.function first left) (.function second right)
  /-- Applications with related parts. -/
  | apply (first second : Position) {callee callee' argument argument' : Node}
      (callees : EqualUpTo literals callee callee')
      (arguments : EqualUpTo literals argument argument') :
    EqualUpTo literals (.apply first callee argument) (.apply second callee' argument')
  /-- Selections with related scrutinees and as many related alternatives. -/
  | selection (first second : Position) {scrutinee scrutinee' : Node}
      {alternatives alternatives' : List (Pattern × Node)}
      (scrutinees : EqualUpTo literals scrutinee scrutinee')
      (related : List.Forall₂
        (AlternativeRelated (Pattern.EqualUpTo literals) (EqualUpTo literals))
        alternatives alternatives') :
    EqualUpTo literals (.selection first scrutinee alternatives)
      (.selection second scrutinee' alternatives')
  /-- Loops over the same names with related bodies, both with a related body for no
  item or both without one. -/
  | loop (first second : Position) {item item' : Identifier} {source source' : Reference}
      {body body' : Node} {otherwise otherwise' : Option Node}
      (items : item.name = item'.name)
      (sources : source.names.map Identifier.name = source'.names.map Identifier.name)
      (bodies : EqualUpTo literals body body')
      (others : Option.Rel (EqualUpTo literals) otherwise otherwise') :
    EqualUpTo literals (.loop first item source body otherwise)
      (.loop second item' source' body' otherwise')
  /-- Bindings of one name to related values with related bodies. -/
  | binding (first second : Position) {name name' : Identifier} {value value' body body' : Node}
      (names : name.name = name'.name)
      (values : EqualUpTo literals value value')
      (bodies : EqualUpTo literals body body') :
    EqualUpTo literals (.binding first name value body) (.binding second name' value' body')
  /-- Inclusions of one key, both with related contexts or both without one. -/
  | inclusion (first second : Position) (key : Text) {context context' : Option Node}
      (contexts : Option.Rel (EqualUpTo literals) context context') :
    EqualUpTo literals (.inclusion first key context) (.inclusion second key context')
  /-- As many related parts. -/
  | sequence (first second : Position) {parts parts' : List Node}
      (related : List.Forall₂ (EqualUpTo literals) parts parts') :
    EqualUpTo literals (.sequence first parts) (.sequence second parts')
  /-- Nodes without content. -/
  | bare (first second : Position) : EqualUpTo literals (.bare first) (.bare second)

theorem Literal.same_iff_oneValue
    {left right : Literal} :
    left.same right = true ↔ left.OneValue right := by
  constructor
  · intro same
    cases left with
    | boolean flag =>
      cases right with
      | boolean flag' =>
        obtain rfl : flag = flag' := by simpa [Literal.same] using same
        exact .boolean flag
      | _ => cases same
    | number value =>
      cases right with
      | number value' => exact .number (Decimal.numericallyEqual_iff_toRat_eq.1 same)
      | _ => cases same
    | text content =>
      cases right with
      | text content' =>
        obtain rfl : content = content' := by simpa [Literal.same] using same
        exact .text content
      | _ => cases same
  · intro oneValue
    cases oneValue with
    | boolean flag => simp [Literal.same]
    | number value => exact Decimal.numericallyEqual_iff_toRat_eq.2 value
    | text content => simp [Literal.same]

section Related

variable {literals : Literal → Literal → Prop}

/-- Patterns are the same if related literals are. -/
theorem Pattern.EqualUpTo.same
    (sameLiterals : ∀ left right, literals left right → left.same right = true)
    {left right : Pattern}
    (equal : left.EqualUpTo literals right) :
    left.same right = true := by
  cases equal with
  | wildcard => rfl
  | path names => exact Variable.same_iff.2 names
  | literal related => exact sameLiterals _ _ related
  | bare related => exact sameLiterals _ _ related

/-- Patterns that are the same are related if literals that are the same are. -/
theorem Pattern.equalUpTo_of_same
    (relatedLiterals : ∀ left right, left.same right = true → literals left right)
    {left right : Pattern}
    (same : left.same right = true) :
    left.EqualUpTo literals right := by
  cases left with
  | wildcard =>
    cases right with
    | wildcard => exact .wildcard
    | _ => cases same
  | path names =>
    cases right with
    | path names' => exact .path (Variable.same_iff.1 same)
    | _ => cases same
  | literal held =>
    cases right with
    | literal held' => exact .literal (relatedLiterals _ _ same)
    | _ => cases same
  | bare held =>
    cases right with
    | bare held' => exact .bare (relatedLiterals _ _ same)
    | _ => cases same

namespace Node

mutual

/-- Related trees are the same if related literals are. -/
theorem same_of_equalUpTo
    (sameLiterals : ∀ left right, literals left right → left.same right = true)
    (left right : Node)
    (equal : left.EqualUpTo literals right) :
    left.same right = true := by
  match left with
  | .text _ content =>
    cases equal with
    | text => simp [same]
  | .literal _ held =>
    cases equal with
    | literal _ _ related => rw [same, sameLiterals _ _ related]
  | .reference path =>
    cases equal with
    | reference names => rw [same, Reference.same_iff.2 names]
  | .function _ identifier =>
    cases equal with
    | function _ _ name => rw [same, Identifier.same_iff.2 name]
  | .apply _ callee argument =>
    cases equal with
    | apply _ _ callees arguments =>
      rw [same, same_of_equalUpTo sameLiterals callee _ callees,
        same_of_equalUpTo sameLiterals argument _ arguments]
      rfl
  | .selection _ scrutinee alternatives =>
    cases equal with
    | selection _ _ scrutinees related =>
      rw [same, same_of_equalUpTo sameLiterals scrutinee _ scrutinees,
        sameAlternatives_of_equalUpTo sameLiterals alternatives _ related]
      rfl
  | .loop _ item source body otherwise =>
    cases equal with
    | loop _ _ items sources bodies others =>
      rw [same, Identifier.same_iff.2 items, Reference.same_iff.2 sources,
        same_of_equalUpTo sameLiterals body _ bodies,
        sameOptional_of_equalUpTo sameLiterals otherwise _ others]
      rfl
  | .binding _ name value body =>
    cases equal with
    | binding _ _ names values bodies =>
      rw [same, Identifier.same_iff.2 names, same_of_equalUpTo sameLiterals value _ values,
        same_of_equalUpTo sameLiterals body _ bodies]
      rfl
  | .inclusion _ key context =>
    cases equal with
    | inclusion _ _ _ contexts =>
      rw [same, sameOptional_of_equalUpTo sameLiterals context _ contexts, beq_self_eq_true]
      rfl
  | .sequence _ parts =>
    cases equal with
    | sequence _ _ related => rw [same, sameParts_of_equalUpTo sameLiterals parts _ related]
  | .bare _ =>
    cases equal with
    | bare => rw [same]

theorem sameOptional_of_equalUpTo
    (sameLiterals : ∀ left right, literals left right → left.same right = true)
    (left right : Option Node)
    (equal : Option.Rel (EqualUpTo literals) left right) :
    sameOptional left right = true := by
  match left with
  | none =>
    cases equal with
    | none => rw [sameOptional]
  | some node =>
    cases equal with
    | some equal => rw [sameOptional, same_of_equalUpTo sameLiterals node _ equal]

theorem sameParts_of_equalUpTo
    (sameLiterals : ∀ left right, literals left right → left.same right = true)
    (left right : List Node)
    (equal : List.Forall₂ (EqualUpTo literals) left right) :
    sameParts left right = true := by
  match left with
  | [] =>
    cases equal with
    | nil => rw [sameParts]
  | part :: rest =>
    cases equal with
    | cons first others =>
      rw [sameParts, same_of_equalUpTo sameLiterals part _ first,
        sameParts_of_equalUpTo sameLiterals rest _ others]
      rfl

theorem sameAlternatives_of_equalUpTo
    (sameLiterals : ∀ left right, literals left right → left.same right = true)
    (left right : List (Pattern × Node))
    (equal : List.Forall₂ (AlternativeRelated (Pattern.EqualUpTo literals) (EqualUpTo literals))
      left right) :
    sameAlternatives left right = true := by
  match left with
  | [] =>
    cases equal with
    | nil => rw [sameAlternatives]
  | (pattern, body) :: rest =>
    cases equal with
    | cons first others =>
      cases first with
      | pair heads bodies =>
        rw [sameAlternatives, heads.same sameLiterals, same_of_equalUpTo sameLiterals body _ bodies,
          sameAlternatives_of_equalUpTo sameLiterals rest _ others]
        rfl

end

mutual

/-- Trees that are the same are related if literals that are the same are. -/
theorem equalUpTo_of_same
    (relatedLiterals : ∀ left right, left.same right = true → literals left right)
    (left right : Node)
    (same : left.same right = true) :
    left.EqualUpTo literals right := by
  match left with
  | .text first content =>
    cases right with
    | text second content' =>
      obtain rfl : content = content' := by simpa [Node.same] using same
      exact .text first second content
    | _ => simp [Node.same] at same
  | .literal first held =>
    cases right with
    | literal second held' =>
      rw [Node.same] at same
      exact .literal first second (relatedLiterals _ _ same)
    | _ => simp [Node.same] at same
  | .reference path =>
    cases right with
    | reference path' =>
      rw [Node.same] at same
      exact .reference (Reference.same_iff.1 same)
    | _ => simp [Node.same] at same
  | .function first name =>
    cases right with
    | function second name' =>
      rw [Node.same] at same
      exact .function first second (Identifier.same_iff.1 same)
    | _ => simp [Node.same] at same
  | .apply first callee argument =>
    cases right with
    | apply second callee' argument' =>
      rw [Node.same, Bool.and_eq_true] at same
      exact .apply first second (equalUpTo_of_same relatedLiterals callee callee' same.1)
        (equalUpTo_of_same relatedLiterals argument argument' same.2)
    | _ => simp [Node.same] at same
  | .selection first scrutinee alternatives =>
    cases right with
    | selection second scrutinee' alternatives' =>
      rw [Node.same, Bool.and_eq_true] at same
      exact .selection first second (equalUpTo_of_same relatedLiterals scrutinee scrutinee' same.1)
        (alternativesEqual_of_same relatedLiterals alternatives alternatives' same.2)
    | _ => simp [Node.same] at same
  | .loop first item source body otherwise =>
    cases right with
    | loop second item' source' body' otherwise' =>
      simp only [Node.same, Bool.and_eq_true] at same
      obtain ⟨⟨⟨items, sources⟩, bodies⟩, others⟩ := same
      exact .loop first second (Identifier.same_iff.1 items) (Reference.same_iff.1 sources)
        (equalUpTo_of_same relatedLiterals body body' bodies)
        (optionalEqual_of_same relatedLiterals otherwise otherwise' others)
    | _ => simp [Node.same] at same
  | .binding first name value body =>
    cases right with
    | binding second name' value' body' =>
      simp only [Node.same, Bool.and_eq_true] at same
      obtain ⟨⟨names, values⟩, bodies⟩ := same
      exact .binding first second (Identifier.same_iff.1 names)
        (equalUpTo_of_same relatedLiterals value value' values)
        (equalUpTo_of_same relatedLiterals body body' bodies)
    | _ => simp [Node.same] at same
  | .inclusion first key context =>
    cases right with
    | inclusion second key' context' =>
      rw [Node.same, Bool.and_eq_true, beq_iff_eq] at same
      obtain ⟨rfl, contexts⟩ := same
      exact .inclusion first second key
        (optionalEqual_of_same relatedLiterals context context' contexts)
    | _ => simp [Node.same] at same
  | .sequence first parts =>
    cases right with
    | sequence second parts' =>
      rw [Node.same] at same
      exact .sequence first second (partsEqual_of_same relatedLiterals parts parts' same)
    | _ => simp [Node.same] at same
  | .bare first =>
    cases right with
    | bare second => exact .bare first second
    | _ => simp [Node.same] at same

theorem optionalEqual_of_same
    (relatedLiterals : ∀ left right, left.same right = true → literals left right)
    (left right : Option Node)
    (same : sameOptional left right = true) :
    Option.Rel (EqualUpTo literals) left right := by
  match left, right with
  | none, none => exact .none
  | none, some _ => simp [sameOptional] at same
  | some _, none => simp [sameOptional] at same
  | some left, some right =>
    rw [sameOptional] at same
    exact .some (equalUpTo_of_same relatedLiterals left right same)

theorem partsEqual_of_same
    (relatedLiterals : ∀ left right, left.same right = true → literals left right)
    (left right : List Node)
    (same : sameParts left right = true) :
    List.Forall₂ (EqualUpTo literals) left right := by
  match left, right with
  | [], [] => exact .nil
  | [], _ :: _ => simp [sameParts] at same
  | _ :: _, [] => simp [sameParts] at same
  | left :: lefts, right :: rights =>
    rw [sameParts, Bool.and_eq_true] at same
    exact .cons (equalUpTo_of_same relatedLiterals left right same.1)
      (partsEqual_of_same relatedLiterals lefts rights same.2)

theorem alternativesEqual_of_same
    (relatedLiterals : ∀ left right, left.same right = true → literals left right)
    (left right : List (Pattern × Node))
    (same : sameAlternatives left right = true) :
    List.Forall₂ (AlternativeRelated (Pattern.EqualUpTo literals) (EqualUpTo literals))
      left right := by
  match left, right with
  | [], [] => exact .nil
  | [], _ :: _ => simp [sameAlternatives] at same
  | _ :: _, [] => simp [sameAlternatives] at same
  | (pattern, body) :: rest, (pattern', body') :: rest' =>
    simp only [sameAlternatives, Bool.and_eq_true] at same
    obtain ⟨⟨heads, bodies⟩, others⟩ := same
    exact .cons
      (.pair (Pattern.equalUpTo_of_same relatedLiterals heads)
        (equalUpTo_of_same relatedLiterals body body' bodies))
      (alternativesEqual_of_same relatedLiterals rest rest' others)

end

end Node

end Related

/-- Trees are the same exactly if they differ in their positions and in the forms of
their numbers alone. -/
theorem Node.same_iff_equalUpTo
    {left right : Node} :
    left.same right = true ↔ left.EqualUpTo Literal.OneValue right :=
  ⟨equalUpTo_of_same (fun _ _ => Literal.same_iff_oneValue.1) left right,
    same_of_equalUpTo (fun _ _ => Literal.same_iff_oneValue.2) left right⟩

theorem Pattern.same_iff_equalUpTo
    {left right : Pattern} :
    left.same right = true ↔ left.EqualUpTo Literal.OneValue right :=
  ⟨equalUpTo_of_same fun _ _ => Literal.same_iff_oneValue.1,
    fun equal => equal.same fun _ _ => Literal.same_iff_oneValue.2⟩

end Stencil
