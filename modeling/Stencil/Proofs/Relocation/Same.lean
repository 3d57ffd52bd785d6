import Stencil.Node.Equality
import Stencil.Proofs.Relocation

/-!
# Moved trees are the same

Trees that differ in their positions alone are the same.  The main statement is that two
trees are the same if they can be moved to one.
-/

namespace Stencil

/-- No position is kept but the name of the source. -/
def Relocation.erase : Relocation :=
  ⟨fun position => .synthetic position.name, fun _ => rfl⟩

variable {first second : Relocation}

theorem Identifier.same_of_moved_eq
    {left right : Identifier}
    (equal : left.moved first = right.moved second) :
    left.same right = true :=
  beq_iff_eq.2 (Identifier.mk.inj equal).2

theorem Variable.names_moved (relocation : Relocation) (path : Variable) :
    (path.moved relocation).names.map Identifier.name = path.names.map Identifier.name := by
  simp only [Variable.names, Variable.moved, List.map_cons, List.map_map, Identifier.moved]
  rfl

theorem Variable.same_of_moved_eq
    {left right : Variable}
    (equal : left.moved first = right.moved second) :
    left.same right = true := by
  have names := congrArg (fun path => path.names.map Identifier.name) equal
  rw [names_moved, names_moved] at names
  exact beq_iff_eq.2 names

theorem Reference.same_of_moved_eq
    {left right : Reference}
    (equal : left.moved first = right.moved second) :
    left.same right = true :=
  Variable.same_of_moved_eq (Reference.mk.inj equal).1

theorem Literal.same_refl (literal : Literal) : literal.same literal = true := by
  cases literal <;> simp [Literal.same]

theorem Pattern.same_of_moved_eq
    {left right : Pattern}
    (equal : left.moved first = right.moved second) :
    left.same right = true := by
  cases left with
  | wildcard =>
    cases right with
    | wildcard => rfl
    | _ => cases equal
  | path names =>
    cases right with
    | path names' => exact Variable.same_of_moved_eq (Pattern.path.inj equal)
    | _ => cases equal
  | literal literal =>
    cases right with
    | literal literal' =>
      obtain rfl := Pattern.literal.inj equal
      exact literal.same_refl
    | _ => cases equal
  | bare literal =>
    cases right with
    | bare literal' =>
      obtain rfl := Pattern.bare.inj equal
      exact literal.same_refl
    | _ => cases equal

namespace Node

mutual

/-- Trees that can be moved to one are the same. -/
theorem same_of_moved_eq
    (left right : Node)
    (equal : left.moved first = right.moved second) :
    left.same right = true := by
  match left, right with
  | .text _ content, right =>
    cases right with
    | text _ content' =>
      simp only [moved, Node.text.injEq] at equal
      simp [same, equal.2]
    | _ => simp [moved] at equal
  | .literal _ value, right =>
    cases right with
    | literal _ value' =>
      simp only [moved, Node.literal.injEq] at equal
      rw [same, equal.2]
      exact value'.same_refl
    | _ => simp [moved] at equal
  | .reference path, right =>
    cases right with
    | reference path' =>
      simp only [moved, Node.reference.injEq] at equal
      rw [same, Reference.same_of_moved_eq equal]
    | _ => simp [moved] at equal
  | .function _ name, right =>
    cases right with
    | function _ name' =>
      simp only [moved, Node.function.injEq] at equal
      rw [same, Identifier.same_of_moved_eq equal.2]
    | _ => simp [moved] at equal
  | .apply _ callee argument, right =>
    cases right with
    | apply _ callee' argument' =>
      simp only [moved, Node.apply.injEq] at equal
      rw [same, same_of_moved_eq callee callee' equal.2.1,
        same_of_moved_eq argument argument' equal.2.2]
      rfl
    | _ => simp [moved] at equal
  | .selection _ scrutinee alternatives, right =>
    cases right with
    | selection _ scrutinee' alternatives' =>
      simp only [moved, Node.selection.injEq] at equal
      rw [same, same_of_moved_eq scrutinee scrutinee' equal.2.1,
        sameAlternatives_of_moved_eq alternatives alternatives' equal.2.2]
      rfl
    | _ => simp [moved] at equal
  | .loop _ item source body otherwise, right =>
    cases right with
    | loop _ item' source' body' otherwise' =>
      simp only [moved, Node.loop.injEq] at equal
      obtain ⟨_, sameItem, sameSource, sameBody, sameOtherwise⟩ := equal
      rw [same, Identifier.same_of_moved_eq sameItem, Reference.same_of_moved_eq sameSource,
        same_of_moved_eq body body' sameBody,
        sameOptional_of_moved_eq otherwise otherwise' sameOtherwise]
      rfl
    | _ => simp [moved] at equal
  | .binding _ name value body, right =>
    cases right with
    | binding _ name' value' body' =>
      simp only [moved, Node.binding.injEq] at equal
      obtain ⟨_, sameName, sameValue, sameBody⟩ := equal
      rw [same, Identifier.same_of_moved_eq sameName, same_of_moved_eq value value' sameValue,
        same_of_moved_eq body body' sameBody]
      rfl
    | _ => simp [moved] at equal
  | .inclusion _ key context, right =>
    cases right with
    | inclusion _ key' context' =>
      simp only [moved, Node.inclusion.injEq] at equal
      rw [same, equal.2.1, sameOptional_of_moved_eq context context' equal.2.2]
      simp
    | _ => simp [moved] at equal
  | .sequence _ parts, right =>
    cases right with
    | sequence _ parts' =>
      simp only [moved, Node.sequence.injEq] at equal
      rw [same, sameParts_of_moved_eq parts parts' equal.2]
    | _ => simp [moved] at equal
  | .bare _, right =>
    cases right with
    | bare _ => rw [same]
    | _ => simp [moved] at equal

theorem sameOptional_of_moved_eq
    (left right : Option Node)
    (equal : optionalMoved first left = optionalMoved second right) :
    sameOptional left right = true := by
  match left, right with
  | none, none => rw [sameOptional]
  | none, some _ => simp [optionalMoved] at equal
  | some _, none => simp [optionalMoved] at equal
  | some left, some right =>
    simp only [optionalMoved, Option.some.injEq] at equal
    rw [sameOptional, same_of_moved_eq left right equal]

theorem sameParts_of_moved_eq
    (left right : List Node)
    (equal : partsMoved first left = partsMoved second right) :
    sameParts left right = true := by
  match left, right with
  | [], [] => rw [sameParts]
  | [], _ :: _ => simp [partsMoved] at equal
  | _ :: _, [] => simp [partsMoved] at equal
  | left :: lefts, right :: rights =>
    simp only [partsMoved, List.cons.injEq] at equal
    rw [sameParts, same_of_moved_eq left right equal.1, sameParts_of_moved_eq lefts rights equal.2]
    rfl

theorem sameAlternatives_of_moved_eq
    (left right : List (Pattern × Node))
    (equal : alternativesMoved first left = alternativesMoved second right) :
    sameAlternatives left right = true := by
  match left, right with
  | [], [] => rw [sameAlternatives]
  | [], _ :: _ => simp [alternativesMoved] at equal
  | _ :: _, [] => simp [alternativesMoved] at equal
  | (pattern, body) :: rest, (pattern', body') :: rest' =>
    simp only [alternativesMoved, List.cons.injEq, Prod.mk.injEq] at equal
    rw [sameAlternatives, Pattern.same_of_moved_eq equal.1.1,
      same_of_moved_eq body body' equal.1.2, sameAlternatives_of_moved_eq rest rest' equal.2]
    rfl

end

end Node

end Stencil
