import Stencil.Node

/-!
# Equality up to positions

Two trees are the same when they have the same constructors, names, texts and
branches in the same order, wherever they stand in a source.  Numbers are
compared by value, and literals of different kinds are never the same.
-/

namespace Stencil

/-- Equality of names. -/
def Identifier.same (left right : Identifier) : Bool :=
  left.name == right.name

/-- Equality of paths name by name. -/
def Variable.same (left right : Variable) : Bool :=
  left.names.map Identifier.name == right.names.map Identifier.name

/-- Equality of references, wherever they stand. -/
def Reference.same (left right : Reference) : Bool :=
  left.toVariable.same right.toVariable

/-- Equality of literals, numbers by value. -/
def Literal.same : Literal → Literal → Bool
  | .boolean left, .boolean right => left == right
  | .number left, .number right => left.numericallyEqual right
  | .text left, .text right => left == right
  | _, _ => false

/-- Equality of patterns. -/
def Pattern.same : Pattern → Pattern → Bool
  | .wildcard, .wildcard => true
  | .path left, .path right => left.same right
  | .literal left, .literal right => left.same right
  | .bare left, .bare right => left.same right
  | _, _ => false

namespace Node

mutual

/-- Equality of trees up to positions. -/
def same : Node → Node → Bool
  | .text _ left, .text _ right => left == right
  | .literal _ left, .literal _ right => left.same right
  | .reference left, .reference right => left.same right
  | .function _ left, .function _ right => left.same right
  | .apply _ callee argument, .apply _ callee' argument' =>
    same callee callee' && same argument argument'
  | .selection _ scrutinee alternatives, .selection _ scrutinee' alternatives' =>
    same scrutinee scrutinee' && sameAlternatives alternatives alternatives'
  | .loop _ item source body otherwise, .loop _ item' source' body' otherwise' =>
    item.same item' && source.same source' && same body body' &&
      sameOptional otherwise otherwise'
  | .binding _ name value body, .binding _ name' value' body' =>
    name.same name' && same value value' && same body body'
  | .inclusion _ key context, .inclusion _ key' context' =>
    key == key' && sameOptional context context'
  | .sequence _ parts, .sequence _ parts' => sameParts parts parts'
  | .bare _, .bare _ => true
  | _, _ => false

/-- Equality of optional trees. -/
def sameOptional : Option Node → Option Node → Bool
  | none, none => true
  | some left, some right => same left right
  | _, _ => false

/-- Equality of lists of trees. -/
def sameParts : List Node → List Node → Bool
  | [], [] => true
  | left :: lefts, right :: rights => same left right && sameParts lefts rights
  | _, _ => false

/-- Equality of lists of alternatives. -/
def sameAlternatives : List (Pattern × Node) → List (Pattern × Node) → Bool
  | [], [] => true
  | (pattern, body) :: rest, (pattern', body') :: rest' =>
    pattern.same pattern' && same body body' && sameAlternatives rest rest'
  | _, _ => false

end

end Node

end Stencil
