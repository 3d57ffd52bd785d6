import Stencil.Decimal
import Stencil.Position

/-!
# The tree of a template

A template becomes a tree of nodes, each with the position of the token that it
begins with.  Operators and filters are functions under their own names, and a
function of several arguments is applied to one after the other.  Conditions
become selections between true and false.
-/

namespace Stencil

/-- A name with its position. -/
structure Identifier where
  /-- Where the name stands. -/
  position : Position
  /-- The name. -/
  name : Text
deriving DecidableEq, Repr

/-- A path of one or more names with dots between them. -/
structure Variable where
  /-- The first name. -/
  first : Identifier
  /-- The names behind the first dot. -/
  others : List Identifier
deriving DecidableEq, Repr

namespace Variable

/-- Why names are no variable. -/
inductive Fault where
  /-- There is no name. -/
  | noNames
deriving DecidableEq, Repr

/-- The wording of a fault. -/
def Fault.message : Fault → Text
  | .noNames => Text.of "Variable must contain at least one identifier"

/-- The variable of a list of names. -/
def ofNames : List Identifier → Except Fault Variable
  | [] => .error .noNames
  | first :: others => .ok ⟨first, others⟩

/-- All names of a path. -/
def names (path : Variable) : List Identifier :=
  path.first :: path.others

/-- The position of the first name. -/
def position (path : Variable) : Position :=
  path.first.position

/-- The names with dots between them. -/
def toText (path : Variable) : Text :=
  Text.join (Text.of ".") (path.names.map Identifier.name)

end Variable

/-- A path that stands for its value, with a position of its own. -/
structure Reference extends Variable where
  /-- Where it stands. -/
  position : Position
deriving DecidableEq, Repr

/-- The reference to a path, at the position of its first name. -/
def Variable.reference (path : Variable) : Reference :=
  ⟨path, path.position⟩

/-- A literal value. -/
inductive Literal where
  /-- True or false. -/
  | boolean (flag : Bool)
  /-- A number. -/
  | number (value : Decimal)
  /-- A text. -/
  | text (content : Text)
deriving DecidableEq, Repr

/-- What a selected value is compared with. -/
inductive Pattern where
  /-- Any value. -/
  | wildcard
  /-- The value of a variable. -/
  | path (path : Variable)
  /-- The value of a literal. -/
  | literal (literal : Literal)
  /-- A literal that is not marked as a pattern; no template has one. -/
  | bare (literal : Literal)
deriving DecidableEq, Repr

/-- A node of the tree. -/
inductive Node where
  /-- Text that is kept as it is. -/
  | text (position : Position) (content : Text)
  /-- A literal value. -/
  | literal (position : Position) (literal : Literal)
  /-- The value of a variable. -/
  | reference (path : Reference)
  /-- A function by its name. -/
  | function (position : Position) (name : Identifier)
  /-- A function applied to one argument. -/
  | apply (position : Position) (function argument : Node)
  /-- The body of the first alternative whose pattern fits the scrutinee. -/
  | selection (position : Position) (scrutinee : Node) (alternatives : List (Pattern × Node))
  /-- A body for each item of a variable, and another one if there is none. -/
  | loop (position : Position) (item : Identifier) (source : Reference) (body : Node)
      (otherwise : Option Node)
  /-- A body in which a name stands for a value. -/
  | binding (position : Position) (name : Identifier) (value body : Node)
  /-- Another template, read with a context of its own if there is one. -/
  | inclusion (position : Position) (key : Text) (context : Option Node)
  /-- Neighbouring parts. -/
  | sequence (position : Position) (parts : List Node)
  /-- A node without content; no template has one. -/
  | bare (position : Position)
deriving Repr

namespace Node

/-- The position of a node. -/
def position : Node → Position
  | .text position _ => position
  | .literal position _ => position
  | .reference path => path.position
  | .function position _ => position
  | .apply position _ _ => position
  | .selection position _ _ => position
  | .loop position _ _ _ _ => position
  | .binding position _ _ _ => position
  | .inclusion position _ _ => position
  | .sequence position _ => position
  | .bare position => position

/-- A named function applied to an argument, all at one position. -/
def call (position : Position) (name : Text) (argument : Node) : Node :=
  .apply position (.function position ⟨position, name⟩) argument

/-- An operator applied to its two operands, at the position of the operator. -/
def binary (position : Position) (symbol : Text) (left right : Node) : Node :=
  .apply position (call position symbol left) right

/-- A function applied to its arguments from the left. -/
def applied (function : Node) (arguments : List Node) : Node :=
  arguments.foldl (fun result argument => .apply result.position result argument) function

/-- No parts, where no source text stands for them. -/
def nothing : Node :=
  .sequence (Position.synthetic (Text.of "<build>")) []

/-- Neighbouring parts as one node; a single part stands for itself. -/
def sequenced (position : Position) : List Node → Node
  | [part] => part
  | parts => .sequence position parts

/-- The pattern that fits a truth value. -/
def truth (flag : Bool) : Pattern :=
  .literal (.boolean flag)

/-- A selection with an alternative for all other values, if there is one. -/
def selected
    (scrutinee : Node)
    (alternatives : List (Pattern × Node))
    (otherwise : Option Node) : Node :=
  .selection scrutinee.position scrutinee
    (alternatives ++ (otherwise.map fun body => (Pattern.wildcard, body)).toList)

/-- One condition: the first body if it is true and the second if it is false. -/
def choice (condition yes no : Node) : Node :=
  .selection condition.position condition [(truth true, yes), (truth false, no)]

/-- Conditions that are tried in order, and what to take if none is true. -/
def conditional (branches : List (Node × Node)) (otherwise : Option Node) : Node :=
  branches.foldr (fun branch rest => choice branch.1 branch.2 rest) (otherwise.getD nothing)

end Node

end Stencil
