import Stencil.Template

/-!
# Reports

A report shows the tree and the includes of a template, or its diagnostic, as a
value that has a JSON text.  Numbers are shown as texts with all their digits.
Nodes that no source text stands for have no line and column.  What a report holds
is said here; a library lays it out as a value, and what is relied on is that the
value, if there is one, has the fields of the report as its members.
-/

namespace Stencil

/-- What is reported on a source: the object of its tree and its includes, or the
message and the position of its diagnostic. -/
structure Report where
  /-- Whether there is a template. -/
  ok : Bool
  /-- The name of the source. -/
  name : Text
  /-- The object of the tree. -/
  tree : Option Value
  /-- The includes. -/
  includes : Includes
  /-- The message and the position of the diagnostic. -/
  error : Option (Text × Position)

namespace Report

/-- Why a tree has no report. -/
inductive Fault where
  /-- A node without content. -/
  | unsupportedNode
  /-- A literal that is not marked as a pattern. -/
  | unsupportedPattern (literal : Literal)
deriving Repr

/-- What a literal is called in a fault. -/
def literalLabel : Literal → Text
  | .boolean _ => Text.of "BoolLiteral"
  | .number _ => Text.of "NumberLiteral"
  | .text _ => Text.of "TextLiteral"

/-- The wording of a fault. -/
def Fault.message : Fault → Text
  | .unsupportedNode => Text.of "Unsupported node: TemplateNode"
  | .unsupportedPattern literal => Text.of "Unsupported pattern: " ++ literalLabel literal

/-- A member of an object. -/
def member (key : String) (value : Value) : Value × Value :=
  (.text (Text.of key), value)

/-- A text value from a string. -/
def word (string : String) : Value :=
  .text (Text.of string)

/-- An integer value from a natural number. -/
def count (number : Nat) : Value :=
  .integer number

/-- The value that shows a literal. -/
def ofLiteral : Literal → Value
  | .boolean flag => .boolean flag
  | .number value => .text value.toText
  | .text content => .text content

/-- The word for the kind of a literal. -/
def literalKind : Literal → Value
  | .boolean _ => word "bool"
  | .number _ => word "number"
  | .text _ => word "text"

/-- The object of a pattern. -/
def ofPattern : Pattern → Except Fault Value
  | .wildcard => .ok (.map [member "pattern" (word "wildcard")])
  | .path path =>
    .ok (.map [member "pattern" (word "variable"), member "path" (.text path.toText)])
  | .literal literal =>
    .ok (.map [member "pattern" (word "literal"), member "value" (ofLiteral literal)])
  | .bare literal => .error (.unsupportedPattern literal)

/-- The object of a node: its kind, its other members and its place. -/
def object (kind : String) (position : Position) (members : List (Value × Value)) : Value :=
  .map (member "node" (word kind) :: members ++
    if position.isSynthetic then []
    else [member "line" (count position.line), member "column" (count position.column)])

mutual

/-- The object of a tree. -/
def ofNode : Node → Except Fault Value
  | .text position content => .ok (object "text" position [member "text" (.text content)])
  | .literal position literal =>
    .ok (object "literal" position
      [member "type" (literalKind literal), member "value" (ofLiteral literal)])
  | .reference path =>
    .ok (object "variable" path.position [member "path" (.text path.toText)])
  | .function position name =>
    .ok (object "function" position [member "name" (.text name.name)])
  | .apply position callee argument => do
    let callee ← ofNode callee
    let argument ← ofNode argument
    return object "apply" position [member "function" callee, member "argument" argument]
  | .selection position scrutinee alternatives => do
    let scrutinee ← ofNode scrutinee
    let alternatives ← ofAlternatives alternatives
    return object "case" position
      [member "scrutinee" scrutinee, member "alternatives" (.list alternatives)]
  | .loop position item source body otherwise => do
    let body ← ofNode body
    let otherwise ← ofOptional otherwise
    return object "loop" position
      [member "binding" (.text item.name), member "source" (.text source.toText),
        member "body" body, member "else" otherwise]
  | .binding position name value body => do
    let value ← ofNode value
    let body ← ofNode body
    return object "let" position
      [member "binding" (.text name.name), member "value" value, member "body" body]
  | .inclusion position key context => do
    let context ← ofOptional context
    return object "include" position [member "key" (.text key), member "with" context]
  | .sequence position parts => do
    let parts ← ofParts parts
    return object "build" position [member "parts" (.list parts)]
  | .bare _ => .error .unsupportedNode

/-- The object of an optional tree. -/
def ofOptional : Option Node → Except Fault Value
  | none => .ok .null
  | some node => ofNode node

/-- The objects of a list of trees. -/
def ofParts : List Node → Except Fault (List Value)
  | [] => .ok []
  | part :: rest => do
    let first ← ofNode part
    let others ← ofParts rest
    return first :: others

/-- The objects of a list of alternatives. -/
def ofAlternatives : List (Pattern × Node) → Except Fault (List Value)
  | [] => .ok []
  | (pattern, body) :: rest => do
    let pattern ← ofPattern pattern
    let body ← ofNode body
    let others ← ofAlternatives rest
    return .map [member "pattern" pattern, member "body" body] :: others

end

/-- The object of a position. -/
def ofPosition (position : Position) : Value :=
  .map [member "name" (.text position.name), member "line" (count position.line),
    member "column" (count position.column), member "offset" (count position.offset)]

/-- The object of the includes. -/
def ofIncludes (includes : Includes) : Value :=
  .map (includes.map fun (key, positions) => (.text key, .list (positions.map ofPosition)))

/-- The object of what a diagnostic says. -/
def ofError (error : Text × Position) : Value :=
  .map [member "message" (.text error.1), member "position" (ofPosition error.2)]

/-- The report of a template. -/
def ofTemplate (name : Text) (template : Template) : Except Fault Report := do
  let tree ← ofNode template.root
  return ⟨true, name, some tree, template.includes, none⟩

/-- The report of a diagnostic. -/
def ofDiagnostic (name : Text) (diagnostic : Diagnostic) : Report :=
  ⟨false, name, none, [], some (diagnostic.message, diagnostic.position)⟩

/-- The fields of a report as the members of one object; an absent field is absent
there too. -/
def toValue (report : Report) : Value :=
  .map [member "ok" (.boolean report.ok), member "name" (.text report.name),
    member "ast" (report.tree.getD .null), member "includes" (ofIncludes report.includes),
    member "error" ((report.error.map ofError).getD .null)]

/-- The vocabulary of templates, for tools that check or colour them. -/
def ofVocabulary : Value :=
  let sorted (list : List Text) : Value := .list ((Text.sorted list).map Value.text)
  .map [member "keywords" (sorted keywords), member "pragma_fields" (sorted pragmaFields),
    member "operators" (sorted operatorSymbols)]

end Report

end Stencil
