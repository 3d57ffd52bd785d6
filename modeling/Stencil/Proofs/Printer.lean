import Stencil.Node.Equality
import Stencil.Proofs.Quotation
import Stencil.Proofs.Structure
import Stencil.Decimal.Printer
import Stencil.Decimal.Reader
import Stencil.Delimiters
import Stencil.Operator

/-!
# Writing templates

Every tree that a template can have is the tree of some source.  This module
writes such a source: text as it is, expressions between the delimiters of
inline regions, and everything else as blocks.  A space stands before every
lexeme, and every operand that is not a literal or a variable stands in
parentheses.  What this leaves open is a matter of the layout.

Besides the text there is the number of levels that are nested in it, and what
trees are written at all.
-/

namespace Stencil

/-- What may be chosen when a template is written. -/
structure Layout where
  /-- What stands on both sides of the dots of a variable. -/
  gap : Text
  /-- Only blanks stand there. -/
  gap_isBlank : gap.isBlank = true
  /-- Whether parentheses stand around an expression that is no operand. -/
  enclosed : Bool
  /-- How string literals are written. -/
  escaping : StringLiteral.Escaping

namespace Node

/-- Whether no text stands right behind other text. -/
def textsApart : List Node → Bool
  | left :: right :: rest => !(left.isText && right.isText) && textsApart (right :: rest)
  | _ => true

/-- Whether a tree is an application, which needs parentheses as an operand. -/
def isCompound : Node → Bool
  | .apply _ _ _ => true
  | _ => false

end Node

namespace Layout

/-! ## Expressions -/

/-- The names of a variable behind its first one. -/
def othersText (layout : Layout) (names : List Identifier) : Text :=
  names.flatMap fun name =>
    layout.gap ++ Text.of "." ++ (layout.gap ++ name.name)

/-- A variable. -/
def pathText (layout : Layout) (path : Variable) : Text :=
  Text.space ++ path.first.name ++ layout.othersText path.others

/-- A literal. -/
def literalText (layout : Layout) : Literal → Text
  | .boolean true => Text.space ++ Text.of "true"
  | .boolean false => Text.space ++ Text.of "false"
  | .number value => Text.space ++ value.toText
  | .text content => Text.space ++ layout.escaping.quoted content

/-- A pattern. -/
def patternText (layout : Layout) : Pattern → Text
  | .wildcard => Text.space ++ Text.of "_"
  | .path path => layout.pathText path
  | .literal literal => layout.literalText literal
  | .bare literal => layout.literalText literal

/-- The text of an operand, given the one that it has without parentheses. -/
def enclose (node : Node) (text : Text) : Text :=
  if node.isCompound then Text.space ++ Text.of "(" ++ (text ++ (Text.space ++ Text.of ")"))
  else text

/-- An expression without parentheses around it. -/
def bareText (layout : Layout) : Node → Text
  | .literal _ literal => layout.literalText literal
  | .reference path => layout.pathText path.toVariable
  | .apply _ (.function _ name) argument =>
    if isPrefixOperator name.name then
      Text.space ++ name.name ++ enclose argument (layout.bareText argument)
    else
      enclose argument (layout.bareText argument) ++
        (Text.space ++ Text.of "|" ++ (Text.space ++ name.name))
  | .apply _ (.apply _ (.function _ operator) left) right =>
    enclose left (layout.bareText left) ++
      (Text.space ++ operator.name ++ enclose right (layout.bareText right))
  | _ => []

/-- An operand. -/
def operandText (layout : Layout) (node : Node) : Text :=
  enclose node (layout.bareText node)

/-- An expression that is no operand. -/
def expressionText (layout : Layout) (node : Node) : Text :=
  if layout.enclosed then layout.operandText node else layout.bareText node

/-- The levels of an operand, given those that it has without parentheses. -/
def encloseLevels (node : Node) (levels : Nat) : Nat :=
  if node.isCompound then levels + 1 else levels

/-- How deeply parentheses and prefix operators are nested in an expression
without parentheses around it. -/
def bareLevels : Node → Nat
  | .apply _ (.function _ name) argument =>
    if isPrefixOperator name.name then encloseLevels argument (bareLevels argument) + 1
    else encloseLevels argument (bareLevels argument)
  | .apply _ (.apply _ (.function _ _) left) right =>
    max (encloseLevels left (bareLevels left)) (encloseLevels right (bareLevels right))
  | _ => 0

/-- The levels of an operand. -/
def operandLevels (node : Node) : Nat :=
  encloseLevels node (bareLevels node)

/-- The levels of an expression that is no operand. -/
def expressionLevels (layout : Layout) (node : Node) : Nat :=
  if layout.enclosed then operandLevels node else bareLevels node

/-! ## Documents -/

/-- A tag with a word and what stands behind the word. -/
def tagText (delimiters : Delimiters) (word : String) (content : Text) : Text :=
  delimiters.block.opening ++ (Text.space ++ Text.of word) ++
    (content ++ (Text.space ++ delimiters.block.closing))

/-- An inline expression. -/
def insertionText (layout : Layout) (delimiters : Delimiters) (node : Node) : Text :=
  delimiters.inline.opening ++
    (layout.expressionText node ++ (Text.space ++ delimiters.inline.closing))

/-- The context of an included template. -/
def contextText (layout : Layout) : Option Node → Text
  | none => []
  | some value => Text.space ++ Text.of "with" ++ layout.expressionText value

/-- What the tag of a loop holds. -/
def loopText (layout : Layout) (item : Identifier) (source : Variable) : Text :=
  Text.space ++ item.name ++ (Text.space ++ Text.of "in" ++ layout.pathText source)

/-- What the tag of a binding holds. -/
def bindingText (layout : Layout) (name : Identifier) (value : Node) : Text :=
  Text.space ++ name.name ++ (Text.space ++ Text.of "=" ++ layout.expressionText value)

/-- What the tag of an include holds. -/
def inclusionText (layout : Layout) (key : Text) (context : Option Node) : Text :=
  Text.space ++ layout.escaping.quoted key ++ layout.contextText context

mutual

/-- The source of a tree. -/
def nodeText (layout : Layout) (delimiters : Delimiters) : Node → Text
  | .text _ content => content
  | .literal position literal => layout.insertionText delimiters (.literal position literal)
  | .reference path => layout.insertionText delimiters (.reference path)
  | .apply position function argument =>
    layout.insertionText delimiters (.apply position function argument)
  | .selection _ scrutinee alternatives =>
    tagText delimiters "case" (layout.expressionText scrutinee) ++
      (layout.alternativesText delimiters alternatives ++ tagText delimiters "endcase" [])
  | .loop _ item source body otherwise =>
    tagText delimiters "for" (layout.loopText item source.toVariable) ++
      (layout.nodeText delimiters body ++
        (layout.otherwiseText delimiters otherwise ++ tagText delimiters "endfor" []))
  | .binding _ name value body =>
    tagText delimiters "let" (layout.bindingText name value) ++
      (layout.nodeText delimiters body ++ tagText delimiters "endlet" [])
  | .inclusion _ key context =>
    tagText delimiters "include" (layout.inclusionText key context)
  | .sequence _ parts => layout.partsText delimiters parts
  | .function _ _ => []
  | .bare _ => []

/-- The sources of neighbouring parts, one behind the other. -/
def partsText (layout : Layout) (delimiters : Delimiters) : List Node → Text
  | [] => []
  | part :: parts => layout.nodeText delimiters part ++ layout.partsText delimiters parts

/-- The alternatives of a selection. -/
def alternativesText (layout : Layout) (delimiters : Delimiters) : List (Pattern × Node) → Text
  | [] => []
  | (pattern, body) :: alternatives =>
    tagText delimiters "when" (layout.patternText pattern) ++
      (layout.nodeText delimiters body ++ layout.alternativesText delimiters alternatives)

/-- The body of a loop for the case that there is no item. -/
def otherwiseText (layout : Layout) (delimiters : Delimiters) : Option Node → Text
  | none => []
  | some body => tagText delimiters "else" [] ++ layout.nodeText delimiters body

end

mutual

/-- How deeply documents, parentheses and prefix operators are nested in the
source of a tree. -/
def nodeLevels (layout : Layout) : Node → Nat
  | .text _ _ => 0
  | .literal position literal => layout.expressionLevels (.literal position literal)
  | .reference path => layout.expressionLevels (.reference path)
  | .apply position function argument =>
    layout.expressionLevels (.apply position function argument)
  | .selection _ scrutinee alternatives =>
    max (layout.expressionLevels scrutinee) (layout.alternativesLevels alternatives)
  | .loop _ _ _ body otherwise =>
    max (layout.nodeLevels body + 1) (layout.otherwiseLevels otherwise)
  | .binding _ _ value body => max (layout.expressionLevels value) (layout.nodeLevels body + 1)
  | .inclusion _ _ context => (context.map layout.expressionLevels).getD 0
  | .sequence _ parts => layout.partsLevels parts
  | .function _ _ => 0
  | .bare _ => 0

/-- The levels of neighbouring parts. -/
def partsLevels (layout : Layout) : List Node → Nat
  | [] => 0
  | part :: parts => max (layout.nodeLevels part) (layout.partsLevels parts)

/-- The levels of the alternatives of a selection; each body is a document. -/
def alternativesLevels (layout : Layout) : List (Pattern × Node) → Nat
  | [] => 0
  | (_, body) :: alternatives =>
    max (layout.nodeLevels body + 1) (layout.alternativesLevels alternatives)

/-- The levels of the body for the case that there is no item. -/
def otherwiseLevels (layout : Layout) : Option Node → Nat
  | none => 0
  | some body => layout.nodeLevels body + 1

end

end Layout

/-! ## Trees that are written -/

/-- Whether a character begins an opening delimiter. -/
def Delimiters.begins (delimiters : Delimiters) (point : CodePoint) : Bool :=
  (delimiters.openings Kind.all).any fun opening => opening.head? == some point

/-- All names of a variable are names. -/
def Variable.IsWritable (path : Variable) : Prop :=
  ∀ name ∈ path.names, name.name.IsName

/-- Numbers have no sign, and they can be held. -/
def Literal.IsWritable : Literal → Prop
  | .number value => value.negative = false ∧ value.isHeld = true
  | _ => True

/-- The patterns of alternatives. -/
inductive Pattern.IsWritable : Pattern → Prop
  | wildcard : IsWritable .wildcard
  | path
      {path : Variable}
      (writable : path.IsWritable) :
      IsWritable (.path path)
  | literal
      {literal : Literal}
      (writable : literal.IsWritable) :
      IsWritable (.literal literal)

namespace Node

/-- The trees of expressions. -/
inductive IsExpression : Node → Prop
  | literal
      {position : Position}
      {literal : Literal}
      (writable : literal.IsWritable) :
      IsExpression (.literal position literal)
  | reference
      {path : Reference}
      (writable : path.toVariable.IsWritable) :
      IsExpression (.reference path)
  | prefixed
      {position place : Position}
      {name : Identifier}
      {argument : Node}
      (isPrefix : isPrefixOperator name.name = true)
      (operand : IsExpression argument) :
      IsExpression (.apply position (.function place name) argument)
  | filter
      {position place : Position}
      {name : Identifier}
      {argument : Node}
      (named : name.name.IsName)
      (operand : IsExpression argument) :
      IsExpression (.apply position (.function place name) argument)
  | binary
      {position inner place : Position}
      {name : Identifier}
      {operator : Operator}
      {left right : Node}
      (member : operator ∈ OperatorTable.standard)
      (role : operator.role = .binary)
      (symbol : name.name = operator.symbol)
      (onLeft : IsExpression left)
      (onRight : IsExpression right) :
      IsExpression (.apply position (.apply inner (.function place name) left) right)

/-- Where a tree stands. -/
inductive Layer where
  /-- Among the parts of a document. -/
  | part
  /-- As a whole document. -/
  | document

/-- The trees of parts and documents.  Text does not begin a region, and it does
not touch other text. -/
inductive IsTemplate (delimiters : Delimiters) : Layer → Node → Prop
  | text
      {position : Position}
      {content : Text}
      (notEmpty : content ≠ [])
      (plain : ∀ point ∈ content, delimiters.begins point = false) :
      IsTemplate delimiters .part (.text position content)
  | insertion
      {node : Node}
      (expression : node.IsExpression) :
      IsTemplate delimiters .part node
  | selection
      {position : Position}
      {scrutinee : Node}
      {alternatives : List (Pattern × Node)}
      (subject : scrutinee.IsExpression)
      (patterns : ∀ alternative ∈ alternatives, alternative.1.IsWritable)
      (bodies : ∀ alternative ∈ alternatives, IsTemplate delimiters .document alternative.2) :
      IsTemplate delimiters .part (.selection position scrutinee alternatives)
  | loop
      {position : Position}
      {item : Identifier}
      {source : Reference}
      {body : Node}
      {otherwise : Option Node}
      (named : item.name.IsName)
      (iterated : source.toVariable.IsWritable)
      (each : IsTemplate delimiters .document body)
      (none : ∀ other ∈ otherwise, IsTemplate delimiters .document other) :
      IsTemplate delimiters .part (.loop position item source body otherwise)
  | binding
      {position : Position}
      {name : Identifier}
      {value body : Node}
      (named : name.name.IsName)
      (bound : value.IsExpression)
      (scope : IsTemplate delimiters .document body) :
      IsTemplate delimiters .part (.binding position name value body)
  | inclusion
      {position : Position}
      {key : Text}
      {context : Option Node}
      (given : ∀ value ∈ context, value.IsExpression) :
      IsTemplate delimiters .part (.inclusion position key context)
  | single
      {node : Node}
      (part : IsTemplate delimiters .part node) :
      IsTemplate delimiters .document node
  | sequence
      {position : Position}
      {parts : List Node}
      (several : parts.length ≠ 1)
      (each : ∀ part ∈ parts, IsTemplate delimiters .part part)
      (separate : textsApart parts = true) :
      IsTemplate delimiters .document (.sequence position parts)

end Node

end Stencil
