import Stencil.Cursor
import Stencil.Yaml.Character
import Stencil.Yaml.Fault

/-!
# Block scalars

A block scalar begins behind a header and holds the lines that are indented
more deeply than the collection around it, without that indentation.  In the
folded style a line break between two lines that begin with no blank becomes a
space.  The header says what happens to the line breaks at the end, and it may
give the indentation, which else is that of the first line that is not empty.
-/

namespace Stencil

namespace Yaml

/-- What happens to the line breaks at the end of a block scalar. -/
inductive Chomping where
  /-- The first one is kept. -/
  | clip
  /-- All are kept. -/
  | keep
  /-- None is kept. -/
  | strip
deriving DecidableEq, Repr

/-- The header of a block scalar. -/
structure Header where
  /-- What happens to the line breaks at the end. -/
  chomping : Chomping
  /-- How many spaces the lines are indented more than the collection around. -/
  increment : Option Nat
deriving DecidableEq, Repr

/-- What a plus or a minus sign says about the line breaks at the end. -/
def Chomping.ofSign? (point : CodePoint) : Option Chomping :=
  if point = '+' then some .keep
  else if point = '-' then some .strip
  else none

/-- The indicators of a header and their number. -/
def indicators : Text → Header × Nat
  | [] => (⟨.clip, none⟩, 0)
  | first :: rest =>
    match Chomping.ofSign? first with
    | some chomping =>
      match rest with
      | second :: _ =>
        if second.isDigit then (⟨chomping, some second.digitValue⟩, 2) else (⟨chomping, none⟩, 1)
      | [] => (⟨chomping, none⟩, 1)
    | none =>
      if first.isDigit then
        match rest.head?.bind Chomping.ofSign? with
        | some chomping => (⟨chomping, some first.digitValue⟩, 2)
        | none => (⟨.clip, some first.digitValue⟩, 1)
      else (⟨.clip, none⟩, 0)

/-- Reads the header behind the sign of a block scalar up to the next line.
Behind the indicators only spaces and a comment may stand. -/
def header (cursor : Cursor) : Except Fault (Header × Cursor) :=
  let (header, count) := indicators cursor.rest
  let behind := cursor.forward count
  let spaces := behind.rest.takeWhile fun point => point = CodePoint.ofChar ' '
  let rest := behind.rest.drop spaces.length
  let comment :=
    if rest.head? = some (CodePoint.ofChar '#') then rest.takeWhile fun point => !isBreak point
    else []
  let lineEnd := behind.forward (spaces.length + comment.length)
  let follows := behind.rest.head?.all fun point => point = CodePoint.ofChar ' ' || isBreak point
  if header.increment = some 0 || !follows then .error .malformed
  else if lineEnd.rest.head?.all isBreak then .ok (header, lineEnd.forward 1)
  else .error .malformed

/-- The breaks of the empty lines at a cursor, the greatest number of spaces that
a line begins with, and the cursor before the first other character. -/
def emptyLines : Nat → Nat → Cursor → Text × Nat × Cursor
  | 0, greatest, cursor => ([], greatest, cursor)
  | turns + 1, greatest, cursor =>
    match cursor.rest with
    | [] => ([], greatest, cursor)
    | point :: _ =>
      let next := cursor.forward 1
      if point = ' ' then emptyLines turns (max greatest cursor.column) next
      else if isBreak point then
        let (breaks, greatest, behind) := emptyLines turns greatest next
        (keptBreak point :: breaks, greatest, behind)
      else ([], greatest, cursor)

/-- The breaks of the empty lines at a cursor, and the cursor behind them and
behind at most so many spaces as the indentation has. -/
def unindented (indent : Nat) : Nat → Cursor → Text × Cursor
  | 0, cursor => ([], cursor)
  | turns + 1, cursor =>
    match cursor.rest with
    | [] => ([], cursor)
    | point :: _ =>
      if point = ' ' && cursor.column ≤ indent then unindented indent turns (cursor.forward 1)
      else if isBreak point then
        let (breaks, behind) := unindented indent turns (cursor.forward 1)
        (keptBreak point :: breaks, behind)
      else ([], cursor)

/-- How the lines of a block scalar are read. -/
structure Literal where
  /-- Whether line breaks are folded. -/
  isFolded : Bool
  /-- The number of spaces before each line. -/
  indent : Nat
  /-- Whether a mark of a document may follow, as no collection is around. -/
  isTop : Bool
deriving DecidableEq, Repr

/-- Whether a line of the scalar follows. -/
def Literal.isLine (literal : Literal) (cursor : Cursor) : Bool :=
  cursor.column = literal.indent + 1 && !cursor.isAtEnd

/-- What a line break between two lines stands for. -/
def Literal.join (literal : Literal) (before after lineBreak breaks : Text) : Text :=
  if literal.isFolded && lineBreak = Text.of "\n" &&
      !(before.head?.any isSpace) && !(after.head?.any isSpace) then
    if breaks.isEmpty then Text.of " " else []
  else lineBreak

/-- The lines of a block scalar from a cursor on, behind the breaks of empty
lines, with the line break that ends the last line, the breaks of the empty
lines that follow it, and the cursor behind those. -/
def Literal.lines (literal : Literal) : Nat → Text → Cursor → Text × Text × Text × Cursor
  | 0, breaks, cursor => ([], [], breaks, cursor)
  | turns + 1, breaks, cursor =>
    if !literal.isLine cursor then ([], [], breaks, cursor)
    else
      let line := cursor.rest.takeWhile fun point => !isBreak point
      let lineEnd := cursor.forward line.length
      let lineBreak := (lineEnd.rest.take 1).map keptBreak
      let behind := lineEnd.forward 1
      let (following, next) := unindented literal.indent (behind.rest.length + 1) behind
      let isMarked := literal.isTop && next.column = 1 && beginsAnyMark next.rest
      if literal.isLine next && !isMarked then
        let (others, last, trailing, after) := literal.lines turns following next
        (breaks ++ line ++ literal.join line next.rest lineBreak following ++ others, last,
          trailing, after)
      else (breaks ++ line, lineBreak, following, next)

/-- Reads a block scalar behind its sign, in a collection of an indentation. -/
def blockScalar (isFolded : Bool) (indent : Nat) (cursor : Cursor) : Except Fault (Text × Cursor) := do
  let (header, start) ← header cursor
  let turns := start.rest.length + 1
  let (literal, breaks, first) : Literal × Text × Cursor :=
    match header.increment with
    | none =>
      let (breaks, greatest, first) := emptyLines turns 0 start
      (⟨isFolded, max indent greatest, indent = 0⟩, breaks, first)
    | some increment =>
      let indent := max indent 1 + increment - 1
      let (breaks, first) := unindented indent turns start
      (⟨isFolded, indent, false⟩, breaks, first)
  let (content, lineBreak, trailing, behind) := literal.lines turns breaks first
  match header.chomping with
  | .clip => return (content ++ lineBreak, behind)
  | .keep => return (content ++ lineBreak ++ trailing, behind)
  | .strip => return (content, behind)

end Yaml

end Stencil
