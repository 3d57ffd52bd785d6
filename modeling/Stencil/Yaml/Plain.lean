import Stencil.Cursor
import Stencil.Yaml.Character

/-!
# Plain scalars

A plain scalar has no quotes.  It ends at a colon before the end of a word, at a
number sign behind a blank, at a tab, at a mark of a document and, in brackets,
at a mark of flow collections.  It may go on over several lines, as long as
these are indented more deeply than the collection around it; the line breaks
are folded.
-/

namespace Stencil

namespace Yaml

/-- Characters that no plain scalar begins with, unless a rule allows it. -/
def isIndicator (point : CodePoint) : Bool :=
  isSpace point || isBreak point ||
    (Text.of "-?:,[]\x7b\x7d#&*!|>'\"%@\x60").contains point

/-- Whether a plain scalar may begin with a text, inside of brackets or not. -/
def beginsPlain (flow : Bool) : Text → Bool
  | [] => false
  | point :: rest =>
    !isIndicator point ||
      (point = '-' && !endsWord rest) ||
      (point = ':' && flow && !(rest.head?.any isSpace)) ||
      (!flow && (point = '?' || point = ':') && !endsWord rest)

/-- The part of a plain scalar up to the next blank, line break or end. -/
def plainRun (flow : Bool) : Text → Text
  | [] => []
  | point :: rest =>
    if isSpace point || isBreak point || (point = ':' && endsWord rest) ||
        (flow && isFlowMark point) then []
    else point :: plainRun flow rest

/-- The line breaks among the spaces that a text begins with, the number of code
points passed, and whether a mark of a document follows, which is not passed. -/
def blankLines : Text → Text × Nat × Bool
  | [] => ([], 0, false)
  | point :: rest =>
    if point = ' ' then
      let (breaks, count, marked) := blankLines rest
      (breaks, count + 1, marked)
    else if isBreak point then
      if beginsAnyMark rest then ([keptBreak point], 1, true)
      else
        let (breaks, count, marked) := blankLines rest
        (keptBreak point :: breaks, count + 1, marked)
    else ([], 0, false)

/-- What stands behind a part of a plain scalar. -/
structure PlainGap where
  /-- What it stands for if the scalar goes on; nothing if it cannot. -/
  text : Text
  /-- The cursor behind it. -/
  cursor : Cursor
  /-- Whether a line break was passed. -/
  hasBreak : Bool

/-- The gap at a cursor. -/
def plainGap (cursor : Cursor) : PlainGap :=
  let spaces := cursor.rest.takeWhile fun point => point = CodePoint.ofChar ' '
  let here := cursor.forward spaces.length
  match here.rest with
  | [] => ⟨spaces, here, false⟩
  | point :: _ =>
    if isBreak point then
      let (breaks, count, marked) := blankLines here.rest
      ⟨if marked then [] else folded (keptBreak point) (breaks.drop 1), here.forward count, true⟩
    else ⟨spaces, here, false⟩

/-- Whether a plain scalar goes on behind a gap. -/
def PlainGap.goesOn (flow : Bool) (indent : Nat) (gap : PlainGap) : Bool :=
  !gap.text.isEmpty && gap.cursor.rest.head? ≠ some (CodePoint.ofChar '#') &&
    (flow || indent < gap.cursor.column)

/-- A plain scalar from a cursor on, with the cursor behind it and behind the
gap that follows, and whether that gap has a line break. -/
def plain (flow : Bool) (indent : Nat) : Nat → Cursor → Text × Cursor × Bool
  | 0, cursor => ([], cursor, false)
  | turns + 1, cursor =>
    let run := plainRun flow cursor.rest
    let gap := plainGap (cursor.forward run.length)
    let next := plainRun flow gap.cursor.rest
    if gap.goesOn flow indent && !next.isEmpty then
      let (others, behind, hasBreak) := plain flow indent turns gap.cursor
      (run ++ gap.text ++ others, behind, hasBreak)
    else (run, gap.cursor, gap.hasBreak)

end Yaml

end Stencil
