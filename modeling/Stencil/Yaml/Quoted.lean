import Stencil.Yaml.Character
import Stencil.Yaml.Fault

/-!
# Quoted scalars

Inside quotes a line break with the blanks around it becomes a space, and the
breaks of empty lines are kept.  In apostrophes two of them stand for one; in
double quotes a backslash begins an escape, and before a line break it takes the
break away.  No line inside quotes may begin with a mark of a document.
-/

namespace Stencil

namespace Yaml

/-- What stands between the last character that was read and the next one. -/
inductive Gap where
  /-- Blanks on the same line. -/
  | blanks (run : Text)
  /-- A line break, which is missing if it was escaped, and those of empty lines. -/
  | lines (first : Option CodePoint) (others : Text)

namespace Gap

/-- No gap. -/
def none : Gap :=
  .blanks []

/-- The text that a gap stands for. -/
def text : Gap → Text
  | .blanks run => run
  | .lines Option.none others => others
  | .lines (some first) others => folded first others

/-- The gap with one more blank; blanks around line breaks count for nothing. -/
def addBlank (point : CodePoint) : Gap → Gap
  | .blanks run => .blanks (run ++ [point])
  | .lines first others => .lines first others

/-- The gap with one more line break. -/
def addBreak (point : CodePoint) : Gap → Gap
  | .blanks _ => .lines (some (keptBreak point)) []
  | .lines first others => .lines first (others ++ [keptBreak point])

end Gap

/-- Puts a gap and a mark before a scalar that is read with a number of code
points. -/
def prepend
    (gap : Gap)
    (mark : Text)
    (width : Nat)
    (read : Except Fault (Text × Nat)) : Except Fault (Text × Nat) :=
  read.map fun (text, count) => (gap.text ++ mark ++ text, count + width)

/-- The text of a scalar in apostrophes and the number of code points up to and
including the closing one, read behind the opening one. -/
def single (gap : Gap) : Text → Except Fault (Text × Nat)
  | [] => .error .malformed
  | point :: rest =>
    if point = '\'' then
      match rest with
      | next :: more =>
        if next = '\'' then prepend gap [point] 2 (single .none more)
        else .ok (gap.text, 1)
      | [] => .ok (gap.text, 1)
    else if isBreak point then
      if beginsAnyMark rest then .error .malformed
      else prepend .none [] 1 (single (gap.addBreak point) rest)
    else if isSpace point then prepend .none [] 1 (single (gap.addBlank point) rest)
    else prepend gap [point] 1 (single .none rest)

/-- What a backslash and one more character denote in double quotes. -/
def escape? (mark : CodePoint) : Option CodePoint :=
  if mark = '0' then some '\x00'
  else if mark = 'a' then some '\x07'
  else if mark = 'b' then some '\x08'
  else if mark = 't' || mark = '\t' then some '\t'
  else if mark = 'n' then some '\n'
  else if mark = 'v' then some '\x0b'
  else if mark = 'f' then some '\x0c'
  else if mark = 'r' then some '\r'
  else if mark = 'e' then some '\x1b'
  else if mark = ' ' then some ' '
  else if mark = '"' then some '"'
  else if mark = '/' then some '/'
  else if mark = '\\' then some '\\'
  else if mark = 'N' then some '\u0085'
  else if mark = '_' then some '\u00a0'
  else if mark = 'L' then some '\u2028'
  else if mark = 'P' then some '\u2029'
  else none

/-- The code point of hexadecimal digits, surrogates included. -/
def hexPoint (digits : Text) : Except Fault CodePoint :=
  let number := Text.value 16 digits
  if !digits.all CodePoint.isHexDigit then .error .malformed
  else if bound : number < 0x110000 then .ok ⟨number, bound⟩
  else .error (.noCodePoint number)

/-- The text of a scalar in double quotes and the number of code points up to
and including the closing one, read behind the opening one. -/
def double (gap : Gap) : Text → Except Fault (Text × Nat)
  | [] => .error .malformed
  | point :: rest =>
    if point = '"' then .ok (gap.text, 1)
    else if isBreak point then
      if beginsAnyMark rest then .error .malformed
      else prepend .none [] 1 (double (gap.addBreak point) rest)
    else if isSpace point then prepend .none [] 1 (double (gap.addBlank point) rest)
    else if point = '\\' then
      match rest with
      | [] => .error .malformed
      | mark :: behind =>
        if isBreak mark then
          if beginsAnyMark behind then .error .malformed
          else prepend gap [] 2 (double (.lines none []) behind)
        else if mark = 'x' then
          match behind with
          | a :: b :: more => do
            let denoted ← hexPoint [a, b]
            prepend gap [denoted] 4 (double .none more)
          | _ => .error .malformed
        else if mark = 'u' then
          match behind with
          | a :: b :: c :: d :: more => do
            let denoted ← hexPoint [a, b, c, d]
            prepend gap [denoted] 6 (double .none more)
          | _ => .error .malformed
        else if mark = 'U' then
          match behind with
          | a :: b :: c :: d :: e :: f :: g :: h :: more => do
            let denoted ← hexPoint [a, b, c, d, e, f, g, h]
            prepend gap [denoted] 10 (double .none more)
          | _ => .error .malformed
        else
          match escape? mark with
          | some denoted => prepend gap [denoted] 2 (double .none behind)
          | none => .error .malformed
    else prepend gap [point] 1 (double .none rest)

end Yaml

end Stencil
