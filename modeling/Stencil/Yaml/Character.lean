import Stencil.Text

/-!
# Characters of YAML

Lines end at a line feed, at the character for the next line, or at a separator
of lines or paragraphs.  Words end at those and at spaces and tabs.  Three
hyphens or dots at the begin of a line mark where a document begins or ends.
-/

namespace Stencil

namespace Yaml

/-- A space or a tab. -/
def isSpace (point : CodePoint) : Bool :=
  point = ' ' || point = '\t'

/-- A character that ends a line. -/
def isBreak (point : CodePoint) : Bool :=
  point = '\n' || point = '\u0085' || point = '\u2028' || point = '\u2029'

/-- The line break that a scalar keeps: a separator stays what it is, all others
become a line feed. -/
def keptBreak (point : CodePoint) : CodePoint :=
  if point = '\u0085' then '\n' else point

/-- Whether a text is empty or begins with a space, a tab or a line break. -/
def endsWord : Text → Bool
  | [] => true
  | point :: _ => isSpace point || isBreak point

/-- Whether a text begins with a mark of three characters, as a word. -/
def beginsMark (mark text : Text) : Bool :=
  mark.isPrefixOf text && endsWord (text.drop mark.length)

/-- Whether a text begins with a mark of the begin or the end of a document. -/
def beginsAnyMark (text : Text) : Bool :=
  beginsMark (Text.of "---") text || beginsMark (Text.of "...") text

/-- What a line break stands for inside a scalar, together with the breaks of
the empty lines behind it: a lone line feed is a space, and a line feed before
empty lines is nothing. -/
def folded (first : CodePoint) (others : Text) : Text :=
  if first ≠ CodePoint.ofChar '\n' then first :: others
  else if others.isEmpty then Text.of " "
  else others

/-- Characters that separate the items of flow collections. -/
def isFlowMark (point : CodePoint) : Bool :=
  (Text.of ",[]\x7b\x7d").contains point

/-- Code points that may stand in a document. -/
def isAllowed (point : CodePoint) : Bool :=
  point = '\t' || point = '\n' || point = '\r' || (0x20 ≤ point.val && point.val ≤ 0x7E) ||
    point.val = 0x85 || (0xA0 ≤ point.val && point.val ≤ 0xD7FF) ||
    (0xE000 ≤ point.val && point.val ≤ 0xFFFD) || 0x10000 ≤ point.val

/-- The text with every line break of one or two characters written as a line feed. -/
def unifyBreaks : Text → Text
  | [] => []
  | point :: rest =>
    if point = '\r' then
      match rest with
      | next :: more =>
        if next = '\n' then '\n' :: unifyBreaks more else '\n' :: unifyBreaks (next :: more)
      | [] => ['\n']
    else point :: unifyBreaks rest

end Yaml

end Stencil
