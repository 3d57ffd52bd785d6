import Stencil.Text.Ranges

/-!
# Blanks

The white space that separates tokens and may surround a closing delimiter.
-/

namespace Stencil

/-- Code points of white space. -/
def blankRanges : Ranges := [
  (0x9, 0xD), (0x1C, 0x20), (0x85, 0x85), (0xA0, 0xA0), (0x1680, 0x1680), (0x2000, 0x200A),
  (0x2028, 0x2029), (0x202F, 0x202F), (0x205F, 0x205F), (0x3000, 0x3000)]

theorem isAscending_blankRanges : blankRanges.isAscending = true := by
  decide

/-- White space. -/
def CodePoint.isBlank (point : CodePoint) : Bool :=
  blankRanges.contains point

theorem CodePoint.isBlank_iff {point : CodePoint} :
    point.isBlank = true ↔
      ∃ range ∈ blankRanges, range.1 ≤ point.val ∧ point.val ≤ range.2 :=
  Ranges.contains_iff isAscending_blankRanges point

namespace Text

/-- The text without the blanks it begins with. -/
def trimStart (text : Text) : Text :=
  text.dropWhile CodePoint.isBlank

/-- The text without the blanks it ends with. -/
def trimEnd (text : Text) : Text :=
  (text.reverse.dropWhile CodePoint.isBlank).reverse

/-- All code points are blanks; the empty text is blank. -/
def isBlank (text : Text) : Bool :=
  text.all CodePoint.isBlank

end Text

end Stencil
