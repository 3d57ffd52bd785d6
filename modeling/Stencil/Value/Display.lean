import Stencil.Decimal.Printer
import Stencil.Text.Quoted
import Stencil.Value

/-!
# How messages show values

A message shows a value in its quoted form: texts in quotes, lists in brackets,
tuples in parentheses (a comma behind a single item) and maps in braces.  The
plain form differs for a text and a decimal on their own, which stand without
quotes.  An integer with too many digits is not shown, and neither is a value that
holds one.  A value of another sort shows as it says itself.
-/

namespace Stencil

namespace Value

/-- Items between two brackets. -/
def enclosed (opening closing : String) (items : List Text) : Text :=
  Text.of opening ++ Text.join (Text.of ", ") items ++ Text.of closing

mutual

/-- The quoted form of a value. -/
def quoted : Value → Text
  | .null => Text.of "None"
  | .boolean true => Text.of "True"
  | .boolean false => Text.of "False"
  | .integer number => Text.ofInt number
  | .decimal number => Text.of "Decimal(" ++ number.toText.quoted ++ Text.of ")"
  | .text content => content.quoted
  | .list items => enclosed "[" "]" (quotedItems items)
  | .tuple items =>
    enclosed "(" (if items.length = 1 then ",)" else ")") (quotedItems items)
  | .map entries => enclosed "\x7b" "\x7d" (quotedEntries entries)
  | .foreign other => other.quoted

/-- The quoted forms of the items of a sequence. -/
def quotedItems : List Value → List Text
  | [] => []
  | item :: rest => quoted item :: quotedItems rest

/-- The quoted forms of the entries of a map. -/
def quotedEntries : List (Value × Value) → List Text
  | [] => []
  | (key, value) :: rest =>
    (quoted key ++ Text.of ": " ++ quoted value) :: quotedEntries rest

end

mutual

/-- Whether a value can be shown: no integer in it has too many digits, and no value of
another sort refuses to be shown. -/
def isShowable : Value → Bool
  | .integer number => number.natAbs < Nat.pow 10 Text.digitLimit
  | .list items => areShowable items
  | .tuple items => areShowable items
  | .map entries => entriesAreShowable entries
  | .foreign other => other.isShowable
  | _ => true

/-- Whether the items of a sequence can be shown. -/
def areShowable : List Value → Bool
  | [] => true
  | item :: rest => isShowable item && areShowable rest

/-- Whether the entries of a map can be shown. -/
def entriesAreShowable : List (Value × Value) → Bool
  | [] => true
  | (key, value) :: rest => isShowable key && isShowable value && entriesAreShowable rest

end

/-- The plain form of a value. -/
def plain : Value → Text
  | .text content => content
  | .decimal number => number.toText
  | .foreign other => other.plain
  | value => value.quoted

end Value

end Stencil
