import Stencil.Decimal.Printer
import Stencil.Text.Quoted
import Stencil.Value

/-!
# Values as JSON text

Lists and tuples become arrays, maps become objects in the order of their
entries, and decimals become strings so that no digit is lost.  A value of another
sort has the text that it says itself, or none.  Only the double quote, the backslash
and controls below the space are escaped.
-/

namespace Stencil

namespace Json

/-- Why a value has no JSON text. -/
inductive Fault where
  /-- A value of a sort that has no text. -/
  | unsupportedValue (sort : String)
  /-- A key that is neither a text, a number, a truth value nor absent. -/
  | unsupportedKey (kind : String)
deriving DecidableEq, Repr

/-- The wording of a fault. -/
def Fault.message : Fault → Text
  | .unsupportedValue sort =>
    Text.of "Object of type " ++ Text.of sort ++ Text.of " is not JSON serializable"
  | .unsupportedKey kind =>
    Text.of "keys must be str, int, float, bool or None, not " ++ Text.of kind

/-- Where line breaks go. -/
inductive Layout where
  /-- Everything on one line. -/
  | compact
  /-- Each item on a line of its own, indented by a number of spaces per level. -/
  | indented (width : Nat)
deriving DecidableEq, Repr

/-- The line break before an item of a level, if there is one. -/
def Layout.lineBreak (layout : Layout) (level : Nat) : Text :=
  match layout with
  | .compact => []
  | .indented width => '\n' :: List.replicate (width * level) (CodePoint.ofChar ' ')

/-- What stands between two items of a level. -/
def Layout.separator (layout : Layout) (level : Nat) : Text :=
  match layout with
  | .compact => Text.of ", "
  | .indented _ => ',' :: layout.lineBreak level

/-- One code point of a string. -/
def escapePoint (point : CodePoint) : Text :=
  if point = '"' then Text.of "\\\""
  else if point = '\\' then Text.of "\\\\"
  else if point = '\n' then Text.of "\\n"
  else if point = '\r' then Text.of "\\r"
  else if point = '\t' then Text.of "\\t"
  else if point.val = 0x08 then Text.of "\\b"
  else if point.val = 0x0C then Text.of "\\f"
  else if point.val < 0x20 then Text.of "\\u" ++ Text.hexadecimal 4 point.val
  else [point]

/-- A text as a JSON string. -/
def string (content : Text) : Text :=
  Text.of "\"" ++ content.flatMap escapePoint ++ Text.of "\""

/-- The text that a key is written as. -/
def keyText : Value → Except Fault Text
  | .text content => .ok content
  | .boolean true => .ok (Text.of "true")
  | .boolean false => .ok (Text.of "false")
  | .null => .ok (Text.of "null")
  | .integer number => .ok (Text.ofInt number)
  | .decimal _ => .error (.unsupportedKey "Decimal")
  | .tuple _ => .error (.unsupportedKey "tuple")
  | .list _ => .error (.unsupportedKey "list")
  | .map _ => .error (.unsupportedKey "dict")
  | .foreign other =>
    match other.json? with
    | some text => .ok text
    | none => .error (.unsupportedKey other.sort)

/-- Items of a level between two brackets; an empty container has no line breaks. -/
def enclosed
    (layout : Layout)
    (level : Nat)
    (opening closing : String)
    (items : List Text) : Text :=
  if items.isEmpty then Text.of opening ++ Text.of closing
  else
    Text.of opening ++ layout.lineBreak (level + 1) ++
      Text.join (layout.separator (level + 1)) items ++
      layout.lineBreak level ++ Text.of closing

mutual

/-- The JSON text of a value at a nesting level. -/
def render (layout : Layout) (level : Nat) : Value → Except Fault Text
  | .null => .ok (Text.of "null")
  | .boolean true => .ok (Text.of "true")
  | .boolean false => .ok (Text.of "false")
  | .integer number => .ok (Text.ofInt number)
  | .decimal number => .ok (string number.toText)
  | .text content => .ok (string content)
  | .list items => (renderItems layout (level + 1) items).map (enclosed layout level "[" "]")
  | .tuple items => (renderItems layout (level + 1) items).map (enclosed layout level "[" "]")
  | .map entries =>
    (renderEntries layout (level + 1) entries).map (enclosed layout level "\x7b" "\x7d")
  | .foreign other =>
    match other.json? with
    | some text => .ok text
    | none => .error (.unsupportedValue other.sort)

/-- The JSON texts of the items of an array. -/
def renderItems (layout : Layout) (level : Nat) : List Value → Except Fault (List Text)
  | [] => .ok []
  | item :: rest => do
    let first ← render layout level item
    let others ← renderItems layout level rest
    return first :: others

/-- The JSON texts of the members of an object. -/
def renderEntries (layout : Layout) (level : Nat) :
    List (Value × Value) → Except Fault (List Text)
  | [] => .ok []
  | (key, value) :: rest => do
    let name ← keyText key
    let content ← render layout level value
    let others ← renderEntries layout level rest
    return (string name ++ Text.of ": " ++ content) :: others

end

/-- The JSON text of a value. -/
def write (layout : Layout) (value : Value) : Except Fault Text :=
  render layout 0 value

end Json

end Stencil
