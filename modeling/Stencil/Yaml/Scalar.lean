import Stencil.Value
import Stencil.Yaml.Fault

/-!
# Scalars of YAML

A plain scalar is null, a truth value, an integer or a text, by its spelling; a
quoted scalar is always a text.  An integer may hold low lines, which count for
nothing; one that holds nothing else has no digit, which is a fault.
-/

namespace Stencil

namespace Yaml

/-- The spellings of null. -/
def nullSpellings : List Text :=
  [Text.of "~", Text.of "null", Text.of "Null", Text.of "NULL", []]

/-- The spellings of true. -/
def trueSpellings : List Text :=
  [Text.of "true", Text.of "True", Text.of "TRUE"]

/-- The spellings of false. -/
def falseSpellings : List Text :=
  [Text.of "false", Text.of "False", Text.of "FALSE"]

/-- The key that takes the entries of other mappings in. -/
def mergeSpelling : Text :=
  Text.of "<<"

/-- The spelling that is a text as a key and has no value elsewhere. -/
def defaultSpelling : Text :=
  Text.of "="

/-- A digit of a base, or the low line that may stand between digits. -/
def isDigitOf (base : Nat) (point : CodePoint) : Bool :=
  point = '_' || (point.isHexDigit && point.digitValue < base)

/-- The number of some digits and low lines, if the text is made of those. -/
def digits? (base : Nat) (digits : Text) : Option (Except Fault Nat) :=
  let significant := digits.filter fun point => point ≠ CodePoint.ofChar '_'
  if digits.isEmpty || !digits.all (isDigitOf base) then none
  else if significant.isEmpty then some (.error (.noDigits base))
  else if base = 10 && Text.digitLimit < significant.length then
    some (.error (.tooManyDigits significant.length))
  else some (.ok (Text.value base significant))

/-- An integer without its sign: binary, octal, hexadecimal or decimal. -/
def natural? : Text → Option (Except Fault Nat)
  | first :: mark :: digits =>
    if first = '0' && mark = 'b' then digits? 2 digits
    else if first = '0' && mark = 'o' then digits? 8 digits
    else if first = '0' && mark = 'x' then digits? 16 digits
    else digits? 10 (first :: mark :: digits)
  | digits => digits? 10 digits

/-- An integer that begins with a sign or a digit. -/
def integer? : Text → Option (Except Fault Int)
  | [] => none
  | point :: rest =>
    if point = '-' then (natural? rest).map fun read => read.map fun size => -(size : Int)
    else if point = '+' then (natural? rest).map fun read => read.map fun size => (size : Int)
    else if point.isDigit then
      (natural? (point :: rest)).map fun read => read.map fun size => (size : Int)
    else none

/-- The value of a plain scalar. -/
def ofPlain (text : Text) : Except Fault Value :=
  if text = mergeSpelling || text = defaultSpelling then .error .malformed
  else if nullSpellings.contains text then .ok .null
  else if trueSpellings.contains text then .ok (.boolean true)
  else if falseSpellings.contains text then .ok (.boolean false)
  else
    match integer? text with
    | some read => read.map Value.integer
    | none => .ok (.text text)

end Yaml

end Stencil
