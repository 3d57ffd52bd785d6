import Stencil.Text

/-!
# Faults of YAML

Most texts that cannot be read are malformed: they break a rule of the notation,
or a rule on keys and documents.  A few well-formed texts name something that
there is not, and these faults are told apart.
-/

namespace Stencil

namespace Yaml

/-- Why a text has no value. -/
inductive Fault where
  /-- The text breaks a rule of the notation. -/
  | malformed
  /-- An integer of a base has no digit. -/
  | noDigits (base : Nat)
  /-- A decimal integer has too many digits. -/
  | tooManyDigits (count : Nat)
  /-- An escape names a number above the last code point. -/
  | noCodePoint (number : Nat)
  /-- A key holds a list. -/
  | listInKey
  /-- A key holds a map. -/
  | mapInKey
deriving DecidableEq, Repr

/-- How the wording of a fault begins that lies in the number of digits. -/
def exceedsLimit : Text :=
  Text.of "Exceeds the limit (" ++ Text.ofNat Text.digitLimit ++
    Text.of " digits) for integer string conversion"

/-- How the wording of such a fault ends. -/
def limitHint : Text :=
  Text.of "; use sys.set_int_max_str_digits() to increase the limit"

/-- The wording of a fault. -/
def Fault.message : Fault → Text
  | .malformed => Text.of "Invalid YAML"
  | .noDigits base =>
    Text.of "invalid literal for int() with base " ++ Text.ofNat base ++ Text.of ": ''"
  | .tooManyDigits count =>
    exceedsLimit ++ Text.of ": value has " ++ Text.ofNat count ++ Text.of " digits" ++ limitHint
  | .noCodePoint _ => Text.of "chr() arg not in range(0x110000)"
  | .listInKey => Text.of "unhashable type: 'list'"
  | .mapInKey => Text.of "unhashable type: 'dict'"

end Yaml

end Stencil
