import Stencil.Decimal

/-!
# Dynamic values

Settings files and reports are made of values whose shape is not known in
advance: scalars, sequences of two kinds and maps that keep the order in which
their keys first came.  Two keys are one key when they are equal as values, and
truth values count as the numbers zero and one there.  Of a value of any other sort
only what the program asks for is known: how it counts and how it shows.
-/

namespace Stencil

/-- A value of another sort: a fraction in binary digits, a date, bytes, a set or any
other object. -/
structure Foreign where
  /-- What its sort is called. -/
  sort : String := "object"
  /-- Whether it holds nothing. -/
  holdsNothing : Bool := false
  /-- Whether it can be shown. -/
  isShowable : Bool := true
  /-- Its plain form. -/
  plain : Text := Text.of "<object>"
  /-- Its quoted form. -/
  quoted : Text := Text.of "<object>"
  /-- Its JSON text, if it has one. -/
  json? : Option Text := none
deriving DecidableEq, Repr

/-- A value of a settings file or of a report. -/
inductive Value where
  /-- The absent value. -/
  | null
  /-- A truth value. -/
  | boolean (flag : Bool)
  /-- An integer. -/
  | integer (number : Int)
  /-- A decimal number. -/
  | decimal (number : Decimal)
  /-- A text. -/
  | text (content : Text)
  /-- A list. -/
  | list (items : List Value)
  /-- A tuple, which shows as parenthesised items. -/
  | tuple (items : List Value)
  /-- A map, in the order of its keys. -/
  | map (entries : List (Value × Value))
  /-- A value of another sort. -/
  | foreign (other : Foreign)
deriving Repr

namespace Value

/-- The number that a scalar counts as in a comparison of keys. -/
def number? : Value → Option Decimal
  | .boolean flag => some (.ofNat flag.toNat)
  | .integer number => some ⟨number < 0, number.natAbs, 0⟩
  | .decimal number => some number
  | _ => none

mutual

/-- Equality of two keys of a map; a value of another sort is no text, and no other
question is asked of it. -/
def sameKey : Value → Value → Bool
  | .null, .null => true
  | .text left, .text right => left == right
  | .tuple left, .tuple right => sameKeys left right
  | left, right =>
    match left.number?, right.number? with
    | some left, some right => left.numericallyEqual right
    | _, _ => false

/-- Equality of two keys item by item. -/
def sameKeys : List Value → List Value → Bool
  | [], [] => true
  | left :: lefts, right :: rights => sameKey left right && sameKeys lefts rights
  | _, _ => false

end

/-- Entries with the value of a key replaced, or with a new key at the end. -/
def put (key value : Value) : List (Value × Value) → List (Value × Value)
  | [] => [(key, value)]
  | (known, old) :: rest =>
    if sameKey known key then (known, value) :: rest
    else (known, old) :: put key value rest

/-- The map of a list of entries; of two entries with one key the first gives
the place and the last the value. -/
def ofEntries (entries : List (Value × Value)) : Value :=
  .map (entries.foldl (fun known entry => put entry.1 entry.2 known) [])

/-- The value of a text key. -/
def lookup (key : Text) : List (Value × Value) → Option Value
  | [] => none
  | (known, value) :: rest =>
    if sameKey known (.text key) then some value else lookup key rest

/-- Absent, false, zero and empty values hold nothing. -/
def holdsNothing : Value → Bool
  | .null => true
  | .boolean flag => !flag
  | .integer number => number = 0
  | .decimal number => number.isZero
  | .text content => content.isEmpty
  | .list items => items.isEmpty
  | .tuple items => items.isEmpty
  | .map entries => entries.isEmpty
  | .foreign other => other.holdsNothing

end Value

end Stencil
