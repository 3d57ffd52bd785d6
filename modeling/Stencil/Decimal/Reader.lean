import Stencil.Decimal

/-!
# Reading numbers

A decimal is read exactly, whatever the number of its digits, as long as its
exponents stay in the range that decimals have.  A numeral of a template is a
hexadecimal, an octal or a decimal one.
-/

namespace Stencil

namespace Decimal

/-- The greatest exponent that the leading digit of a decimal may have. -/
def greatestAdjusted : Int :=
  999999999999999999

/-- The least exponent that a decimal may have. -/
def leastExponent : Int :=
  -1999999999999999997

/-- The decimals that can be held.  The exponent of a zero is bounded as if it
were the exponent of a leading digit. -/
def isHeld (decimal : Decimal) : Bool :=
  decimal.adjusted ≤ greatestAdjusted && leastExponent ≤ decimal.exponent

/-- An optional sign; true stands for minus. -/
def readSign : Text → Bool × Text
  | [] => (false, [])
  | point :: rest =>
    if point = '-' then (true, rest)
    else if point = '+' then (false, rest)
    else (false, point :: rest)

/-- The digits behind a decimal point, if there is one. -/
def readFraction : Text → Text × Text
  | [] => ([], [])
  | point :: rest =>
    if point = '.' then (rest.takeWhile CodePoint.isDigit, rest.dropWhile CodePoint.isDigit)
    else ([], point :: rest)

/-- The exponent that ends a decimal: none is zero, and nothing may follow it. -/
def readExponent : Text → Option Int
  | [] => some 0
  | mark :: rest =>
    if mark = 'e' || mark = 'E' then
      let (negative, digits) := readSign rest
      if !digits.isEmpty && digits.all CodePoint.isDigit then
        let size : Int := Text.value 10 digits
        some (if negative then -size else size)
      else none
    else none

/-- The decimal of a sign, the digits before and behind the point, and an exponent. -/
def compose (negative : Bool) (whole fraction : Text) (exponent : Int) : Decimal :=
  ⟨negative, Text.value 10 (whole ++ fraction), exponent - fraction.length⟩

/-- Reads a decimal.  Nothing is read if the text is no decimal or if the
decimal cannot be held. -/
def read? (source : Text) : Option Decimal :=
  let (negative, unsigned) := readSign source
  let whole := unsigned.takeWhile CodePoint.isDigit
  let (fraction, rest) := readFraction (unsigned.dropWhile CodePoint.isDigit)
  if whole.isEmpty && fraction.isEmpty then none
  else
    match readExponent rest with
    | none => none
    | some exponent =>
      let decimal := compose negative whole fraction exponent
      if decimal.isHeld then some decimal else none

end Decimal

namespace Numeral

/-- The base that a numeral announces by its first two characters, if it is not ten. -/
def announcedBase : Text → Option Nat
  | zero :: mark :: _ =>
    if zero = '0' then
      if mark = 'x' || mark = 'X' then some 16
      else if mark = 'o' || mark = 'O' then some 8
      else none
    else none
  | _ => none

/-- The value of a numeral.  There is none if its exponents are out of range. -/
def value? (numeral : Text) : Option Decimal :=
  match announcedBase numeral with
  | some base => some (Decimal.ofNat (Text.value base (numeral.drop 2)))
  | none => Decimal.read? numeral

end Numeral

end Stencil
