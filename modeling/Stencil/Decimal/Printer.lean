import Stencil.Decimal

/-!
# Writing decimals

A decimal is written with all its digits.  The notation is plain if the
exponent is not positive and the leading digit is at most six places behind the
point, and scientific otherwise.
-/

namespace Stencil

namespace Decimal

/-- The least exponent of a leading digit that is written in plain notation. -/
def leastPlain : Int :=
  -6

/-- Whether a decimal is written in plain notation. -/
def isPlain (decimal : Decimal) : Bool :=
  decimal.exponent ≤ 0 && leastPlain ≤ decimal.adjusted

/-- Plain notation of digits of which the given number stand behind the point. -/
def plain (digits : Text) (places : Nat) : Text :=
  if places = 0 then digits
  else if places < digits.length then
    digits.take (digits.length - places) ++ Text.of "." ++ digits.drop (digits.length - places)
  else Text.of "0." ++ List.replicate (places - digits.length) (CodePoint.ofChar '0') ++ digits

/-- The exponent of scientific notation, with its sign always written. -/
def exponentMark (exponent : Int) : Text :=
  'E' :: if exponent < 0 then Text.ofInt exponent else '+' :: Text.ofInt exponent

/-- Scientific notation: one digit before the point, and no point behind a
single digit. -/
def scientific (digits : Text) (exponent : Int) : Text :=
  match digits with
  | [] => []
  | [digit] => digit :: exponentMark exponent
  | digit :: rest => digit :: '.' :: rest ++ exponentMark exponent

/-- The text of a decimal. -/
def toText (decimal : Decimal) : Text :=
  let digits := Text.ofNat decimal.coefficient
  let unsigned :=
    if decimal.isPlain then plain digits (-decimal.exponent).toNat
    else scientific digits decimal.adjusted
  if decimal.negative then '-' :: unsigned else unsigned

end Decimal

end Stencil
