import Stencil.Decimal

/-!
# Rounding to a format

The minus sign of a literal negates in a format of 28 digits.  A result with
more digits is rounded to the nearest decimal of the format, a tie going to the
even digit; one that is too large for the format overflows, and one that is too
small is rounded at the least exponent of the format.
-/

namespace Stencil

namespace Decimal

/-- A format: how many digits a decimal may have, and which exponents its
leading digit may have without loss of digits. -/
structure Format where
  /-- The greatest number of digits. -/
  precision : Nat
  /-- The greatest exponent of a leading digit. -/
  greatest : Int
  /-- The least exponent of a leading digit with all digits behind it. -/
  least : Int

/-- The least exponent that a decimal of a format may have. -/
def Format.tiny (format : Format) : Int :=
  format.least - (format.precision - 1)

/-- The format in which literals are negated. -/
def Format.working : Format :=
  ⟨28, 999999, -999999⟩

/-- The quotient by a positive number, rounded to the nearest integer and from
a tie to the even one. -/
def roundedQuotient (number divisor : Nat) : Nat :=
  let quotient := number / divisor
  let twice := 2 * (number % divisor)
  if twice < divisor then quotient
  else if divisor < twice then quotient + 1
  else quotient + quotient % 2

/-- The coefficient after a number of its last digits are rounded away; if
those are more digits than it has, nothing is left. -/
def dropDigits (decimal : Decimal) (count : Nat) : Nat :=
  if decimal.digitCount < count then 0
  else roundedQuotient decimal.coefficient (Nat.pow 10 count)

/-- The decimal rounded at an exponent, which changes nothing if the decimal's
own exponent is not below it. -/
def roundedAt (decimal : Decimal) (exponent : Int) : Decimal :=
  if exponent ≤ decimal.exponent then decimal
  else ⟨decimal.negative, decimal.dropDigits (exponent - decimal.exponent).toNat, exponent⟩

/-- Moves the exponent of a zero into the range of a format. -/
def Format.fitZero (format : Format) (decimal : Decimal) : Decimal :=
  { decimal with exponent := max format.tiny (min format.greatest decimal.exponent) }

/-- A carry can leave one digit too many, which is then a zero. -/
def Format.dropCarry (format : Format) (decimal : Decimal) : Decimal :=
  if format.precision < decimal.digitCount then
    { decimal with
      coefficient := decimal.coefficient / 10
      exponent := decimal.exponent + 1 }
  else decimal

/-- The decimal of a format that is nearest; none if it overflows. -/
def Format.fit? (format : Format) (decimal : Decimal) : Option Decimal :=
  if decimal.isZero then some (format.fitZero decimal)
  else if format.greatest < decimal.adjusted then none
  else if decimal.adjusted < format.least then some (decimal.roundedAt format.tiny)
  else
    let rounded :=
      format.dropCarry (decimal.roundedAt (decimal.adjusted - (format.precision - 1)))
    if format.greatest < rounded.adjusted then none else some rounded

/-- The negation in a format.  A negated zero has no sign. -/
def negate? (format : Format) (decimal : Decimal) : Option Decimal :=
  format.fit? { decimal with negative := !decimal.negative && !decimal.isZero }

end Decimal

end Stencil
