import Stencil.Text

/-!
# Decimal numbers

A number of a template keeps the coefficient and the exponent it was written
with, so `1.50` and `1.5` are different decimals of one value.  Two decimals
are numerically equal when their canonical forms agree: zero has one canonical
form, and every other value the one whose coefficient does not end in zero.
-/

namespace Stencil

/-- The number `± coefficient · 10 ^ exponent`. -/
structure Decimal where
  /-- Whether a minus sign is shown; a zero may have one. -/
  negative : Bool
  /-- The digits, without leading zeros. -/
  coefficient : Nat
  /-- The power of ten. -/
  exponent : Int
deriving DecidableEq, Repr

namespace Decimal

/-- A natural number with exponent zero. -/
def ofNat (number : Nat) : Decimal :=
  ⟨false, number, 0⟩

/-- The number of digits that the coefficient is written with; zero has one. -/
def digitCount (decimal : Decimal) : Nat :=
  (Nat.toDigits 10 decimal.coefficient).length

/-- The exponent of the leading digit. -/
def adjusted (decimal : Decimal) : Int :=
  decimal.exponent + decimal.digitCount - 1

/-- Whether the value is zero. -/
def isZero (decimal : Decimal) : Bool :=
  decimal.coefficient = 0

/-- Removes at most the given number of trailing zeros from a coefficient, and
raises the exponent by as many. -/
def stripZeros : Nat → Nat → Int → Nat × Int
  | 0, coefficient, exponent => (coefficient, exponent)
  | count + 1, coefficient, exponent =>
    if coefficient % 10 = 0 then stripZeros count (coefficient / 10) (exponent + 1)
    else (coefficient, exponent)

/-- The representative of all decimals of the same value. -/
def canonical (decimal : Decimal) : Decimal :=
  if decimal.isZero then ⟨false, 0, 0⟩
  else
    let stripped := stripZeros decimal.digitCount decimal.coefficient decimal.exponent
    ⟨decimal.negative, stripped.1, stripped.2⟩

/-- Equality of values: `1.50` is `1.5`, `1E+2` is `100` and `-0` is `0`. -/
def numericallyEqual (left right : Decimal) : Bool :=
  left.canonical = right.canonical

@[simp] theorem numericallyEqual_iff
    {left right : Decimal} :
    left.numericallyEqual right = true ↔ left.canonical = right.canonical := by
  simp [numericallyEqual]

end Decimal

end Stencil
