import Stencil.Text

/-!
# Positions

A position names a source and a place in it.  Lines and columns count from one,
columns in code points, and the offset counts UTF-8 bytes from zero.  Line zero
marks what stands nowhere in a source.
-/

namespace Stencil

/-- A place in a named source. -/
structure Position where
  /-- The name of the source. -/
  name : Text
  /-- The line, from one. -/
  line : Nat
  /-- The column in code points, from one. -/
  column : Nat
  /-- The number of UTF-8 bytes before the place. -/
  offset : Nat
deriving DecidableEq, Repr

namespace Position

/-- The position of something that no source text stands for. -/
def synthetic (label : Text) : Position :=
  ⟨label, 0, 0, 0⟩

/-- Whether no source text stands for what has this position. -/
def isSynthetic (position : Position) : Bool :=
  position.line = 0

@[simp] theorem isSynthetic_synthetic (label : Text) :
    (synthetic label).isSynthetic = true :=
  rfl

/-- Name, line and column, as diagnostics show them. -/
def toText (position : Position) : Text :=
  position.name ++ Text.of ":" ++ Text.ofNat position.line ++ Text.of ":" ++
    Text.ofNat position.column

end Position

end Stencil
