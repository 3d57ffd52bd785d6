import Stencil.Node

/-!
# Fingerprints

A fingerprint forgets positions and constructors and keeps the nesting of the
fields.  A number counts by its residue modulo a prime, so that numbers of one
value agree however they are written; truth values count as zero and one, and
the empty text as zero.  Trees that are the same have the same fingerprint.
-/

namespace Stencil

/-- One mark of a fingerprint. -/
inductive Mark where
  /-- The residue of a number. -/
  | number (residue : Int)
  /-- A text that is not empty. -/
  | text (content : Text)
  /-- An absent field. -/
  | absent
  /-- The begin of a group of fields. -/
  | opening
  /-- The end of a group of fields. -/
  | closing
deriving DecidableEq, Repr

/-- A fingerprint, as the marks of a bracketed listing. -/
abbrev Fingerprint := List Mark

namespace Fingerprint

/-- The prime `2 ^ 61 - 1`. -/
def modulus : Nat :=
  2305843009213693951

/-- The power of a base modulo the prime, with an exponent of at most the given
number of binary digits. -/
def power : Nat → Nat → Nat → Nat
  | 0, _, _ => 1
  | bits + 1, base, exponent =>
    let rest := power bits (base * base % modulus) (exponent / 2)
    if exponent % 2 = 0 then rest else rest * base % modulus

/-- The residue of a power of ten, which for a negative exponent is a power of
the inverse of ten. -/
def powerOfTen (exponent : Int) : Nat :=
  let size := exponent.natAbs
  let base := if exponent < 0 then power 61 10 (modulus - 2) else 10
  power (size.log2 + 1) base size

/-- The residue of a decimal with its sign; minus one is set to minus two. -/
def residue (decimal : Decimal) : Int :=
  let size : Int := (decimal.coefficient % modulus) * powerOfTen decimal.exponent % modulus
  let signed := if decimal.negative then -size else size
  if signed = -1 then -2 else signed

/-- Fields as one group. -/
def group (fields : List Fingerprint) : Fingerprint :=
  .opening :: fields.flatten ++ [.closing]

/-- The fingerprint of a text. -/
def ofText (content : Text) : Fingerprint :=
  if content.isEmpty then [.number 0] else [.text content]

/-- The fingerprint of a name. -/
def ofIdentifier (identifier : Identifier) : Fingerprint :=
  group [ofText identifier.name]

/-- The fingerprint of a path. -/
def ofVariable (path : Variable) : Fingerprint :=
  group [group (path.names.map ofIdentifier)]

/-- The fingerprint of a reference. -/
def ofReference (path : Reference) : Fingerprint :=
  group [ofVariable path.toVariable]

/-- The fingerprint of a literal. -/
def ofLiteral : Literal → Fingerprint
  | .boolean flag => group [[.number flag.toNat]]
  | .number value => group [[.number (residue value)]]
  | .text content => group [ofText content]

/-- The fingerprint of a pattern. -/
def ofPattern : Pattern → Fingerprint
  | .wildcard => group []
  | .path path => group [ofVariable path]
  | .literal literal => group [ofLiteral literal]
  | .bare literal => ofLiteral literal

mutual

/-- The fingerprint of a tree. -/
def ofNode : Node → Fingerprint
  | .text _ content => group [ofText content]
  | .literal _ literal => group [ofLiteral literal]
  | .reference path => ofReference path
  | .function _ name => group [ofIdentifier name]
  | .apply _ function argument => group [ofNode function, ofNode argument]
  | .selection _ scrutinee alternatives =>
    group [ofNode scrutinee, group (ofAlternatives alternatives)]
  | .loop _ item source body otherwise =>
    group [ofIdentifier item, ofReference source, ofNode body, ofOptional otherwise]
  | .binding _ name value body => group [ofIdentifier name, ofNode value, ofNode body]
  | .inclusion _ key context => group [ofText key, ofOptional context]
  | .sequence _ parts => group [group (ofParts parts)]
  | .bare _ => group []

/-- The fingerprint of an optional tree. -/
def ofOptional : Option Node → Fingerprint
  | none => [.absent]
  | some node => ofNode node

/-- The fingerprints of a list of trees. -/
def ofParts : List Node → List Fingerprint
  | [] => []
  | part :: rest => ofNode part :: ofParts rest

/-- The fingerprints of a list of alternatives. -/
def ofAlternatives : List (Pattern × Node) → List Fingerprint
  | [] => []
  | (pattern, body) :: rest => group [ofPattern pattern, ofNode body] :: ofAlternatives rest

end

end Fingerprint

end Stencil
