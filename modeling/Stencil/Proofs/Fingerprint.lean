import Mathlib.Data.ZMod.Basic
import Stencil.Node.Fingerprint
import Stencil.Proofs.Equality

/-!
# Fingerprints of trees that are the same

A decimal and the decimal without its trailing zeros have one residue, since the residue of
a power of ten behaves as a power of ten does, with the inverse of ten for negative
exponents.  So a tree has the fingerprint of its canonical form, and trees that are the same
have one fingerprint.
-/

namespace Stencil

namespace Fingerprint

/-! ## Residues of powers -/

/-- Repeated squaring is the power, if there are enough binary digits for the exponent. -/
theorem cast_power
    {bits exponent : Nat}
    (bounded : exponent < 2 ^ bits)
    (base : Nat) :
    (power bits base exponent : ZMod modulus) = (base : ZMod modulus) ^ exponent := by
  induction bits generalizing base exponent with
  | zero =>
    obtain rfl : exponent = 0 := by simpa using bounded
    simp [power]
  | succ bits hypothesis =>
    rw [Nat.pow_succ] at bounded
    have half : (power bits (base * base % modulus) (exponent / 2) : ZMod modulus) =
        (base : ZMod modulus) ^ (2 * (exponent / 2)) := by
      rw [hypothesis (by omega), ZMod.natCast_mod, Nat.cast_mul, ← pow_two, ← pow_mul]
    by_cases even : exponent % 2 = 0
    · have whole : 2 * (exponent / 2) = exponent := by omega
      rw [power, if_pos even, half, whole]
    · have whole : 2 * (exponent / 2) + 1 = exponent := by omega
      rw [power, if_neg even, ZMod.natCast_mod, Nat.cast_mul, half, ← pow_succ, whole]

/-- The inverse of ten that negative exponents are powers of. -/
theorem ten_mul_inverse : (10 : ZMod modulus) * (power 61 10 (modulus - 2) : ZMod modulus) = 1 := by
  have evaluated : 10 * power 61 10 (modulus - 2) % modulus = 1 := by
    decide +kernel
  have cast := congrArg (Nat.cast : Nat → ZMod modulus) evaluated
  rwa [ZMod.natCast_mod, Nat.cast_mul, Nat.cast_ofNat, Nat.cast_one] at cast

theorem cast_powerOfTen_of_nonneg (exponent : Nat) :
    (powerOfTen exponent : ZMod modulus) = (10 : ZMod modulus) ^ exponent := by
  have notNegative : ¬ (exponent : Int) < 0 := by omega
  simp only [powerOfTen, if_neg notNegative, Int.natAbs_natCast]
  rw [cast_power Nat.lt_log2_self, Nat.cast_ofNat]

theorem cast_powerOfTen_of_neg (size : Nat) :
    (powerOfTen (-(size + 1 : Nat)) : ZMod modulus) =
      (power 61 10 (modulus - 2) : ZMod modulus) ^ (size + 1) := by
  have isNegative : (-(size + 1 : Nat) : Int) < 0 := by omega
  simp only [powerOfTen, if_pos isNegative, Int.natAbs_neg, Int.natAbs_natCast]
  rw [cast_power Nat.lt_log2_self]

/-- One more in the exponent is ten times as much. -/
theorem cast_powerOfTen_add_one (exponent : Int) :
    (powerOfTen (exponent + 1) : ZMod modulus) = 10 * powerOfTen exponent := by
  rcases exponent with size | size
  · have next : Int.ofNat size + 1 = (size + 1 : Nat) := by simp
    rw [next, cast_powerOfTen_of_nonneg, Int.ofNat_eq_natCast, cast_powerOfTen_of_nonneg, pow_succ,
      mul_comm]
  · rw [Int.negSucc_eq, ← Nat.cast_succ, cast_powerOfTen_of_neg, pow_succ', ← mul_assoc,
      ten_mul_inverse, one_mul]
    cases size with
    | zero =>
      have next : (-((0 : Nat).succ : Nat) : Int) + 1 = (0 : Nat) := by simp
      rw [next, cast_powerOfTen_of_nonneg, pow_zero, pow_zero]
    | succ size =>
      have next : (-((size + 1).succ : Nat) : Int) + 1 = -(size + 1 : Nat) := by
        push_cast
        ring
      rw [next, cast_powerOfTen_of_neg]

/-! ## Residues of decimals -/

/-- Decimals of one sign have one residue if their sizes agree modulo the prime. -/
theorem residue_congr
    {left right : Decimal}
    (sign : left.negative = right.negative)
    (size : (left.coefficient : ZMod modulus) * powerOfTen left.exponent =
      right.coefficient * powerOfTen right.exponent) :
    residue left = residue right := by
  have sizes : ((left.coefficient : Int) % modulus) * powerOfTen left.exponent % modulus =
      ((right.coefficient : Int) % modulus) * powerOfTen right.exponent % modulus := by
    refine (ZMod.intCast_eq_intCast_iff' _ _ modulus).1 ?_
    simpa using size
  simp only [residue, sizes, sign]

/-- Removing trailing zeros keeps the size modulo the prime. -/
theorem cast_stripZeros
    (count coefficient : Nat)
    (exponent : Int) :
    ((Decimal.stripZeros count coefficient exponent).1 : ZMod modulus) *
        powerOfTen (Decimal.stripZeros count coefficient exponent).2 =
      coefficient * powerOfTen exponent := by
  induction count generalizing coefficient exponent with
  | zero => rfl
  | succ count hypothesis =>
    rw [Decimal.stripZeros]
    split
    · rename_i trailing
      have whole : coefficient / 10 * 10 = coefficient := by omega
      calc
        _ = ((coefficient / 10 : Nat) : ZMod modulus) * powerOfTen (exponent + 1) :=
          hypothesis _ _
        _ = ((coefficient / 10 * 10 : Nat) : ZMod modulus) * powerOfTen exponent := by
          rw [cast_powerOfTen_add_one, ← mul_assoc, Nat.cast_mul, Nat.cast_ofNat]
        _ = coefficient * powerOfTen exponent := by rw [whole]
    · rfl

theorem residue_canonical (decimal : Decimal) : residue decimal.canonical = residue decimal := by
  unfold Decimal.canonical
  split
  · rename_i isZero
    have none : decimal.coefficient = 0 := by simpa [Decimal.isZero] using isZero
    simp [residue, none]
  · exact residue_congr rfl (cast_stripZeros _ _ _)

/-- Decimals of one value have one residue. -/
theorem residue_eq_of_numericallyEqual
    {left right : Decimal}
    (same : left.numericallyEqual right = true) :
    residue left = residue right := by
  rw [← residue_canonical left, Decimal.numericallyEqual_iff.1 same, residue_canonical]

/-! ## Fingerprints of trees -/

@[simp] theorem ofIdentifier_canonical (identifier : Identifier) :
    ofIdentifier identifier.canonical = ofIdentifier identifier :=
  rfl

@[simp] theorem ofVariable_canonical (path : Variable) :
    ofVariable path.canonical = ofVariable path := by
  simp [ofVariable, Variable.canonical, Variable.names, Function.comp_def]

@[simp] theorem ofReference_canonical (path : Reference) :
    ofReference path.canonical = ofReference path := by
  simp [ofReference, Reference.canonical]

@[simp] theorem ofLiteral_canonical (literal : Literal) :
    ofLiteral literal.canonical = ofLiteral literal := by
  cases literal <;> simp [ofLiteral, Literal.canonical, residue_canonical]

@[simp] theorem ofPattern_canonical (pattern : Pattern) :
    ofPattern pattern.canonical = ofPattern pattern := by
  cases pattern <;> simp [ofPattern, Pattern.canonical]

mutual

/-- A tree has the fingerprint of its canonical form. -/
theorem ofNode_canonical (node : Node) : ofNode node.canonical = ofNode node := by
  cases node with
  | apply _ callee argument =>
    simp only [Node.canonical, ofNode, ofNode_canonical callee, ofNode_canonical argument]
  | selection _ scrutinee alternatives =>
    simp only [Node.canonical, ofNode, ofNode_canonical scrutinee,
      ofAlternatives_canonical alternatives]
  | loop _ item source body otherwise =>
    simp only [Node.canonical, ofNode, ofIdentifier_canonical, ofReference_canonical,
      ofNode_canonical body, ofOptional_canonical otherwise]
  | binding _ name value body =>
    simp only [Node.canonical, ofNode, ofIdentifier_canonical, ofNode_canonical value,
      ofNode_canonical body]
  | inclusion _ key context =>
    simp only [Node.canonical, ofNode, ofOptional_canonical context]
  | sequence _ parts => simp only [Node.canonical, ofNode, ofParts_canonical parts]
  | _ => simp [Node.canonical, ofNode]

theorem ofOptional_canonical (node : Option Node) :
    ofOptional (Node.optionalCanonical node) = ofOptional node := by
  cases node with
  | none => rfl
  | some node => simp only [Node.optionalCanonical, ofOptional, ofNode_canonical node]

theorem ofParts_canonical (parts : List Node) :
    ofParts (Node.partsCanonical parts) = ofParts parts := by
  cases parts with
  | nil => rfl
  | cons part rest =>
    simp only [Node.partsCanonical, ofParts, ofNode_canonical part, ofParts_canonical rest]

theorem ofAlternatives_canonical (alternatives : List (Pattern × Node)) :
    ofAlternatives (Node.alternativesCanonical alternatives) = ofAlternatives alternatives := by
  cases alternatives with
  | nil => rfl
  | cons alternative rest =>
    obtain ⟨pattern, body⟩ := alternative
    simp only [Node.alternativesCanonical, ofAlternatives, ofPattern_canonical,
      ofNode_canonical body, ofAlternatives_canonical rest]

end

/-- Trees that are the same have one fingerprint. -/
theorem ofNode_eq_of_same
    {left right : Node}
    (same : left.same right = true) :
    ofNode left = ofNode right := by
  rw [← ofNode_canonical left, (Node.same_iff_canonical_eq _ _).1 same, ofNode_canonical]

end Fingerprint

end Stencil
