/-!
# Text as a list of code points

A template is read one code point at a time, and a string literal may name a
surrogate by an escape, so text is a list of code points rather than a
`String`.  This module has the carrier, the conversion from `String` literals,
and the searches that the readers of this library are built from.
-/

namespace Stencil

/-- A code point, surrogates included. -/
abbrev CodePoint := Fin 0x110000

namespace CodePoint

/-- The code point of a character. -/
def ofChar (character : Char) : CodePoint :=
  ⟨character.toNat, by
    rcases character.valid with below | between
    · have : character.toNat < 0xD800 := below
      omega
    · exact between.2⟩

@[simp] theorem val_ofChar (character : Char) :
    (ofChar character).val = character.toNat :=
  rfl

instance : Coe Char CodePoint := ⟨ofChar⟩

/-- Surrogates are the code points that no character has. -/
def isSurrogate (point : CodePoint) : Bool :=
  0xD800 ≤ point.val && point.val ≤ 0xDFFF

/-- An ASCII decimal digit. -/
def isDigit (point : CodePoint) : Bool :=
  0x30 ≤ point.val && point.val ≤ 0x39

/-- An ASCII octal digit. -/
def isOctalDigit (point : CodePoint) : Bool :=
  0x30 ≤ point.val && point.val ≤ 0x37

/-- The value of an ASCII digit in base sixteen or less. -/
def digitValue (point : CodePoint) : Nat :=
  if point.val < 0x3A then point.val - 0x30
  else if point.val < 0x47 then point.val - 0x37
  else point.val - 0x57

/-- An ASCII hexadecimal digit of either case. -/
def isHexDigit (point : CodePoint) : Bool :=
  point.isDigit || (0x41 ≤ point.val && point.val ≤ 0x46) ||
    (0x61 ≤ point.val && point.val ≤ 0x66)

/-- The number of bytes of a code point in UTF-8.  A surrogate has no encoding, so the
number says something of texts without surrogates only; here a surrogate counts as the
three bytes that its generalised encoding has. -/
def utf8Width (point : CodePoint) : Nat :=
  if point.val < 0x80 then 1
  else if point.val < 0x800 then 2
  else if point.val < 0x10000 then 3
  else 4

theorem utf8Width_pos (point : CodePoint) : 0 < point.utf8Width := by
  unfold utf8Width
  repeat' split
  all_goals decide

end CodePoint

/-- A text is a list of code points. -/
abbrev Text := List CodePoint

namespace Text

/-- The text of a string. -/
def of (string : String) : Text :=
  string.toList.map CodePoint.ofChar

/-- The greatest number of decimal digits of an integer that is read or shown. -/
def digitLimit : Nat :=
  4300

/-- The decimal digits of a natural number. -/
def ofNat (number : Nat) : Text :=
  (Nat.toDigits 10 number).map CodePoint.ofChar

/-- The decimal digits of an integer, behind a minus sign if it is negative. -/
def ofInt : Int → Text
  | .ofNat number => ofNat number
  | .negSucc number => '-' :: ofNat (number + 1)

/-- The number of UTF-8 bytes of a text. -/
def utf8Width (text : Text) : Nat :=
  text.foldr (fun point total => point.utf8Width + total) 0

/-- The texts of a list with a separator between neighbours. -/
def join (separator : Text) (texts : List Text) : Text :=
  (texts.intersperse separator).flatten

/-- The value of a list of digits in a base. -/
def value (base : Nat) (digits : Text) : Nat :=
  digits.foldl (fun total digit => total * base + digit.digitValue) 0

theorem foldl_value_eq
    (base : Nat)
    (digits : Text)
    (start : Nat) :
    digits.foldl (fun total digit => total * base + digit.digitValue) start =
      start * Nat.pow base digits.length + value base digits := by
  induction digits generalizing start with
  | nil => simp [value]
  | cons digit digits hypothesis =>
    have power : Nat.pow base (digits.length + 1) = base * Nat.pow base digits.length :=
      Nat.mul_comm _ _
    rw [value, List.foldl_cons, List.foldl_cons, hypothesis, hypothesis (0 * base + _),
      List.length_cons, power]
    simp only [Nat.zero_mul, Nat.zero_add, Nat.add_mul, Nat.mul_assoc, Nat.add_assoc]

/-- Digits before other digits count as many powers of the base more. -/
theorem value_append
    (base : Nat)
    (front back : Text) :
    value base (front ++ back) =
      value base front * Nat.pow base back.length + value base back := by
  rw [value, List.foldl_append, foldl_value_eq]
  rfl

@[simp] theorem value_singleton
    (base : Nat)
    (digit : CodePoint) :
    value base [digit] = digit.digitValue := by
  simp [value]

/-- The text before and the text behind the first occurrence of a literal. -/
def splitFirst (literal : Text) : Text → Option (Text × Text)
  | [] => if literal.isEmpty then some ([], []) else none
  | point :: rest =>
    if literal.isPrefixOf (point :: rest) then
      some ([], (point :: rest).drop literal.length)
    else
      (splitFirst literal rest).map fun (before, after) => (point :: before, after)

/-- A text is what stands before a literal, the literal and what stands behind it. -/
theorem eq_of_splitFirst
    {literal text before after : Text}
    (found : splitFirst literal text = some (before, after)) :
    text = before ++ literal ++ after := by
  induction text generalizing before after with
  | nil =>
    simp only [splitFirst, Option.ite_none_right_eq_some, List.isEmpty_iff,
      Option.some.injEq, Prod.mk.injEq] at found
    obtain ⟨rfl, rfl, rfl⟩ := found
    rfl
  | cons point rest hypothesis =>
    rw [splitFirst] at found
    split at found
    · rename_i begins
      obtain ⟨tail, whole⟩ := List.isPrefixOf_iff_prefix.1 begins
      simp only [Option.some.injEq, Prod.mk.injEq] at found
      obtain ⟨rfl, rfl⟩ := found
      rw [← whole, List.drop_left, List.nil_append]
    · simp only [Option.map_eq_some_iff, Prod.exists, Prod.mk.injEq] at found
      obtain ⟨front, back, split, rfl, rfl⟩ := found
      rw [hypothesis split]
      rfl

/-- The longest initial part of a text in which no literal of the list begins. -/
def beforeAny (literals : List Text) : Text → Text
  | [] => []
  | point :: rest =>
    if literals.any fun literal => literal.isPrefixOf (point :: rest) then []
    else point :: beforeAny literals rest

/-- The part before some literals begins the text. -/
theorem beforeAny_append_drop (literals : List Text) (text : Text) :
    beforeAny literals text ++ text.drop (beforeAny literals text).length = text := by
  induction text with
  | nil => rfl
  | cons point rest hypothesis =>
    rw [beforeAny]
    split
    · rfl
    · rw [List.length_cons, List.drop_succ_cons, List.cons_append, hypothesis]

/-- What is left behind the longest initial part of some property. -/
theorem drop_takeWhile_length (property : CodePoint → Bool) (text : Text) :
    text.drop (text.takeWhile property).length = text.dropWhile property := by
  induction text with
  | nil => rfl
  | cons point rest hypothesis =>
    rw [List.takeWhile_cons, List.dropWhile_cons]
    split
    · rw [List.length_cons, List.drop_succ_cons, hypothesis]
    · rfl

/-- The number of line feeds of a text. -/
def newlines (text : Text) : Nat :=
  text.count (CodePoint.ofChar '\n')

/-- The text behind its last line feed. -/
def lastLine (text : Text) : Text :=
  (text.reverse.takeWhile (· ≠ CodePoint.ofChar '\n')).reverse

/-- Lexicographic comparison by code point. -/
def precedes : Text → Text → Bool
  | [], _ => true
  | _ :: _, [] => false
  | left :: lefts, right :: rights =>
    left < right || (left == right && precedes lefts rights)

/-- A set of words in alphabetical order. -/
def sorted (words : List Text) : List Text :=
  words.mergeSort precedes

end Text

end Stencil
