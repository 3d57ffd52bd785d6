import Stencil.Text

/-!
# Strict UTF-8

Bytes are read one code point at a time.  Overlong forms, encoded surrogates,
numbers above the last code point and truncated sequences are refused, at the
first byte of the sequence.
-/

namespace Stencil

namespace Utf8

/-- The six payload bits of a continuation byte. -/
def continuation (byte : UInt8) : Option Nat :=
  if 0x80 ≤ byte.toNat ∧ byte.toNat ≤ 0xBF then some (byte.toNat - 0x80) else none

/-- A code point of the given range that is no surrogate. -/
def scalar (low : Nat) (number : Nat) : Option CodePoint :=
  if bound : number < 0x110000 then
    if number < low ∨ (0xD800 ≤ number ∧ number ≤ 0xDFFF) then none
    else some ⟨number, bound⟩
  else none

/-- The code point that a byte sequence begins with, and the bytes behind it. -/
def first : List UInt8 → Option (CodePoint × List UInt8)
  | [] => none
  | lead :: bytes => do
    if lead.toNat < 0x80 then
      let point ← scalar 0 lead.toNat
      return (point, bytes)
    else if lead.toNat < 0xC0 then none
    else if lead.toNat < 0xE0 then
      match bytes with
      | second :: rest =>
        let low ← continuation second
        let point ← scalar 0x80 ((lead.toNat - 0xC0) * 0x40 + low)
        return (point, rest)
      | _ => none
    else if lead.toNat < 0xF0 then
      match bytes with
      | second :: third :: rest =>
        let middle ← continuation second
        let low ← continuation third
        let point ← scalar 0x800 (((lead.toNat - 0xE0) * 0x40 + middle) * 0x40 + low)
        return (point, rest)
      | _ => none
    else if lead.toNat < 0xF8 then
      match bytes with
      | second :: third :: fourth :: rest =>
        let high ← continuation second
        let middle ← continuation third
        let low ← continuation fourth
        let point ← scalar 0x10000
          ((((lead.toNat - 0xF0) * 0x40 + high) * 0x40 + middle) * 0x40 + low)
        return (point, rest)
      | _ => none
    else none

/-- A code point takes at least one byte. -/
theorem first_shorter
    {bytes rest : List UInt8}
    {point : CodePoint}
    (found : first bytes = some (point, rest)) :
    rest.length < bytes.length := by
  unfold first at found
  split at found
  · simp at found
  · simp only [Option.bind_eq_bind, Option.pure_def] at found
    repeat' split at found
    all_goals
      simp only [Option.bind_eq_some_iff, Option.some.injEq, Prod.mk.injEq, reduceCtorEq] at found
    all_goals grind

/-- The text of a byte sequence, or the number of bytes before the first
sequence that is no code point. -/
def decode (bytes : List UInt8) : Except Nat Text :=
  go 0 bytes
where
  /-- Decoding behind a number of bytes that are already read. -/
  go (start : Nat) (bytes : List UInt8) : Except Nat Text :=
    if bytes.isEmpty then .ok []
    else
      match found : first bytes with
      | none => .error start
      | some (point, rest) =>
        have : rest.length < bytes.length := first_shorter found
        match go (start + point.utf8Width) rest with
        | .ok text => .ok (point :: text)
        | .error offset => .error offset
  termination_by bytes.length

/-- The bytes of a code point, a surrogate by the same three-byte scheme. -/
def encodePoint (point : CodePoint) : List UInt8 :=
  if point.val < 0x80 then [point.val.toUInt8]
  else if point.val < 0x800 then
    [(0xC0 + point.val / 0x40).toUInt8, (0x80 + point.val % 0x40).toUInt8]
  else if point.val < 0x10000 then
    [(0xE0 + point.val / 0x1000).toUInt8, (0x80 + point.val / 0x40 % 0x40).toUInt8,
      (0x80 + point.val % 0x40).toUInt8]
  else
    [(0xF0 + point.val / 0x40000).toUInt8, (0x80 + point.val / 0x1000 % 0x40).toUInt8,
      (0x80 + point.val / 0x40 % 0x40).toUInt8, (0x80 + point.val % 0x40).toUInt8]

/-- The bytes of a text. -/
def encode (text : Text) : List UInt8 :=
  text.flatMap encodePoint

/-- Whether a text has an encoding: no code point of it is a surrogate. -/
def isEncodable (text : Text) : Bool :=
  text.all fun point => !point.isSurrogate

end Utf8

end Stencil
