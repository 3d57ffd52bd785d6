import Stencil.Text.Utf8

/-!
# Bytes that encode text

The decoder reads a code point exactly where its bytes stand, surrogates excepted.
So it reads the texts without surrogates from their bytes, and it fails on all
other bytes, behind the longest text that they begin with.
-/

namespace Stencil

namespace Utf8

/-! ## Single bytes -/

theorem eq_toUInt8_iff
    {byte : UInt8}
    {number : Nat}
    (small : number < 0x100) :
    byte = number.toUInt8 ↔ byte.toNat = number := by
  rw [← UInt8.toNat_inj]
  have back : number.toUInt8.toNat = number := Nat.mod_eq_of_lt small
  rw [back]

theorem toNat_toUInt8
    {number : Nat}
    (small : number < 0x100) :
    number.toUInt8.toNat = number :=
  Nat.mod_eq_of_lt small

theorem continuation_eq_some_iff
    {byte : UInt8}
    {payload : Nat} :
    continuation byte = some payload ↔ byte.toNat = 0x80 + payload ∧ payload < 0x40 := by
  simp only [continuation, Option.ite_none_right_eq_some, Option.some.injEq]
  omega

theorem continuation_toUInt8
    {payload : Nat}
    (small : payload < 0x40) :
    continuation (0x80 + payload).toUInt8 = some payload :=
  continuation_eq_some_iff.2 ⟨toNat_toUInt8 (by omega), small⟩

theorem scalar_eq_some_iff
    {low number : Nat}
    {point : CodePoint} :
    scalar low number = some point ↔
      point.val = number ∧ low ≤ number ∧ point.isSurrogate = false := by
  have bound := point.isLt
  unfold scalar
  split
  · rename_i within
    simp only [Option.ite_none_left_eq_some, Option.some.injEq, CodePoint.isSurrogate,
      Bool.and_eq_false_iff, decide_eq_false_iff_not, Fin.ext_iff]
    constructor
    · rintro ⟨allowed, same⟩
      omega
    · rintro ⟨same, above, noSurrogate⟩
      omega
  · simp only [reduceCtorEq, false_iff]
    omega

/-! ## Single code points -/

theorem encodePoint_of_one
    {point : CodePoint}
    (small : point.val < 0x80) :
    encodePoint point = [point.val.toUInt8] := by
  rw [encodePoint, if_pos small]

theorem encodePoint_of_two
    {point : CodePoint}
    {high low : Nat}
    (value : point.val = high * 0x40 + low)
    (payload : low < 0x40)
    (range : 0x80 ≤ point.val ∧ point.val < 0x800) :
    encodePoint point = [(0xC0 + high).toUInt8, (0x80 + low).toUInt8] := by
  have front : point.val / 0x40 = high := by omega
  have back : point.val % 0x40 = low := by omega
  rw [encodePoint, if_neg (by omega), if_pos range.2, front, back]

theorem encodePoint_of_three
    {point : CodePoint}
    {high middle low : Nat}
    (value : point.val = (high * 0x40 + middle) * 0x40 + low)
    (payload : middle < 0x40 ∧ low < 0x40)
    (range : 0x800 ≤ point.val ∧ point.val < 0x10000) :
    encodePoint point =
      [(0xE0 + high).toUInt8, (0x80 + middle).toUInt8, (0x80 + low).toUInt8] := by
  have front : point.val / 0x1000 = high := by omega
  have between : point.val / 0x40 % 0x40 = middle := by omega
  have back : point.val % 0x40 = low := by omega
  rw [encodePoint, if_neg (by omega), if_neg (by omega), if_pos range.2, front, between, back]

theorem encodePoint_of_four
    {point : CodePoint}
    {top high middle low : Nat}
    (value : point.val = ((top * 0x40 + high) * 0x40 + middle) * 0x40 + low)
    (payload : high < 0x40 ∧ middle < 0x40 ∧ low < 0x40)
    (range : 0x10000 ≤ point.val) :
    encodePoint point =
      [(0xF0 + top).toUInt8, (0x80 + high).toUInt8, (0x80 + middle).toUInt8,
        (0x80 + low).toUInt8] := by
  have front : point.val / 0x40000 = top := by omega
  have second : point.val / 0x1000 % 0x40 = high := by omega
  have third : point.val / 0x40 % 0x40 = middle := by omega
  have back : point.val % 0x40 = low := by omega
  rw [encodePoint, if_neg (by omega), if_neg (by omega), if_neg (by omega), front, second, third,
    back]

/-- What is read from bytes stands there, and it is no surrogate. -/
theorem eq_append_of_first
    {bytes rest : List UInt8}
    {point : CodePoint}
    (found : first bytes = some (point, rest)) :
    bytes = encodePoint point ++ rest ∧ point.isSurrogate = false := by
  unfold first at found
  split at found
  · cases found
  rename_i lead others
  simp only [Option.bind_eq_bind, Option.pure_def] at found
  split at found
  · rename_i single
    simp only [Option.bind_eq_some_iff, Option.some.injEq, Prod.mk.injEq] at found
    obtain ⟨point, value, rfl, rfl⟩ := found
    obtain ⟨value, _, noSurrogate⟩ := scalar_eq_some_iff.1 value
    have same : lead = point.val.toUInt8 := (eq_toUInt8_iff (by omega)).2 value.symm
    rw [encodePoint_of_one (by omega), same]
    exact ⟨rfl, noSurrogate⟩
  split at found
  · cases found
  split at found
  · rename_i above below
    split at found
    · rename_i second behind
      simp only [Option.bind_eq_some_iff, Option.some.injEq, Prod.mk.injEq] at found
      obtain ⟨low, payload, point, value, rfl, rfl⟩ := found
      obtain ⟨payload, low_lt⟩ := continuation_eq_some_iff.1 payload
      obtain ⟨value, range, noSurrogate⟩ := scalar_eq_some_iff.1 value
      have first : lead = (0xC0 + (lead.toNat - 0xC0)).toUInt8 :=
        (eq_toUInt8_iff (by omega)).2 (by omega)
      have last : second = (0x80 + low).toUInt8 := (eq_toUInt8_iff (by omega)).2 payload
      rw [encodePoint_of_two value low_lt (by omega), ← first, ← last]
      exact ⟨rfl, noSurrogate⟩
    · cases found
  split at found
  · rename_i below
    split at found
    · rename_i second third behind
      simp only [Option.bind_eq_some_iff, Option.some.injEq, Prod.mk.injEq] at found
      obtain ⟨middle, payload, low, payload', point, value, rfl, rfl⟩ := found
      obtain ⟨payload, middle_lt⟩ := continuation_eq_some_iff.1 payload
      obtain ⟨payload', low_lt⟩ := continuation_eq_some_iff.1 payload'
      obtain ⟨value, range, noSurrogate⟩ := scalar_eq_some_iff.1 value
      have first : lead = (0xE0 + (lead.toNat - 0xE0)).toUInt8 :=
        (eq_toUInt8_iff (by omega)).2 (by omega)
      have next : second = (0x80 + middle).toUInt8 := (eq_toUInt8_iff (by omega)).2 payload
      have last : third = (0x80 + low).toUInt8 := (eq_toUInt8_iff (by omega)).2 payload'
      rw [encodePoint_of_three value ⟨middle_lt, low_lt⟩ (by omega), ← first, ← next, ← last]
      exact ⟨rfl, noSurrogate⟩
    · cases found
  split at found
  · rename_i below
    split at found
    · rename_i second third fourth behind
      simp only [Option.bind_eq_some_iff, Option.some.injEq, Prod.mk.injEq] at found
      obtain ⟨high, payload, middle, payload', low, payload'', point, value, rfl, rfl⟩ := found
      obtain ⟨payload, high_lt⟩ := continuation_eq_some_iff.1 payload
      obtain ⟨payload', middle_lt⟩ := continuation_eq_some_iff.1 payload'
      obtain ⟨payload'', low_lt⟩ := continuation_eq_some_iff.1 payload''
      obtain ⟨value, range, noSurrogate⟩ := scalar_eq_some_iff.1 value
      have first : lead = (0xF0 + (lead.toNat - 0xF0)).toUInt8 :=
        (eq_toUInt8_iff (by omega)).2 (by omega)
      have next : second = (0x80 + high).toUInt8 := (eq_toUInt8_iff (by omega)).2 payload
      have further : third = (0x80 + middle).toUInt8 := (eq_toUInt8_iff (by omega)).2 payload'
      have last : fourth = (0x80 + low).toUInt8 := (eq_toUInt8_iff (by omega)).2 payload''
      rw [encodePoint_of_four value ⟨high_lt, middle_lt, low_lt⟩ (by omega), ← first, ← next,
        ← further, ← last]
      exact ⟨rfl, noSurrogate⟩
    · cases found
  · cases found

/-- A code point that is no surrogate is read from its bytes. -/
theorem first_encodePoint_append
    {point : CodePoint}
    (noSurrogate : point.isSurrogate = false)
    (rest : List UInt8) :
    first (encodePoint point ++ rest) = some (point, rest) := by
  have bound := point.isLt
  by_cases one : point.val < 0x80
  · have value : scalar 0 point.val = some point :=
      scalar_eq_some_iff.2 ⟨rfl, Nat.zero_le _, noSurrogate⟩
    rw [encodePoint_of_one one]
    simp [first, toNat_toUInt8 (show point.val < 0x100 by omega), one, value]
  by_cases two : point.val < 0x800
  · obtain ⟨high, low, whole, payload⟩ : ∃ high low, point.val = high * 0x40 + low ∧ low < 0x40 :=
      ⟨point.val / 0x40, point.val % 0x40, by omega, by omega⟩
    have lead : (0xC0 + high).toUInt8.toNat = 0xC0 + high := toNat_toUInt8 (by omega)
    have value : scalar 0x80 (high * 0x40 + low) = some point :=
      scalar_eq_some_iff.2 ⟨whole, by omega, noSurrogate⟩
    rw [encodePoint_of_two whole payload (by omega)]
    simp only [first, List.cons_append, List.nil_append, lead,
      show ¬ 0xC0 + high < 0x80 by omega, show ¬ 0xC0 + high < 0xC0 by omega,
      show 0xC0 + high < 0xE0 by omega, if_true, if_false, Nat.add_sub_cancel_left,
      continuation_toUInt8 payload, Option.bind_eq_bind, Option.bind_some, value]
    rfl
  by_cases three : point.val < 0x10000
  · obtain ⟨high, middle, low, whole, payload⟩ : ∃ high middle low,
        point.val = (high * 0x40 + middle) * 0x40 + low ∧ middle < 0x40 ∧ low < 0x40 :=
      ⟨point.val / 0x1000, point.val / 0x40 % 0x40, point.val % 0x40, by omega, by omega⟩
    have lead : (0xE0 + high).toUInt8.toNat = 0xE0 + high := toNat_toUInt8 (by omega)
    have value : scalar 0x800 ((high * 0x40 + middle) * 0x40 + low) = some point :=
      scalar_eq_some_iff.2 ⟨whole, by omega, noSurrogate⟩
    rw [encodePoint_of_three whole payload (by omega)]
    simp only [first, List.cons_append, List.nil_append, lead,
      show ¬ 0xE0 + high < 0x80 by omega, show ¬ 0xE0 + high < 0xC0 by omega,
      show ¬ 0xE0 + high < 0xE0 by omega, show 0xE0 + high < 0xF0 by omega, if_true, if_false,
      Nat.add_sub_cancel_left, continuation_toUInt8 payload.1, continuation_toUInt8 payload.2,
      Option.bind_eq_bind, Option.bind_some, value]
    rfl
  · obtain ⟨top, high, middle, low, whole, payload⟩ : ∃ top high middle low,
        point.val = ((top * 0x40 + high) * 0x40 + middle) * 0x40 + low ∧
          high < 0x40 ∧ middle < 0x40 ∧ low < 0x40 :=
      ⟨point.val / 0x40000, point.val / 0x1000 % 0x40, point.val / 0x40 % 0x40,
        point.val % 0x40, by omega, by omega⟩
    have lead : (0xF0 + top).toUInt8.toNat = 0xF0 + top := toNat_toUInt8 (by omega)
    have value : scalar 0x10000 (((top * 0x40 + high) * 0x40 + middle) * 0x40 + low) =
        some point :=
      scalar_eq_some_iff.2 ⟨whole, by omega, noSurrogate⟩
    rw [encodePoint_of_four whole payload (by omega)]
    simp only [first, List.cons_append, List.nil_append, lead,
      show ¬ 0xF0 + top < 0x80 by omega, show ¬ 0xF0 + top < 0xC0 by omega,
      show ¬ 0xF0 + top < 0xE0 by omega, show ¬ 0xF0 + top < 0xF0 by omega,
      show 0xF0 + top < 0xF8 by omega, if_true, if_false, Nat.add_sub_cancel_left,
      continuation_toUInt8 payload.1, continuation_toUInt8 payload.2.1,
      continuation_toUInt8 payload.2.2, Option.bind_eq_bind, Option.bind_some, value]
    rfl

/-- A code point is read exactly where its bytes stand, surrogates excepted. -/
theorem first_eq_some_iff
    {bytes rest : List UInt8}
    {point : CodePoint} :
    first bytes = some (point, rest) ↔
      bytes = encodePoint point ++ rest ∧ point.isSurrogate = false := by
  constructor
  · exact eq_append_of_first
  · rintro ⟨rfl, noSurrogate⟩
    exact first_encodePoint_append noSurrogate rest

theorem length_encodePoint (point : CodePoint) :
    (encodePoint point).length = point.utf8Width := by
  unfold encodePoint CodePoint.utf8Width
  split
  · rfl
  · split
    · rfl
    · split <;> rfl

/-! ## Texts -/

theorem length_encode (text : Text) : (encode text).length = text.utf8Width := by
  induction text with
  | nil => rfl
  | cons point text hypothesis =>
    rw [encode, List.flatMap_cons, List.length_append, length_encodePoint]
    exact congrArg _ hypothesis

/-- Bytes are the ones of a text without surrogates. -/
structure Encodes (text : Text) (bytes : List UInt8) : Prop where
  /-- They are the bytes of the text. -/
  whole : bytes = encode text
  /-- No surrogate has bytes. -/
  noSurrogate : ∀ point ∈ text, point.isSurrogate = false

/-- Bytes go on with no code point behind the bytes of a text. -/
structure Breaks (bytes : List UInt8) (text : Text) (rest : List UInt8) : Prop where
  /-- The bytes of the text stand first. -/
  whole : bytes = encode text ++ rest
  /-- No surrogate has bytes. -/
  noSurrogate : ∀ point ∈ text, point.isSurrogate = false
  /-- Bytes are left. -/
  rest_ne_nil : rest ≠ []
  /-- They begin with no code point that has bytes. -/
  noPoint : ∀ point more, point.isSurrogate = false → rest ≠ encodePoint point ++ more

theorem first_encode_cons_append
    {point : CodePoint}
    (noSurrogate : point.isSurrogate = false)
    (text : Text)
    (rest : List UInt8) :
    first (encode (point :: text) ++ rest) = some (point, encode text ++ rest) := by
  rw [encode, List.flatMap_cons, List.append_assoc]
  exact first_encodePoint_append noSurrogate _

theorem first_eq_none_iff
    {bytes : List UInt8} :
    first bytes = none ↔
      ∀ point more, point.isSurrogate = false → bytes ≠ encodePoint point ++ more := by
  constructor
  · rintro none point more noSurrogate rfl
    rw [first_encodePoint_append noSurrogate] at none
    cases none
  · intro noPoint
    cases found : first bytes with
    | none => rfl
    | some read =>
      obtain ⟨begins, noSurrogate⟩ := first_eq_some_iff.1 found
      exact absurd begins (noPoint _ _ noSurrogate)

/-- Decoding passes the bytes of a text, and ends where no code point follows. -/
theorem decode_go_append
    {text : Text}
    {rest : List UInt8}
    (noSurrogate : ∀ point ∈ text, point.isSurrogate = false)
    (unread : first rest = none)
    (start : Nat) :
    decode.go start (encode text ++ rest) =
      if rest.isEmpty then .ok text else .error (start + text.utf8Width) := by
  induction text generalizing start with
  | nil =>
    rw [encode, List.flatMap_nil, List.nil_append, decode.go]
    split
    · rfl
    · split
      · rfl
      · rename_i found
        rw [unread] at found
        cases found
  | cons point text hypothesis =>
    obtain ⟨noSurrogate, others⟩ := List.forall_mem_cons.1 noSurrogate
    have here := first_encode_cons_append noSurrogate text rest
    rw [decode.go]
    split
    · rename_i atEnd
      rw [List.isEmpty_iff.1 atEnd] at here
      cases here
    · split
      · rename_i found
        rw [here] at found
        cases found
      · rename_i found
        rw [here] at found
        obtain ⟨rfl, rfl⟩ := Prod.mk.inj (Option.some.inj found)
        rw [hypothesis others, Nat.add_assoc]
        cases rest.isEmpty <;> rfl

/-- Every byte sequence begins with the bytes of a text, and no code point follows. -/
theorem exists_append_unread (bytes : List UInt8) :
    ∃ text rest, bytes = encode text ++ rest ∧
      (∀ point ∈ text, point.isSurrogate = false) ∧ first rest = none := by
  cases found : first bytes with
  | none => exact ⟨[], bytes, rfl, by simp, found⟩
  | some read =>
    obtain ⟨point, behind⟩ := read
    have shorter := first_shorter found
    obtain ⟨whole, noSurrogate⟩ := first_eq_some_iff.1 found
    obtain ⟨text, rest, rfl, others, unread⟩ := exists_append_unread behind
    refine ⟨point :: text, rest, ?_, List.forall_mem_cons.2 ⟨noSurrogate, others⟩, unread⟩
    rw [whole, encode, encode, List.flatMap_cons, List.append_assoc]
termination_by bytes.length

theorem decode_of_encodes
    {text : Text}
    {bytes : List UInt8}
    (encodes : Encodes text bytes) :
    decode bytes = .ok text := by
  have passed := @decode_go_append text [] encodes.noSurrogate rfl 0
  rw [List.append_nil, ← encodes.whole] at passed
  exact passed

theorem decode_of_breaks
    {text : Text}
    {bytes rest : List UInt8}
    (breaks : Breaks bytes text rest) :
    decode bytes = .error text.utf8Width := by
  have passed := decode_go_append breaks.noSurrogate (first_eq_none_iff.2 breaks.noPoint) 0
  have left : rest.isEmpty = false := by simp [breaks.rest_ne_nil]
  rw [← breaks.whole, left, Nat.zero_add] at passed
  exact passed

/-- Bytes either encode a text or break behind one. -/
theorem encodes_or_breaks (bytes : List UInt8) :
    (∃ text, Encodes text bytes) ∨ ∃ text rest, Breaks bytes text rest := by
  obtain ⟨text, rest, whole, noSurrogate, unread⟩ := exists_append_unread bytes
  by_cases left : rest = []
  · exact .inl ⟨text, by rw [whole, left, List.append_nil], noSurrogate⟩
  · exact .inr ⟨text, rest, whole, noSurrogate, left, first_eq_none_iff.1 unread⟩

/-- There is one text behind which bytes break. -/
theorem Breaks.unique
    {text text' : Text}
    {bytes rest rest' : List UInt8}
    (breaks : Breaks bytes text rest)
    (breaks' : Breaks bytes text' rest') :
    text = text' := by
  have width : text.utf8Width = text'.utf8Width :=
    Except.error.inj ((decode_of_breaks breaks).symm.trans (decode_of_breaks breaks'))
  have same : encode text = encode text' := by
    have whole := breaks.whole.symm.trans breaks'.whole
    exact (List.append_inj whole (by rw [length_encode, length_encode, width])).1
  have encodes : Encodes text (encode text) := ⟨rfl, breaks.noSurrogate⟩
  have encodes' : Encodes text' (encode text) := ⟨same, breaks'.noSurrogate⟩
  exact Except.ok.inj ((decode_of_encodes encodes).symm.trans (decode_of_encodes encodes'))

end Utf8

end Stencil
