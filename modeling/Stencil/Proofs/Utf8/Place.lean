import Mathlib.Data.List.Induction
import Stencil.Proofs.Place
import Stencil.Proofs.Utf8

/-!
# Where bytes are no text

Bytes that are not UTF-8 are reported at the end of the longest text that they begin
with.  The reported line and offset are the ones of a cursor behind that text.  The
reported column counts the bytes of the last line and not its code points, so it is
the cursor's column only if that line has no code point of several bytes.
-/

namespace Stencil

namespace Utf8

theorem encode_append (front back : Text) : encode (front ++ back) = encode front ++ encode back :=
  List.flatMap_append

/-- A line feed is the only code point with a byte of a line feed. -/
theorem newline_notMem_encodePoint
    {point : CodePoint}
    (other : point ≠ '\n') :
    (0x0A : UInt8) ∉ encodePoint point := by
  have bound := point.isLt
  have differs : point.val ≠ 0x0A := fun same => other (Fin.ext same)
  have apart {number : Nat} (small : number < 0x100) (differs : number ≠ 0x0A) :
      (0x0A : UInt8) ≠ number.toUInt8 :=
    fun same => differs ((eq_toUInt8_iff small).1 same).symm
  unfold encodePoint
  split
  · rw [List.mem_singleton]
    exact apart (by omega) differs
  · split
    · simp only [List.mem_cons, List.not_mem_nil, or_false, not_or]
      exact ⟨apart (by omega) (by omega), apart (by omega) (by omega)⟩
    · split
      · simp only [List.mem_cons, List.not_mem_nil, or_false, not_or]
        exact ⟨apart (by omega) (by omega), apart (by omega) (by omega),
          apart (by omega) (by omega)⟩
      · simp only [List.mem_cons, List.not_mem_nil, or_false, not_or]
        exact ⟨apart (by omega) (by omega), apart (by omega) (by omega),
          apart (by omega) (by omega), apart (by omega) (by omega)⟩

/-- The bytes of a text have its line feeds. -/
theorem count_newline_encode (text : Text) : (encode text).count 0x0A = text.newlines := by
  induction text with
  | nil => rfl
  | cons point text hypothesis =>
    have here : (encodePoint point).count 0x0A = if point = '\n' then 1 else 0 := by
      split
      · rename_i newline
        rw [newline]
        rfl
      · rename_i other
        exact List.count_eq_zero.2 (newline_notMem_encodePoint other)
    have rest : (text.flatMap encodePoint).count 0x0A = text.count (CodePoint.ofChar '\n') :=
      hypothesis
    rw [encode, List.flatMap_cons, List.count_append, here, rest, Text.newlines, List.count_cons,
      Nat.add_comm]
    simp only [beq_iff_eq]

/-- The bytes behind the last line feed are the ones of the last line. -/
theorem takeWhile_reverse_encode (text : Text) :
    (encode text).reverse.takeWhile (· ≠ 0x0A) = (encode text.lastLine).reverse := by
  induction text using List.reverseRecOn with
  | nil => rfl
  | append_singleton text point hypothesis =>
    have single : encode [point] = encodePoint point := List.append_nil _
    rw [encode_append, single, List.reverse_append, Text.lastLine_concat]
    split
    · rename_i newline
      rw [newline]
      rfl
    · rename_i other
      have inside : ∀ byte ∈ (encodePoint point).reverse, decide (byte ≠ 0x0A) = true := by
        intro byte member
        rw [decide_eq_true_eq]
        rintro rfl
        exact newline_notMem_encodePoint other (List.mem_reverse.1 member)
      rw [List.takeWhile_append_of_pos inside, hypothesis, encode_append, single,
        List.reverse_append]

end Utf8

namespace Text

theorem utf8Width_cons (point : CodePoint) (text : Text) :
    utf8Width (point :: text) = point.utf8Width + text.utf8Width :=
  rfl

theorem length_le_utf8Width (text : Text) : text.length ≤ text.utf8Width := by
  induction text with
  | nil => exact Nat.le_refl 0
  | cons point text hypothesis =>
    have positive := point.utf8Width_pos
    rw [utf8Width_cons, List.length_cons]
    omega

/-- A text has as many bytes as code points if each code point has one byte. -/
theorem utf8Width_eq_length_iff
    {text : Text} :
    text.utf8Width = text.length ↔ ∀ point ∈ text, point.val < 0x80 := by
  induction text with
  | nil => simp [utf8Width]
  | cons point text hypothesis =>
    have positive := point.utf8Width_pos
    have atLeast := length_le_utf8Width text
    have single : point.utf8Width = 1 ↔ point.val < 0x80 := by
      unfold CodePoint.utf8Width
      split
      · simp_all
      · split
        · simp_all
        · split <;> simp_all
    rw [List.forall_mem_cons, ← hypothesis, ← single, utf8Width_cons, List.length_cons]
    omega

end Text

namespace Template

open Utf8

/-- The report on bytes that break behind a text. -/
theorem decode_of_breaks
    {text : Text}
    {bytes rest : List UInt8}
    (name : Text)
    (breaks : Breaks bytes text rest) :
    decode name bytes = .error ⟨.invalidEncoding,
      ⟨name, text.newlines + 1, text.lastLine.utf8Width + 1, text.utf8Width⟩⟩ := by
  have before : bytes.take text.utf8Width = encode text := by
    rw [breaks.whole, ← length_encode, List.take_left]
  simp only [decode, Utf8.decode_of_breaks breaks, before, count_newline_encode,
    takeWhile_reverse_encode, List.length_reverse, length_encode]

/-- Bytes that are not UTF-8 are reported where they break behind a text, which is the
only one: the reported name, line and offset are the ones of a cursor that has passed
this text, and the column counts the bytes of the last line.  It is the column of the
cursor exactly if each code point of that line has one byte. -/
theorem decoded_of_unencoded
    {bytes : List UInt8}
    (name : Text)
    (unencoded : ¬ ∃ text, Encodes text bytes) :
    ∃ text rest, Breaks bytes text rest ∧
      (∀ text' rest', Breaks bytes text' rest' → text' = text) ∧
      ∀ (more : Text) (cursor : Cursor),
        cursor = (Cursor.start name (text ++ more)).forward text.length →
        Source.decoded name (.bytes bytes) = .error ⟨.invalidEncoding,
          { cursor.position with column := text.lastLine.utf8Width + 1 }⟩ ∧
        (cursor.position.column = text.lastLine.utf8Width + 1 ↔
          ∀ point ∈ text.lastLine, point.val < 0x80) := by
  obtain ⟨text, rest, breaks⟩ := (encodes_or_breaks bytes).resolve_left unencoded
  refine ⟨text, rest, breaks, fun text' rest' breaks' => breaks'.unique breaks, ?_⟩
  rintro more cursor rfl
  have place : ((Cursor.start name (text ++ more)).forward text.length).position =
      ⟨name, text.newlines + 1, text.lastLine.length + 1, text.utf8Width⟩ := by
    rw [Cursor.position_forward_start, Position.ofIndex, List.take_left, Nat.add_comm 1]
  rw [place]
  constructor
  · exact decode_of_breaks name breaks
  · rw [← Text.utf8Width_eq_length_iff]
    simp only [Nat.add_right_cancel_iff]
    exact eq_comm

/-- A byte that no code point begins with, behind a line with a letter of two bytes. -/
theorem decoded_of_unencoded_byte :
    ∃ text rest, Breaks [0x6F, 0x6B, 0x0A, 0xC3, 0xA9, 0xFF] text rest ∧
      Source.decoded (Text.of "t") (.bytes [0x6F, 0x6B, 0x0A, 0xC3, 0xA9, 0xFF]) =
        .error ⟨.invalidEncoding, { Position.ofIndex (Text.of "t") text text.length with
          column := text.lastLine.utf8Width + 1 }⟩ := by
  have unencoded : ¬ ∃ text, Encodes text [0x6F, 0x6B, 0x0A, 0xC3, 0xA9, 0xFF] := by
    rintro ⟨text, encodes⟩
    have failed : (Utf8.decode [0x6F, 0x6B, 0x0A, 0xC3, 0xA9, 0xFF]).toOption = none := by
      decide +kernel
    rw [Utf8.decode_of_encodes encodes] at failed
    cases failed
  obtain ⟨text, rest, breaks, _, reported⟩ := decoded_of_unencoded (Text.of "t") unencoded
  obtain ⟨report, _⟩ := reported [] _ rfl
  rw [List.append_nil, Cursor.position_forward_start] at report
  exact ⟨text, rest, breaks, report⟩

/-- The report on the byte behind a letter of two bytes has not the position of a
cursor that has passed the letter. -/
theorem not_decoded_at_cursor_of_unencoded_byte :
    Breaks [0xC3, 0xA9, 0xFF] [0xE9] [0xFF] ∧
      ∃ diagnostic, Source.decoded (Text.of "t") (.bytes [0xC3, 0xA9, 0xFF]) = .error diagnostic ∧
        diagnostic.position = ⟨Text.of "t", 1, 3, 2⟩ ∧
        ((Cursor.start (Text.of "t") [0xE9]).forward 1).position = ⟨Text.of "t", 1, 2, 2⟩ := by
  have none : first [0xFF] = none := by decide +kernel
  have breaks : Breaks [0xC3, 0xA9, 0xFF] [0xE9] [0xFF] :=
    ⟨by decide +kernel, List.forall_mem_singleton.2 (by decide), by decide,
      first_eq_none_iff.1 none⟩
  exact ⟨breaks, _, decode_of_breaks _ breaks, by decide +kernel, by decide +kernel⟩

end Template

end Stencil
