import Mathlib.Data.List.Induction
import Stencil.Proofs.Quotation
import Stencil.Proofs.Scanning

/-!
# Which string literals are scanned

The grammar of string literals is the relation between a text and what may be
written for it.  Everything that is read follows this grammar, so at a quote
scanning succeeds exactly if the text goes on with a written content and a
closing quote.  The main statement adds that such a literal is passed as a whole
and nothing else is, that every other failure is placed at the opening quote, and
that every text has a literal without surrogates.
-/

namespace Stencil

namespace StringLiteral

/-! ## Escapes -/

/-- The marks that denote something behind a backslash alone. -/
def marks : List (CodePoint × CodePoint) :=
  [('\\', '\\'), ('"', '"'), ('\'', '\''), ('n', '\n'), ('t', '\t'), ('r', '\r'), ('0', '\x00'),
    ('a', '\x07'), ('b', '\x08'), ('f', '\x0c'), ('v', '\x0b')]

theorem simpleEscape_eq_some_iff
    {mark point : CodePoint} :
    simpleEscape mark = some point ↔ (mark, point) ∈ marks := by
  constructor
  · fun_cases simpleEscape mark
    all_goals rintro ⟨⟩
    all_goals
      subst mark
      decide
  · intro listed
    simp only [marks, List.mem_cons, Prod.mk.injEq, List.not_mem_nil, or_false] at listed
    obtain ⟨rfl, rfl⟩ | ⟨rfl, rfl⟩ | ⟨rfl, rfl⟩ | ⟨rfl, rfl⟩ | ⟨rfl, rfl⟩ | ⟨rfl, rfl⟩ |
      ⟨rfl, rfl⟩ | ⟨rfl, rfl⟩ | ⟨rfl, rfl⟩ | ⟨rfl, rfl⟩ | ⟨rfl, rfl⟩ := listed <;> decide

theorem digitValue_lt_of_isHexDigit
    {digit : CodePoint}
    (hexadecimal : digit.isHexDigit = true) :
    digit.digitValue < 16 := by
  simp only [CodePoint.isHexDigit, CodePoint.isDigit, Bool.or_eq_true, Bool.and_eq_true,
    decide_eq_true_eq] at hexadecimal
  unfold CodePoint.digitValue
  split
  · omega
  · split <;> omega

/-- Digits have a value with as many digits. -/
theorem value_lt_of_isHexDigit
    {digits : Text}
    (hexadecimal : digits.all CodePoint.isHexDigit = true) :
    Text.value 16 digits < Nat.pow 16 digits.length := by
  induction digits using List.reverseRecOn with
  | nil => decide
  | append_singleton digits digit hypothesis =>
    rw [List.all_append, Bool.and_eq_true] at hexadecimal
    have more := hypothesis hexadecimal.1
    have last : digit.digitValue < 16 :=
      digitValue_lt_of_isHexDigit (by simpa using hexadecimal.2)
    rw [Text.value_append, Text.value_singleton, List.length_append, List.length_singleton]
    simp only [Nat.pow_eq, Nat.pow_succ] at more ⊢
    omega

/-- The digits of an escape are those of its code point. -/
theorem val_hexPoint
    {digits : Text}
    (hexadecimal : digits.all CodePoint.isHexDigit = true)
    (few : digits.length ≤ 4) :
    (hexPoint digits).val = Text.value 16 digits := by
  have value := value_lt_of_isHexDigit hexadecimal
  have bound : Nat.pow 16 digits.length ≤ 0x10000 := Nat.pow_le_pow_right (by decide) few
  rw [hexPoint, Fin.val_ofNat]
  exact Nat.mod_eq_of_lt (by omega)

/-! ## What is read is written -/

/-- A text goes on with a content as it is written, a closing quote and more text. -/
structure Closes (text content body after : Text) : Prop where
  /-- The content is written code point by code point. -/
  quotes : Quotes content body
  /-- A quote stands behind it. -/
  closed : text = body ++ CodePoint.ofChar '"' :: after

/-- A text that goes on with a closed literal. -/
theorem between_append (body after : Text) :
    between body ++ after = CodePoint.ofChar '"' :: (body ++ CodePoint.ofChar '"' :: after) := by
  rw [between, List.cons_append, List.append_assoc]
  rfl

/-- One more code point is written before a content. -/
theorem Closes.cons
    {point : CodePoint}
    {written text content body after : Text}
    (denotes : Denotes point written)
    (closes : Closes text content body after) :
    Closes (written ++ text) (point :: content) (written ++ body) after where
  quotes := .cons denotes closes.quotes
  closed := by rw [closes.closed, List.append_assoc]

/-- One code point before a content that is read. -/
theorem Denotes.exists_closes
    {point : CodePoint}
    {written rest : Text}
    (denotes : Denotes point written)
    (others : ∀ {content : Text} {count : Nat}, read rest = .ok (content, count) →
      ∃ body after, Closes rest content body after ∧ count = body.length + 1)
    {content : Text}
    {count : Nat}
    (success : ((read rest).map fun (content, count) =>
      (point :: content, count + written.length)) = .ok (content, count)) :
    ∃ body after, Closes (written ++ rest) content body after ∧ count = body.length + 1 := by
  cases inner : read rest with
  | error fault => simp [inner, Except.map] at success
  | ok found =>
    simp only [inner, Except.map, Except.ok.injEq, Prod.mk.injEq] at success
    obtain ⟨rfl, rfl⟩ := success
    obtain ⟨body, after, closes, length⟩ := others inner
    refine ⟨written ++ body, after, closes.cons denotes, ?_⟩
    rw [length, List.length_append]
    omega

/-- What is read is written up to a closing quote, which is passed as well. -/
theorem exists_closes_of_read
    {text content : Text}
    {count : Nat}
    (success : read text = .ok (content, count)) :
    ∃ body after, Closes text content body after ∧ count = body.length + 1 := by
  fun_induction read text generalizing content count with
  | case1 => cases success
  | case2 => cases success
  | case3 rest =>
    obtain ⟨rfl, rfl⟩ := Prod.mk.inj (Except.ok.inj success)
    exact ⟨[], rest, ⟨.nil, rfl⟩, rfl⟩
  | case4 => cases success
  | case5 mark behind denoted known _ _ hypothesis =>
    exact (Denotes.simple known).exists_closes hypothesis success
  | case6 first second behind hexadecimal _ _ _ hypothesis =>
    exact (Denotes.narrow hexadecimal).exists_closes hypothesis success
  | case7 => cases success
  | case8 => cases success
  | case9 first second third fourth behind hexadecimal _ _ _ _ hypothesis =>
    exact (Denotes.wide hexadecimal).exists_closes hypothesis success
  | case10 => cases success
  | case11 => cases success
  | case12 => cases success
  | case13 point rest noNewline noQuote noBackslash hypothesis =>
    exact (Denotes.verbatim noNewline noQuote noBackslash).exists_closes hypothesis success

/-- A fault behind a code point is met when the rest is read. -/
theorem read_eq_error_of_map
    {rest : Text}
    {change : Text × Nat → Text × Nat}
    {fault : Token.Fault}
    (failed : (read rest).map change = .error fault) :
    read rest = .error fault := by
  cases outcome : read rest with
  | ok found => simp [outcome, Except.map] at failed
  | error other => simpa [outcome, Except.map] using failed

/-- Reading fails on this line or at an escape, never as a numeral does. -/
theorem fault_of_read
    {text : Text}
    {fault : Token.Fault}
    (failure : read text = .error fault) :
    fault = .unterminatedString ∨ ∃ escape, fault = .invalidEscape escape := by
  fun_induction read text with
  | case1 => exact .inl (Except.error.inj failure).symm
  | case2 => exact .inl (Except.error.inj failure).symm
  | case3 => cases failure
  | case4 => exact .inr ⟨_, (Except.error.inj failure).symm⟩
  | case5 mark behind denoted known _ _ hypothesis =>
    exact hypothesis (read_eq_error_of_map failure)
  | case6 first second behind hexadecimal _ _ _ hypothesis =>
    exact hypothesis (read_eq_error_of_map failure)
  | case7 => exact .inr ⟨_, (Except.error.inj failure).symm⟩
  | case8 => exact .inr ⟨_, (Except.error.inj failure).symm⟩
  | case9 first second third fourth behind hexadecimal _ _ _ _ hypothesis =>
    exact hypothesis (read_eq_error_of_map failure)
  | case10 => exact .inr ⟨_, (Except.error.inj failure).symm⟩
  | case11 => exact .inr ⟨_, (Except.error.inj failure).symm⟩
  | case12 => exact .inr ⟨_, (Except.error.inj failure).symm⟩
  | case13 point rest noNewline noQuote noBackslash hypothesis =>
    exact hypothesis (read_eq_error_of_map failure)

/-! ## Literals without surrogates -/

/-- The hexadecimal digit of a number below sixteen. -/
def hexDigit (number : Nat) : CodePoint :=
  Nat.digitChar number

theorem digitValue_hexDigit :
    ∀ number < 16,
      (hexDigit number).isHexDigit = true ∧ (hexDigit number).digitValue = number := by
  decide

/-- The escape of a code point with four hexadecimal digits. -/
def wideEscape (point : CodePoint) : Text :=
  ['\\', 'u', hexDigit (point.val / 0x1000), hexDigit (point.val / 0x100 % 0x10),
    hexDigit (point.val / 0x10 % 0x10), hexDigit (point.val % 0x10)]

theorem denotes_wideEscape
    {point : CodePoint}
    (small : point.val < 0x10000) :
    Denotes point (wideEscape point) := by
  have first := digitValue_hexDigit (point.val / 0x1000) (by omega)
  have second := digitValue_hexDigit (point.val / 0x100 % 0x10) (by omega)
  have third := digitValue_hexDigit (point.val / 0x10 % 0x10) (by omega)
  have fourth := digitValue_hexDigit (point.val % 0x10) (by omega)
  have hexadecimal : [hexDigit (point.val / 0x1000), hexDigit (point.val / 0x100 % 0x10),
      hexDigit (point.val / 0x10 % 0x10), hexDigit (point.val % 0x10)].all
        CodePoint.isHexDigit = true := by
    simp [first, second, third, fourth]
  have denotes := Denotes.wide hexadecimal
  have same : hexPoint [hexDigit (point.val / 0x1000), hexDigit (point.val / 0x100 % 0x10),
      hexDigit (point.val / 0x10 % 0x10), hexDigit (point.val % 0x10)] = point := by
    apply Fin.ext
    rw [val_hexPoint hexadecimal (by simp)]
    simp only [Text.value, List.foldl_cons, List.foldl_nil, first, second, third, fourth]
    omega
  rw [same] at denotes
  exact denotes

/-- Surrogates are escaped, so that the literal is a text that can be encoded. -/
def Escaping.encodable : Escaping where
  written point :=
    if point.isSurrogate then wideEscape point else Escaping.sparing.written point
  denotes point := by
    split
    · rename_i surrogate
      simp only [CodePoint.isSurrogate, Bool.and_eq_true, decide_eq_true_eq] at surrogate
      exact denotes_wideEscape (by omega)
    · exact Escaping.sparing.denotes point

theorem isSurrogate_of_isHexDigit
    {digit : CodePoint}
    (hexadecimal : digit.isHexDigit = true) :
    digit.isSurrogate = false := by
  simp only [CodePoint.isHexDigit, CodePoint.isDigit, Bool.or_eq_true, Bool.and_eq_true,
    decide_eq_true_eq] at hexadecimal
  simp only [CodePoint.isSurrogate, Bool.and_eq_false_iff, decide_eq_false_iff_not]
  omega

/-- No surrogate is written for any code point. -/
theorem isSurrogate_of_mem_encodable
    {point other : CodePoint}
    (member : other ∈ Escaping.encodable.written point) :
    other.isSurrogate = false := by
  by_cases surrogate : point.isSurrogate = true
  · have small : point.val < 0x10000 := by
      simp only [CodePoint.isSurrogate, Bool.and_eq_true, decide_eq_true_eq] at surrogate
      omega
    simp only [Escaping.encodable, surrogate, if_true, wideEscape, List.mem_cons,
      List.not_mem_nil, or_false] at member
    rcases member with rfl | rfl | rfl | rfl | rfl | rfl
    · decide
    · decide
    · exact isSurrogate_of_isHexDigit (digitValue_hexDigit _ (by omega)).1
    · exact isSurrogate_of_isHexDigit (digitValue_hexDigit _ (by omega)).1
    · exact isSurrogate_of_isHexDigit (digitValue_hexDigit _ (by omega)).1
    · exact isSurrogate_of_isHexDigit (digitValue_hexDigit _ (by omega)).1
  · have notOne : point.isSurrogate = false := by simpa using surrogate
    simp only [Escaping.encodable, notOne, Bool.false_eq_true, if_false, Escaping.sparing] at member
    repeat' split at member
    all_goals
      simp only [List.mem_cons, List.not_mem_nil, or_false] at member
    · obtain rfl | rfl := member <;> decide
    · obtain rfl | rfl := member <;> decide
    · obtain rfl | rfl := member <;> decide
    · rw [member]
      exact notOne

/-- Every text has a literal in which no surrogate is written. -/
theorem exists_quotes_without_surrogates (content : Text) :
    ∃ body, Quotes content body ∧ ∀ point ∈ body, point.isSurrogate = false := by
  refine ⟨_, Escaping.encodable.quotes content, ?_⟩
  intro point member
  obtain ⟨other, _, written⟩ := List.mem_flatMap.1 member
  exact isSurrogate_of_mem_encodable written

end StringLiteral

namespace Token

open StringLiteral

/-- No blanks stand before a quote. -/
theorem skipBlanks_of_quote
    {cursor : Cursor}
    {rest : Text}
    (opened : cursor.rest = CodePoint.ofChar '"' :: rest) :
    cursor.skipBlanks = cursor :=
  @Cursor.skipBlanks_eq cursor [] _ opened rfl ⟨_, rest, rfl, by decide⟩

/-- At a quote a token is scanned as a string literal. -/
theorem scan_eq_scanString
    {cursor : Cursor}
    {rest : Text}
    (opened : cursor.rest = CodePoint.ofChar '"' :: rest) :
    scan cursor = scanString cursor := by
  have noDigit : CodePoint.isDigit (CodePoint.ofChar '"') = false := by decide
  rw [scan, skipBlanks_of_quote opened, scanHere, opened]
  simp only [noDigit, Bool.false_eq_true, if_false, if_true]

/-- What is unread before a literal that is closed. -/
theorem rest_eq_between_append
    {cursor : Cursor}
    {rest content body after : Text}
    (opened : cursor.rest = CodePoint.ofChar '"' :: rest)
    (closes : Closes rest content body after) :
    cursor.rest = between body ++ after := by
  rw [opened, closes.closed, between_append]

/-- A literal that is closed is scanned, whatever follows it. -/
theorem scan_of_closes
    {cursor : Cursor}
    {rest content body after : Text}
    (opened : cursor.rest = CodePoint.ofChar '"' :: rest)
    (closes : Closes rest content body after) :
    scan cursor =
      .ok (located cursor .string content, cursor.forward (between body).length) := by
  rw [scan, skipBlanks_of_quote opened]
  exact scanHere_quotes closes.quotes (rest_eq_between_append opened closes)

/-- What is scanned at a quote is a literal that is closed. -/
theorem exists_closes_of_scan
    {cursor behind : Cursor}
    {token : Token}
    {rest : Text}
    (opened : cursor.rest = CodePoint.ofChar '"' :: rest)
    (scanned : scan cursor = .ok (token, behind)) :
    ∃ content body after, Closes rest content body after ∧
      token = located cursor .string content ∧
      behind = cursor.forward (between body).length := by
  rw [scan_eq_scanString opened, scanString, opened, List.drop_one, List.tail_cons] at scanned
  split at scanned
  · rename_i content count success
    obtain ⟨body, after, closes, rfl⟩ := exists_closes_of_read success
    obtain ⟨rfl, rfl⟩ := Prod.mk.inj (Except.ok.inj scanned)
    refine ⟨content, body, after, closes, rfl, ?_⟩
    simp only [between, List.length_cons, List.length_append]
    rfl
  · cases scanned

/-- Without a closed literal scanning fails at the opening quote. -/
theorem exists_fault_of_scan
    {cursor : Cursor}
    {rest : Text}
    (opened : cursor.rest = CodePoint.ofChar '"' :: rest)
    (unclosed : ¬ ∃ content body after, Closes rest content body after) :
    ∃ fault, scan cursor = .error ⟨fault, cursor.position⟩ ∧
      (fault = .unterminatedString ∨ ∃ escape, fault = .invalidEscape escape) := by
  rw [scan_eq_scanString opened, scanString, opened, List.drop_one, List.tail_cons]
  cases outcome : read rest with
  | ok found =>
    obtain ⟨content, count⟩ := found
    obtain ⟨body, after, closes, _⟩ := exists_closes_of_read outcome
    exact absurd ⟨content, body, after, closes⟩ unclosed
  | error fault => exact ⟨fault, rfl, fault_of_read outcome⟩

/-- At a quote a token is scanned exactly if a written content and a closing quote
follow: its value is that content, and the literal is passed whatever stands behind
it.  Otherwise scanning fails at the quote.  The escapes of the grammar are the
listed marks and the hexadecimal digits of a code point, and every text has a
literal without surrogates, which is scanned back to it.  So a value may hold a lone
surrogate by an escape, while the source itself is meant to be a text that can be
encoded: the offset behind the literal counts bytes. -/
theorem scan_string_iff_closes
    {cursor : Cursor}
    {rest : Text}
    (opened : cursor.rest = CodePoint.ofChar '"' :: rest) :
    (∀ token behind, scan cursor = .ok (token, behind) ↔
      ∃ content body after, Closes rest content body after ∧
        token = located cursor .string content ∧
        behind = cursor.forward (between body).length ∧ behind.rest = after) ∧
    ((¬ ∃ content body after, Closes rest content body after) →
      ∃ fault, scan cursor = .error ⟨fault, cursor.position⟩ ∧
        (fault = .unterminatedString ∨ ∃ escape, fault = .invalidEscape escape)) ∧
    (∀ mark point, simpleEscape mark = some point ↔ (mark, point) ∈ marks) ∧
    (∀ digits : Text, digits.all CodePoint.isHexDigit = true → digits.length ≤ 4 →
      (hexPoint digits).val = Text.value 16 digits) ∧
    ∀ content, ∃ body, (∀ point ∈ body, point.isSurrogate = false) ∧
      ∀ (here : Cursor) (after : Text), here.rest = between body ++ after →
        scan here = .ok (located here .string content, here.forward (between body).length) := by
  refine ⟨fun token behind => ⟨fun scanned => ?_, ?_⟩, exists_fault_of_scan opened,
    fun mark point => simpleEscape_eq_some_iff, fun digits => val_hexPoint, fun content => ?_⟩
  · obtain ⟨content, body, after, closes, value, place⟩ := exists_closes_of_scan opened scanned
    refine ⟨content, body, after, closes, value, place, ?_⟩
    rw [place, Cursor.rest_forward_of_append (rest_eq_between_append opened closes)]
  · rintro ⟨content, body, after, closes, rfl, rfl, _⟩
    exact scan_of_closes opened closes
  · obtain ⟨body, quotes, noSurrogate⟩ := exists_quotes_without_surrogates content
    refine ⟨body, noSurrogate, fun here after unread => ?_⟩
    rw [between_append] at unread
    exact scan_of_closes unread ⟨quotes, rfl⟩

/-- A literal with escapes of each form before other text, and one that its line ends. -/
theorem scan_string_of_escapes :
    (∃ body, Closes (Text.of "A\\x42\\ud800\\\"\\n\" z") [0x41, 0x42, 0xD800, 0x22, 0xA] body
      (Text.of " z")) ∧
    ∃ fault, scan (Cursor.start (Text.of "t") (Text.of "\"A\\x4\n\"")) =
      .error ⟨fault, ⟨Text.of "t", 1, 1, 0⟩⟩ := by
  constructor
  · have opened : (Cursor.start (Text.of "t") (Text.of "\"A\\x42\\ud800\\\"\\n\" z")).rest =
        CodePoint.ofChar '"' :: Text.of "A\\x42\\ud800\\\"\\n\" z" := by
      decide +kernel
    have scanned : scan (Cursor.start (Text.of "t")
        (Text.of "\"A\\x42\\ud800\\\"\\n\" z")) =
          .ok (⟨.string, [0x41, 0x42, 0xD800, 0x22, 0xA], ⟨Text.of "t", 1, 1, 0⟩, 0⟩,
            ⟨Text.of "t", 17, 1, 18, 17, Text.of " z"⟩) := by
      decide +kernel
    obtain ⟨content, body, after, closes, value, _, behind⟩ :=
      ((scan_string_iff_closes opened).1 _ _).1 scanned
    have sameContent : [0x41, 0x42, 0xD800, 0x22, 0xA] = content := congrArg Token.value value
    rw [← sameContent, ← behind] at closes
    exact ⟨body, closes⟩
  · have opened : (Cursor.start (Text.of "t") (Text.of "\"A\\x4\n\"")).rest =
        CodePoint.ofChar '"' :: Text.of "A\\x4\n\"" := by
      decide +kernel
    have failed : (scan (Cursor.start (Text.of "t") (Text.of "\"A\\x4\n\""))).toOption = none := by
      decide +kernel
    have unclosed : ¬ ∃ content body after, Closes (Text.of "A\\x4\n\"") content body after := by
      rintro ⟨content, body, after, closes⟩
      rw [scan_of_closes opened closes] at failed
      cases failed
    obtain ⟨fault, placed, _⟩ := (scan_string_iff_closes opened).2.1 unclosed
    exact ⟨fault, placed⟩

end Token

end Stencil
