import Stencil.Command
import Stencil.Proofs.Success

/-!
# What reaches the output

The JSON text of a value escapes the double quote, the backslash and controls and leaves
every other code point as it is.  So the text of a value can be encoded exactly if all
texts in the value can, and a report that holds a lone surrogate is printed by no strict
output.  What is relied on of the library that lays reports out is stated here as well: it
changes nothing, and it takes what can be encoded and is not nested too deeply.
-/

namespace Stencil

/-! ## Texts that can be encoded -/

namespace CodePoint

@[simp] theorem isSurrogate_ofChar (character : Char) :
    (ofChar character).isSurrogate = false := by
  rw [isSurrogate, val_ofChar, Bool.and_eq_false_iff, decide_eq_false_iff_not,
    decide_eq_false_iff_not]
  rcases character.valid with below | between
  · have : character.toNat < 0xD800 := below
    omega
  · have : 0xDFFF < character.toNat := between.1
    omega

end CodePoint

namespace Utf8

@[simp] theorem isEncodable_nil : isEncodable [] = true :=
  rfl

@[simp] theorem isEncodable_cons
    (point : CodePoint)
    (rest : Text) :
    isEncodable (point :: rest) = (!point.isSurrogate && isEncodable rest) :=
  rfl

@[simp] theorem isEncodable_append (left right : Text) :
    isEncodable (left ++ right) = (isEncodable left && isEncodable right) :=
  List.all_append

/-- Characters are never surrogates. -/
@[simp] theorem isEncodable_map_ofChar (characters : List Char) :
    isEncodable (characters.map CodePoint.ofChar) = true := by
  simp [isEncodable]

@[simp] theorem isEncodable_of (string : String) : isEncodable (Text.of string) = true :=
  isEncodable_map_ofChar _

@[simp] theorem isEncodable_ofNat (number : Nat) : isEncodable (Text.ofNat number) = true :=
  isEncodable_map_ofChar _

@[simp] theorem isEncodable_ofInt (number : Int) : isEncodable (Text.ofInt number) = true := by
  cases number <;> simp [Text.ofInt]

@[simp] theorem isEncodable_replicate
    (count : Nat)
    (character : Char) :
    isEncodable (List.replicate count (CodePoint.ofChar character)) = true := by
  simp [isEncodable]

@[simp] theorem isEncodable_hexadecimal (width number : Nat) :
    isEncodable (Text.hexadecimal width number) = true := by
  simp [Text.hexadecimal]

theorem isEncodable_join
    {separator : Text}
    (between : isEncodable separator = true)
    (texts : List Text) :
    isEncodable (Text.join separator texts) = texts.all isEncodable := by
  induction texts with
  | nil => rfl
  | cons first others hypothesis =>
    cases others with
    | nil => simp [Text.join]
    | cons second others =>
      rw [Text.join, List.intersperse_cons_cons, List.flatten_cons, List.flatten_cons,
        isEncodable_append, isEncodable_append, between, Bool.true_and, List.all_cons]
      exact congrArg (isEncodable first && ·) hypothesis

end Utf8

open Utf8 (isEncodable)

/-- A decimal is written in characters. -/
@[simp] theorem Decimal.isEncodable_toText (decimal : Decimal) :
    isEncodable decimal.toText = true := by
  obtain ⟨characters, digits⟩ : ∃ characters,
      Text.ofNat decimal.coefficient = List.map CodePoint.ofChar characters := ⟨_, rfl⟩
  have unsigned : isEncodable (if decimal.isPlain
      then plain (Text.ofNat decimal.coefficient) (-decimal.exponent).toNat
      else scientific (Text.ofNat decimal.coefficient) decimal.adjusted) = true := by
    rw [digits]
    split
    · unfold plain
      repeat' split
      all_goals simp [← List.map_take, ← List.map_drop]
    · have mark (exponent : Int) : isEncodable (exponentMark exponent) = true := by
        unfold exponentMark
        split <;> simp
      rcases characters with _ | ⟨first, _ | ⟨second, rest⟩⟩ <;> simp [scientific, mark]
  simp only [toText]
  cases decimal.negative <;> simp [unsigned]

/-! ## The texts and the nesting of a value -/

namespace Value

mutual

/-- Whether every text that a value shows in JSON can be encoded. -/
def isEncodable : Value → Bool
  | .text content => Utf8.isEncodable content
  | .list items => areEncodable items
  | .tuple items => areEncodable items
  | .map entries => entriesAreEncodable entries
  | .foreign other => other.json?.all Utf8.isEncodable
  | _ => true

/-- Whether every text in the items of a sequence can be encoded. -/
def areEncodable : List Value → Bool
  | [] => true
  | item :: rest => isEncodable item && areEncodable rest

/-- Whether every text in the entries of a map can be encoded. -/
def entriesAreEncodable : List (Value × Value) → Bool
  | [] => true
  | (key, value) :: rest => isEncodable key && isEncodable value && entriesAreEncodable rest

end

mutual

/-- How many sequences and maps stand within each other. -/
def depth : Value → Nat
  | .list items => itemsDepth items + 1
  | .tuple items => itemsDepth items + 1
  | .map entries => entriesDepth entries + 1
  | _ => 0

/-- The greatest depth of the items of a sequence. -/
def itemsDepth : List Value → Nat
  | [] => 0
  | item :: rest => max (depth item) (itemsDepth rest)

/-- The greatest depth of the values of a map; its keys are not nested. -/
def entriesDepth : List (Value × Value) → Nat
  | [] => 0
  | (_, value) :: rest => max (depth value) (entriesDepth rest)

end

end Value

/-! ## The text of a value -/

namespace Json

/-- Only what is no surrogate is escaped, and escapes are written in characters. -/
theorem isEncodable_escapePoint (point : CodePoint) :
    isEncodable (escapePoint point) = !point.isSurrogate := by
  have noSurrogate (below : point.val < 0x80) : point.isSurrogate = false := by
    rw [CodePoint.isSurrogate, Bool.and_eq_false_iff, decide_eq_false_iff_not]
    omega
  by_cases below : point.val < 0x80
  · rw [noSurrogate below]
    unfold escapePoint
    repeat' split
    all_goals simp [noSurrogate below]
  · have other {character : Char} (ascii : character.toNat < 0x80) : point ≠ character := by
      rintro rfl
      exact below ascii
    have unescaped : escapePoint point = [point] := by
      rw [escapePoint, if_neg (other (by decide)), if_neg (other (by decide)),
        if_neg (other (by decide)), if_neg (other (by decide)), if_neg (other (by decide)),
        if_neg (by omega), if_neg (by omega), if_neg (by omega)]
    simp [unescaped]

theorem isEncodable_string (content : Text) :
    isEncodable (string content) = isEncodable content := by
  induction content with
  | nil => rfl
  | cons point rest hypothesis =>
    simp only [string, List.flatMap_cons, Utf8.isEncodable_append, Utf8.isEncodable_of,
      Bool.true_and, Bool.and_true] at hypothesis ⊢
    rw [isEncodable_escapePoint, hypothesis, Utf8.isEncodable_cons]

theorem isEncodable_lineBreak
    (layout : Layout)
    (level : Nat) :
    isEncodable (layout.lineBreak level) = true := by
  cases layout <;> simp [Layout.lineBreak]

theorem isEncodable_separator
    (layout : Layout)
    (level : Nat) :
    isEncodable (layout.separator level) = true := by
  cases layout <;> simp [Layout.separator, isEncodable_lineBreak]

theorem isEncodable_enclosed
    (layout : Layout)
    (level : Nat)
    (opening closing : String)
    (items : List Text) :
    isEncodable (enclosed layout level opening closing items) = items.all isEncodable := by
  unfold enclosed
  split
  · rename_i empty
    rw [List.isEmpty_iff.1 empty]
    simp
  · simp [isEncodable_lineBreak, Utf8.isEncodable_join (isEncodable_separator _ _)]

/-- A key is written as its own text or in characters. -/
theorem isEncodable_of_keyText
    {key : Value}
    {name : Text}
    (written : keyText key = .ok name) :
    isEncodable name = key.isEncodable := by
  cases key with
  | boolean flag => cases flag <;> cases written <;> simp [Value.isEncodable]
  | foreign other =>
    cases text : other.json? with
    | none => simp [keyText, text] at written
    | some content =>
      obtain rfl : content = name := by simpa [keyText, text] using written
      simp [Value.isEncodable, text]
  | null => cases written; simp [Value.isEncodable]
  | integer number => cases written; simp [Value.isEncodable]
  | text content => cases written; simp [Value.isEncodable]
  | _ => cases written

theorem exists_of_map
    {function : α → β}
    {outcome : Except Fault α}
    {result : β}
    (success : outcome.map function = .ok result) :
    ∃ value, outcome = .ok value ∧ function value = result := by
  cases outcome with
  | error fault => cases success
  | ok value => exact ⟨value, rfl, Except.ok.inj success⟩

mutual

/-- The JSON text of a value can be encoded exactly if all texts in the value can. -/
theorem isEncodable_of_render
    {layout : Layout}
    {level : Nat}
    {value : Value}
    {text : Text}
    (rendered : render layout level value = .ok text) :
    isEncodable text = value.isEncodable := by
  cases value with
  | null =>
    cases rendered
    simp [Value.isEncodable]
  | boolean flag =>
    cases flag <;> cases rendered <;> simp [Value.isEncodable]
  | integer number =>
    cases rendered
    simp [Value.isEncodable]
  | decimal number =>
    cases rendered
    simp [Value.isEncodable, isEncodable_string]
  | text content =>
    cases rendered
    simp [Value.isEncodable, isEncodable_string]
  | list items | tuple items =>
    rw [render] at rendered
    obtain ⟨texts, shown, rfl⟩ := exists_of_map rendered
    rw [isEncodable_enclosed, areEncodable_of_renderItems shown, Value.isEncodable]
  | map entries =>
    rw [render] at rendered
    obtain ⟨texts, shown, rfl⟩ := exists_of_map rendered
    rw [isEncodable_enclosed, entriesAreEncodable_of_renderEntries shown, Value.isEncodable]
  | foreign other =>
    cases json : other.json? with
    | none => simp [render, json] at rendered
    | some content =>
      obtain rfl : content = text := by simpa [render, json] using rendered
      simp [Value.isEncodable, json]

theorem areEncodable_of_renderItems
    {layout : Layout}
    {level : Nat}
    {items : List Value}
    {texts : List Text}
    (rendered : renderItems layout level items = .ok texts) :
    texts.all isEncodable = Value.areEncodable items := by
  cases items with
  | nil =>
    cases rendered
    rfl
  | cons item rest =>
    rw [renderItems, Reading.bind_eq_ok] at rendered
    obtain ⟨first, firstShown, rendered⟩ := rendered
    obtain ⟨others, othersShown, rendered⟩ := Reading.bind_eq_ok.1 rendered
    cases rendered
    rw [List.all_cons, isEncodable_of_render firstShown,
      areEncodable_of_renderItems othersShown, Value.areEncodable]

theorem entriesAreEncodable_of_renderEntries
    {layout : Layout}
    {level : Nat}
    {entries : List (Value × Value)}
    {texts : List Text}
    (rendered : renderEntries layout level entries = .ok texts) :
    texts.all isEncodable = Value.entriesAreEncodable entries := by
  cases entries with
  | nil =>
    cases rendered
    rfl
  | cons entry rest =>
    obtain ⟨key, value⟩ := entry
    rw [renderEntries, Reading.bind_eq_ok] at rendered
    obtain ⟨name, written, rendered⟩ := rendered
    obtain ⟨content, shown, rendered⟩ := Reading.bind_eq_ok.1 rendered
    obtain ⟨others, othersShown, rendered⟩ := Reading.bind_eq_ok.1 rendered
    cases rendered
    rw [List.all_cons, Utf8.isEncodable_append, Utf8.isEncodable_append, Utf8.isEncodable_of,
      Bool.and_true, isEncodable_string, isEncodable_of_keyText written,
      isEncodable_of_render shown, entriesAreEncodable_of_renderEntries othersShown,
      Value.entriesAreEncodable]

end

theorem isEncodable_of_write
    {layout : Layout}
    {value : Value}
    {text : Text}
    (written : write layout value = .ok text) :
    isEncodable text = value.isEncodable :=
  isEncodable_of_render written

end Json

/-! ## The report of a diagnostic -/

namespace Report

theorem depth_ofDiagnostic (name : Text) (diagnostic : Diagnostic) :
    (ofDiagnostic name diagnostic).toValue.depth = 3 :=
  rfl

/-- The report of a diagnostic at a place in its source holds the texts of its wording. -/
theorem isEncodable_ofDiagnostic
    {name : Text}
    {diagnostic : Diagnostic}
    (sameName : diagnostic.position.name = name) :
    (ofDiagnostic name diagnostic).toValue.isEncodable = isEncodable diagnostic.toText := by
  have holds : (ofDiagnostic name diagnostic).toValue.isEncodable =
      (isEncodable name && (isEncodable diagnostic.message && isEncodable name)) := by
    simp [ofDiagnostic, toValue, ofIncludes, ofError, ofPosition, member, count,
      Value.isEncodable, Value.entriesAreEncodable, sameName]
  have words : isEncodable diagnostic.toText =
      (isEncodable diagnostic.message && isEncodable name) := by
    simp [Diagnostic.toText, Position.toText, sameName]
  rw [holds, words]
  cases isEncodable name <;> simp

end Report

/-! ## What is relied on -/

/-- JSON has a sort for a value and for all that stands in it; the keys of its maps are
texts. -/
inductive Value.IsJson : Value → Prop
  | null : IsJson .null
  | boolean (flag : Bool) : IsJson (.boolean flag)
  | integer (number : Int) : IsJson (.integer number)
  | text (content : Text) : IsJson (.text content)
  | list
      {items : List Value}
      (each : ∀ item ∈ items, IsJson item) :
      IsJson (.list items)
  | map
      {entries : List (Value × Value)}
      (keys : ∀ entry ∈ entries, ∃ key, entry.1 = .text key)
      (values : ∀ entry ∈ entries, IsJson entry.2) :
      IsJson (.map entries)

/-- The tree of a report, if there is one, is a map that JSON has a sort for. -/
def Report.HasJsonTree (report : Report) : Prop :=
  ∀ tree ∈ report.tree, tree.IsJson ∧ ∃ members, tree = .map members

namespace Command

/-- What is relied on of the library that lays reports out, which takes a number of nested
sequences and maps.  Nothing is said of reports that JSON has no sort for. -/
structure Surroundings.LaysOut (surroundings : Surroundings) (levels : Nat) : Prop where
  /-- What is laid out has the fields of the report as they are. -/
  eq_toValue : ∀ (report : Report) value, report.HasJsonTree →
    surroundings.layOut report = some value → value = report.toValue
  /-- A report is laid out if its texts can be encoded and it is not nested too deeply. -/
  isSome : ∀ report : Report, report.HasJsonTree → report.toValue.isEncodable = true →
    report.toValue.depth ≤ levels → (surroundings.layOut report).isSome = true

/-- The output takes exactly the texts that can be encoded. -/
def Surroundings.IsStrict (surroundings : Surroundings) : Prop :=
  ∀ text, surroundings.takes text = isEncodable text

/-- A command ended with an exit code and printed the JSON text of a report. -/
def Result.Prints (flags : Flags) (code : Nat) (report : Report) (result : Result) : Prop :=
  ∃ text errors, Json.write flags.layout report.toValue = .ok text ∧
    result = .finished code text errors

/-- A report did not reach the output. -/
def Result.IsLost (result : Result) : Prop :=
  ∃ journal, result = .notLaidOut journal ∨ result = .notTaken journal

/-- A command came to a report, which is printed unless it cannot be encoded or is nested too
deeply to be laid out. -/
structure Result.Shows
    (flags : Flags)
    (code levels : Nat)
    (report : Report)
    (result : Result) : Prop where
  /-- Nothing else comes of it. -/
  printed_or_lost : result.Prints flags code report ∨ result.IsLost
  /-- A report is printed if its texts can be encoded and it is not nested too deeply. -/
  printed : report.toValue.isEncodable = true → report.toValue.depth ≤ levels →
    result.Prints flags code report
  /-- A report with a text that cannot be encoded is lost. -/
  lost : report.toValue.isEncodable = false → result.IsLost

end Command

end Stencil
