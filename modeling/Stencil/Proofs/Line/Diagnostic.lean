import Stencil.Proofs.Continuation.Segment
import Stencil.Proofs.Line.Document
import Stencil.Proofs.Pragma.Change
import Stencil.Proofs.Pragma.Stopping
import Stencil.Proofs.Reporting.Command

/-!
# Diagnostics on one line

A delimiter that was not there from the beginning was set by a pragma, so it is what a
string literal of the source denotes.  Hence a diagnostic stands on one line unless it
cites something with a line break that the source quotes, and this takes a backslash or a
carriage return in the source.
-/

namespace Stencil

/-! ## What string literals denote -/

namespace StringLiteral

/-- Without a backslash a content is written as it is, and on one line but for carriage
returns. -/
theorem Quotes.eq_of_plain
    {content body : Text}
    (quotes : Quotes content body)
    (plain : CodePoint.ofChar '\\' ∉ body) :
    content = body ∧ CodePoint.ofChar '\n' ∉ body := by
  induction quotes with
  | nil => exact ⟨rfl, List.not_mem_nil⟩
  | cons denotes rest hypothesis =>
    rw [List.mem_append, not_or] at plain
    obtain ⟨same, noNewline⟩ := hypothesis plain.2
    cases denotes with
    | verbatim noBreak => exact ⟨by rw [same]; rfl, by simp [noBreak.symm, noNewline]⟩
    | simple => exact absurd List.mem_cons_self plain.1
    | narrow => exact absurd List.mem_cons_self plain.1
    | wide => exact absurd List.mem_cons_self plain.1

/-- An escape is faulty only behind a backslash. -/
theorem mem_of_invalidEscape
    {text escape : Text}
    (failure : read text = .error (.invalidEscape escape)) :
    CodePoint.ofChar '\\' ∈ text := by
  fun_induction read text with
  | case1 => cases failure
  | case2 => cases failure
  | case3 => cases failure
  | case13 point rest noNewline noQuote noBackslash hypothesis =>
    exact List.mem_cons_of_mem _ (hypothesis (read_eq_error_of_map failure))
  | _ => exact List.mem_cons_self

end StringLiteral

namespace Template

variable {origin : Origin}

/-- A text is quoted in a source: a string literal denotes it, or it stands in one behind a
backslash and is no escape. -/
def Origin.Quotes (origin : Origin) (text : Text) : Prop :=
  (∃ token, origin.ShowsToken token ∧ token.kind = .string ∧ token.value = text) ∨
    ∃ position, origin.ShowsFault position (.invalidEscape text)

/-- Without backslashes and carriage returns no line is broken in what is quoted. -/
theorem Origin.Quotes.isLine
    {text : Text}
    (quoted : origin.Quotes text)
    (plain : ∀ point ∈ origin.source,
      point ≠ CodePoint.ofChar '\\' ∧ point ≠ CodePoint.ofChar '\r') :
    text.IsLine := by
  have inSource {cursor : Cursor} (stands : origin.Has cursor) {point : CodePoint}
      (member : point ∈ cursor.rest) : point ∈ origin.source := by
    rw [stands.eq_ofIndex.2.2] at member
    exact List.mem_of_mem_drop member
  rcases quoted with ⟨token, ⟨cursor, behind, stands, scans⟩, isString, rfl⟩ |
    ⟨position, cursor, stands, _, failed⟩
  · cases scans with
    | @string rest content count unread read =>
      obtain ⟨body, after, closes, _⟩ := StringLiteral.exists_closes_of_read read
      have inBody {point : CodePoint} (member : point ∈ body) : point ∈ origin.source := by
        refine inSource stands ?_
        rw [unread, closes.closed]
        exact List.mem_cons_of_mem _ (List.mem_append_left _ member)
      obtain ⟨isBody, noNewline⟩ :=
        closes.quotes.eq_of_plain fun member => (plain _ (inBody member)).1 rfl
      intro point member
      have inside : point ∈ body := isBody ▸ member
      have noReturn := (plain point (inBody inside)).2
      have noFeed : point ≠ CodePoint.ofChar '\n' := by
        rintro rfl
        exact noNewline inside
      simp [CodePoint.isLineBreak, noFeed, noReturn]
    | punctuation =>
      exact absurd isString (Token.Kind.ofPunctuation_ne_lexeme _).2.2.2
    | _ => cases isString
  · rcases Token.exists_of_scanHere_error failed with ⟨_, _, _, _, number⟩ | read
    · simp only [Token.scanNumber] at number
      split at number <;> cases number
    · have backslash := List.mem_of_mem_drop (StringLiteral.mem_of_invalidEscape read)
      exact absurd rfl (plain _ (inSource stands backslash)).1

/-- What a cause quotes is found in the source. -/
theorem Origin.quotes_of_foundAt
    {position : Position}
    {cause : Cause}
    {text : Text}
    (found : cause.FoundAt origin position)
    (quoted : cause.Quotes text) :
    origin.Quotes text := by
  cases cause with
  | unexpected expected token =>
    obtain ⟨isString, rfl⟩ := quoted
    exact .inl ⟨token, found.2, isString, rfl⟩
  | lexical fault =>
    cases fault with
    | invalidEscape escape =>
      obtain rfl : text = escape := quoted
      exact .inr ⟨position, found⟩
    | _ => exact absurd quoted id
  | _ => exact absurd quoted id

end Template

namespace Document

open Template (Origin)

variable
  {origin : Origin}
  {region : Region}
  {cursor finish : Cursor}

/-! ## What pragmas set -/

/-- The texts of a pair are quoted in a source. -/
def QuotedPair (origin : Origin) (value : Value) : Prop :=
  ∃ opening closing, value = .tuple [.text opening, .text closing] ∧ origin.Quotes opening ∧
    origin.Quotes closing

theorem quotes_of_expect
    {expected : Expectation}
    {found : Token}
    (stands : origin.Has cursor)
    (read : Reading.expect .string expected cursor = .ok (found, finish)) :
    origin.Quotes found.value := by
  obtain ⟨scanned, isString⟩ := Reading.expect_eq_ok.1 read
  exact .inl ⟨found, (Reading.showsToken_of_token stands scanned).2, isString, rfl⟩

theorem quotedPair_of_pragmaField
    {kind : Kind}
    {value : Value}
    (stands : origin.Has cursor)
    (field : pragmaField region cursor = .ok ((kind, value), finish)) :
    QuotedPair origin value := by
  obtain ⟨_, _, _, _, _, _, opening, _, _, _, closing, _, _, next, _, _, signed, opened, first,
    separated, second, _, rfl⟩ := pragmaField_eq_ok.1 field
  have atFirst := ((stands.behind next.2).behind (Reading.expectOperator_eq_ok.1 signed).1).behind
    (Reading.expect_eq_ok.1 opened).1
  have atSecond := (atFirst.behind (Reading.expect_eq_ok.1 first).1).behind
    (Reading.expect_eq_ok.1 separated).1
  exact ⟨_, _, rfl, quotes_of_expect atFirst first, quotes_of_expect atSecond second⟩

/-- A pragma lists pairs that are quoted in the source. -/
theorem Changes.quoted
    {changes result : List (Kind × Value)}
    (listed : Changes region changes cursor result finish)
    (stands : origin.Has cursor)
    (before : ∀ change ∈ changes, QuotedPair origin change.2) :
    ∀ change ∈ result, QuotedPair origin change.2 :=
  listed.every quotedPair_of_pragmaField
    (fun stands field separated =>
      (stands.reaches (pragmaField_passes field).1).behind (Reading.expect_eq_ok.1 separated).1)
    stands before

/-- A delimiter behind a segment was active before it, or is quoted in the source. -/
theorem Step.has_or_quotes
    {state after : State}
    {segment : Segment}
    {text : Text}
    (step : Step origin.grammar state segment after)
    (stands : origin.Has state.cursor)
    (has : after.delimiters.Has text) :
    state.delimiters.Has text ∨ origin.Quotes text := by
  by_cases isPragma : segment.kind? = some .pragma
  · cases step with
    | @pragma changes delimiters _ _ opens listed _ changed =>
      have quoted := listed.quoted (stands.reaches (passes_opening opens).1) (List.forall_mem_nil _)
      obtain ⟨kind, isDelimiter⟩ := has
      rcases Delimiters.changedPair_eq_ok_iff.1 (Delimiters.change_eq_ok_iff.1 changed kind) with
        given | ⟨_, kept⟩
      · obtain ⟨change, found, isValue⟩ := Option.map_eq_some_iff.1 given
        obtain ⟨opening, closing, isPair, quotedOpening, quotedClosing⟩ :=
          quoted change (List.mem_reverse.1 (List.mem_of_find?_eq_some found))
        rw [isValue] at isPair
        obtain ⟨rfl, rfl⟩ : (delimiters.pair kind).opening = opening ∧
            (delimiters.pair kind).closing = closing := by
          simpa [Pair.toValue] using isPair
        rcases isDelimiter with rfl | rfl
        · exact .inr quotedOpening
        · exact .inr quotedClosing
      · exact .inl ⟨kind, by rw [← kept]; exact isDelimiter⟩
    | _ => cases isPragma
  · rw [step.exists_content.2 isPragma] at has
    exact .inl has

/-- An active delimiter was there from the beginning, or is quoted in the source. -/
theorem Steps.has_or_quotes
    {state after : State}
    {segments : List Segment}
    {text : Text}
    (steps : Steps origin.grammar state segments after)
    (stands : origin.Has state.cursor)
    (has : after.delimiters.Has text) :
    state.delimiters.Has text ∨ origin.Quotes text := by
  induction steps with
  | nil => exact .inl has
  | cons step _ hypothesis =>
    rcases hypothesis (stands.reaches step.passes.1) has with earlier | quoted
    · exact step.has_or_quotes stands earlier
    · exact .inr quoted

end Document

/-! ## The diagnostic of a source -/

/-- What ends with a digit is not trimmed. -/
theorem Text.trimEnd_append_ofNat (text : Text) (number : Nat) :
    (text ++ Text.ofNat number).trimEnd = text ++ Text.ofNat number := by
  obtain ⟨front, digit, digits⟩ : ∃ front digit, Text.ofNat number = front ++ [digit] :=
    ⟨_, _, (List.dropLast_concat_getLast (Text.ofNat_ne_nil number)).symm⟩
  have isDigit := Text.all_isDigit_ofNat number
  rw [digits, List.all_append, Bool.and_eq_true] at isDigit
  have noBlank : digit.isBlank = false := by
    refine CodePoint.isBlank_of_isLexical (CodePoint.isLexical_of_isDigit ?_)
    simpa using isDigit.2
  rw [trimEnd, digits, ← List.append_assoc, List.reverse_concat,
    List.dropWhile_cons_of_neg (by simp [noBlank]), List.reverse_cons, List.reverse_reverse]

namespace Template

open Document

variable {origin : Origin}

theorem Origin.Shows.name_eq
    {position : Position}
    {property : Nat → Text → Prop}
    (shown : origin.Shows position property) :
    position.name = origin.name := by
  obtain ⟨_, _, rfl, _⟩ := shown
  rfl

/-- Under a name on one line, a diagnostic stands on one line exactly if all does that it
cites. -/
theorem Origin.isLine_toText_iff
    {diagnostic : Diagnostic}
    (located : diagnostic.Located origin)
    (nameIsLine : origin.name.IsLine) :
    diagnostic.toText.IsLine ↔ ∀ text ∈ diagnostic.cause.cited, text.IsLine := by
  have positionName := located.placed.name_eq
  have openerName : ∀ opener ∈ diagnostic.cause.opener?, opener.name.IsLine := by
    intro opener member
    have found := located.found
    cases cause : diagnostic.cause with
    | unterminatedBlock construct position block terminator word =>
      rw [cause] at found member
      obtain rfl := Option.some.inj member
      have opens : origin.ShowsOpening position .block := found
      rw [opens.name_eq]
      exact nameIsLine
    | _ =>
      rw [cause] at member
      cases member
  rw [Diagnostic.isLine_toText, Cause.isLine_message, positionName]
  exact ⟨fun lines => lines.1.1, fun lines => ⟨⟨lines, openerName⟩, nameIsLine⟩⟩

/-- What the diagnostic of a source cites stands on one line or is quoted, if the
delimiters at the beginning stand on one line. -/
theorem isLine_or_quotes_of_read
    (origin : Origin)
    {diagnostic : Diagnostic}
    (failure : (read origin.options origin.name origin.delimiters origin.source).result =
      .error (.diagnosed diagnostic))
    (areLines : ∀ text, origin.delimiters.Has text → text.IsLine) :
    ∀ text ∈ diagnostic.cause.cited, text.IsLine ∨ origin.Quotes text := by
  have justified : diagnostic.Located origin := justified_of_read origin failure
  obtain ⟨state, stops⟩ := Origin.exists_stopsIn failure
  have active := stops.delimiters_eq
  have sourced : diagnostic.cause.IsSourced
      (read origin.options origin.name origin.delimiters origin.source).delimiters := by
    rw [read_eq_ofResult] at failure ⊢
    cases outcome : whole (grammarFor origin.options origin.source) (callsFor origin.source)
        origin.name (initial origin.name origin.delimiters origin.source) with
    | ok template after =>
      rw [outcome] at failure
      cases failure
    | error halt after =>
      rw [outcome] at failure
      obtain rfl : halt = .diagnosed diagnostic := Except.error.inj failure
      exact sourced_whole _ _ _ _ diagnostic after outcome
  rw [active] at sourced
  intro text member
  obtain ⟨segments, steps⟩ := stops.1
  rcases sourced text member with isLine | has | quoted
  · exact .inl isLine
  · exact (steps.has_or_quotes (origin.attains_start.has) has).imp_left (areLines text)
  · exact .inr (Origin.quotes_of_foundAt justified.found quoted)

/-- A text is quoted in a source that is handed in. -/
def Source.Quotes (source : Source) (name : Text) (delimiters : Delimiters) (text : Text) : Prop :=
  ∃ content, source.decoded name = .ok content ∧
    Origin.Quotes ⟨{}, name, delimiters, content⟩ text

/-- A source that is no text has a diagnostic that cites nothing. -/
theorem Source.cause_of_decoded
    {source : Source}
    {name : Text}
    {diagnostic : Diagnostic}
    (failure : source.decoded name = .error diagnostic) :
    diagnostic.cause = .invalidEncoding ∧ diagnostic.position.name = name := by
  cases source with
  | text content => cases failure
  | bytes content =>
    simp only [decoded, decode] at failure
    split at failure
    · cases failure
    · cases failure
      exact ⟨rfl, rfl⟩

/-- An attempt comes to a diagnostic when its text is read, or because there is no text. -/
theorem diagnosed_cases
    {name : Text}
    {delimiters : Delimiters}
    {source : Source}
    {diagnostic : Diagnostic}
    (failure : (attempt name delimiters source).result = .error (.diagnosed diagnostic)) :
    (∃ content, source.decoded name = .ok content ∧
      (read {} name delimiters content).result = .error (.diagnosed diagnostic)) ∨
    source.decoded name = .error diagnostic := by
  unfold attempt at failure
  split at failure
  · rename_i content decoded
    rw [Outcome.result_recorded] at failure
    exact .inl ⟨content, decoded, failure⟩
  · rename_i found undecoded
    obtain rfl : found = diagnostic := Halt.diagnosed.inj (Except.error.inj failure)
    exact .inr undecoded

/-- Every diagnostic stands on one line, if all does that it cites; and what it cites stands
on one line or is quoted in the source. -/
theorem isLine_toText_of_attempt
    {name : Text}
    {delimiters : Delimiters}
    {source : Source}
    {diagnostic : Diagnostic}
    (failure : (attempt name delimiters source).result = .error (.diagnosed diagnostic))
    (nameIsLine : name.IsLine)
    (areLines : ∀ text, delimiters.Has text → text.IsLine) :
    (diagnostic.toText.IsLine ↔ ∀ text ∈ diagnostic.cause.cited, text.IsLine) ∧
      ∀ text ∈ diagnostic.cause.cited, text.IsLine ∨ source.Quotes name delimiters text := by
  rcases diagnosed_cases failure with ⟨content, decoded, failure⟩ | undecoded
  · let origin : Origin := ⟨{}, name, delimiters, content⟩
    have located : diagnostic.Located origin := justified_of_read origin failure
    refine ⟨origin.isLine_toText_iff located nameIsLine, fun text member => ?_⟩
    exact (isLine_or_quotes_of_read origin failure areLines text member).imp_right
      fun quoted => ⟨content, decoded, quoted⟩
  · obtain ⟨cause, positionName⟩ := Source.cause_of_decoded undecoded
    rw [Diagnostic.isLine_toText, Cause.isLine_message, cause, positionName]
    simp [Cause.cited, Cause.opener?, nameIsLine]

/-- A diagnostic lies in the source that it is about. -/
theorem name_eq_of_attempt
    {name : Text}
    {delimiters : Delimiters}
    {source : Source}
    {diagnostic : Diagnostic}
    (failure : (attempt name delimiters source).result = .error (.diagnosed diagnostic)) :
    diagnostic.position.name = name := by
  rcases diagnosed_cases failure with ⟨content, _, failure⟩ | undecoded
  · have located : diagnostic.Located ⟨{}, name, delimiters, content⟩ :=
      justified_of_read ⟨{}, name, delimiters, content⟩ failure
    exact located.placed.name_eq
  · exact (Source.cause_of_decoded undecoded).2

/-- The command ends with the diagnostic of a source, behind what it shows of the journal, if
the diagnostic can be encoded; if it cannot, its report is lost. -/
theorem report_of_diagnostic
    {name : Text}
    {delimiters : Delimiters}
    {bytes : List UInt8}
    {diagnostic : Diagnostic}
    (failure : (attempt name delimiters (.bytes bytes)).result = .error (.diagnosed diagnostic))
    {surroundings : Command.Surroundings}
    {levels : Nat}
    (laysOut : surroundings.LaysOut levels)
    (strict : surroundings.IsStrict)
    (flags : Command.Flags)
    (events : List Event) :
    (Utf8.isEncodable diagnostic.toText = true → 3 ≤ levels →
      ∃ output, Command.report surroundings flags name delimiters events bytes =
        .finished 2 output
          (Command.shown flags (events ++ (attempt name delimiters (.bytes bytes)).journal) ++
            (diagnostic.toText ++ Text.of "\n"))) ∧
    (Utf8.isEncodable diagnostic.toText = false →
      (Command.report surroundings flags name delimiters events bytes).IsLost) := by
  have hasJsonTree := Report.hasJsonTree_ofDiagnostic name diagnostic
  have sameTexts := Report.isEncodable_ofDiagnostic (name_eq_of_attempt failure)
  have untrimmed : diagnostic.toText.trimEnd = diagnostic.toText := by
    simp only [Diagnostic.toText, Position.toText, ← List.append_assoc]
    exact Text.trimEnd_append_ofNat _ _
  simp only [Command.report, failure, Command.lastLine, untrimmed]
  refine ⟨fun encodable shallow => ?_, fun unencodable => ?_⟩
  · obtain ⟨output, _, finished⟩ := Command.exists_finishedReport laysOut strict hasJsonTree
      (sameTexts.trans encodable)
      ((Report.depth_ofDiagnostic name diagnostic).trans_le shallow) flags 2 _ _
    exact ⟨output, finished⟩
  · exact Command.finishedReport_isLost laysOut strict hasJsonTree (sameTexts.trans unencodable)
      flags 2 _ _

/-- Every diagnostic stands on one line, unless the source quotes a line break.  Let the name
of a source and the delimiters at its beginning stand on one line.  Then a diagnostic is
broken exactly if it cites a text with a line break that a string literal of the source
denotes or has behind a backslash; a source without backslashes and carriage returns has no
such text.  On a strict output the command ends with the diagnostic behind what it shows of
the journal, if the diagnostic can be encoded; one that holds a lone surrogate is lost with
its report. -/
theorem attempt_diagnosed_on_one_line
    {name : Text}
    {delimiters : Delimiters}
    {source : Source}
    {diagnostic : Diagnostic}
    (nameIsLine : name.IsLine)
    (areLines : ∀ text, delimiters.Has text → text.IsLine)
    (failure : (attempt name delimiters source).result = .error (.diagnosed diagnostic)) :
    (¬ diagnostic.toText.IsLine ↔ ∃ text ∈ diagnostic.cause.cited, ¬ text.IsLine ∧
      source.Quotes name delimiters text) ∧
    ((∀ content, source.decoded name = .ok content → ∀ point ∈ content,
        point ≠ CodePoint.ofChar '\\' ∧ point ≠ CodePoint.ofChar '\r') →
      diagnostic.toText.IsLine) ∧
    ∀ (surroundings : Command.Surroundings) (levels : Nat),
      surroundings.LaysOut levels → surroundings.IsStrict →
      ∀ flags events bytes, source = .bytes bytes →
        (Utf8.isEncodable diagnostic.toText = true → 3 ≤ levels →
          ∃ output,
            Command.report surroundings flags name delimiters events bytes = .finished 2 output
              (Command.shown flags (events ++ (attempt name delimiters source).journal) ++
                (diagnostic.toText ++ Text.of "\n"))) ∧
        (Utf8.isEncodable diagnostic.toText = false →
          (Command.report surroundings flags name delimiters events bytes).IsLost) := by
  obtain ⟨exactly, sourced⟩ := isLine_toText_of_attempt failure nameIsLine areLines
  refine ⟨⟨fun broken => ?_, fun ⟨text, member, isBroken, _⟩ isLine => ?_⟩, fun plain => ?_, ?_⟩
  · simp only [exactly, not_forall] at broken
    obtain ⟨text, member, isBroken⟩ := broken
    exact ⟨text, member, isBroken, (sourced text member).resolve_left isBroken⟩
  · exact isBroken (exactly.1 isLine text member)
  · refine exactly.2 fun text member => ?_
    rcases sourced text member with isLine | ⟨content, decoded, quoted⟩
    · exact isLine
    · exact quoted.isLine (plain content decoded)
  · rintro surroundings levels laysOut strict flags events bytes rfl
    exact report_of_diagnostic failure laysOut strict flags events

/-- The diagnostic of a result. -/
def diagnostic? : Except Halt Template → Option Diagnostic
  | .error (.diagnosed diagnostic) => some diagnostic
  | _ => none

theorem exists_of_diagnostic?
    {result : Except Halt Template}
    {message : Text}
    (evaluated : (diagnostic? result).map Diagnostic.toText = some message) :
    ∃ diagnostic, result = .error (.diagnosed diagnostic) ∧ diagnostic.toText = message := by
  obtain ⟨diagnostic, isDiagnostic, isMessage⟩ := Option.map_eq_some_iff.1 evaluated
  unfold diagnostic? at isDiagnostic
  split at isDiagnostic
  · cases isDiagnostic
    exact ⟨_, rfl, isMessage⟩
  · cases isDiagnostic

theorem isLine_of_braces : ∀ text, Delimiters.braces.Has text → text.IsLine := by
  rintro text ⟨kind, rfl | rfl⟩ <;> cases kind <;> decide

/-- A string literal without a line break stands in the place of a name. -/
theorem attempt_diagnosed_of_quoted_name :
    (Text.of "<template>").IsLine ∧ (∀ text, Delimiters.braces.Has text → text.IsLine) ∧
    ∃ diagnostic output, (attempt (Text.of "<template>") .braces
        (.bytes (Utf8.encode (Text.of "\x7b% for \"a\" in x %\x7d")))).result =
          .error (.diagnosed diagnostic) ∧
      diagnostic.toText.IsLine ∧
      Command.report Command.strictSurroundings {} (Text.of "<template>") .braces []
        (Utf8.encode (Text.of "\x7b% for \"a\" in x %\x7d")) = .finished 2 output
          (Text.of "Expected identifier, got 'a' at <template>:1:8\n") := by
  refine ⟨by decide, isLine_of_braces, ?_⟩
  obtain ⟨diagnostic, failure, isText⟩ := @exists_of_diagnostic?
    (attempt (Text.of "<template>") .braces
      (.bytes (Utf8.encode (Text.of "\x7b% for \"a\" in x %\x7d")))).result
    (Text.of "Expected identifier, got 'a' at <template>:1:8") (by decide +kernel)
  obtain ⟨_, onOneLine, reported⟩ :=
    attempt_diagnosed_on_one_line (by decide) isLine_of_braces failure
  obtain ⟨output, finished⟩ := (reported Command.strictSurroundings 200
    Command.strictSurroundings_laysOut (fun _ => rfl) {} [] _ rfl).1
      (by rw [isText]; exact Utf8.isEncodable_of _) (by decide)
  refine ⟨diagnostic, output, failure, onOneLine ?_, ?_⟩
  · have plain : ((Source.bytes (Utf8.encode (Text.of "\x7b% for \"a\" in x %\x7d"))).decoded
        (Text.of "<template>")).toOption.all (fun content => content.all fun point =>
          point ≠ CodePoint.ofChar '\\' && point ≠ CodePoint.ofChar '\r') = true := by
      decide +kernel
    intro content decoded point member
    rw [decoded] at plain
    simpa using List.all_eq_true.1 plain point member
  · have unshown : Command.shown {} ([] ++ (attempt (Text.of "<template>") .braces
        (.bytes (Utf8.encode (Text.of "\x7b% for \"a\" in x %\x7d")))).journal) = [] := by
      decide +kernel
    rw [finished, isText, unshown]
    rfl

/-- A string literal with an escaped line feed stands in the place of a name. -/
theorem attempt_diagnosed_on_two_lines :
    ¬ ∀ name delimiters source diagnostic, name.IsLine →
      (∀ text, delimiters.Has text → text.IsLine) →
        (attempt name delimiters source).result = .error (.diagnosed diagnostic) →
          diagnostic.toText.IsLine := by
  intro always
  obtain ⟨diagnostic, failure, isText⟩ := @exists_of_diagnostic?
    (attempt (Text.of "<template>") .braces
      (.text (Text.of "\x7b% for \"a\\nb\" in x %\x7d"))).result
    (Text.of "Expected identifier, got 'a\nb' at <template>:1:8") (by decide +kernel)
  have isLine := always _ _ _ diagnostic (by decide) isLine_of_braces failure
  rw [isText] at isLine
  exact absurd isLine (by decide)

end Template

end Stencil
