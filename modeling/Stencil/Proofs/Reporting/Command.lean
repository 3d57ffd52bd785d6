import Stencil.Proofs.Reporting
import Stencil.Proofs.Reporting.Output

/-!
# Which sources have a report

Every template and every diagnostic has a report, and every report has a JSON
text.  So the command that reports on a source comes to a report, unless reading
stops at a numeral: one whose exponents are out of the range of decimals, or one
behind a minus sign whose negation is out of the range of the working format.  The
report is printed if its texts can be encoded and it is not nested more deeply than
the library takes that lays it out; a report with a lone surrogate is lost.
-/

namespace Stencil

open Template (Origin)

/-! ## Reports have a text -/

namespace Json

/-- A value has a JSON text at every level. -/
def IsWritable (value : Value) : Prop :=
  ∀ layout level, ∃ text, render layout level value = .ok text

/-- A list has a text if its items have. -/
theorem isWritable_list
    {items : List Value}
    (writable : ∀ item ∈ items, IsWritable item) :
    IsWritable (.list items) := by
  intro layout level
  have rendered : ∀ level, ∃ texts, renderItems layout level items = .ok texts := by
    intro level
    induction items with
    | nil => exact ⟨[], by rw [renderItems]⟩
    | cons item rest hypothesis =>
      rw [List.forall_mem_cons] at writable
      obtain ⟨first, firstRendered⟩ := writable.1 layout level
      obtain ⟨others, othersRendered⟩ := hypothesis writable.2
      refine ⟨first :: others, ?_⟩
      rw [renderItems, firstRendered, othersRendered]
      rfl
  obtain ⟨texts, rendered⟩ := rendered (level + 1)
  refine ⟨enclosed layout level "[" "]" texts, ?_⟩
  rw [render, rendered]
  rfl

/-- A map has a text if its keys are texts and its values have one. -/
theorem isWritable_map
    {entries : List (Value × Value)}
    (keys : ∀ entry ∈ entries, ∃ key, entry.1 = .text key)
    (writable : ∀ entry ∈ entries, IsWritable entry.2) :
    IsWritable (.map entries) := by
  intro layout level
  have rendered : ∀ level, ∃ texts, renderEntries layout level entries = .ok texts := by
    intro level
    induction entries with
    | nil => exact ⟨[], by rw [renderEntries]⟩
    | cons entry rest hypothesis =>
      rw [List.forall_mem_cons] at keys writable
      obtain ⟨key, value⟩ := entry
      obtain ⟨name, rfl⟩ := keys.1
      obtain ⟨content, contentRendered⟩ := writable.1 layout level
      obtain ⟨others, othersRendered⟩ := hypothesis keys.2 writable.2
      refine ⟨(string name ++ Text.of ": " ++ content) :: others, ?_⟩
      rw [renderEntries, keyText, contentRendered, othersRendered]
      rfl
  obtain ⟨texts, rendered⟩ := rendered (level + 1)
  refine ⟨enclosed layout level "\x7b" "\x7d" texts, ?_⟩
  rw [render, rendered]
  rfl

/-- What JSON has a sort for has a text. -/
theorem isWritable_of_isJson
    {value : Value}
    (isJson : value.IsJson) :
    IsWritable value := by
  induction isJson with
  | null => exact fun _ _ => ⟨_, by rw [render]⟩
  | boolean flag =>
    intro layout level
    cases flag <;> exact ⟨_, by rw [render]⟩
  | integer number => exact fun _ _ => ⟨_, by rw [render]⟩
  | text content => exact fun _ _ => ⟨_, by rw [render]⟩
  | list _ hypothesis => exact isWritable_list hypothesis
  | map keys _ hypothesis => exact isWritable_map keys hypothesis

end Json

namespace Report

open Value (IsJson)

/-- A member has a name, and JSON has a sort for its value. -/
def IsMember (entry : Value × Value) : Prop :=
  (∃ key, entry.1 = .text key) ∧ IsJson entry.2

theorem isMember_member
    {value : Value}
    (key : String)
    (isJson : IsJson value) :
    IsMember (member key value) :=
  ⟨⟨_, rfl⟩, isJson⟩

theorem isJson_map
    {entries : List (Value × Value)}
    (members : ∀ entry ∈ entries, IsMember entry) :
    IsJson (.map entries) :=
  .map (fun entry member => (members entry member).1) fun entry member => (members entry member).2

theorem isJson_object
    {kind : String}
    {position : Position}
    {members : List (Value × Value)}
    (isJson : ∀ entry ∈ members, IsMember entry) :
    IsJson (object kind position members) := by
  refine isJson_map ?_
  rw [List.cons_append, List.forall_mem_cons, List.forall_mem_append]
  refine ⟨isMember_member "node" (IsJson.text _), isJson, ?_⟩
  split
  · simp
  · rw [List.forall_mem_cons, List.forall_mem_singleton]
    exact ⟨isMember_member "line" (IsJson.integer _),
      isMember_member "column" (IsJson.integer _)⟩

theorem isJson_ofLiteral (literal : Literal) : IsJson (ofLiteral literal) := by
  cases literal with
  | boolean flag => exact IsJson.boolean flag
  | number value => exact IsJson.text _
  | text content => exact IsJson.text content

theorem isJson_literalKind (literal : Literal) : IsJson (literalKind literal) := by
  cases literal <;> exact IsJson.text _

/-- A pattern of a template is reported. -/
theorem ofPattern_isJson
    {origin : Origin}
    {pattern : Pattern}
    (located : pattern.Located origin) :
    ∃ value, ofPattern pattern = .ok value ∧ IsJson value := by
  cases pattern with
  | wildcard =>
    refine ⟨_, rfl, isJson_map ?_⟩
    exact List.forall_mem_singleton.2 (isMember_member "pattern" (IsJson.text _))
  | path names =>
    refine ⟨_, rfl, isJson_map ?_⟩
    exact List.forall_mem_cons.2 ⟨isMember_member "pattern" (IsJson.text _),
      List.forall_mem_singleton.2 (isMember_member "path" (IsJson.text _))⟩
  | literal value =>
    refine ⟨_, rfl, isJson_map ?_⟩
    exact List.forall_mem_cons.2 ⟨isMember_member "pattern" (IsJson.text _),
      List.forall_mem_singleton.2 (isMember_member "value" (isJson_ofLiteral value))⟩
  | bare value => exact absurd located id

mutual

/-- A tree of a template is reported. -/
theorem ofNode_isJson
    {origin : Origin}
    (node : Node)
    (located : node.Located origin) :
    ∃ value, ofNode node = .ok value ∧ IsJson value := by
  cases node with
  | text position content =>
    refine ⟨_, by rw [ofNode], isJson_object ?_⟩
    exact List.forall_mem_singleton.2 (isMember_member "text" (IsJson.text content))
  | literal position value =>
    refine ⟨_, by rw [ofNode], isJson_object ?_⟩
    exact List.forall_mem_cons.2 ⟨isMember_member "type" (isJson_literalKind value),
      List.forall_mem_singleton.2 (isMember_member "value" (isJson_ofLiteral value))⟩
  | reference path =>
    refine ⟨_, by rw [ofNode], isJson_object ?_⟩
    exact List.forall_mem_singleton.2 (isMember_member "path" (IsJson.text _))
  | function position name =>
    refine ⟨_, by rw [ofNode], isJson_object ?_⟩
    exact List.forall_mem_singleton.2 (isMember_member "name" (IsJson.text _))
  | apply position callee argument =>
    simp only [Node.Located] at located
    obtain ⟨calleeValue, calleeShown, calleeIsJson⟩ := ofNode_isJson callee located.2.1
    obtain ⟨value, shown, isJson⟩ := ofNode_isJson argument located.2.2
    refine ⟨_, by rw [ofNode, calleeShown, shown]; rfl, isJson_object ?_⟩
    exact List.forall_mem_cons.2 ⟨isMember_member "function" calleeIsJson,
      List.forall_mem_singleton.2 (isMember_member "argument" isJson)⟩
  | selection position scrutinee alternatives =>
    simp only [Node.Located] at located
    obtain ⟨subject, subjectShown, subjectIsJson⟩ := ofNode_isJson scrutinee located.2.1
    obtain ⟨values, shown, isJson⟩ := ofAlternatives_isJson alternatives located.2.2
    refine ⟨_, by rw [ofNode, subjectShown, shown]; rfl, isJson_object ?_⟩
    exact List.forall_mem_cons.2 ⟨isMember_member "scrutinee" subjectIsJson,
      List.forall_mem_singleton.2 (isMember_member "alternatives" (IsJson.list isJson))⟩
  | loop position item source body otherwise =>
    simp only [Node.Located] at located
    obtain ⟨value, shown, isJson⟩ := ofNode_isJson body located.2.2.2.1
    obtain ⟨default, defaultShown, defaultIsJson⟩ :=
      ofOptional_isJson otherwise located.2.2.2.2
    refine ⟨_, by rw [ofNode, shown, defaultShown]; rfl, isJson_object ?_⟩
    exact List.forall_mem_cons.2 ⟨isMember_member "binding" (IsJson.text _),
      List.forall_mem_cons.2 ⟨isMember_member "source" (IsJson.text _),
        List.forall_mem_cons.2 ⟨isMember_member "body" isJson,
          List.forall_mem_singleton.2 (isMember_member "else" defaultIsJson)⟩⟩⟩
  | binding position name bound body =>
    simp only [Node.Located] at located
    obtain ⟨value, shown, isJson⟩ := ofNode_isJson bound located.2.2.1
    obtain ⟨result, resultShown, resultIsJson⟩ := ofNode_isJson body located.2.2.2
    refine ⟨_, by rw [ofNode, shown, resultShown]; rfl, isJson_object ?_⟩
    exact List.forall_mem_cons.2 ⟨isMember_member "binding" (IsJson.text _),
      List.forall_mem_cons.2 ⟨isMember_member "value" isJson,
        List.forall_mem_singleton.2 (isMember_member "body" resultIsJson)⟩⟩
  | inclusion position key context =>
    simp only [Node.Located] at located
    obtain ⟨value, shown, isJson⟩ := ofOptional_isJson context located.2
    refine ⟨_, by rw [ofNode, shown]; rfl, isJson_object ?_⟩
    exact List.forall_mem_cons.2 ⟨isMember_member "key" (IsJson.text _),
      List.forall_mem_singleton.2 (isMember_member "with" isJson)⟩
  | sequence position parts =>
    simp only [Node.Located] at located
    obtain ⟨values, shown, isJson⟩ := ofParts_isJson parts located.2
    refine ⟨_, by rw [ofNode, shown]; rfl, isJson_object ?_⟩
    exact List.forall_mem_singleton.2 (isMember_member "parts" (IsJson.list isJson))
  | bare position =>
    simp only [Node.Located] at located

theorem ofOptional_isJson
    {origin : Origin}
    (node : Option Node)
    (located : Node.OptionalLocated origin node) :
    ∃ value, ofOptional node = .ok value ∧ IsJson value := by
  cases node with
  | none => exact ⟨_, by rw [ofOptional], IsJson.null⟩
  | some node =>
    simp only [Node.OptionalLocated] at located
    obtain ⟨value, shown, isJson⟩ := ofNode_isJson node located
    exact ⟨value, by rw [ofOptional, shown], isJson⟩

theorem ofParts_isJson
    {origin : Origin}
    (parts : List Node)
    (located : Node.PartsLocated origin parts) :
    ∃ values, ofParts parts = .ok values ∧ ∀ value ∈ values, IsJson value := by
  cases parts with
  | nil => exact ⟨[], by rw [ofParts], by simp⟩
  | cons part rest =>
    simp only [Node.PartsLocated] at located
    obtain ⟨first, firstShown, firstIsJson⟩ := ofNode_isJson part located.1
    obtain ⟨others, othersShown, othersIsJson⟩ := ofParts_isJson rest located.2
    exact ⟨first :: others, by rw [ofParts, firstShown, othersShown]; rfl,
      List.forall_mem_cons.2 ⟨firstIsJson, othersIsJson⟩⟩

theorem ofAlternatives_isJson
    {origin : Origin}
    (alternatives : List (Pattern × Node))
    (located : Node.AlternativesLocated origin alternatives) :
    ∃ values, ofAlternatives alternatives = .ok values ∧ ∀ value ∈ values, IsJson value := by
  cases alternatives with
  | nil => exact ⟨[], by rw [ofAlternatives], by simp⟩
  | cons alternative rest =>
    obtain ⟨pattern, body⟩ := alternative
    simp only [Node.AlternativesLocated] at located
    obtain ⟨patternLocated, bodyLocated, restLocated⟩ := located
    obtain ⟨first, firstShown, firstIsJson⟩ := ofPattern_isJson patternLocated
    obtain ⟨others, othersShown, othersIsJson⟩ := ofAlternatives_isJson rest restLocated
    obtain ⟨value, shown, isJson⟩ :
        ∃ value, ofNode body = .ok value ∧ IsJson value := by
      rcases bodyLocated with bodyLocated | ⟨_, rfl⟩
      · exact ofNode_isJson body bodyLocated
      · refine ⟨_, by rw [Node.nothing, ofNode, ofParts]; rfl, isJson_object ?_⟩
        exact List.forall_mem_singleton.2 (isMember_member "parts" (IsJson.list (by simp)))
    refine ⟨_, by rw [ofAlternatives, firstShown, shown, othersShown]; rfl, ?_⟩
    refine List.forall_mem_cons.2 ⟨isJson_map ?_, othersIsJson⟩
    exact List.forall_mem_cons.2 ⟨isMember_member "pattern" firstIsJson,
      List.forall_mem_singleton.2 (isMember_member "body" isJson)⟩

end

theorem isJson_ofPosition (position : Position) : IsJson (ofPosition position) := by
  refine isJson_map ?_
  exact List.forall_mem_cons.2 ⟨isMember_member "name" (IsJson.text _),
    List.forall_mem_cons.2 ⟨isMember_member "line" (IsJson.integer _),
      List.forall_mem_cons.2 ⟨isMember_member "column" (IsJson.integer _),
        List.forall_mem_singleton.2 (isMember_member "offset" (IsJson.integer _))⟩⟩⟩

theorem isJson_ofIncludes (includes : Includes) : IsJson (ofIncludes includes) := by
  refine isJson_map ?_
  intro entry member
  obtain ⟨group, _, rfl⟩ := List.mem_map.1 member
  refine ⟨⟨group.1, rfl⟩, IsJson.list ?_⟩
  intro item inside
  obtain ⟨position, _, rfl⟩ := List.mem_map.1 inside
  exact isJson_ofPosition position

/-- A tree is reported as a map. -/
theorem exists_members_of_ofNode
    {node : Node}
    {value : Value}
    (shown : ofNode node = .ok value) :
    ∃ members, value = .map members := by
  cases node with
  | apply | selection | loop | binding =>
    simp only [ofNode, Reading.bind_eq_ok, Reading.pure_eq_ok] at shown
    obtain ⟨_, _, _, _, rfl⟩ := shown
    exact ⟨_, rfl⟩
  | inclusion | sequence =>
    simp only [ofNode, Reading.bind_eq_ok, Reading.pure_eq_ok] at shown
    obtain ⟨_, _, rfl⟩ := shown
    exact ⟨_, rfl⟩
  | bare => simp [ofNode] at shown
  | _ =>
    rw [ofNode, Except.ok.injEq] at shown
    exact ⟨_, shown.symm⟩

/-- JSON has a sort for a report if it has one for its tree. -/
theorem HasJsonTree.isJson
    {report : Report}
    (hasJsonTree : report.HasJsonTree) :
    IsJson report.toValue := by
  have ofTree : IsJson (report.tree.getD .null) := by
    cases tree : report.tree with
    | none => exact IsJson.null
    | some value => exact (hasJsonTree value tree).1
  have ofError : IsJson ((report.error.map ofError).getD .null) := by
    cases report.error with
    | none => exact IsJson.null
    | some error =>
      refine isJson_map ?_
      exact List.forall_mem_cons.2 ⟨isMember_member "message" (IsJson.text _),
        List.forall_mem_singleton.2
          (isMember_member "position" (isJson_ofPosition error.2))⟩
  refine isJson_map ?_
  exact List.forall_mem_cons.2 ⟨isMember_member "ok" (IsJson.boolean _),
    List.forall_mem_cons.2 ⟨isMember_member "name" (IsJson.text _),
      List.forall_mem_cons.2 ⟨isMember_member "ast" ofTree,
        List.forall_mem_cons.2 ⟨isMember_member "includes" (isJson_ofIncludes _),
          List.forall_mem_singleton.2 (isMember_member "error" ofError)⟩⟩⟩⟩

/-- A report has a JSON text. -/
theorem HasJsonTree.exists_write
    {report : Report}
    (hasJsonTree : report.HasJsonTree)
    (layout : Json.Layout) :
    ∃ text, Json.write layout report.toValue = .ok text :=
  Json.isWritable_of_isJson hasJsonTree.isJson layout 0

/-- A template that was read is reported. -/
theorem exists_ofTemplate
    {origin : Origin}
    {template : Template}
    (name : Text)
    (located : template.Located origin) :
    ∃ report, ofTemplate name template = .ok report ∧ report.HasJsonTree := by
  obtain ⟨tree, shown, isJson⟩ := ofNode_isJson template.root located.root
  refine ⟨_, by rw [ofTemplate, shown]; rfl, ?_⟩
  rintro _ ⟨⟩
  exact ⟨isJson, exists_members_of_ofNode shown⟩

theorem hasJsonTree_ofDiagnostic (name : Text) (diagnostic : Diagnostic) :
    (ofDiagnostic name diagnostic).HasJsonTree :=
  nofun

end Report

/-! ## Halts at numerals -/

namespace Template

/-- Reading a source stops at a numeral of its text that is out of range. -/
def Source.StopsAtNumeral (name : Text) (source : Source) (halt : Halt) : Prop :=
  ∃ text, source.decoded name = .ok text ∧
    ((halt = .unheldNumber ∧ ∃ index, Numeral.IsUnheld (text.drop index)) ∨
      (halt = .overflow ∧ ∃ index, Numeral.Overflows (text.drop index)))

@[simp] theorem Outcome.result_recorded (name : Text) (outcome : Outcome) :
    (outcome.recorded name).result = outcome.result := by
  unfold Outcome.recorded
  split <;> rfl

/-- A halt for which the source is to blame is a diagnostic or lies at a numeral. -/
theorem exists_of_justified
    {origin : Origin}
    {halt : Halt}
    (justified : halt.Justified origin) :
    (∃ diagnostic, halt = .diagnosed diagnostic) ∨
      (halt = .unheldNumber ∧ ∃ index, Numeral.IsUnheld (origin.source.drop index)) ∨
      (halt = .overflow ∧ ∃ index, Numeral.Overflows (origin.source.drop index)) := by
  cases halt with
  | diagnosed diagnostic => exact .inl ⟨diagnostic, rfl⟩
  | unheldNumber =>
    obtain ⟨_, index, _, _, unheld⟩ := justified
    exact .inr (.inl ⟨rfl, index, unheld⟩)
  | overflow =>
    obtain ⟨_, index, _, _, overflows⟩ := justified
    exact .inr (.inr ⟨rfl, index, overflows⟩)
  | exhausted => exact absurd justified id
  | inconsistent => exact absurd justified id

/-- An attempt to read a source comes to a template that can be reported, to a
diagnostic, or to a halt at a numeral. -/
theorem attempt_cases
    (name : Text)
    (delimiters : Delimiters)
    (source : Source) :
    (∃ template report, (attempt name delimiters source).result = .ok template ∧
      Report.ofTemplate name template = .ok report ∧ report.HasJsonTree) ∨
    (∃ diagnostic, (attempt name delimiters source).result = .error (.diagnosed diagnostic)) ∨
    ∃ halt, (attempt name delimiters source).result = .error halt ∧
      source.StopsAtNumeral name halt := by
  unfold attempt
  split
  · rename_i text decoded
    rw [Outcome.result_recorded]
    cases outcome : (read {} name delimiters text).result with
    | ok template =>
      have located := located_of_read ⟨{}, name, delimiters, text⟩ outcome
      obtain ⟨report, shown, hasJsonTree⟩ := Report.exists_ofTemplate name located
      exact .inl ⟨template, report, rfl, shown, hasJsonTree⟩
    | error halt =>
      have justified := justified_of_read ⟨{}, name, delimiters, text⟩ outcome
      rcases exists_of_justified justified with ⟨diagnostic, rfl⟩ | numeral
      · exact .inr (.inl ⟨diagnostic, rfl⟩)
      · exact .inr (.inr ⟨halt, rfl, text, decoded, numeral⟩)
  · rename_i diagnostic _
    exact .inr (.inl ⟨diagnostic, rfl⟩)

end Template

namespace Command

open Utf8 (isEncodable)

variable
  {surroundings : Surroundings}
  {levels : Nat}
  {content : Report}

/-- A report is printed, with the last words behind the journal, unless it is not laid out or
the output does not take its text. -/
theorem finishedReport_cases
    (laysOut : surroundings.LaysOut levels)
    (strict : surroundings.IsStrict)
    (hasJsonTree : content.HasJsonTree)
    (flags : Flags)
    (code : Nat)
    (journal words : Text) :
    (∃ text, Json.write flags.layout content.toValue = .ok text ∧
      content.toValue.isEncodable = true ∧
      finishedReport surroundings flags code content journal words =
        .finished code text (journal ++ words)) ∨
    (surroundings.layOut content = none ∧
      finishedReport surroundings flags code content journal words = .notLaidOut journal) ∨
    (content.toValue.isEncodable = false ∧
      finishedReport surroundings flags code content journal words = .notTaken journal) := by
  cases laidOut : surroundings.layOut content with
  | none => exact .inr (.inl ⟨rfl, by simp [finishedReport, laidOut]⟩)
  | some value =>
    obtain rfl := laysOut.eq_toValue content value hasJsonTree laidOut
    obtain ⟨text, written⟩ := hasJsonTree.exists_write flags.layout
    have taken : surroundings.takes text = content.toValue.isEncodable := by
      rw [strict, Json.isEncodable_of_write written]
    cases encodable : content.toValue.isEncodable with
    | true =>
      refine .inl ⟨text, written, rfl, ?_⟩
      simp [finishedReport, laidOut, finishedWith, written, taken, encodable]
    | false =>
      refine .inr (.inr ⟨rfl, ?_⟩)
      simp [finishedReport, laidOut, finishedWith, written, taken, encodable]

/-- A report that can be encoded and is not nested too deeply is printed. -/
theorem exists_finishedReport
    (laysOut : surroundings.LaysOut levels)
    (strict : surroundings.IsStrict)
    (hasJsonTree : content.HasJsonTree)
    (encodable : content.toValue.isEncodable = true)
    (shallow : content.toValue.depth ≤ levels)
    (flags : Flags)
    (code : Nat)
    (journal words : Text) :
    ∃ text, Json.write flags.layout content.toValue = .ok text ∧
      finishedReport surroundings flags code content journal words =
        .finished code text (journal ++ words) := by
  rcases finishedReport_cases laysOut strict hasJsonTree flags code journal words with
    ⟨text, written, _, finished⟩ | ⟨notLaidOut, _⟩ | ⟨unencodable, _⟩
  · exact ⟨text, written, finished⟩
  · have laidOut := laysOut.isSome content hasJsonTree encodable shallow
    rw [notLaidOut] at laidOut
    cases laidOut
  · rw [encodable] at unencodable
    cases unencodable

/-- A report that cannot be encoded is lost, be it as it is laid out or on the output. -/
theorem finishedReport_isLost
    (laysOut : surroundings.LaysOut levels)
    (strict : surroundings.IsStrict)
    (hasJsonTree : content.HasJsonTree)
    (unencodable : content.toValue.isEncodable = false)
    (flags : Flags)
    (code : Nat)
    (journal words : Text) :
    (finishedReport surroundings flags code content journal words).IsLost := by
  rcases finishedReport_cases laysOut strict hasJsonTree flags code journal words with
    ⟨_, _, encodable, _⟩ | ⟨_, notLaidOut⟩ | ⟨_, notTaken⟩
  · rw [unencodable] at encodable
    cases encodable
  · exact ⟨journal, .inl notLaidOut⟩
  · exact ⟨journal, .inr notTaken⟩

theorem finishedReport_shows
    (laysOut : surroundings.LaysOut levels)
    (strict : surroundings.IsStrict)
    (hasJsonTree : content.HasJsonTree)
    (flags : Flags)
    (code : Nat)
    (journal words : Text) :
    (finishedReport surroundings flags code content journal words).Shows flags code levels
      content where
  printed_or_lost := by
    rcases finishedReport_cases laysOut strict hasJsonTree flags code journal words with
      ⟨text, written, _, finished⟩ | ⟨_, notLaidOut⟩ | ⟨_, notTaken⟩
    · exact .inl ⟨text, journal ++ words, written, finished⟩
    · exact .inr ⟨journal, .inl notLaidOut⟩
    · exact .inr ⟨journal, .inr notTaken⟩
  printed encodable shallow := by
    obtain ⟨text, written, finished⟩ := exists_finishedReport laysOut strict hasJsonTree encodable
      shallow flags code journal words
    exact ⟨text, journal ++ words, written, finished⟩
  lost unencodable :=
    finishedReport_isLost laysOut strict hasJsonTree unencodable flags code journal words

/-- An attempt to read a source comes to a template, to a diagnostic, or to a halt
at a numeral that is out of range, and to nothing else.  On a strict output the command
prints the report of the template or of the diagnostic, if the report is not nested too
deeply, exactly when all its texts can be encoded; it halts only at such a numeral. -/
theorem attempt_reported_or_stopsAtNumeral
    (name : Text)
    (delimiters : Delimiters) :
    (∀ source : Template.Source,
      (∃ template, (Template.attempt name delimiters source).result = .ok template) ∨
      (∃ diagnostic,
        (Template.attempt name delimiters source).result = .error (.diagnosed diagnostic)) ∨
      ∃ halt, (Template.attempt name delimiters source).result = .error halt ∧
        source.StopsAtNumeral name halt) ∧
    ∀ (surroundings : Surroundings) (levels : Nat),
      surroundings.LaysOut levels → surroundings.IsStrict → ∀ flags events source,
      (∃ template content,
        (Template.attempt name delimiters (.bytes source)).result = .ok template ∧
        Report.ofTemplate name template = .ok content ∧
        (report surroundings flags name delimiters events source).Shows flags 0 levels content) ∨
      (∃ diagnostic,
        (Template.attempt name delimiters (.bytes source)).result =
          .error (.diagnosed diagnostic) ∧
        (report surroundings flags name delimiters events source).Shows flags 2 levels
          (Report.ofDiagnostic name diagnostic)) ∨
      ∃ halt,
        (Template.attempt name delimiters (.bytes source)).result = .error halt ∧
        report surroundings flags name delimiters events source = .halted halt ∧
        Template.Source.StopsAtNumeral name (.bytes source) halt := by
  refine ⟨fun source => ?_, fun surroundings levels laysOut strict flags events source => ?_⟩
  · rcases Template.attempt_cases name delimiters source with ⟨template, _, success, _⟩ | others
    · exact .inl ⟨template, success⟩
    · exact .inr others
  · rcases Template.attempt_cases name delimiters (.bytes source) with
      ⟨template, content, success, shown, hasJsonTree⟩ | ⟨diagnostic, failure⟩ |
      ⟨halt, failure, stops⟩
    · refine .inl ⟨template, content, success, shown, ?_⟩
      simp only [report, success, shown]
      exact finishedReport_shows laysOut strict hasJsonTree flags 0 _ _
    · refine .inr (.inl ⟨diagnostic, failure, ?_⟩)
      simp only [report, failure]
      exact finishedReport_shows laysOut strict (Report.hasJsonTree_ofDiagnostic name diagnostic)
        flags 2 _ _
    · refine .inr (.inr ⟨halt, failure, ?_, stops⟩)
      obtain ⟨_, _, ⟨rfl, _⟩ | ⟨rfl, _⟩⟩ := stops
      · simp only [report, failure]
      · simp only [report, failure]

/-- Surroundings without files, whose output is strict and whose library lays out what can be
encoded and has few levels. -/
def strictSurroundings : Surroundings where
  file _ := none
  input := []
  takes := isEncodable
  reader _ := .ok .null
  layOut report :=
    if report.toValue.isEncodable && report.toValue.depth ≤ 200 then some report.toValue else none

theorem strictSurroundings_laysOut : strictSurroundings.LaysOut 200 where
  eq_toValue report value _ laidOut := by
    simp only [strictSurroundings, Option.ite_none_right_eq_some] at laidOut
    exact (Option.some.inj laidOut.2).symm
  isSome report _ encodable shallow := by
    simp [strictSurroundings, encodable, shallow]

/-- Whether the texts of the report of a template can be encoded, and how deep it is. -/
def reported? (name : Text) (result : Except Halt Template) : Option (Bool × Nat) :=
  (result.toOption.bind fun template => (Report.ofTemplate name template).toOption).map
    fun content => (content.toValue.isEncodable, content.toValue.depth)

/-- The report of a literal is printed unless the literal has a lone surrogate. -/
theorem attempt_reported_of_literals :
    strictSurroundings.LaysOut 200 ∧ strictSurroundings.IsStrict ∧
    (∃ content, (report strictSurroundings {} (Text.of "<template>") .braces []
      (Utf8.encode (Text.of "\x7b\x7b \"a\" \x7d\x7d"))).Prints {} 0 content) ∧
    (report strictSurroundings {} (Text.of "<template>") .braces []
      (Utf8.encode (Text.of "\x7b\x7b \"\\ud800\" \x7d\x7d"))).IsLost := by
  have shows {source : List UInt8} {encodable : Bool} {depth : Nat}
      (evaluated : reported? (Text.of "<template>")
        (Template.attempt (Text.of "<template>") .braces (.bytes source)).result =
          some (encodable, depth)) :
      ∃ content : Report, content.toValue.isEncodable = encodable ∧
        content.toValue.depth = depth ∧
        (report strictSurroundings {} (Text.of "<template>") .braces [] source).Shows {} 0 200
          content := by
    rcases (attempt_reported_or_stopsAtNumeral (Text.of "<template>") .braces).2
        strictSurroundings 200 strictSurroundings_laysOut (fun _ => rfl) {} [] source with
      ⟨template, content, success, shown, shows⟩ | ⟨diagnostic, failure, _⟩ | ⟨halt, failure, _⟩
    · rw [reported?, success] at evaluated
      obtain ⟨isEncodable, isDepth⟩ : content.toValue.isEncodable = encodable ∧
          content.toValue.depth = depth := by
        simpa [Except.toOption, shown] using evaluated
      exact ⟨content, isEncodable, isDepth, shows⟩
    · rw [failure] at evaluated
      cases evaluated
    · rw [failure] at evaluated
      cases evaluated
  refine ⟨strictSurroundings_laysOut, fun _ => rfl, ?_, ?_⟩
  · obtain ⟨content, encodable, depth, shown⟩ :=
      @shows (Utf8.encode (Text.of "\x7b\x7b \"a\" \x7d\x7d")) true 2 (by decide +kernel)
    exact ⟨content, shown.printed encodable (by omega)⟩
  · obtain ⟨content, unencodable, _, shown⟩ :=
      @shows (Utf8.encode (Text.of "\x7b\x7b \"\\ud800\" \x7d\x7d")) false 2 (by decide +kernel)
    exact shown.lost unencodable

/-- A result that is neither a template nor a diagnostic. -/
theorem not_reported_of_evaluated
    {result : Except Halt Template}
    (evaluated : result.toOption.isNone = true ∧ Template.diagnosedAt? result = none) :
    ¬ ((∃ template, result = .ok template) ∨
      ∃ diagnostic, result = .error (.diagnosed diagnostic)) := by
  rintro (⟨template, rfl⟩ | ⟨diagnostic, rfl⟩)
  · cases evaluated.1
  · cases evaluated.2

/-- A numeral whose negation overflows, and one whose exponent is out of range,
have neither a template nor a diagnostic. -/
theorem attempt_of_large_numerals :
    ¬ ((∃ template, (Template.attempt (Text.of "<template>") .braces
        (.text (Text.of "\x7b\x7b -1e1000000 \x7d\x7d"))).result = .ok template) ∨
      ∃ diagnostic, (Template.attempt (Text.of "<template>") .braces
        (.text (Text.of "\x7b\x7b -1e1000000 \x7d\x7d"))).result =
          .error (.diagnosed diagnostic)) ∧
    ¬ ((∃ template, (Template.attempt (Text.of "<template>") .braces
        (.text (Text.of "\x7b\x7b 1e9999999999999999999 \x7d\x7d"))).result = .ok template) ∨
      ∃ diagnostic, (Template.attempt (Text.of "<template>") .braces
        (.text (Text.of "\x7b\x7b 1e9999999999999999999 \x7d\x7d"))).result =
          .error (.diagnosed diagnostic)) := by
  constructor
  · exact not_reported_of_evaluated (by decide +kernel)
  · exact not_reported_of_evaluated (by decide +kernel)

end Command

end Stencil
