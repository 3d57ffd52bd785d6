import Stencil.Proofs.Concatenation
import Stencil.Proofs.Elsewhere.Document
import Stencil.Proofs.Pragma.Stopping
import Stencil.Proofs.Pragma.Writing
import Stencil.Proofs.Relocation.Same
import Stencil.Proofs.RightOperand

/-!
# A pragma is a change of delimiters

A pragma at the beginning of a source does what a change of the delimiters does, and
nothing else: the rest of the source comes to the same as if it were read alone under the
changed delimiters, up to positions.  If one of the last pairs that are given is no pair
of delimiters, reading stops at the pragma.  A pragma that is not read to its end changes
nothing.
-/

namespace Stencil

/-- A cursor before the end of its text goes no further. -/
theorem Cursor.forward_of_length_le
    {cursor : Cursor}
    {count : Nat}
    (beyond : cursor.rest.length ≤ count) :
    cursor.forward count = cursor.forward cursor.rest.length := by
  obtain ⟨further, rfl⟩ := Nat.exists_eq_add_of_le beyond
  have nothing : (cursor.forward cursor.rest.length).rest = [] := by
    rw [rest_forward, List.drop_length]
  rw [forward_add]
  cases further with
  | zero => rfl
  | succ further => rw [forward, nothing]

/-- What stands at another place with nothing behind it stands before the same text. -/
theorem Cursor.Moves.shifts
    {relocation : Relocation}
    {cursor target : Cursor}
    (moves : cursor.Moves relocation [] target) :
    cursor.Shifts relocation target := by
  have rest : target.rest = cursor.rest := by rw [moves.rest, List.append_nil]
  refine ⟨rest, fun count => ?_⟩
  rcases Nat.le_total count cursor.rest.length with within | beyond
  · exact moves.position count within
  · have same := moves.position cursor.rest.length (Nat.le_refl _)
    rwa [forward_of_length_le beyond, forward_of_length_le (rest ▸ beyond), rest]

namespace Document

variable
  {grammar : Grammar}
  {state : State}
  {behind : Cursor}
  {fields : List Field}
  {text : Text}

/-- Fields change delimiters exactly if the last one of each kind has two texts that are
not empty. -/
theorem Field.exists_change_iff (delimiters : Delimiters) (fields : List Field) :
    (∃ changed, delimiters.change (fields.map change) = .ok changed) ↔
      ∀ kind field, last? fields kind = some field → field.IsProper := by
  constructor
  · rintro ⟨changed, success⟩ kind field isLast
    have listed : Delimiters.change? (fields.map change) kind =
        some (.tuple [.text field.opening, .text field.closing]) := by
      rw [change?_map_change, isLast]
      rfl
    obtain ⟨opening, closing, same, noOpening, noClosing, _⟩ :=
      Delimiters.exists_of_change success listed
    obtain ⟨rfl, rfl⟩ : field.opening = opening ∧ field.closing = closing := by simpa using same
    exact ⟨noOpening, noClosing⟩
  · intro proper
    cases outcome : delimiters.change (fields.map change) with
    | ok changed => exact ⟨changed, rfl⟩
    | error fault =>
      obtain ⟨listed, denotesNone⟩ := Delimiters.fault_of_change outcome
      rw [change?_map_change, Option.map_eq_some_iff] at listed
      obtain ⟨field, isLast, isValue⟩ := listed
      have notEmpty : field.opening ≠ [] ∧ field.closing ≠ [] := proper _ field isLast
      rw [← isValue, Pair.ofValue?, Pair.of?, dif_pos notEmpty] at denotesNone
      cases denotesNone

/-- The delimiters with the last pair that some fields have for each kind. -/
def Field.Give (fields : List Field) (delimiters changed : Delimiters) : Prop :=
  ∀ kind, match last? fields kind with
    | some field =>
      (changed.pair kind).opening = field.opening ∧ (changed.pair kind).closing = field.closing
    | none => changed.pair kind = delimiters.pair kind

theorem Field.give_of_change
    {delimiters changed : Delimiters}
    (success : delimiters.change (fields.map change) = .ok changed) :
    Give fields delimiters changed := by
  intro kind
  have given := Delimiters.changedPair_eq_ok_iff.1 (Delimiters.change_eq_ok_iff.1 success kind)
  rw [change?_map_change] at given
  cases isLast : last? fields kind with
  | none => simpa [isLast] using given
  | some field =>
    have same : field.opening = (changed.pair kind).opening ∧
        field.closing = (changed.pair kind).closing := by
      simpa [isLast, Pair.toValue] using given
    exact ⟨same.1.symm, same.2.symm⟩

/-- What a written pragma lists changes delimiters as its fields do. -/
theorem Field.Writes.exists_listed
    (writes : Writes state.delimiters.pragma fields text)
    (mark : BeginsWithMark state.delimiters.pragma.closing)
    (spells : state.cursor.Spells text behind)
    (enough : state.cursor.rest.length < grammar.turns) :
    ∃ changes last,
      pragmaChanges ⟨grammar, state.delimiters.pragma.closing⟩ grammar.turns []
        (state.cursor.forward state.delimiters.pragma.opening.length) = .ok (changes, last) ∧
      Region.close ⟨grammar, state.delimiters.pragma.closing⟩ last = .ok ((), behind) ∧
      state.delimiters.change changes = state.delimiters.change (fields.map change) := by
  obtain ⟨last, listed, closes⟩ := @changes ⟨grammar, state.delimiters.pragma.closing⟩ _ _ _ _ _
    writes rfl mark spells
  have shorter := (Cursor.reaches_forward state.delimiters.pragma.opening.length
    state.cursor).length_le
  refine ⟨_, last, listed.pragmaChanges_eq_ok grammar.turns (by omega), closes, ?_⟩
  refine Delimiters.change_congr (fun kind => ?_) _
  exact (@change?_foldl_putChange _ [] List.nodup_nil kind).trans Option.or_none

/-- A pragma that is written with pairs of delimiters makes them active. -/
theorem Field.Writes.pragma_eq_ok
    {delimiters : Delimiters}
    (writes : Writes state.delimiters.pragma fields text)
    (mark : BeginsWithMark state.delimiters.pragma.closing)
    (spells : state.cursor.Spells text behind)
    (enough : state.cursor.rest.length < grammar.turns)
    (valid : state.delimiters.change (fields.map change) = .ok delimiters)
    (calls : Nat) :
    ∃ journal, pragma grammar (calls + 1) state =
      .ok () ⟨behind, delimiters, state.includes, journal⟩ := by
  obtain ⟨changes, last, read, closes, same⟩ := writes.exists_listed mark spells enough
  exact ⟨_, Document.pragma_eq_ok.2 ⟨_, _, _, _, read, closes, same.trans valid, rfl⟩⟩

/-- A pragma that is written with something else stops reading where it begins. -/
theorem Field.Writes.pragma_eq_error
    {fault : Delimiters.Fault}
    (writes : Writes state.delimiters.pragma fields text)
    (mark : BeginsWithMark state.delimiters.pragma.closing)
    (spells : state.cursor.Spells text behind)
    (enough : state.cursor.rest.length < grammar.turns)
    (invalid : state.delimiters.change (fields.map change) = .error fault)
    (calls : Nat) :
    pragma grammar (calls + 1) state =
      .error (.diagnosed ⟨.invalidPragma fault, state.cursor.position⟩)
        { state with cursor := behind } := by
  obtain ⟨changes, last, read, closes, same⟩ := writes.exists_listed mark spells enough
  simp only [pragma, Rule.get_bind, Rule.move_bind]
  rw [Rule.bind_of_ok (Rule.reading_eq_ok.2 ⟨last, read, rfl⟩),
    Rule.bind_of_ok (Rule.reading_eq_ok.2 ⟨behind, closes, rfl⟩), same, invalid]
  rfl

end Document

namespace Template

open Document

/-! ## The outermost loop -/

/-- Reads a whole source from the loop over its parts on. -/
def wholeFrom
    (grammar : Grammar)
    (calls turns : Nat)
    (position : Position)
    (name : Text) : Rule Template := do
  let parts ← collect grammar calls 1 turns []
  let state ← get
  if state.cursor.isAtEnd then
    Rule.log (.parsed name state.includes.length)
    return ⟨Node.sequenced position parts, state.includes⟩
  else
    Rule.fail (.unmatchedTerminator state.delimiters.block state.tagKeyword?)
      state.cursor.position

theorem whole_eq_wholeFrom
    (grammar : Grammar)
    (allowed : 1 ≤ grammar.limit)
    (calls : Nat)
    (name : Text)
    (state : State) :
    whole grammar (calls + 2) name state =
      wholeFrom grammar calls grammar.turns state.cursor.position name state := by
  have nested : Reading.nest grammar 0 state.cursor.position = .ok 1 :=
    Reading.nest_eq_ok.2 ⟨by omega, rfl⟩
  have asLoop : document grammar (calls + 2) 0 state =
      (collect grammar calls 1 grammar.turns [] >>= fun parts =>
        pure (Node.sequenced state.cursor.position parts)) state := by
    rw [document, Rule.get_bind]
    simp only [nested]
    rw [parts]
    rfl
  simp only [whole, wholeFrom, bind, EStateM.bind] at asLoop ⊢
  rw [asLoop]
  cases collect grammar calls 1 grammar.turns [] state <;> rfl

/-- The loop goes on behind a pragma. -/
theorem wholeFrom_of_pragma
    {grammar : Grammar}
    {calls : Nat}
    {state after : State}
    (opens : state.kind? grammar.order = some .pragma)
    (switched : pragma grammar calls state = .ok () after)
    (turns : Nat)
    (position : Position)
    (name : Text) :
    wholeFrom grammar calls (turns + 1) position name state =
      wholeFrom grammar calls turns position name after := by
  have goesOn : collect grammar calls 1 (turns + 1) [] state =
      collect grammar calls 1 turns [] after := by
    simp only [collect, collectParts, Rule.get_bind, State.isAtEnd_eq_false opens,
      Bool.false_eq_true, if_false, opens, Rule.bind_of_ok switched]
  simp only [wholeFrom, bind, EStateM.bind, goesOn]

/-- The loop stops where a pragma does. -/
theorem wholeFrom_of_pragma_error
    {grammar : Grammar}
    {calls : Nat}
    {state after : State}
    {halt : Halt}
    (opens : state.kind? grammar.order = some .pragma)
    (stopped : pragma grammar calls state = .error halt after)
    (turns : Nat)
    (position : Position)
    (name : Text) :
    wholeFrom grammar calls (turns + 1) position name state = .error halt after := by
  refine Rule.bind_of_error ?_ _
  simp only [collect, collectParts, Rule.get_bind, State.isAtEnd_eq_false opens,
    Bool.false_eq_true, if_false, opens, Rule.bind_of_error stopped]

theorem kept_wholeFrom
    (grammar : Grammar)
    {calls more turns longer wide : Nat}
    (lasts : grammar.turns ≤ wide)
    (enough : calls ≤ more)
    (goesOn : turns ≤ longer)
    (position : Position)
    (name : Text) :
    Rule.Kept grammar.limit grammar.limit (wholeFrom grammar calls turns position name)
      (wholeFrom (grammar.allowing grammar.limit wide) more longer position name) := by
  refine .bind ?_ fun _ => .refl _
  have blocks := (kept_of_rules (Int.le_refl grammar.limit) lasts enough).2.2.1 1
  exact kept_collectParts (kept_insertion (Int.le_refl _) lasts enough 1)
    (kept_pragma lasts enough) blocks goesOn []

/-! ## Outcomes up to positions -/

/-- A template is the same as another one up to positions, and its includes are moved. -/
structure Alike (relocation : Relocation) (template template' : Template) : Prop where
  /-- The trees are the same. -/
  root : template'.root.same template.root = true
  /-- The includes are moved. -/
  includes : template'.includes = template.includes.moved relocation

/-- Two outcomes are the same up to positions: both are templates that are, or both are
halts for the same reason, and the same delimiters are active at the end. -/
structure Outcome.Alike (relocation : Relocation) (outcome outcome' : Outcome) : Prop where
  /-- The results are the same. -/
  result : Reading.Corresponds (Halt.Moves relocation) (Template.Alike relocation)
    outcome.result outcome'.result
  /-- The same delimiters are active. -/
  delimiters : outcome'.delimiters = outcome.delimiters

theorem Outcome.Alike.of_corresponds
    {relocation : Relocation}
    {result result' : EStateM.Result Halt State Template}
    (corresponds : Rule.Corresponds relocation (Template.Alike relocation) result result') :
    (ofResult result).Alike relocation (ofResult result') := by
  cases corresponds with
  | ok related shifts => exact ⟨.ok related, shifts.delimiters⟩
  | error moves shifts => exact ⟨.error moves, shifts.delimiters⟩

/-- Moved parts are the same as a whole, wherever it begins. -/
theorem same_sequenced_moved
    (relocation : Relocation)
    (parts : List Node)
    (position position' : Position) :
    (Node.sequenced position' (parts.map (Node.moved relocation))).same
      (Node.sequenced position parts) = true := by
  have moved (node : Node) : (node.moved relocation).same node = true :=
    Node.same_of_moved_eq _ _ (Node.moved_stay _)
  have sameParts : Node.sameParts (parts.map (Node.moved relocation)) parts = true := by
    induction parts with
    | nil => rw [List.map_nil, Node.sameParts]
    | cons part parts hypothesis =>
      rw [List.map_cons, Node.sameParts, moved, hypothesis, Bool.and_self]
  have sequences (parts' parts : List Node) :
      (Node.sequence position' parts').same (.sequence position parts) =
        Node.sameParts parts' parts := by
    rw [Node.same]
  match parts with
  | [] => exact (sequences _ _).trans sameParts
  | [part] => exact moved part
  | _ :: _ :: _ => exact (sequences _ _).trans sameParts

theorem corresponds_wholeFrom
    {relocation : Relocation}
    {state target : State}
    (shifts : state.Shifts relocation target)
    (grammar : Grammar)
    (calls turns : Nat)
    (position position' : Position)
    (name : Text) :
    Rule.Corresponds relocation (Alike relocation)
      (wholeFrom grammar calls turns position name state)
      (wholeFrom grammar calls turns position' name target) := by
  have collected : Rule.Corresponds relocation
      (Reading.By (List.map (Node.moved relocation))) (collect grammar calls 1 turns [] state)
      (collect grammar calls 1 turns [] target) :=
    @corresponds_collectParts relocation grammar state target (insertion grammar 1 calls)
      (pragma grammar calls) (block grammar calls 1)
      (fun here => corresponds_insertion here 1 calls)
      (fun here => corresponds_pragma here calls)
      (fun here => (corresponds_of_rules grammar relocation calls).2.2.1 here) shifts turns []
  refine .bind collected ?_
  rintro parts _ after after' rfl last
  refine .get_bind ?_
  rw [last.cursor.isAtEnd_eq, last.delimiters, last.tagKeyword?_eq, last.includes]
  split
  · refine .bind (.log _ _ last) fun _ _ _ _ _ logged => .pure ?_ logged
    exact ⟨same_sequenced_moved relocation parts position position', rfl⟩
  · exact .fail (.placeless rfl) last.cursor.here last

/-- The loop over the parts of a source comes to the same with more turns. -/
theorem wholeFrom_eq_wholeFrom
    {options : Options}
    {name : Text}
    {delimiters : Delimiters}
    {source : Text}
    {calls turns wide : Nat}
    (allowed : 1 ≤ options.limit)
    (enough : 4 * source.length + 14 ≤ calls)
    (goesOn : source.length + 1 ≤ turns)
    (lasts : source.length + 1 ≤ wide) :
    .ofResult (wholeFrom ((grammarFor options source).allowing options.limit wide) calls turns
        (initial name delimiters source).cursor.position name (initial name delimiters source)) =
      read options name delimiters source := by
  have base : read options name delimiters source = .ofResult
      (wholeFrom (grammarFor options source) (4 * source.length + 14) (source.length + 1)
        (initial name delimiters source).cursor.position name
        (initial name delimiters source)) := by
    rw [read_eq_ofResult]
    exact congrArg Outcome.ofResult
      (whole_eq_wholeFrom (grammarFor options source) allowed _ _ _)
  have kept := kept_wholeFrom (grammarFor options source) lasts enough goesOn
    (initial name delimiters source).cursor.position name (initial name delimiters source)
  rcases kept with same | ⟨halt, after, failed, lifted⟩
  · exact (congrArg Outcome.ofResult same).trans base.symm
  · have exhausted : (read options name delimiters source).result = .error .exhausted := by
      rw [base, failed, lifted.eq_exhausted]
      rfl
    exact absurd exhausted (read_ne_exhausted options name delimiters source)

/-! ## Pragmas at the beginning -/

section Beginning

variable
  {options : Options}
  {name : Text}
  {delimiters : Delimiters}
  {fields : List Field}
  {text : Text}

/-- A source begins with a pragma where one is written. -/
theorem kind?_of_writes
    (clear : delimiters.ambiguities = [])
    (listed : Kind.pragma ∈ options.order)
    (writes : Field.Writes delimiters.pragma fields text)
    (source : Text) :
    (initial name delimiters (text ++ source)).kind? options.order = some .pragma := by
  obtain ⟨_, body, _, _, rfl⟩ := writes
  refine State.kind?_eq_some clear listed ?_
  exact ⟨body ++ source, (List.append_assoc _ _ _).symm⟩

/-- Behind a pragma, a source comes to the same as alone under the changed delimiters. -/
theorem alike_of_pragma
    {changed : Delimiters}
    (clear : delimiters.ambiguities = [])
    (mark : BeginsWithMark delimiters.pragma.closing)
    (allowed : 1 ≤ options.limit)
    (listed : Kind.pragma ∈ options.order)
    (writes : Field.Writes delimiters.pragma fields text)
    (valid : delimiters.change (fields.map Field.change) = .ok changed)
    (source : Text) :
    (read options name changed source).Alike (.behind text)
      (read options name delimiters (text ++ source)) := by
  let grammar := grammarFor options (text ++ source)
  let calls := 4 * (text ++ source).length + 13
  let start := initial name delimiters (text ++ source)
  have spells : start.cursor.Spells text (start.cursor.forward text.length) :=
    Cursor.spells_forward rfl
  obtain ⟨journal, switched⟩ := @Field.Writes.pragma_eq_ok grammar _ _ _ _ _ writes mark spells
    (Nat.lt_succ_self _) valid calls
  -- The first turn of the outermost loop reads the pragma.
  have whole : read options name delimiters (text ++ source) = .ofResult
      (wholeFrom grammar (calls + 1) (text ++ source).length start.cursor.position name
        ⟨start.cursor.forward text.length, changed, [], journal⟩) := by
    rw [read_eq_ofResult]
    refine congrArg Outcome.ofResult ((whole_eq_wholeFrom grammar allowed (calls + 1) _ _).trans ?_)
    exact wholeFrom_of_pragma (kind?_of_writes clear listed writes source) switched _ _ _
  have unread : (start.cursor.forward text.length).rest = source :=
    Cursor.rest_forward_of_append rfl
  have stands : Origin.Has ⟨options, name, delimiters, text ++ source⟩
      (start.cursor.forward text.length) := Cursor.reaches_forward _ _
  have shifts : State.Shifts (.behind text) (initial name changed source)
      ⟨start.cursor.forward text.length, changed, [], journal⟩ :=
    ⟨(stands.moves_behind unread).shifts, rfl, rfl⟩
  have longer : source.length + 1 ≤ (text ++ source).length := by
    obtain ⟨_, body, _, _, rfl⟩ := writes
    have some := List.length_pos_iff.2 delimiters.pragma.opening_ne_nil
    simp only [List.length_append]
    omega
  have alone : .ofResult (wholeFrom grammar (calls + 1) (text ++ source).length
      (initial name changed source).cursor.position name (initial name changed source)) =
        read options name changed source :=
    wholeFrom_eq_wholeFrom allowed (by omega) longer (by omega)
  rw [whole, ← alone]
  exact .of_corresponds (corresponds_wholeFrom shifts _ _ _ _ _ _)

/-- A pragma with something that is no pair of delimiters stops reading where it begins. -/
theorem read_of_invalid_pragma
    {fault : Delimiters.Fault}
    (clear : delimiters.ambiguities = [])
    (mark : BeginsWithMark delimiters.pragma.closing)
    (allowed : 1 ≤ options.limit)
    (listed : Kind.pragma ∈ options.order)
    (writes : Field.Writes delimiters.pragma fields text)
    (invalid : delimiters.change (fields.map Field.change) = .error fault)
    (source : Text) :
    (read options name delimiters (text ++ source)).result =
        .error (.diagnosed ⟨.invalidPragma fault, .ofIndex name (text ++ source) 0⟩) ∧
      (read options name delimiters (text ++ source)).delimiters = delimiters := by
  let grammar := grammarFor options (text ++ source)
  let calls := 4 * (text ++ source).length + 13
  let start := initial name delimiters (text ++ source)
  have spells : start.cursor.Spells text (start.cursor.forward text.length) :=
    Cursor.spells_forward rfl
  have stopped := @Field.Writes.pragma_eq_error grammar _ _ _ _ _ writes mark spells
    (Nat.lt_succ_self _) invalid calls
  have whole : read options name delimiters (text ++ source) = .ofResult
      (.error (.diagnosed ⟨.invalidPragma fault, start.cursor.position⟩)
        { start with cursor := start.cursor.forward text.length }) := by
    rw [read_eq_ofResult]
    refine congrArg Outcome.ofResult ((whole_eq_wholeFrom grammar allowed (calls + 1) _ _).trans ?_)
    exact wholeFrom_of_pragma_error (kind?_of_writes clear listed writes source) stopped _ _ _
  rw [whole]
  exact ⟨rfl, rfl⟩

end Beginning

/-- A pragma is a change of delimiters, all or nothing.  Let a pragma be written with any
fields before a source.  If the last field of each kind has two texts that are not empty,
then both together come to the same as the source alone under the delimiters with these
texts, up to positions; otherwise reading stops at the pragma.  Whatever the delimiters
are and whatever is read, a source that stops inside a pragma leaves the delimiters as they
were before it. -/
theorem read_pragma (options : Options) (name : Text) :
    (1 ≤ options.limit → Kind.pragma ∈ options.order →
      ∀ delimiters fields text source, delimiters = .braces ∨ delimiters = .alternate →
        Field.Writes delimiters.pragma fields text →
          ((∀ kind field, Field.last? fields kind = some field → field.IsProper) →
            ∃ changed, delimiters.change (fields.map Field.change) = .ok changed ∧
              Field.Give fields delimiters changed ∧
              (read options name changed source).Alike (.behind text)
                (read options name delimiters (text ++ source))) ∧
          ((∃ kind field, Field.last? fields kind = some field ∧ ¬ field.IsProper) →
            ∃ fault, delimiters.change (fields.map Field.change) = .error fault ∧
              (read options name delimiters (text ++ source)).result =
                .error (.diagnosed ⟨.invalidPragma fault, .ofIndex name (text ++ source) 0⟩) ∧
              (read options name delimiters (text ++ source)).delimiters = delimiters)) ∧
    ∀ delimiters source state, Origin.StopsIn ⟨options, name, delimiters, source⟩ state →
      state.kind? options.order = some .pragma →
        (read options name delimiters source).delimiters = state.delimiters := by
  refine ⟨?_, fun delimiters source state stops _ => stops.delimiters_eq⟩
  intro allowed listed delimiters fields text source preset writes
  obtain ⟨clear, mark⟩ : delimiters.ambiguities = [] ∧
      BeginsWithMark delimiters.pragma.closing := by
    rcases preset with rfl | rfl
    · exact ⟨by decide, rfl⟩
    · exact ⟨by decide, rfl⟩
  constructor
  · intro proper
    obtain ⟨changed, valid⟩ := (Field.exists_change_iff delimiters fields).2 proper
    exact ⟨changed, valid, Field.give_of_change valid,
      alike_of_pragma clear mark allowed listed writes valid source⟩
  · rintro ⟨kind, field, isLast, improper⟩
    cases outcome : delimiters.change (fields.map Field.change) with
    | ok changed =>
      have proper := (Field.exists_change_iff delimiters fields).1 ⟨changed, outcome⟩
      exact absurd (proper kind field isLast) improper
    | error fault =>
      exact ⟨fault, rfl, read_of_invalid_pragma clear mark allowed listed writes outcome source⟩

/-- Two fields for one kind, of which only the last has two texts that are not empty. -/
def angleFields : List Field :=
  [⟨.inline, [], Text.of "]"⟩, ⟨.inline, Text.of "<", Text.of ">"⟩]

/-- A pragma with these fields, some blanks and an escape. -/
def anglePragma : Text :=
  Text.of "\x7b! inline=(\"\",\"]\"),\n inline=(\"\\x3c\",\">\") !\x7d"

theorem angleFields_writes :
    Field.Writes Delimiters.braces.pragma angleFields anglePragma := by
  have single {point : CodePoint} {written : Text}
      (denotes : StringLiteral.Denotes point written) : StringLiteral.Quotes [point] written := by
    have quotes := StringLiteral.Quotes.cons denotes .nil
    rwa [List.append_nil] at quotes
  have bracket : StringLiteral.Quotes (Text.of "]") (Text.of "]") :=
    single (.verbatim (by decide) (by decide) (by decide))
  have right : StringLiteral.Quotes (Text.of ">") (Text.of ">") :=
    single (.verbatim (by decide) (by decide) (by decide))
  have left : StringLiteral.Quotes (Text.of "<") (Text.of "\\x3c") := by
    have isAngle : StringLiteral.hexPoint ['3', 'c'] = CodePoint.ofChar '<' := by decide
    have denotes := @StringLiteral.Denotes.narrow '3' 'c' (by decide)
    rw [isAngle] at denotes
    exact single denotes
  have lists : Field.Lists angleFields _ :=
    .more (.written .nil bracket) (.last (.written left right))
  have blank : Text.isBlank [] = true := rfl
  refine ⟨_, Text.of " inline=(\"\",\"]\"),\n inline=(\"\\x3c\",\">\") !\x7d", lists, ?_, by decide⟩
  exact @Text.Spreads.cons (Text.of " ") _ _ _ (by decide) <| .cons blank <| .cons blank <|
    .cons blank <| .cons blank <| .cons blank <| .cons blank <| .cons blank <|
    @Text.Spreads.cons (Text.of "\n ") _ _ _ (by decide) <| .cons blank <| .cons blank <|
    .cons blank <| .cons blank <| .cons blank <| .cons blank <|
    @Text.Spreads.cons (Text.of " ") _ _ _ (by decide) .nil

theorem angleFields_isProper :
    ∀ kind field, Field.last? angleFields kind = some field → field.IsProper := by
  intro kind field isLast
  have isAngles : field = ⟨.inline, Text.of "<", Text.of ">"⟩ := by
    cases kind <;> simp [Field.last?, angleFields] at isLast
    exact isLast.symm
  rw [isAngles]
  exact ⟨by decide, by decide⟩

/-- The same pragma without its end. -/
def openPragma : Text :=
  Text.of "\x7b! inline=(\"<\",\">\")"

/-- Reading stops inside the pragma that has no end. -/
theorem openPragma_stopsIn :
    Origin.StopsIn ⟨{}, [], .braces, openPragma⟩ (initial [] .braces openPragma) := by
  have fails : (read {} [] .braces openPragma).result.toOption.isNone = true := by decide +kernel
  have notListed : (pragmaChanges ⟨grammarFor {} openPragma, Delimiters.braces.pragma.closing⟩ 30 []
      ((Cursor.start [] openPragma).forward 2)).toOption.isNone = true := by
    decide +kernel
  cases outcome : (read {} [] .braces openPragma).result with
  | ok template =>
    rw [outcome] at fails
    cases fails
  | error halt =>
    obtain ⟨state, attained, halt, after, stopped, reaches, _⟩ :=
      @Origin.exists_stopsIn ⟨{}, [], .braces, openPragma⟩ halt outcome
    refine ⟨Origin.attains_start _, halt, after, stopped, attained.has.trans reaches, ?_⟩
    intro segment next step
    obtain ⟨changes, _, finish, _, listed, _⟩ := step.pragma_inv (by decide +kernel)
    have read : pragmaChanges ⟨grammarFor {} openPragma, Delimiters.braces.pragma.closing⟩ 30 []
        ((Cursor.start [] openPragma).forward 2) = .ok (changes, finish) :=
      listed.pragmaChanges_eq_ok 30 (by decide +kernel)
    rw [read] at notListed
    cases notListed

/-- The first pair of the pragma does not count, and the pragma without its end changes
nothing. -/
theorem read_pragma_of_angles :
    (∃ changed template,
      (read {} [] changed (Text.of "<a>")).Alike (.behind anglePragma)
        (read {} [] .braces (anglePragma ++ Text.of "<a>")) ∧
      changed.inline.opening = Text.of "<" ∧
      (read {} [] .braces (anglePragma ++ Text.of "<a>")).result = .ok template ∧
      template.root.same (.reference ⟨⟨⟨.synthetic [], Text.of "a"⟩, []⟩, .synthetic []⟩) =
        true) ∧
    (read {} [] .braces openPragma).delimiters = .braces := by
  obtain ⟨switches, unchanged⟩ := read_pragma {} []
  obtain ⟨changed, valid, gives, alike⟩ := (switches (by decide) (by decide) .braces angleFields
    anglePragma (Text.of "<a>") (.inl rfl) angleFields_writes).1 angleFields_isProper
  have success : (read {} [] .braces (anglePragma ++ Text.of "<a>")).result.toOption.map
      (fun template => template.root.same
        (.reference ⟨⟨⟨.synthetic [], Text.of "a"⟩, []⟩, .synthetic []⟩)) = some true := by
    decide +kernel
  obtain ⟨template, found, same⟩ := Option.map_eq_some_iff.1 success
  rw [Reading.toOption_eq_some] at found
  exact ⟨⟨changed, template, alike, (gives .inline).1, found, same⟩,
    unchanged .braces openPragma _ openPragma_stopsIn (by decide +kernel)⟩

end Template

end Stencil
