import Stencil.Proofs.Failure.Document

/-!
# Reported positions are true

Reading a source gives a template whose positions are true, or a diagnostic at
the place that it complains about, or it stops at a numeral that is out of range.
The first two are the main statement of this module; it puts together what is
known of the trees that are read and of the rules that stop.
-/

namespace Stencil

open Template (Origin)

namespace Document

/-- A document ends with the source or before a tag that ends a body. -/
theorem State.Ends.of_collect
    {grammar : Grammar}
    {calls depth turns : Nat}
    {parts result : List Node}
    {state after : State}
    (success : collect grammar calls depth turns parts state = .ok result after) :
    after.Ends grammar := by
  induction turns generalizing parts state with
  | zero => simp [collect, collectParts] at success
  | succ turns hypothesis =>
    simp only [collect, collectParts, Rule.get_bind] at success
    cases atEnd : state.cursor.isAtEnd with
    | true =>
      simp only [atEnd, if_true, Rule.pure_eq_ok] at success
      obtain ⟨_, rfl⟩ := success
      exact .inl atEnd
    | false =>
      simp only [atEnd, Bool.false_eq_true, if_false] at success
      cases opens : state.kind? grammar.order with
      | none =>
        simp only [opens, Rule.move_bind] at success
        exact hypothesis success
      | some kind =>
        simp only [opens] at success
        cases kind with
        | inline | comment | pragma =>
          simp only [Rule.bind_eq_ok] at success
          obtain ⟨_, middle, _, success⟩ := success
          exact hypothesis success
        | block =>
          cases seen : state.tagKeyword? with
          | none => simp [seen] at success
          | some keyword =>
            simp only [seen] at success
            cases known : Construct.ofKeyword? keyword with
            | some construct =>
              simp only [known, Rule.bind_eq_ok] at success
              obtain ⟨_, middle, _, success⟩ := success
              exact hypothesis success
            | none =>
              simp only [known] at success
              by_cases terminates : terminators.contains keyword = true
              · simp only [terminates, if_true, Rule.pure_eq_ok] at success
                obtain ⟨_, rfl⟩ := success
                exact .inr ⟨keyword, by simpa using terminates,
                  State.isAtTag_iff.2 ⟨opens, seen⟩⟩
              · simp only [terminates, Bool.false_eq_true, if_false, Rule.fail_ne_ok] at success

theorem State.Ends.of_document
    {grammar : Grammar}
    {calls depth : Nat}
    {node : Node}
    {state after : State}
    (success : document grammar calls depth state = .ok node after) :
    after.Ends grammar := by
  cases calls with
  | zero => simp [document] at success
  | succ calls =>
    simp only [document, Rule.get_bind] at success
    cases nested : Reading.nest grammar depth state.cursor.position with
    | error halt => simp [nested] at success
    | ok deeper =>
      simp only [nested, Rule.bind_eq_ok, Rule.pure_eq_ok] at success
      obtain ⟨collected, _, read, rfl, rfl⟩ := success
      cases calls with
      | zero => simp [parts] at read
      | succ calls =>
        rw [parts] at read
        exact .of_collect read

end Document

namespace Template

open Document

/-- The nodes of a template stand where their positions say, and the positions of
its includes are those of tags. -/
structure Located (origin : Origin) (template : Template) : Prop where
  /-- The nodes stand where their positions say. -/
  root : template.root.Located origin
  /-- A tag opens at every position of the includes. -/
  includes : ∀ group ∈ template.includes, ∀ position ∈ group.2,
    origin.ShowsOpening position .block

/-- If a source is not read to a template, the source is to blame. -/
theorem sound_whole (origin : Origin) :
    Rule.Sound origin (whole origin.grammar (callsFor origin.source) origin.name)
      origin.start := by
  have attained := origin.attains_start
  have enough : 4 * origin.start.cursor.rest.length + 8 ≤ callsFor origin.source := by
    simp only [Origin.start, initial, Cursor.start, callsFor]
    omega
  refine .bind ((sound_of_rules _).1 attained enough) ?_
  intro root final read
  have ends := State.Ends.of_document read
  obtain ⟨attained, _⟩ := ((Explained.of_rules _ _).1 read).attains attained
  refine .get_bind ?_
  split
  · exact .of_ok rfl
  · rename_i unread
    rcases ends with atEnd | ⟨keyword, _, atTag⟩
    · exact absurd atEnd unread
    · exact .fail attained.has.places (attained.showsOpening (State.isAtTag_iff.1 atTag).1)

/-- If a source is not read to a template, the source is to blame. -/
theorem justified_of_read
    (origin : Origin)
    {halt : Halt}
    (failure : (read origin.options origin.name origin.delimiters origin.source).result =
      .error halt) :
    halt.Justified origin := by
  unfold read at failure
  dsimp only at failure
  split at failure
  · cases failure
  · rename_i stopped
    cases failure
    exact sound_whole origin _ _ stopped

/-- A tag stands at every position that is registered for an include. -/
theorem showsOpening_of_steps
    {origin : Origin}
    {segments : List Segment}
    {state after : State}
    (attained : origin.Attains state)
    (steps : Steps origin.grammar state segments after) :
    ∀ tag ∈ inclusionTags segments, origin.ShowsOpening tag.2 .block := by
  intro tag member
  obtain ⟨segment, inside, found⟩ := List.mem_filterMap.1 member
  have located := steps.located attained segment inside
  cases segment with
  | tag opener held behind =>
    cases held with
    | inclusion key context =>
      cases found
      exact located.1
    | _ => cases found
  | _ => cases found

/-- What a source is read to stands in the source where its positions say. -/
theorem located_of_read
    (origin : Origin)
    {template : Template}
    (success : (read origin.options origin.name origin.delimiters origin.source).result =
      .ok template) :
    template.Located origin := by
  obtain ⟨segments, levels, final, arises⟩ := arises_of_read success
  have attained := origin.attains_start
  constructor
  · exact arises.derives.located (arises.steps.located attained) attained.has.places
  · have tags := showsOpening_of_steps attained arises.steps
    have registered : template.includes = Includes.grouped (inclusionTags segments) := by
      rw [← arises.includes, arises.steps.includes_eq]
      exact Includes.registerAll_nil _
    intro group member position inside
    rw [registered, Includes.grouped, List.mem_map] at member
    obtain ⟨key, _, rfl⟩ := member
    obtain ⟨tag, kept, rfl⟩ := List.mem_map.1 inside
    exact tags tag (List.mem_filter.1 kept).1

/-- Every reported position is true: the nodes and includes of a template stand in
its source where their positions say, a diagnostic has the position of what it
complains about, and the only standard filter is a stroke. -/
theorem read_located
    (options : Options)
    (name : Text)
    (delimiters : Delimiters)
    (source : Text) :
    (∀ template, (read options name delimiters source).result = .ok template →
      template.Located ⟨options, name, delimiters, source⟩) ∧
    (∀ diagnostic,
      (read options name delimiters source).result = .error (.diagnosed diagnostic) →
        diagnostic.Located ⟨options, name, delimiters, source⟩) ∧
    ∀ symbol operator, OperatorTable.standard.find? symbol = some operator →
      operator.role = .filter → symbol = Text.of "|" := by
  refine ⟨fun template success => ?_, fun diagnostic failure => ?_,
    fun symbol operator found isFilter => ?_⟩
  · exact located_of_read ⟨options, name, delimiters, source⟩ success
  · exact justified_of_read ⟨options, name, delimiters, source⟩ failure
  · have sameSymbol : operator.symbol = symbol := by
      simpa using List.find?_some found
    have onlyBar : ∀ entry ∈ OperatorTable.standard, entry.role = .filter →
        entry.symbol = Text.of "|" := by decide
    rw [← sameSymbol]
    exact onlyBar operator (List.mem_of_find?_eq_some found) isFilter

/-- The position of a diagnostic. -/
def diagnosedAt? : Except Halt Template → Option Position
  | .error (.diagnosed diagnostic) => some diagnostic.position
  | _ => none

/-- A tag on the second line behind a character of two bytes, and a keyword in the
place of a name. -/
theorem read_located_on_second_line :
    ∃ template diagnostic,
      (read {} (Text.of "t") .braces
        (Text.of "\x7b# é #\x7da\n\x7b\x7b -1 | f \x7d\x7d\x7b% include \"k\" %\x7d")).result =
          .ok template ∧
      template.Located ⟨{}, Text.of "t", .braces,
        Text.of "\x7b# é #\x7da\n\x7b\x7b -1 | f \x7d\x7d\x7b% include \"k\" %\x7d"⟩ ∧
      template.includes = [(Text.of "k", [⟨Text.of "t", 2, 13, 22⟩])] ∧
      (read {} (Text.of "t") .braces (Text.of "é\n \x7b\x7b a.if \x7d\x7d")).result =
        .error (.diagnosed diagnostic) ∧
      diagnostic.Located ⟨{}, Text.of "t", .braces, Text.of "é\n \x7b\x7b a.if \x7d\x7d"⟩ ∧
      diagnostic.position = ⟨Text.of "t", 2, 7, 9⟩ := by
  have included : (read {} (Text.of "t") .braces
      (Text.of "\x7b# é #\x7da\n\x7b\x7b -1 | f \x7d\x7d\x7b% include \"k\" %\x7d")).result.toOption.map
        Template.includes = some [(Text.of "k", [⟨Text.of "t", 2, 13, 22⟩])] := by
    decide +kernel
  have stopped : diagnosedAt? (read {} (Text.of "t") .braces
      (Text.of "é\n \x7b\x7b a.if \x7d\x7d")).result = some ⟨Text.of "t", 2, 7, 9⟩ := by
    decide +kernel
  obtain ⟨template, read, listed⟩ := Option.map_eq_some_iff.1 included
  have success := Reading.toOption_eq_some.1 read
  unfold diagnosedAt? at stopped
  split at stopped
  · rename_i diagnostic failure
    have located := read_located {} (Text.of "t") .braces
    exact ⟨template, diagnostic, success, (located _).1 template success, listed, failure,
      (located _).2.1 diagnostic failure, Option.some.inj stopped⟩
  · cases stopped

end Template

end Stencil
