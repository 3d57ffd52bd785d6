import Stencil.Proofs.Concatenation.Parts
import Stencil.Proofs.Elsewhere

/-!
# Reading documents elsewhere

The rules of documents come to the same elsewhere, as the rules of expressions do: where
the same text is unread under the same delimiters, they give the same value or stop for
the same reason, up to positions, and the same delimiters are active afterwards.
-/

namespace Stencil

namespace Document

/-- A state elsewhere: the same text is unread, the same delimiters are active, and the
includes are at their new positions. -/
structure State.Shifts (relocation : Relocation) (state target : State) : Prop where
  /-- The same text is unread. -/
  cursor : state.cursor.Shifts relocation target.cursor
  /-- The same delimiters are active. -/
  delimiters : target.delimiters = state.delimiters
  /-- The includes are moved. -/
  includes : target.includes = state.includes.moved relocation

/-- Two results of a rule correspond: the values or the halts are related, and so are the
states. -/
inductive Rule.Corresponds (relocation : Relocation) (same : α → α → Prop) :
    EStateM.Result Halt State α → EStateM.Result Halt State α → Prop
  | ok
      {value value' : α}
      {after after' : State}
      (related : same value value')
      (shifts : after.Shifts relocation after') :
      Corresponds relocation same (.ok value after) (.ok value' after')
  | error
      {halt halt' : Halt}
      {after after' : State}
      (moves : halt.Moves relocation halt')
      (shifts : after.Shifts relocation after') :
      Corresponds relocation same (.error halt after) (.error halt' after')

variable
  {relocation : Relocation}
  {grammar : Grammar}
  {state target : State}

open Reading (By)
open Rule (Corresponds)

namespace Rule

theorem Corresponds.bind
    {same : α → α → Prop}
    {alike : β → β → Prop}
    {first first' : Rule α}
    {next next' : α → Rule β}
    (near : Corresponds relocation same (first state) (first' target))
    (far : ∀ value value' middle middle', same value value' →
      State.Shifts relocation middle middle' →
        Corresponds relocation alike (next value middle) (next' value' middle')) :
    Corresponds relocation alike ((first >>= next) state) ((first' >>= next') target) := by
  simp only [Bind.bind, EStateM.bind]
  generalize first state = result at near ⊢
  generalize first' target = result' at near ⊢
  cases near with
  | ok related shifts => exact far _ _ _ _ related shifts
  | error moves shifts => exact .error moves shifts

theorem Corresponds.get_bind
    {same : α → α → Prop}
    {next next' : State → Rule α}
    (far : Corresponds relocation same (next state state) (next' target target)) :
    Corresponds relocation same ((get >>= next) state) ((get >>= next') target) :=
  far

theorem Corresponds.move_bind
    {same : α → α → Prop}
    {cursor cursor' : Cursor}
    {next next' : Unit → Rule α}
    (shifts : state.Shifts relocation target)
    (here : cursor.Shifts relocation cursor')
    (far : ∀ middle middle', State.Shifts relocation middle middle' →
      Corresponds relocation same (next () middle) (next' () middle')) :
    Corresponds relocation same ((move cursor >>= next) state)
      ((move cursor' >>= next') target) :=
  far _ _ ⟨here, shifts.delimiters, shifts.includes⟩

theorem Corresponds.pure
    {same : α → α → Prop}
    {value value' : α}
    (related : same value value')
    (shifts : state.Shifts relocation target) :
    Corresponds relocation same ((pure value : Rule α) state) ((pure value' : Rule α) target) :=
  .ok related shifts

theorem Corresponds.fail
    {same : α → α → Prop}
    {cause cause' : Cause}
    {position position' : Position}
    (sameCause : cause.Moves relocation cause')
    (moves : position' = relocation.map position)
    (shifts : state.Shifts relocation target) :
    Corresponds relocation same ((fail cause position : Rule α) state)
      ((fail cause' position' : Rule α) target) := by
  rw [moves]
  exact .error (.diagnosed sameCause) shifts

theorem Corresponds.log
    (event event' : Event)
    (shifts : state.Shifts relocation target) :
    Corresponds relocation Eq (log event state) (log event' target) :=
  .ok rfl ⟨shifts.cursor, shifts.delimiters, shifts.includes⟩

/-- What is read at the cursor comes to the same if the rule for it does. -/
theorem Corresponds.reading
    {same : α → α → Prop}
    {rule rule' : Cursor → Except Halt (α × Cursor)}
    (shifts : state.Shifts relocation target)
    (transfers : Reading.Transfers relocation same (rule state.cursor) (rule' target.cursor)) :
    Corresponds relocation same (reading rule state) (reading rule' target) := by
  unfold Rule.reading
  generalize rule state.cursor = found at transfers ⊢
  generalize rule' target.cursor = found' at transfers ⊢
  cases transfers with
  | ok apace => exact .ok apace.value ⟨apace.cursor, shifts.delimiters, shifts.includes⟩
  | error moves => exact .error moves shifts

end Rule

/-! ## What a state shows -/

theorem State.Shifts.kind?_eq
    (shifts : state.Shifts relocation target)
    (order : List Kind) :
    target.kind? order = state.kind? order := by
  unfold State.kind?
  rw [shifts.delimiters]
  congr 1
  funext kind
  exact shifts.cursor.startsWith_eq _

theorem State.Shifts.tagKeyword?_eq (shifts : state.Shifts relocation target) :
    target.tagKeyword? = state.tagKeyword? := by
  unfold State.tagKeyword?
  rw [shifts.delimiters]
  rcases shifts.cursor.consume?_cases state.delimiters.block.opening with
    ⟨absent, absent'⟩ | ⟨behind, behind', consumed, consumed', further⟩
  · rw [absent, absent']
  · have scanned := Token.corresponds_scanHere further.skipBlanks
    rw [consumed, consumed']
    unfold Token.scan
    dsimp only
    generalize Token.scanHere behind.skipBlanks = here at scanned ⊢
    generalize Token.scanHere behind'.skipBlanks = there at scanned ⊢
    cases scanned with
    | ok apace => simp only [apace.value.kind, apace.value.value]
    | error moves => rfl

theorem State.Shifts.isAtTag_eq
    (shifts : state.Shifts relocation target)
    (order : List Kind)
    (keyword : Text) :
    target.isAtTag order keyword = state.isAtTag order keyword := by
  rw [State.isAtTag, State.isAtTag, shifts.kind?_eq, shifts.tagKeyword?_eq]

theorem State.Shifts.textRun
    (shifts : state.Shifts relocation target)
    (order : List Kind) :
    (target.textRun order).1 = (state.textRun order).1 ∧
      (state.textRun order).2.Shifts relocation (target.textRun order).2 := by
  simp only [State.textRun, Cursor.readBefore, shifts.delimiters, shifts.cursor.rest, true_and]
  exact shifts.cursor.forward _

theorem State.Shifts.tagRegion_eq
    (shifts : state.Shifts relocation target)
    (grammar : Grammar) :
    target.tagRegion grammar = state.tagRegion grammar := by
  rw [State.tagRegion, State.tagRegion, shifts.delimiters]

/-! ## Tags -/

theorem corresponds_openTag
    (shifts : state.Shifts relocation target)
    (keyword : Text) :
    Corresponds relocation (By relocation.map) (openTag keyword state)
      (openTag keyword target) := by
  refine .get_bind ?_
  rw [shifts.delimiters]
  rcases shifts.cursor.consume?_cases state.delimiters.block.opening with
    ⟨absent, absent'⟩ | ⟨behind, behind', consumed, consumed', further⟩
  · rw [absent, absent']
    exact .error .inconsistent shifts
  · rw [consumed, consumed']
    refine .move_bind shifts further ?_
    intro entered entered' inside
    refine .bind (.reading inside (Reading.transfers_token inside.cursor)) ?_
    intro token token' opened opened' sameToken onward
    rw [sameToken.isWord_eq]
    split
    · refine .bind (.log _ _ onward) ?_
      exact fun _ _ _ _ _ last => .pure shifts.cursor.here last
    · exact .error .inconsistent onward

theorem corresponds_closeTag (shifts : state.Shifts relocation target) :
    Corresponds relocation Eq (closeTag grammar state) (closeTag grammar target) := by
  refine .get_bind (.reading shifts ?_)
  rw [shifts.tagRegion_eq]
  exact Region.transfers_close shifts.cursor

theorem corresponds_expressionTag
    (shifts : state.Shifts relocation target)
    (calls depth : Nat) :
    Corresponds relocation (By (Node.moved relocation)) (expressionTag grammar calls depth state)
      (expressionTag grammar calls depth target) := by
  refine .get_bind ?_
  rw [shifts.tagRegion_eq]
  refine .bind (.reading shifts
    ((Region.transfers_of_rules _ relocation calls).1 shifts.cursor)) ?_
  rintro node _ middle middle' rfl onward
  exact .bind (corresponds_closeTag onward) fun _ _ _ _ _ last => .pure rfl last

theorem corresponds_patternTag
    (shifts : state.Shifts relocation target)
    (calls : Nat) :
    Corresponds relocation (By (Pattern.moved relocation)) (patternTag grammar calls state)
      (patternTag grammar calls target) := by
  refine .get_bind ?_
  rw [shifts.tagRegion_eq]
  refine .bind (.reading shifts (Region.transfers_pattern shifts.cursor calls)) ?_
  rintro pattern _ middle middle' rfl onward
  exact .bind (corresponds_closeTag onward) fun _ _ _ _ _ last => .pure rfl last

theorem corresponds_expectTerminator
    (shifts : state.Shifts relocation target)
    (terminator : Text)
    (construct : Construct)
    (opener : Position) :
    Corresponds relocation Eq (expectTerminator grammar terminator construct opener state)
      (expectTerminator grammar terminator construct (relocation.map opener) target) := by
  refine .get_bind ?_
  rw [shifts.isAtTag_eq, shifts.cursor.isAtEnd_eq, shifts.tagKeyword?_eq, shifts.delimiters]
  split
  · refine .bind (corresponds_openTag shifts terminator) ?_
    exact fun _ _ _ _ _ onward => corresponds_closeTag onward
  · exact .fail .unterminatedBlock shifts.cursor.here shifts

/-! ## Regions -/

theorem corresponds_insertion
    (shifts : state.Shifts relocation target)
    (depth calls : Nat) :
    Corresponds relocation (By (Node.moved relocation)) (insertion grammar depth calls state)
      (insertion grammar depth calls target) := by
  cases calls with
  | zero => exact .error .exhausted shifts
  | succ calls =>
    refine .get_bind ?_
    rw [shifts.delimiters]
    refine .move_bind shifts (shifts.cursor.forward _) ?_
    intro entered entered' inside
    refine .bind (.reading inside
      ((Region.transfers_of_rules _ relocation calls).1 inside.cursor)) ?_
    rintro node _ middle middle' rfl onward
    refine .bind (.reading onward (Region.transfers_close onward.cursor)) ?_
    exact fun _ _ _ _ _ last => .pure rfl last

theorem corresponds_comment (shifts : state.Shifts relocation target) :
    Corresponds relocation Eq (comment state) (comment target) := by
  refine .get_bind ?_
  have inside := shifts.cursor.forward state.delimiters.comment.opening.length
  rw [shifts.delimiters, Cursor.readThrough?, Cursor.readThrough?, inside.rest]
  cases Text.splitFirst state.delimiters.comment.closing
      (state.cursor.forward state.delimiters.comment.opening.length).rest with
  | none => exact .fail (.placeless rfl) shifts.cursor.here shifts
  | some found => exact .ok rfl ⟨inside.forward _, shifts.delimiters, shifts.includes⟩

theorem transfers_pragmaField
    {cursor cursor' : Cursor}
    (shifts : cursor.Shifts relocation cursor')
    (region : Region) :
    Reading.Transfers relocation Eq (pragmaField region cursor) (pragmaField region cursor') := by
  refine .read_bind (Reading.transfers_token shifts) ?_
  intro token token' behind behind' sameToken further
  dsimp only
  rw [Region.isDone_of_shifts shifts, sameToken.kind, sameToken.value]
  split
  · exact .unexpected _ sameToken
  · cases Kind.ofName? token.value with
    | none => exact .fail (.placeless rfl) sameToken.position
    | some kind =>
      dsimp only
      refine .read_bind (Reading.transfers_expectOperator further _) ?_
      intro _ _ _ _ _ onward
      refine .read_bind (Reading.transfers_expect onward _ _) ?_
      intro _ _ _ _ _ onward
      refine .read_bind (Reading.transfers_expect onward _ _) ?_
      intro opening opening' _ _ sameOpening onward
      refine .read_bind (Reading.transfers_expect onward _ _) ?_
      intro _ _ _ _ _ onward
      refine .read_bind (Reading.transfers_expect onward _ _) ?_
      intro closing closing' _ _ sameClosing onward
      refine .read_bind (Reading.transfers_expect onward _ _) ?_
      intro _ _ _ _ _ last
      dsimp only
      rw [sameOpening.value, sameClosing.value]
      exact .pure rfl last

theorem transfers_pragmaChanges
    {cursor cursor' : Cursor}
    (shifts : cursor.Shifts relocation cursor')
    (region : Region)
    (turns : Nat)
    (changes : List (Kind × Value)) :
    Reading.Transfers relocation Eq (pragmaChanges region turns changes cursor)
      (pragmaChanges region turns changes cursor') := by
  induction turns generalizing cursor cursor' changes with
  | zero => exact .error .exhausted
  | succ turns hypothesis =>
    refine .read_bind (transfers_pragmaField shifts region) ?_
    rintro ⟨kind, value⟩ _ middle middle' rfl onward
    dsimp only
    rw [Region.isDone_of_shifts onward]
    split
    · exact .pure rfl onward
    · refine .read_bind (Reading.transfers_expect onward _ _) ?_
      exact fun _ _ _ _ _ further => hypothesis further _

theorem corresponds_pragma
    (shifts : state.Shifts relocation target)
    (calls : Nat) :
    Corresponds relocation Eq (pragma grammar calls state) (pragma grammar calls target) := by
  cases calls with
  | zero => exact .error .exhausted shifts
  | succ calls =>
    refine .get_bind ?_
    rw [shifts.delimiters]
    refine .move_bind shifts (shifts.cursor.forward _) ?_
    intro entered entered' inside
    refine .bind (.reading inside (transfers_pragmaChanges inside.cursor _ _ _)) ?_
    rintro changes _ middle middle' rfl onward
    refine .bind (.reading onward (Region.transfers_close onward.cursor)) ?_
    intro _ _ closed closed' _ last
    cases state.delimiters.change changes with
    | ok changed => exact .ok rfl ⟨last.cursor, rfl, last.includes⟩
    | error fault => exact .fail (.placeless rfl) shifts.cursor.here last

/-! ## Blocks -/

theorem corresponds_skipToAlternatives
    (shifts : state.Shifts relocation target)
    (turns : Nat) :
    Corresponds relocation Eq (skipToAlternatives grammar turns state)
      (skipToAlternatives grammar turns target) := by
  induction turns generalizing state target with
  | zero => exact .error .exhausted shifts
  | succ turns hypothesis =>
    refine .get_bind ?_
    rw [shifts.cursor.isAtEnd_eq, shifts.kind?_eq]
    split
    · exact .pure rfl shifts
    · cases state.kind? grammar.order with
      | none =>
        obtain ⟨sameRun, behind⟩ := shifts.textRun grammar.order
        dsimp only
        rw [sameRun, shifts.delimiters]
        split
        · exact .move_bind shifts behind fun _ _ further => hypothesis further
        · exact .fail (.placeless rfl) shifts.cursor.here shifts
      | some kind =>
        cases kind with
        | comment =>
          refine .bind (corresponds_comment shifts) ?_
          exact fun _ _ _ _ _ further => hypothesis further
        | _ => exact .pure rfl shifts

section Blocks

variable
  {condition body : Rule Node}
  {pattern : Rule Pattern}
  {otherwise : Rule (Option Node)}
  (conditions : ∀ {state target : State}, state.Shifts relocation target →
    Corresponds relocation (By (Node.moved relocation)) (condition state) (condition target))
  (patterns : ∀ {state target : State}, state.Shifts relocation target →
    Corresponds relocation (By (Pattern.moved relocation)) (pattern state) (pattern target))
  (bodies : ∀ {state target : State}, state.Shifts relocation target →
    Corresponds relocation (By (Node.moved relocation)) (body state) (body target))
  (defaults : ∀ {state target : State}, state.Shifts relocation target →
    Corresponds relocation (By (Option.map (Node.moved relocation))) (otherwise state)
      (otherwise target))

include conditions bodies in
theorem corresponds_furtherBranches
    (shifts : state.Shifts relocation target)
    (turns : Nat) :
    Corresponds relocation
      (By (List.map (Prod.map (Node.moved relocation) (Node.moved relocation))))
      (furtherBranches grammar condition body turns state)
      (furtherBranches grammar condition body turns target) := by
  induction turns generalizing state target with
  | zero => exact .error .exhausted shifts
  | succ turns hypothesis =>
    refine .get_bind ?_
    rw [shifts.isAtTag_eq]
    split
    · refine .bind (corresponds_openTag shifts _) fun _ _ _ _ _ opened => ?_
      refine .bind (conditions opened) ?_
      rintro test _ second second' rfl tested
      refine .bind (bodies tested) ?_
      rintro result _ third third' rfl read
      refine .bind (hypothesis read) ?_
      rintro others _ last last' rfl finished
      exact .pure rfl finished
    · exact .pure rfl shifts

include conditions bodies defaults in
theorem corresponds_conditional (shifts : state.Shifts relocation target) :
    Corresponds relocation (By (Node.moved relocation))
      (conditional grammar condition body otherwise state)
      (conditional grammar condition body otherwise target) := by
  refine .bind (corresponds_openTag shifts _) ?_
  rintro opener _ first first' rfl opened
  refine .bind (conditions opened) ?_
  rintro test _ second second' rfl tested
  refine .bind (bodies tested) ?_
  rintro result _ third third' rfl read
  refine .bind (corresponds_furtherBranches conditions bodies read _) ?_
  rintro others _ fourth fourth' rfl branched
  refine .bind (defaults branched) ?_
  rintro default _ fifth fifth' rfl ended
  refine .bind (corresponds_expectTerminator ended _ _ opener) ?_
  intro _ _ _ _ _ last
  exact .pure (Node.moved_conditional relocation ((test, result) :: others) default).symm last

include patterns bodies in
theorem corresponds_alternatives
    (shifts : state.Shifts relocation target)
    (turns : Nat) :
    Corresponds relocation
      (By (List.map (Prod.map (Pattern.moved relocation) (Node.moved relocation))))
      (alternatives grammar pattern body turns state)
      (alternatives grammar pattern body turns target) := by
  induction turns generalizing state target with
  | zero => exact .error .exhausted shifts
  | succ turns hypothesis =>
    refine .get_bind ?_
    rw [shifts.isAtTag_eq]
    split
    · refine .bind (corresponds_openTag shifts _) fun _ _ _ _ _ opened => ?_
      refine .bind (patterns opened) ?_
      rintro pattern _ second second' rfl tested
      refine .bind (bodies tested) ?_
      rintro result _ third third' rfl read
      refine .bind (hypothesis read) ?_
      rintro others _ last last' rfl finished
      exact .pure rfl finished
    · exact .pure rfl shifts

include conditions patterns bodies defaults in
theorem corresponds_selection (shifts : state.Shifts relocation target) :
    Corresponds relocation (By (Node.moved relocation))
      (selection grammar condition pattern body otherwise state)
      (selection grammar condition pattern body otherwise target) := by
  refine .bind (corresponds_openTag shifts _) ?_
  rintro opener _ first first' rfl opened
  refine .bind (conditions opened) ?_
  rintro subject _ second second' rfl scrutinised
  refine .bind (corresponds_skipToAlternatives scrutinised _) fun _ _ _ _ _ skipped => ?_
  refine .bind (corresponds_alternatives patterns bodies skipped _) ?_
  rintro cases _ fourth fourth' rfl branched
  refine .bind (defaults branched) ?_
  rintro default _ fifth fifth' rfl ended
  refine .bind (corresponds_expectTerminator ended _ _ opener) ?_
  intro _ _ _ _ _ last
  exact .pure (Node.moved_selected relocation _ _ _).symm last

include bodies defaults in
theorem corresponds_loop
    (shifts : state.Shifts relocation target)
    (calls : Nat) :
    Corresponds relocation (By (Node.moved relocation))
      (loop grammar calls body otherwise state)
      (loop grammar calls body otherwise target) := by
  refine .bind (corresponds_openTag shifts _) ?_
  rintro opener _ first first' rfl opened
  refine .get_bind ?_
  rw [opened.tagRegion_eq]
  refine .bind (.reading opened (Region.transfers_identifier opened.cursor calls)) ?_
  rintro item _ second second' rfl named
  refine .bind (.reading named (Region.transfers_keyword named.cursor _)) ?_
  intro _ _ third third' _ joined
  refine .bind (.reading joined (Region.transfers_path joined.cursor calls)) ?_
  rintro source _ fourth fourth' rfl iterated
  refine .bind (corresponds_closeTag iterated) fun _ _ _ _ _ closed => ?_
  refine .bind (bodies closed) ?_
  rintro result _ fifth fifth' rfl read
  refine .bind (defaults read) ?_
  rintro default _ sixth sixth' rfl ended
  refine .bind (corresponds_expectTerminator ended _ _ opener) ?_
  intro _ _ _ _ _ last
  refine .pure ?_ last
  rw [By, Node.moved, Node.optionalMoved_eq_map, Variable.moved_reference]

theorem transfers_bindingSign
    {cursor cursor' : Cursor}
    (shifts : cursor.Shifts relocation cursor')
    (name : Text) :
    Reading.Transfers relocation Eq (bindingSign name cursor) (bindingSign name cursor') := by
  have here := shifts.skipBlanks
  have stops : Reading.Transfers relocation Eq
      (Reading.token cursor.skipBlanks >>= fun read =>
        (Reading.unexpected (.bindingSign name) read.1 : Except Halt (Unit × Cursor)))
      (Reading.token cursor'.skipBlanks >>= fun read =>
        Reading.unexpected (.bindingSign name) read.1) := by
    refine .read_bind (Reading.transfers_token here) ?_
    exact fun _ _ _ _ sameToken _ => .unexpected _ sameToken
  unfold bindingSign
  dsimp only
  rw [here.startsWith_eq]
  cases cursor.skipBlanks.startsWith (Text.of "==") with
  | true => exact stops
  | false =>
    rcases here.consume?_cases (Text.of "=") with
      ⟨absent, absent'⟩ | ⟨behind, behind', consumed, consumed', further⟩
    · rw [absent, absent']
      exact stops
    · rw [consumed, consumed']
      exact .pure rfl further

include conditions bodies in
theorem corresponds_binding
    (shifts : state.Shifts relocation target)
    (calls : Nat) :
    Corresponds relocation (By (Node.moved relocation))
      (binding grammar calls condition body state)
      (binding grammar calls condition body target) := by
  refine .bind (corresponds_openTag shifts _) ?_
  rintro opener _ first first' rfl opened
  refine .get_bind ?_
  rw [opened.tagRegion_eq]
  refine .bind (.reading opened (Region.transfers_identifier opened.cursor calls)) ?_
  rintro name _ second second' rfl named
  refine .bind (.reading named (transfers_bindingSign named.cursor name.name)) ?_
  intro _ _ third third' _ signed
  refine .bind (conditions signed) ?_
  rintro bound _ fourth fourth' rfl read
  refine .bind (bodies read) ?_
  rintro result _ fifth fifth' rfl ended
  refine .bind (corresponds_expectTerminator ended _ _ opener) ?_
  intro _ _ _ _ _ last
  refine .pure ?_ last
  rw [By, Node.moved]

theorem transfers_inclusionKey
    {cursor cursor' : Cursor}
    (shifts : cursor.Shifts relocation cursor')
    (region : Region) :
    Reading.Transfers relocation Eq (inclusionKey region cursor)
      (inclusionKey region cursor') := by
  refine .read_bind (Reading.transfers_token shifts) ?_
  intro token token' behind behind' sameToken further
  dsimp only
  rw [Region.isDone_of_shifts shifts, sameToken.kind, sameToken.value]
  split
  · exact .unexpected _ sameToken
  · exact .pure rfl further

theorem transfers_withContext
    {cursor cursor' : Cursor}
    (shifts : cursor.Shifts relocation cursor')
    (region : Region) :
    Reading.Transfers relocation Eq (withContext region cursor) (withContext region cursor') := by
  unfold withContext
  rw [Region.isDone_of_shifts shifts]
  split
  · exact .pure rfl shifts
  · refine .read_bind (Reading.transfers_token shifts) ?_
    intro token token' behind behind' sameToken further
    dsimp only
    rw [sameToken.isWord_eq]
    split
    · exact .pure rfl further
    · exact .pure rfl shifts

theorem register_moved (key : Text) (position : Position) (includes : Includes) :
    Includes.register key (relocation.map position) (includes.moved relocation) =
      (includes.register key position).moved relocation := by
  induction includes with
  | nil => rfl
  | cons group rest hypothesis =>
    simp only [Includes.moved, List.map_cons, Includes.register] at hypothesis ⊢
    split
    · simp
    · rw [List.map_cons, hypothesis]

include conditions in
theorem corresponds_inclusion (shifts : state.Shifts relocation target) :
    Corresponds relocation (By (Node.moved relocation)) (inclusion grammar condition state)
      (inclusion grammar condition target) := by
  refine .bind (corresponds_openTag shifts _) ?_
  rintro opener _ first first' rfl opened
  refine .get_bind ?_
  rw [opened.tagRegion_eq]
  refine .bind (.reading opened (transfers_inclusionKey opened.cursor _)) ?_
  rintro key _ second second' rfl keyed
  have registered : Corresponds relocation Eq (register key opener second)
      (register key (relocation.map opener) second') := by
    refine .ok rfl ⟨keyed.cursor, keyed.delimiters, ?_⟩
    dsimp only
    rw [keyed.includes, register_moved]
  refine .bind registered fun _ _ third third' _ listed => ?_
  refine .bind (.reading listed (transfers_withContext listed.cursor _)) ?_
  rintro follows _ fourth fourth' rfl looked
  cases follows with
  | true =>
    refine .bind (conditions looked) ?_
    rintro value _ fifth fifth' rfl last
    refine .pure ?_ last
    rw [By, Node.moved, Node.optionalMoved_eq_map]
    rfl
  | false =>
    refine .bind (corresponds_closeTag looked) fun _ _ _ _ _ last => ?_
    refine .pure ?_ last
    rw [By, Node.moved, Node.optionalMoved_eq_map]
    rfl

end Blocks

/-! ## Documents -/

theorem corresponds_collectParts
    {inline : Rule Node}
    {switch : Rule Unit}
    {block : Construct → Rule Node}
    (inlines : ∀ {state target : State}, state.Shifts relocation target →
      Corresponds relocation (By (Node.moved relocation)) (inline state) (inline target))
    (switches : ∀ {state target : State}, state.Shifts relocation target →
      Corresponds relocation Eq (switch state) (switch target))
    (blocks : ∀ {construct} {state target : State}, state.Shifts relocation target →
      Corresponds relocation (By (Node.moved relocation)) (block construct state)
        (block construct target))
    (shifts : state.Shifts relocation target)
    (turns : Nat)
    (parts : List Node) :
    Corresponds relocation (By (List.map (Node.moved relocation)))
      (collectParts grammar inline switch block turns parts state)
      (collectParts grammar inline switch block turns (parts.map (Node.moved relocation))
        target) := by
  induction turns generalizing state target parts with
  | zero => exact .error .exhausted shifts
  | succ turns hypothesis =>
    refine .get_bind ?_
    rw [shifts.cursor.isAtEnd_eq, shifts.kind?_eq, shifts.tagKeyword?_eq, ← List.map_reverse]
    split
    · exact .pure rfl shifts
    · cases state.kind? grammar.order with
      | none =>
        obtain ⟨sameRun, behind⟩ := shifts.textRun grammar.order
        dsimp only
        rw [sameRun, shifts.cursor.here, appendText_moved]
        exact .move_bind shifts behind fun _ _ further => hypothesis further _
      | some kind =>
        cases kind with
        | inline =>
          refine .bind (inlines shifts) ?_
          rintro part _ middle middle' rfl further
          exact hypothesis further (part :: parts)
        | comment =>
          exact .bind (corresponds_comment shifts) fun _ _ _ _ _ further => hypothesis further _
        | pragma =>
          exact .bind (switches shifts) fun _ _ _ _ _ further => hypothesis further _
        | block =>
          dsimp only
          rw [shifts.delimiters]
          cases state.tagKeyword? with
          | none => exact .fail (.placeless rfl) shifts.cursor.here shifts
          | some keyword =>
            dsimp only
            cases Construct.ofKeyword? keyword with
            | some construct =>
              refine .bind (blocks shifts) ?_
              rintro part _ middle middle' rfl further
              exact hypothesis further (part :: parts)
            | none =>
              dsimp only
              split
              · exact .pure rfl shifts
              · exact .fail (.placeless rfl) shifts.cursor.here shifts

/-- The rules of documents come to the same elsewhere, by induction on the rules that may
be open. -/
theorem corresponds_of_rules (grammar : Grammar) (relocation : Relocation) (calls : Nat) :
    (∀ {depth} {state target : State}, state.Shifts relocation target →
        Corresponds relocation (By (Node.moved relocation)) (document grammar calls depth state)
          (document grammar calls depth target)) ∧
      (∀ {depth} {state target : State}, state.Shifts relocation target →
        Corresponds relocation (By (List.map (Node.moved relocation)))
          (parts grammar calls depth state) (parts grammar calls depth target)) ∧
      (∀ {depth construct} {state target : State}, state.Shifts relocation target →
        Corresponds relocation (By (Node.moved relocation))
          (block grammar calls depth construct state)
          (block grammar calls depth construct target)) ∧
      ∀ {depth} {state target : State}, state.Shifts relocation target →
        Corresponds relocation (By (Option.map (Node.moved relocation)))
          (otherwise grammar calls depth state) (otherwise grammar calls depth target) := by
  induction calls with
  | zero =>
    refine ⟨?_, ?_, ?_, ?_⟩
    · intro depth state target shifts
      rw [document]
      exact .error .exhausted shifts
    · intro depth state target shifts
      rw [parts]
      exact .error .exhausted shifts
    · intro depth construct state target shifts
      rw [block]
      exact .error .exhausted shifts
    · intro depth state target shifts
      rw [otherwise]
      exact .error .exhausted shifts
  | succ calls hypothesis =>
    obtain ⟨ofDocument, ofParts, ofBlock, ofOtherwise⟩ := hypothesis
    refine ⟨?_, ?_, ?_, ?_⟩
    · intro depth state target shifts
      rw [document]
      refine .get_bind ?_
      have nested := Reading.Corresponds.nest grammar depth shifts.cursor.here
      generalize Reading.nest grammar depth state.cursor.position = level at nested ⊢
      generalize Reading.nest grammar depth target.cursor.position = level' at nested ⊢
      cases nested with
      | error moves => exact .error moves shifts
      | ok sameDepth =>
        subst sameDepth
        refine .bind (ofParts shifts) ?_
        rintro collected _ after after' rfl last
        rw [shifts.cursor.here]
        exact .pure (Node.moved_sequenced relocation _ _).symm last
    · intro depth state target shifts
      rw [parts]
      refine @corresponds_collectParts relocation grammar state target
        (insertion grammar depth calls) (pragma grammar calls)
        (fun construct => block grammar calls depth construct) ?_ ?_ ?_ shifts _ []
      · exact fun here => corresponds_insertion here depth calls
      · exact fun here => corresponds_pragma here calls
      · exact fun here => ofBlock here
    · intro depth construct state target shifts
      cases construct with
      | conditional =>
        rw [block]
        exact corresponds_conditional (fun here => corresponds_expressionTag here calls depth)
          ofDocument ofOtherwise shifts
      | selection =>
        rw [block]
        exact corresponds_selection (fun here => corresponds_expressionTag here calls depth)
          (fun here => corresponds_patternTag here calls) ofDocument ofOtherwise shifts
      | loop =>
        rw [block]
        exact corresponds_loop ofDocument ofOtherwise shifts calls
      | binding =>
        rw [block]
        exact corresponds_binding (fun here => corresponds_expressionTag here calls depth)
          ofDocument shifts calls
      | inclusion =>
        rw [block]
        exact corresponds_inclusion (fun here => corresponds_expressionTag here calls depth)
          shifts
    · intro depth state target shifts
      rw [otherwise]
      refine .get_bind ?_
      rw [shifts.isAtTag_eq]
      split
      · refine .bind (corresponds_openTag shifts _) fun _ _ _ _ _ opened => ?_
        refine .bind (corresponds_closeTag opened) fun _ _ _ _ _ closed => ?_
        refine .bind (ofDocument closed) ?_
        rintro body _ after after' rfl last
        exact .pure rfl last
      · exact .pure rfl shifts

end Document

end Stencil
