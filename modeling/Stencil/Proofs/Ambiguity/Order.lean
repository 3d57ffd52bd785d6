import Stencil.Proofs.Ambiguity
import Stencil.Proofs.Termination

/-!
# The order of recognition

As long as no ambiguous delimiters become active, documents are read the same in every
order in which the kinds of regions are tried.  That they do become active is written to
the journal, and nothing is ever taken out of the journal: so a quiet journal at the end
of a run says that the delimiters were clear at each of its steps.
-/

namespace Stencil

namespace Document

/-- The state that a rule leaves behind, with a value or with a halt. -/
def Rule.final : EStateM.Result Halt State α → State
  | .ok _ state => state
  | .error _ state => state

/-- No ambiguous delimiters were made active so far. -/
def State.IsQuiet (state : State) : Prop :=
  ∀ kinds, Event.ambiguous kinds ∉ state.journal

theorem State.IsQuiet.of_suffix
    {state later : State}
    (quiet : later.IsQuiet)
    (grows : state.journal <:+ later.journal) :
    state.IsQuiet :=
  fun kinds listed => quiet kinds (grows.subset listed)

/-- A rule only adds to the journal and leaves the delimiters as they are. -/
def Rule.IsSteady (rule : Rule α) : Prop :=
  ∀ state, state.journal <:+ (final (rule state)).journal ∧
    (final (rule state)).delimiters = state.delimiters

/-- Beginning at a state, the first rule only adds to the journal; and if the delimiters
are clear there and the journal is quiet afterwards, the second rule does the same and
the delimiters are still clear. -/
structure Rule.AgreesAt (state : State) (first second : Rule α) : Prop where
  /-- Nothing is taken out of the journal. -/
  grows : state.journal <:+ (final (first state)).journal
  /-- The rules do the same. -/
  same : state.delimiters.ambiguities = [] → (final (first state)).IsQuiet →
    second state = first state
  /-- The delimiters stay clear. -/
  clear : state.delimiters.ambiguities = [] → (final (first state)).IsQuiet →
    (final (first state)).delimiters.ambiguities = []

/-- The second rule does what the first does unless that makes ambiguous delimiters
active. -/
def Rule.Agrees (first second : Rule α) : Prop :=
  ∀ state, AgreesAt state first second

open Rule (final IsSteady Agrees AgreesAt reading log move)

/-! ## Rules that leave the delimiters alone -/

namespace Rule.IsSteady

theorem pure (value : α) : IsSteady (Pure.pure value : Rule α) :=
  fun _ => ⟨List.suffix_refl _, rfl⟩

theorem throw (halt : Halt) : IsSteady (MonadExcept.throw halt : Rule α) :=
  fun _ => ⟨List.suffix_refl _, rfl⟩

theorem bind
    {first : Rule α}
    {second : α → Rule β}
    (near : IsSteady first)
    (far : ∀ value, IsSteady (second value)) :
    IsSteady (first >>= second) := by
  intro state
  obtain ⟨grows, kept⟩ := near state
  simp only [Bind.bind, EStateM.bind]
  cases reached : first state with
  | error halt after =>
    rw [reached] at grows kept
    exact ⟨grows, kept⟩
  | ok value middle =>
    rw [reached] at grows kept
    obtain ⟨grows', kept'⟩ := far value middle
    exact ⟨grows.trans grows', kept'.trans kept⟩

theorem get_bind
    {next : State → Rule α}
    (far : ∀ state, IsSteady (next state)) :
    IsSteady (get >>= next) :=
  fun state => far state state

theorem log (event : Event) : IsSteady (Rule.log event) :=
  fun _ => ⟨List.suffix_cons _ _, rfl⟩

theorem move (cursor : Cursor) : IsSteady (Rule.move cursor) :=
  fun _ => ⟨List.suffix_refl _, rfl⟩

theorem reading (rule : Cursor → Except Halt (α × Cursor)) : IsSteady (Rule.reading rule) := by
  intro state
  unfold Rule.reading
  cases rule state.cursor with
  | error halt => exact ⟨List.suffix_refl _, rfl⟩
  | ok result => exact ⟨List.suffix_refl _, rfl⟩

theorem fail (cause : Cause) (position : Position) : IsSteady (Rule.fail cause position : Rule α) :=
  throw _

theorem register (key : Text) (position : Position) :
    IsSteady (Document.register key position) :=
  fun _ => ⟨List.suffix_cons _ _, rfl⟩

theorem openTag (keyword : Text) : IsSteady (Document.openTag keyword) := by
  refine get_bind fun state => ?_
  dsimp only
  split
  · exact throw _
  · refine bind (move _) fun _ => bind (reading _) fun token => ?_
    split
    · exact bind (log _) fun _ => pure _
    · exact throw _

theorem closeTag (grammar : Grammar) : IsSteady (Document.closeTag grammar) :=
  get_bind fun _ => reading _

theorem expressionTag (grammar : Grammar) (calls depth : Nat) :
    IsSteady (Document.expressionTag grammar calls depth) :=
  get_bind fun _ => bind (reading _) fun _ => bind (closeTag grammar) fun _ => pure _

theorem patternTag (grammar : Grammar) (calls : Nat) :
    IsSteady (Document.patternTag grammar calls) :=
  get_bind fun _ => bind (reading _) fun _ => bind (closeTag grammar) fun _ => pure _

theorem insertion (grammar : Grammar) (depth calls : Nat) :
    IsSteady (Document.insertion grammar depth calls) := by
  cases calls with
  | zero => exact throw _
  | succ calls =>
    refine get_bind fun state => bind (move _) fun _ => ?_
    exact bind (reading _) fun _ => bind (reading _) fun _ => pure _

theorem comment : IsSteady Document.comment := by
  refine get_bind fun state => ?_
  dsimp only
  split
  · exact move _
  · exact fail _ _

theorem inclusion
    {context : Rule Node}
    (grammar : Grammar)
    (ofContext : IsSteady context) :
    IsSteady (Document.inclusion grammar context) := by
  refine bind (openTag _) fun _ => get_bind fun _ => bind (reading _) fun _ => ?_
  refine bind (register _ _) fun _ => bind (reading _) fun follows => ?_
  cases follows with
  | true => exact bind ofContext fun _ => pure _
  | false => exact bind (closeTag grammar) fun _ => pure _

end Rule.IsSteady

/-! ## Rules that agree -/

namespace Rule.Agrees

variable {state : State}

/-- A rule that leaves the delimiters alone agrees with itself. -/
theorem of_steady
    {rule : Rule α}
    (steady : IsSteady rule) :
    Agrees rule rule :=
  fun state => ⟨(steady state).1, fun _ _ => rfl, fun clear _ => by rw [(steady state).2, clear]⟩

/-- Two rules in sequence agree if each of them does. -/
theorem bind
    {first first' : Rule α}
    {second second' : α → Rule β}
    (near : Agrees first first')
    (far : ∀ value, Agrees (second value) (second' value)) :
    Agrees (first >>= second) (first' >>= second') := by
  intro state
  obtain ⟨grows, same, clear⟩ := near state
  cases reached : first state with
  | error halt after =>
    rw [reached] at grows same clear
    have stops : (first >>= second) state = .error halt after := by
      simp only [Bind.bind, EStateM.bind, reached]
    refine ⟨by rw [stops]; exact grows, ?_, by rw [stops]; exact clear⟩
    intro unambiguous quiet
    rw [stops] at quiet ⊢
    have alike : first' state = .error halt after := same unambiguous quiet
    simp only [Bind.bind, EStateM.bind, alike]
  | ok value middle =>
    rw [reached] at grows same clear
    obtain ⟨grows', same', clear'⟩ := far value middle
    have continues : (first >>= second) state = second value middle := by
      simp only [Bind.bind, EStateM.bind, reached]
    rw [← continues] at grows' same' clear'
    -- What is quiet at the end is quiet in between.
    have between (quiet : (final ((first >>= second) state)).IsQuiet) : middle.IsQuiet :=
      quiet.of_suffix grows'
    refine ⟨grows.trans grows', ?_, ?_⟩
    · intro unambiguous quiet
      have alike : first' state = .ok value middle := same unambiguous (between quiet)
      rw [← same' (clear unambiguous (between quiet)) quiet]
      simp only [Bind.bind, EStateM.bind, alike]
    · intro unambiguous quiet
      exact clear' (clear unambiguous (between quiet)) quiet

/-- Rules that look at the state agree if they do at the state that they look at. -/
theorem get_bind
    {next next' : State → Rule α}
    (far : ∀ state, AgreesAt state (next state) (next' state)) :
    Agrees (get >>= next) (get >>= next') :=
  fun state => ⟨(far state).grows, (far state).same, (far state).clear⟩

/-- The same rule first. -/
theorem bind_right
    {first : Rule α}
    {second second' : α → Rule β}
    (steady : IsSteady first)
    (far : ∀ value, Agrees (second value) (second' value)) :
    Agrees (first >>= second) (first >>= second') :=
  bind (of_steady steady) far

end Rule.Agrees

/-- The second rule matters only where the delimiters are clear. -/
theorem Rule.AgreesAt.of_clear
    {state : State}
    {first second second' : Rule α}
    (agrees : AgreesAt state first second)
    (equal : state.delimiters.ambiguities = [] → second' = second) :
    AgreesAt state first second' where
  grows := agrees.grows
  clear := agrees.clear
  same clear quiet := by rw [equal clear, agrees.same clear quiet]

/-- Whether a tag stands at the cursor does not depend on the order. -/
theorem Rule.AgreesAt.atTag
    {state : State}
    {order other : List Kind}
    {keyword : Text}
    {there there' elsewhere elsewhere' : Rule α}
    (permuted : order.Perm other)
    (ofThere : AgreesAt state there there')
    (ofElsewhere : AgreesAt state elsewhere elsewhere') :
    AgreesAt state (if state.isAtTag order keyword then there else elsewhere)
      (if state.isAtTag other keyword then there' else elsewhere') := by
  have sameTest : AgreesAt state (if state.isAtTag order keyword then there else elsewhere)
      (if state.isAtTag order keyword then there' else elsewhere') := by
    split
    · exact ofThere
    · exact ofElsewhere
  exact sameTest.of_clear fun clear => by rw [State.isAtTag_of_perm clear permuted]

end Document

end Stencil
