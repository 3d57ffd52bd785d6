import Stencil.Proofs.Allowance

/-!
# Larger allowances for documents

The rules of documents keep what they come to when more rules may be open, more
levels may be nested and loops may take more turns: the value, the state behind it, or
the halt and the state in which it was met.  The main statement is that this holds of
reading a whole source.
-/

namespace Stencil

namespace Document

variable {lower higher : Int}

/-- What a rule comes to with smaller allowances it also comes to with larger ones,
whatever state it begins with. -/
def Rule.Kept (lower higher : Int) (first second : Rule α) : Prop :=
  ∀ state, second state = first state ∨
    ∃ halt after, first state = .error halt after ∧ halt.IsLifted lower higher

open Rule (Kept)

theorem Rule.Kept.refl (rule : Rule α) : Kept lower higher rule rule :=
  fun _ => .inl rfl

theorem Rule.Kept.of_exhausted (second : Rule α) :
    Kept lower higher (throw .exhausted) second :=
  fun state => .inr ⟨.exhausted, state, rfl, .inl rfl⟩

/-- Two rules in sequence are kept if each of them is. -/
theorem Rule.Kept.bind
    {first first' : Rule α}
    {second second' : α → Rule β}
    (near : Kept lower higher first first')
    (far : ∀ value, Kept lower higher (second value) (second' value)) :
    Kept lower higher (first >>= second) (first' >>= second') := by
  intro state
  simp only [Bind.bind, EStateM.bind]
  rcases near state with same | ⟨halt, after, failed, lifted⟩
  · rw [same]
    cases first state with
    | ok value after => exact far value after
    | error halt after => exact .inl rfl
  · rw [failed]
    exact .inr ⟨halt, after, rfl, lifted⟩

/-- The same first rule is followed by rules that are kept. -/
theorem Rule.Kept.bind_right
    {first : Rule α}
    {second second' : α → Rule β}
    (far : ∀ value, Kept lower higher (second value) (second' value)) :
    Kept lower higher (first >>= second) (first >>= second') :=
  .bind (.refl first) far

/-- What is read at the cursor is kept if the rule for it is. -/
theorem Rule.Kept.reading
    {rule rule' : Cursor → Except Halt (α × Cursor)}
    (kept : ∀ cursor, Reading.Kept lower higher (rule cursor) (rule' cursor)) :
    Kept lower higher (reading rule) (reading rule') := by
  intro state
  simp only [Rule.reading]
  rcases kept state.cursor with same | ⟨halt, failed, lifted⟩
  · rw [same]
    exact .inl rfl
  · rw [failed]
    exact .inr ⟨halt, state, rfl, lifted⟩

variable {grammar : Grammar} {calls more turns longer wide : Nat}

/-! ## Loops over text -/

theorem kept_skipToAlternatives (lasts : turns ≤ longer) :
    Kept lower higher (skipToAlternatives grammar turns)
      (skipToAlternatives (grammar.allowing higher wide) longer) := by
  induction turns generalizing longer with
  | zero => exact .of_exhausted _
  | succ turns hypothesis =>
    obtain ⟨longer, rfl⟩ : ∃ fewer, longer = fewer + 1 := ⟨longer - 1, by omega⟩
    have continued := hypothesis (show turns ≤ longer by omega)
    rw [skipToAlternatives, skipToAlternatives]
    refine .bind_right fun state => ?_
    rw [Grammar.allowing_order]
    split
    · exact .refl _
    · cases state.kind? grammar.order with
      | none =>
        dsimp only
        split
        · exact .bind_right fun _ => continued
        · exact .refl _
      | some kind =>
        cases kind with
        | comment => exact .bind_right fun _ => continued
        | _ => exact .refl _

theorem kept_pragmaChanges
    {region : Region}
    (lasts : turns ≤ longer)
    (changes : List (Kind × Value))
    (cursor : Cursor) :
    Reading.Kept lower higher (pragmaChanges region turns changes cursor)
      (pragmaChanges (region.allowing higher wide) longer changes cursor) := by
  induction turns generalizing longer changes cursor with
  | zero => exact .of_exhausted _
  | succ turns hypothesis =>
    obtain ⟨longer, rfl⟩ : ∃ fewer, longer = fewer + 1 := ⟨longer - 1, by omega⟩
    refine .bind_right ?_
    rintro ⟨⟨kind, value⟩, middle⟩
    dsimp only
    rw [Region.isDone_allowing]
    split
    · exact .refl _
    · refine .bind_right ?_
      rintro ⟨comma, behind⟩
      exact hypothesis (by omega) _ behind

/-! ## Tags -/

theorem kept_expressionTag
    (raised : grammar.limit ≤ higher)
    (lasts : grammar.turns ≤ wide)
    (enough : calls ≤ more)
    (depth : Nat) :
    Kept grammar.limit higher (expressionTag grammar calls depth)
      (expressionTag (grammar.allowing higher wide) more depth) := by
  refine .bind_right fun state => ?_
  have kept := (@Region.kept_of_rules (state.tagRegion grammar) _ _ _ _ raised lasts enough).1
  exact .bind (.reading (kept depth 1)) fun _ => .refl _

theorem kept_patternTag (lasts : grammar.turns ≤ wide) (enough : calls ≤ more) :
    Kept grammar.limit higher (patternTag grammar calls)
      (patternTag (grammar.allowing higher wide) more) := by
  refine .bind_right fun state => ?_
  have kept := @Region.kept_pattern (state.tagRegion grammar) higher _ _ _ enough lasts
  exact .bind (.reading kept) fun _ => .refl _

theorem kept_insertion
    (raised : grammar.limit ≤ higher)
    (lasts : grammar.turns ≤ wide)
    (enough : calls ≤ more)
    (depth : Nat) :
    Kept grammar.limit higher (insertion grammar depth calls)
      (insertion (grammar.allowing higher wide) depth more) := by
  cases calls with
  | zero => exact .of_exhausted _
  | succ calls =>
    obtain ⟨more, rfl⟩ : ∃ fewer, more = fewer + 1 := ⟨more - 1, by omega⟩
    refine .bind_right fun state => ?_
    let region : Region := ⟨grammar, state.delimiters.inline.closing⟩
    have kept := (@Region.kept_of_rules region _ calls more _ raised lasts (by omega)).1
    refine .bind_right fun _ => ?_
    exact .bind (.reading (kept depth 1)) fun _ => .refl _

theorem kept_pragma (lasts : grammar.turns ≤ wide) (enough : calls ≤ more) :
    Kept grammar.limit higher (pragma grammar calls)
      (pragma (grammar.allowing higher wide) more) := by
  cases calls with
  | zero => exact .of_exhausted _
  | succ calls =>
    obtain ⟨more, rfl⟩ : ∃ fewer, more = fewer + 1 := ⟨more - 1, by omega⟩
    refine .bind_right fun state => .bind_right fun _ => ?_
    let region : Region := ⟨grammar, state.delimiters.pragma.closing⟩
    have kept := @kept_pragmaChanges grammar.limit higher _ _ wide region lasts []
    exact .bind (.reading kept) fun _ => .refl _

/-! ## Blocks -/

section Blocks

variable {condition condition' body body' : Rule Node}
variable {otherwise otherwise' : Rule (Option Node)}

theorem kept_furtherBranches
    (ofCondition : Kept grammar.limit higher condition condition')
    (ofBody : Kept grammar.limit higher body body')
    (lasts : turns ≤ longer) :
    Kept grammar.limit higher (furtherBranches grammar condition body turns)
      (furtherBranches (grammar.allowing higher wide) condition' body' longer) := by
  induction turns generalizing longer with
  | zero => exact .of_exhausted _
  | succ turns hypothesis =>
    obtain ⟨longer, rfl⟩ : ∃ fewer, longer = fewer + 1 := ⟨longer - 1, by omega⟩
    rw [furtherBranches, furtherBranches]
    refine .bind_right fun state => ?_
    rw [Grammar.allowing_order]
    split
    · refine .bind_right fun _ => .bind ofCondition fun _ => .bind ofBody fun _ => ?_
      exact .bind (hypothesis (by omega)) fun _ => .refl _
    · exact .refl _

theorem kept_conditional
    (lasts : grammar.turns ≤ wide)
    (ofCondition : Kept grammar.limit higher condition condition')
    (ofBody : Kept grammar.limit higher body body')
    (ofOtherwise : Kept grammar.limit higher otherwise otherwise') :
    Kept grammar.limit higher (conditional grammar condition body otherwise)
      (conditional (grammar.allowing higher wide) condition' body' otherwise') := by
  refine .bind_right fun _ => .bind ofCondition fun _ => .bind ofBody fun _ => ?_
  refine .bind (kept_furtherBranches ofCondition ofBody lasts) fun _ => ?_
  exact .bind ofOtherwise fun _ => .refl _

theorem kept_alternatives
    {pattern pattern' : Rule Pattern}
    (ofPattern : Kept grammar.limit higher pattern pattern')
    (ofBody : Kept grammar.limit higher body body')
    (lasts : turns ≤ longer) :
    Kept grammar.limit higher (alternatives grammar pattern body turns)
      (alternatives (grammar.allowing higher wide) pattern' body' longer) := by
  induction turns generalizing longer with
  | zero => exact .of_exhausted _
  | succ turns hypothesis =>
    obtain ⟨longer, rfl⟩ : ∃ fewer, longer = fewer + 1 := ⟨longer - 1, by omega⟩
    rw [alternatives, alternatives]
    refine .bind_right fun state => ?_
    rw [Grammar.allowing_order]
    split
    · refine .bind_right fun _ => .bind ofPattern fun _ => .bind ofBody fun _ => ?_
      exact .bind (hypothesis (by omega)) fun _ => .refl _
    · exact .refl _

theorem kept_selection
    {scrutinee scrutinee' : Rule Node}
    {pattern pattern' : Rule Pattern}
    (lasts : grammar.turns ≤ wide)
    (ofScrutinee : Kept grammar.limit higher scrutinee scrutinee')
    (ofPattern : Kept grammar.limit higher pattern pattern')
    (ofBody : Kept grammar.limit higher body body')
    (ofOtherwise : Kept grammar.limit higher otherwise otherwise') :
    Kept grammar.limit higher (selection grammar scrutinee pattern body otherwise)
      (selection (grammar.allowing higher wide) scrutinee' pattern' body' otherwise') := by
  refine .bind_right fun _ => .bind ofScrutinee fun _ => ?_
  refine .bind (kept_skipToAlternatives lasts) fun _ => ?_
  refine .bind (kept_alternatives ofPattern ofBody lasts) fun _ => ?_
  exact .bind ofOtherwise fun _ => .refl _

theorem kept_loop
    (lasts : grammar.turns ≤ wide)
    (enough : calls ≤ more)
    (ofBody : Kept grammar.limit higher body body')
    (ofOtherwise : Kept grammar.limit higher otherwise otherwise') :
    Kept grammar.limit higher (loop grammar calls body otherwise)
      (loop (grammar.allowing higher wide) more body' otherwise') := by
  refine .bind_right fun _ => .bind_right fun state => ?_
  let region := state.tagRegion grammar
  have item := @Region.kept_identifier region higher _ _ wide enough
  have source := @Region.kept_path region higher _ _ wide enough lasts
  refine .bind (.reading item) fun _ => .bind_right fun _ => .bind (.reading source) fun _ => ?_
  refine .bind_right fun _ => .bind ofBody fun _ => ?_
  exact .bind ofOtherwise fun _ => .refl _

theorem kept_binding
    {value value' : Rule Node}
    (enough : calls ≤ more)
    (ofValue : Kept grammar.limit higher value value')
    (ofBody : Kept grammar.limit higher body body') :
    Kept grammar.limit higher (binding grammar calls value body)
      (binding (grammar.allowing higher wide) more value' body') := by
  refine .bind_right fun _ => .bind_right fun state => ?_
  let region := state.tagRegion grammar
  have name := @Region.kept_identifier region higher _ _ wide enough
  refine .bind (.reading name) fun _ => .bind_right fun _ => .bind ofValue fun _ => ?_
  exact .bind ofBody fun _ => .refl _

theorem kept_inclusion
    {context context' : Rule Node}
    (ofContext : Kept grammar.limit higher context context') :
    Kept grammar.limit higher (inclusion grammar context)
      (inclusion (grammar.allowing higher wide) context') := by
  refine .bind_right fun _ => .bind_right fun _ => .bind_right fun _ => ?_
  refine .bind_right fun _ => .bind_right fun follows => ?_
  cases follows with
  | true => exact .bind ofContext fun _ => .refl _
  | false => exact .refl _

end Blocks

/-! ## Documents -/

theorem kept_collectParts
    {inline inline' : Rule Node}
    {switch switch' : Rule Unit}
    {block block' : Construct → Rule Node}
    (ofInline : Kept grammar.limit higher inline inline')
    (ofSwitch : Kept grammar.limit higher switch switch')
    (ofBlock : ∀ construct, Kept grammar.limit higher (block construct) (block' construct))
    (lasts : turns ≤ longer)
    (parts : List Node) :
    Kept grammar.limit higher (collectParts grammar inline switch block turns parts)
      (collectParts (grammar.allowing higher wide) inline' switch' block' longer parts) := by
  induction turns generalizing parts longer with
  | zero => exact .of_exhausted _
  | succ turns hypothesis =>
    obtain ⟨longer, rfl⟩ : ∃ fewer, longer = fewer + 1 := ⟨longer - 1, by omega⟩
    have continued := hypothesis (show turns ≤ longer by omega)
    rw [collectParts, collectParts]
    refine .bind_right fun state => ?_
    rw [Grammar.allowing_order]
    split
    · exact .refl _
    · cases state.kind? grammar.order with
      | none => exact .bind_right fun _ => continued _
      | some kind =>
        cases kind with
        | inline => exact .bind ofInline fun _ => continued _
        | comment => exact .bind_right fun _ => continued _
        | pragma => exact .bind ofSwitch fun _ => continued _
        | block =>
          cases state.tagKeyword? with
          | none => exact .refl _
          | some keyword =>
            dsimp only
            cases Construct.ofKeyword? keyword with
            | none => exact .refl _
            | some construct => exact .bind (ofBlock construct) fun _ => continued _

/-- The rules of documents keep what they come to, by induction on the rules that may
be open. -/
theorem kept_of_rules
    (raised : grammar.limit ≤ higher)
    (lasts : grammar.turns ≤ wide)
    (enough : calls ≤ more) :
    (∀ depth, Kept grammar.limit higher
        (document grammar calls depth) (document (grammar.allowing higher wide) more depth)) ∧
      (∀ depth, Kept grammar.limit higher
        (parts grammar calls depth) (parts (grammar.allowing higher wide) more depth)) ∧
      (∀ depth construct, Kept grammar.limit higher
        (block grammar calls depth construct)
        (block (grammar.allowing higher wide) more depth construct)) ∧
      ∀ depth, Kept grammar.limit higher
        (otherwise grammar calls depth) (otherwise (grammar.allowing higher wide) more depth) := by
  induction calls generalizing more with
  | zero =>
    refine ⟨?_, ?_, ?_, ?_⟩
    · intro depth
      rw [document]
      exact .of_exhausted _
    · intro depth
      rw [parts]
      exact .of_exhausted _
    · intro depth construct
      rw [block]
      exact .of_exhausted _
    · intro depth
      rw [otherwise]
      exact .of_exhausted _
  | succ calls hypothesis =>
    obtain ⟨more, rfl⟩ : ∃ fewer, more = fewer + 1 := ⟨more - 1, by omega⟩
    have fewer : calls ≤ more := by omega
    obtain ⟨ofDocument, ofParts, ofBlock, ofOtherwise⟩ := hypothesis fewer
    refine ⟨?_, ?_, ?_, ?_⟩
    · intro depth
      rw [document, document]
      refine .bind_right fun state => ?_
      dsimp only
      rcases Reading.Kept.nest raised depth state.cursor.position with same |
        ⟨halt, failed, lifted⟩
      · rw [same]
        cases Reading.nest grammar depth state.cursor.position with
        | error halt => exact .refl _
        | ok deeper => exact .bind (ofParts deeper) fun _ => .refl _
      · rw [failed]
        exact fun state => .inr ⟨halt, state, rfl, lifted⟩
    · intro depth
      rw [parts, parts]
      exact kept_collectParts (kept_insertion raised lasts fewer depth) (kept_pragma lasts fewer)
        (ofBlock depth) lasts []
    · intro depth construct
      have ofExpression := kept_expressionTag raised lasts fewer depth
      cases construct with
      | conditional =>
        rw [block, block]
        exact kept_conditional lasts ofExpression (ofDocument depth) (ofOtherwise depth)
      | selection =>
        rw [block, block]
        exact kept_selection lasts ofExpression (kept_patternTag lasts fewer) (ofDocument depth)
          (ofOtherwise depth)
      | loop =>
        rw [block, block]
        exact kept_loop lasts fewer (ofDocument depth) (ofOtherwise depth)
      | binding =>
        rw [block, block]
        exact kept_binding fewer ofExpression (ofDocument depth)
      | inclusion =>
        rw [block, block]
        exact kept_inclusion ofExpression
    · intro depth
      rw [otherwise, otherwise]
      refine .bind_right fun state => ?_
      rw [Grammar.allowing_order]
      split
      · refine .bind_right fun _ => .bind_right fun _ => ?_
        exact .bind (ofDocument depth) fun _ => .refl _
      · exact .refl _

end Document

namespace Template

open Document.Rule (Kept)

theorem kept_whole
    {grammar : Grammar}
    {higher : Int}
    {calls more wide : Nat}
    (raised : grammar.limit ≤ higher)
    (lasts : grammar.turns ≤ wide)
    (enough : calls ≤ more)
    (name : Text) :
    Kept grammar.limit higher (whole grammar calls name)
      (whole (grammar.allowing higher wide) more name) :=
  .bind ((Document.kept_of_rules raised lasts enough).1 0) fun _ => .refl _

/-- Reads a source with a given number of rules that may be open. -/
def readWithin
    (calls : Nat)
    (options : Options)
    (name : Text)
    (delimiters : Delimiters)
    (source : Text) : Outcome :=
  let state : Document.State := ⟨Cursor.start name source, delimiters, [], []⟩
  match whole (grammarFor options source) calls name state with
  | .ok template state => ⟨.ok template, state.delimiters, state.journal.reverse⟩
  | .error halt state => ⟨.error halt, state.delimiters, state.journal.reverse⟩

theorem readWithin_callsFor
    (options : Options)
    (name : Text)
    (delimiters : Delimiters)
    (source : Text) :
    readWithin (callsFor source) options name delimiters source =
      read options name delimiters source :=
  rfl

/-- Larger allowances keep the whole outcome, unless it was for want of them that there
is no template. -/
theorem readWithin_kept
    {options : Options}
    {higher : Int}
    {calls more : Nat}
    (raised : options.limit ≤ higher)
    (enough : calls ≤ more)
    (name : Text)
    (delimiters : Delimiters)
    (source : Text) :
    readWithin more { options with limit := higher } name delimiters source =
        readWithin calls options name delimiters source ∨
      ∃ halt, (readWithin calls options name delimiters source).result = .error halt ∧
        halt.IsLifted options.limit higher := by
  have kept := @kept_whole (grammarFor options source) _ _ _ _ raised (Nat.le_refl _) enough name
    ⟨Cursor.start name source, delimiters, [], []⟩
  rcases kept with same | ⟨halt, after, failed, lifted⟩
  · refine .inl ?_
    unfold readWithin
    dsimp only
    rw [← same]
    rfl
  · refine .inr ⟨halt, ?_, lifted⟩
    unfold readWithin
    dsimp only
    rw [failed]

end Template

end Stencil
