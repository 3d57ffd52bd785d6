import Stencil.Proofs.Ambiguity.Order

/-!
# Documents in another order

Every rule on documents agrees with the same rule in another order of recognition, and
so does reading a whole template.  The order is consulted where a document goes on,
between the tag of a selection and its first alternative, and wherever a tag may follow.
-/

namespace Stencil

namespace Document

open Rule (IsSteady Agrees AgreesAt reading)

variable
  {grammar : Grammar}
  {order : List Kind}
  {calls turns : Nat}

/-! ## Rules that do not consult the order -/

theorem State.tagRegion_ordered (state : State) :
    state.tagRegion (grammar.ordered order) = (state.tagRegion grammar).ordered order :=
  rfl

theorem expressionTag_ordered (calls depth : Nat) :
    expressionTag (grammar.ordered order) calls depth = expressionTag grammar calls depth := by
  simp only [expressionTag, State.tagRegion_ordered, (Region.rules_ordered calls).1]
  rfl

theorem patternTag_ordered (calls : Nat) :
    patternTag (grammar.ordered order) calls = patternTag grammar calls := by
  simp only [patternTag, State.tagRegion_ordered, Region.pattern_ordered]
  rfl

theorem region_ordered (closing : Text) :
    (⟨grammar.ordered order, closing⟩ : Region) = Region.ordered ⟨grammar, closing⟩ order :=
  rfl

theorem insertion_ordered (depth calls : Nat) :
    insertion (grammar.ordered order) depth calls = insertion grammar depth calls := by
  cases calls with
  | zero => rfl
  | succ calls =>
    simp only [insertion, region_ordered, (Region.rules_ordered calls).1]
    rfl

theorem pragmaChanges_ordered
    {region : Region}
    (turns : Nat) :
    pragmaChanges (region.ordered order) turns = pragmaChanges region turns := by
  induction turns with
  | zero => rfl
  | succ turns hypothesis =>
    funext changes cursor
    rw [pragmaChanges, pragmaChanges, hypothesis]
    rfl

theorem pragma_ordered (calls : Nat) :
    pragma (grammar.ordered order) calls = pragma grammar calls := by
  cases calls with
  | zero => rfl
  | succ calls =>
    simp only [pragma, region_ordered, pragmaChanges_ordered]
    rfl

theorem inclusion_ordered (context : Rule Node) :
    inclusion (grammar.ordered order) context = inclusion grammar context :=
  rfl

/-- Delimiters that become active are clear, or a warning is written. -/
theorem agrees_activate (delimiters : Delimiters) :
    Agrees (activate delimiters) (activate delimiters) := by
  refine fun state => ⟨List.suffix_append _ _, fun _ _ => rfl, fun _ quiet => ?_⟩
  by_contra ambiguous
  have warned : delimiters.warnings = [.ambiguous delimiters.ambiguities] := by
    rw [Delimiters.warnings, if_neg (by rwa [List.isEmpty_iff])]
  refine quiet delimiters.ambiguities (List.mem_append_left _ ?_)
  rw [warned]
  exact List.mem_singleton_self _

theorem agrees_pragma (calls : Nat) :
    Agrees (pragma grammar calls) (pragma (grammar.ordered order) calls) := by
  rw [pragma_ordered]
  cases calls with
  | zero => exact .of_steady (.throw _)
  | succ calls =>
    refine .get_bind fun state => ?_
    refine Agrees.bind_right (.move _) (fun _ => .bind_right (.reading _) fun changes => ?_) state
    refine .bind_right (.reading _) fun _ => ?_
    cases state.delimiters.change changes with
    | error fault => exact .of_steady (.fail _ _)
    | ok delimiters => exact .bind (agrees_activate delimiters) fun _ => .of_steady (.log _)

/-! ## Rules that consult the order -/

section Blocks

variable
  {body body' : Rule Node}
  {otherwise otherwise' : Rule (Option Node)}
  (permuted : grammar.order.Perm order)

include permuted

theorem agrees_expectTerminator
    (terminator : Text)
    (construct : Construct)
    (opener : Position) :
    Agrees (expectTerminator grammar terminator construct opener)
      (expectTerminator (grammar.ordered order) terminator construct opener) := by
  refine .get_bind fun state => .atTag permuted ?_ ?_
  · exact Agrees.of_steady (.bind (.openTag _) fun _ => .closeTag grammar) state
  · exact Agrees.of_steady (.fail _ _) state

theorem agrees_skipToAlternatives :
    Agrees (skipToAlternatives grammar turns)
      (skipToAlternatives (grammar.ordered order) turns) := by
  induction turns with
  | zero => exact .of_steady (.throw _)
  | succ turns continued =>
    rw [skipToAlternatives, skipToAlternatives]
    refine .get_bind fun state => ?_
    split
    · exact Agrees.of_steady (.pure _) state
    · have alike (clear : state.delimiters.ambiguities = []) :
          state.kind? (grammar.ordered order).order = state.kind? grammar.order :=
        State.kind?_of_perm clear permuted
      have run : state.textRun (grammar.ordered order).order = state.textRun grammar.order :=
        State.textRun_of_perm permuted state
      rw [run]
      cases found : state.kind? grammar.order with
      | none =>
        refine .of_clear ?_ fun clear => by rw [alike clear, found]
        dsimp only
        split
        · exact Agrees.bind_right (.move _) (fun _ => continued) state
        · exact Agrees.of_steady (.fail _ _) state
      | some kind =>
        cases kind with
        | comment =>
          refine .of_clear ?_ fun clear => by rw [alike clear, found]
          exact Agrees.bind_right .comment (fun _ => continued) state
        | _ =>
          refine .of_clear ?_ fun clear => by rw [alike clear, found]
          exact Agrees.of_steady (.pure _) state

theorem agrees_furtherBranches
    {condition : Rule Node}
    (ofCondition : IsSteady condition)
    (ofBody : Agrees body body') :
    Agrees (furtherBranches grammar condition body turns)
      (furtherBranches (grammar.ordered order) condition body' turns) := by
  induction turns with
  | zero => exact .of_steady (.throw _)
  | succ turns hypothesis =>
    rw [furtherBranches, furtherBranches]
    refine .get_bind fun state => .atTag permuted ?_ ?_
    · refine Agrees.bind_right (.openTag _) (fun _ => .bind_right ofCondition fun _ => ?_) state
      exact .bind ofBody fun _ => .bind hypothesis fun _ => .of_steady (.pure _)
    · exact Agrees.of_steady (.pure _) state

theorem agrees_conditional
    {condition : Rule Node}
    (ofCondition : IsSteady condition)
    (ofBody : Agrees body body')
    (ofOtherwise : Agrees otherwise otherwise') :
    Agrees (conditional grammar condition body otherwise)
      (conditional (grammar.ordered order) condition body' otherwise') := by
  refine .bind_right (.openTag _) fun _ => .bind_right ofCondition fun _ => .bind ofBody fun _ => ?_
  refine .bind (agrees_furtherBranches permuted ofCondition ofBody) fun _ => ?_
  refine .bind ofOtherwise fun _ => ?_
  exact .bind (agrees_expectTerminator permuted _ _ _) fun _ => .of_steady (.pure _)

theorem agrees_alternatives
    {pattern : Rule Pattern}
    (ofPattern : IsSteady pattern)
    (ofBody : Agrees body body') :
    Agrees (alternatives grammar pattern body turns)
      (alternatives (grammar.ordered order) pattern body' turns) := by
  induction turns with
  | zero => exact .of_steady (.throw _)
  | succ turns hypothesis =>
    rw [alternatives, alternatives]
    refine .get_bind fun state => .atTag permuted ?_ ?_
    · refine Agrees.bind_right (.openTag _) (fun _ => .bind_right ofPattern fun _ => ?_) state
      exact .bind ofBody fun _ => .bind hypothesis fun _ => .of_steady (.pure _)
    · exact Agrees.of_steady (.pure _) state

theorem agrees_selection
    {scrutinee : Rule Node}
    {pattern : Rule Pattern}
    (ofScrutinee : IsSteady scrutinee)
    (ofPattern : IsSteady pattern)
    (ofBody : Agrees body body')
    (ofOtherwise : Agrees otherwise otherwise') :
    Agrees (selection grammar scrutinee pattern body otherwise)
      (selection (grammar.ordered order) scrutinee pattern body' otherwise') := by
  refine .bind_right (.openTag _) fun _ => .bind_right ofScrutinee fun _ => ?_
  refine .bind (agrees_skipToAlternatives permuted) fun _ => ?_
  refine .bind (agrees_alternatives permuted ofPattern ofBody) fun _ => ?_
  refine .bind ofOtherwise fun _ => ?_
  exact .bind (agrees_expectTerminator permuted _ _ _) fun _ => .of_steady (.pure _)

theorem agrees_loop
    (ofBody : Agrees body body')
    (ofOtherwise : Agrees otherwise otherwise') :
    Agrees (loop grammar calls body otherwise)
      (loop (grammar.ordered order) calls body' otherwise') := by
  refine .bind_right (.openTag _) fun _ => .get_bind fun state => ?_
  dsimp only
  rw [State.tagRegion_ordered, Region.identifier_ordered, Region.path_ordered]
  refine Agrees.bind_right (.reading _) (fun _ => .bind_right (.reading _) fun _ => ?_) state
  refine .bind_right (.reading _) fun _ => .bind_right (.closeTag grammar) fun _ => ?_
  refine .bind ofBody fun _ => .bind ofOtherwise fun _ => ?_
  exact .bind (agrees_expectTerminator permuted _ _ _) fun _ => .of_steady (.pure _)

theorem agrees_binding
    {value : Rule Node}
    (ofValue : IsSteady value)
    (ofBody : Agrees body body') :
    Agrees (binding grammar calls value body)
      (binding (grammar.ordered order) calls value body') := by
  refine .bind_right (.openTag _) fun _ => .get_bind fun state => ?_
  dsimp only
  rw [State.tagRegion_ordered, Region.identifier_ordered]
  refine Agrees.bind_right (.reading _) (fun _ => .bind_right (.reading _) fun _ => ?_) state
  refine .bind_right ofValue fun _ => .bind ofBody fun _ => ?_
  exact .bind (agrees_expectTerminator permuted _ _ _) fun _ => .of_steady (.pure _)

theorem agrees_collectParts
    {inline : Rule Node}
    {switch switch' : Rule Unit}
    {block block' : Construct → Rule Node}
    (ofInline : IsSteady inline)
    (ofSwitch : Agrees switch switch')
    (ofBlock : ∀ construct, Agrees (block construct) (block' construct))
    (parts : List Node) :
    Agrees (collectParts grammar inline switch block turns parts)
      (collectParts (grammar.ordered order) inline switch' block' turns parts) := by
  induction turns generalizing parts with
  | zero => exact .of_steady (.throw _)
  | succ turns continued =>
    rw [collectParts, collectParts]
    refine .get_bind fun state => ?_
    split
    · exact Agrees.of_steady (.pure _) state
    · have alike (clear : state.delimiters.ambiguities = []) :
          state.kind? (grammar.ordered order).order = state.kind? grammar.order :=
        State.kind?_of_perm clear permuted
      have run : state.textRun (grammar.ordered order).order = state.textRun grammar.order :=
        State.textRun_of_perm permuted state
      rw [run]
      cases found : state.kind? grammar.order with
      | none =>
        refine .of_clear ?_ fun clear => by rw [alike clear, found]
        exact Agrees.bind_right (.move _) (fun _ => continued _) state
      | some kind =>
        refine .of_clear ?_ fun clear => by rw [alike clear, found]
        cases kind with
        | inline => exact Agrees.bind_right ofInline (fun _ => continued _) state
        | comment => exact Agrees.bind_right .comment (fun _ => continued _) state
        | pragma => exact Agrees.bind ofSwitch (fun _ => continued _) state
        | block =>
          dsimp only
          cases state.tagKeyword? with
          | none => exact Agrees.of_steady (.fail _ _) state
          | some keyword =>
            dsimp only
            cases Construct.ofKeyword? keyword with
            | some construct =>
              exact Agrees.bind (ofBlock construct) (fun _ => continued _) state
            | none =>
              dsimp only
              split
              · exact Agrees.of_steady (.pure _) state
              · exact Agrees.of_steady (.fail _ _) state

end Blocks

/-- The rules of documents agree with the same rules in another order, by induction on
the rules that may be open. -/
theorem agrees_of_rules
    (permuted : grammar.order.Perm order)
    (calls : Nat) :
    (∀ depth, Agrees (document grammar calls depth)
        (document (grammar.ordered order) calls depth)) ∧
      (∀ depth, Agrees (parts grammar calls depth) (parts (grammar.ordered order) calls depth)) ∧
      (∀ depth construct, Agrees (block grammar calls depth construct)
        (block (grammar.ordered order) calls depth construct)) ∧
      ∀ depth, Agrees (otherwise grammar calls depth)
        (otherwise (grammar.ordered order) calls depth) := by
  induction calls with
  | zero =>
    refine ⟨?_, ?_, ?_, ?_⟩
    · intro depth
      rw [document, document]
      exact .of_steady (.throw _)
    · intro depth
      rw [parts, parts]
      exact .of_steady (.throw _)
    · intro depth construct
      rw [block, block]
      exact .of_steady (.throw _)
    · intro depth
      rw [otherwise, otherwise]
      exact .of_steady (.throw _)
  | succ calls hypothesis =>
    obtain ⟨ofDocument, ofParts, ofBlock, ofOtherwise⟩ := hypothesis
    refine ⟨?_, ?_, ?_, ?_⟩
    · intro depth
      rw [document, document]
      refine .get_bind fun state => ?_
      dsimp only
      have nested : Reading.nest (grammar.ordered order) depth state.cursor.position =
          Reading.nest grammar depth state.cursor.position := rfl
      rw [nested]
      cases Reading.nest grammar depth state.cursor.position with
      | error halt => exact Agrees.of_steady (.throw _) state
      | ok deeper => exact Agrees.bind (ofParts deeper) (fun _ => .of_steady (.pure _)) state
    · intro depth
      rw [parts, parts, insertion_ordered]
      exact agrees_collectParts permuted (.insertion grammar depth calls) (agrees_pragma calls)
        (ofBlock depth) []
    · intro depth construct
      have ofExpression := IsSteady.expressionTag grammar calls depth
      cases construct with
      | conditional =>
        rw [block, block, expressionTag_ordered]
        exact agrees_conditional permuted ofExpression (ofDocument depth) (ofOtherwise depth)
      | selection =>
        rw [block, block, expressionTag_ordered, patternTag_ordered]
        exact agrees_selection permuted ofExpression (.patternTag grammar calls)
          (ofDocument depth) (ofOtherwise depth)
      | loop =>
        rw [block, block]
        exact agrees_loop permuted (ofDocument depth) (ofOtherwise depth)
      | binding =>
        rw [block, block, expressionTag_ordered]
        exact agrees_binding permuted ofExpression (ofDocument depth)
      | inclusion =>
        rw [block, block, expressionTag_ordered, inclusion_ordered]
        exact .of_steady (.inclusion grammar ofExpression)
    · intro depth
      rw [otherwise, otherwise]
      refine .get_bind fun state => .atTag permuted ?_ ?_
      · refine Agrees.bind_right (.openTag _) (fun _ => ?_) state
        refine .bind_right (.closeTag grammar) fun _ => ?_
        exact .bind (ofDocument depth) fun _ => .of_steady (.pure _)
      · exact Agrees.of_steady (.pure _) state

end Document

namespace Template

open Document (agrees_of_rules)
open Document.Rule (Agrees IsSteady)

theorem agrees_whole
    {grammar : Grammar}
    {order : List Kind}
    (permuted : grammar.order.Perm order)
    (calls : Nat)
    (name : Text) :
    Agrees (whole grammar calls name) (whole (grammar.ordered order) calls name) := by
  refine .bind ((agrees_of_rules permuted calls).1 0) fun root => .get_bind fun state => ?_
  split
  · exact Agrees.of_steady (.bind (.log _) fun _ => .pure _) state
  · exact Agrees.of_steady (.fail _ _) state

/-- The opening delimiters of two kinds never stand at one place if and only if the
delimiters have no ambiguities; and then, unless a pragma activates ambiguous ones, a
source is read the same in every order of recognition: the same tree with its positions
and the same includes or the same halt, the same delimiters at the end, and the same
journal. -/
theorem read_in_any_order
    (delimiters : Delimiters) :
    (delimiters.ambiguities = [] ↔
      ∀ (text : Text) (index : Nat) (kind other : Kind),
        (delimiters.pair kind).opening <+: text.drop index →
        (delimiters.pair other).opening <+: text.drop index → kind = other) ∧
      ∀ (options : Options) (order : List Kind) (name source : Text),
        options.order.Perm Kind.all → order.Perm Kind.all →
        delimiters.ambiguities = [] →
        (∀ kinds, Event.ambiguous kinds ∉ (read options name delimiters source).journal) →
        read { options with order := order } name delimiters source =
          read options name delimiters source := by
  refine ⟨Delimiters.ambiguities_eq_nil_iff, ?_⟩
  intro options order name source complete complete' clear quiet
  have permuted : (grammarFor options source).order.Perm order := complete.trans complete'.symm
  have agrees := agrees_whole permuted (callsFor source) name (initial name delimiters source)
  have alike := agrees.same clear (fun kinds listed => quiet kinds ?_)
  · rw [read_eq_ofResult, read_eq_ofResult, ← alike]
    rfl
  · rw [read_eq_ofResult]
    cases reached : whole (grammarFor options source) (callsFor source) name
        (initial name delimiters source) with
    | ok template state =>
      rw [reached] at listed
      exact List.mem_reverse.2 listed
    | error halt state =>
      rw [reached] at listed
      exact List.mem_reverse.2 listed

/-- A pragma, and behind it a conditional with an inline expression between the
delimiters of the pragma. -/
def switchedSource : Text :=
  Text.of "\x7b! inline=(\"<\", \">\") !\x7d\x7b% if a %\x7d<b>\x7b% endif %\x7d"

/-- A source with a pragma, read in the reverse order. -/
theorem read_in_any_order_of_pragma :
    Delimiters.braces.ambiguities = [] ∧
      ¬ Text.of "\x7b#" <+: (Text.of "a \x7b\x7b b \x7d\x7d").drop 2 ∧
      read { order := Kind.all.reverse } [] .braces switchedSource =
        read {} [] .braces switchedSource := by
  have clear : Delimiters.braces.ambiguities = [] := by decide
  have levels : (read {} [] .braces switchedSource).journal.map Event.level =
      [.debug, .debug, .debug, .debug] := by
    decide +kernel
  refine ⟨clear, fun comment => ?_, ?_⟩
  · have unique := (read_in_any_order .braces).1.1 clear _ 2 .inline .comment (by decide) comment
    cases unique
  · refine (read_in_any_order .braces).2 {} _ _ _ (.refl _) (by decide) clear ?_
    intro kinds listed
    have warned : Level.warning ∈ (read {} [] .braces switchedSource).journal.map Event.level :=
      List.mem_map.2 ⟨_, listed, rfl⟩
    rw [levels] at warned
    exact absurd warned (by decide)

end Template

end Stencil
