import Stencil.Proofs.Block
import Stencil.Proofs.Line.Expression
import Stencil.Proofs.Pragma.Change

/-!
# What the diagnostics of documents cite

The rules for documents cite what the rules for expressions do, and besides the words of
tags and the delimiters that are active where reading stops.
-/

namespace Stencil

namespace Document

namespace Rule

/-- What the diagnostic of a rule cites stands on one line, is a delimiter that is active
where the rule stops, or is quoted. -/
def Sourced (rule : Rule α) (state : State) : Prop :=
  ∀ diagnostic after, rule state = .error (.diagnosed diagnostic) after →
    diagnostic.cause.IsSourced after.delimiters

theorem Sourced.pure (value : α) (state : State) : Sourced (pure value) state := by
  intro diagnostic after failure
  cases failure

/-- Two rules are sourced if the first is, and the second is wherever it is run. -/
theorem Sourced.bind
    {first : Rule α}
    {second : α → Rule β}
    {state : State}
    (near : Sourced first state)
    (far : ∀ value middle, first state = .ok value middle → Sourced (second value) middle) :
    Sourced (first >>= second) state := by
  intro diagnostic after failure
  simp only [Bind.bind, EStateM.bind] at failure
  split at failure
  · exact far _ _ (by assumption) diagnostic after failure
  · rename_i stopped
    cases failure
    exact near diagnostic after stopped

theorem Sourced.get_bind
    {next : State → Rule α}
    {state : State}
    (sourced : Sourced (next state) state) :
    Sourced (get >>= next) state :=
  sourced

/-- A change of the state that cannot fail. -/
theorem Sourced.modify (change : State → State) (state : State) :
    Sourced (modify change) state := by
  intro diagnostic after failure
  cases failure

/-- A rule that is out of open rules or turns cites nothing. -/
theorem Sourced.exhausted (state : State) : Sourced (throw .exhausted : Rule α) state := by
  intro diagnostic after failure
  cases failure

theorem Sourced.inconsistent (state : State) :
    Sourced (throw .inconsistent : Rule α) state := by
  intro diagnostic after failure
  cases failure

theorem Sourced.fail
    {cause : Cause}
    {position : Position}
    {state : State}
    (sourced : cause.IsSourced state.delimiters) :
    Sourced (fail cause position : Rule α) state := by
  intro diagnostic after failure
  cases failure
  exact sourced

theorem Sourced.reading
    {rule : Cursor → Except Halt (α × Cursor)}
    {state : State}
    (sourced : Reading.Sourced state.delimiters (rule state.cursor)) :
    Sourced (reading rule) state := by
  intro diagnostic after failure
  simp only [Rule.reading] at failure
  split at failure
  · cases failure
  · rename_i stopped
    cases failure
    exact sourced diagnostic stopped

/-- What is read is followed by the rest of a rule at the cursor behind it. -/
theorem Sourced.reading_bind
    {rule : Cursor → Except Halt (α × Cursor)}
    {next : α → Rule β}
    {state : State}
    (near : Reading.Sourced state.delimiters (rule state.cursor))
    (far : ∀ value cursor, rule state.cursor = .ok (value, cursor) →
      Sourced (next value) { state with cursor := cursor }) :
    Sourced (Rule.reading rule >>= next) state := by
  refine .bind (.reading near) ?_
  intro value middle success
  obtain ⟨cursor, read, rfl⟩ := reading_eq_ok.1 success
  exact far value cursor read

end Rule

open Rule (Sourced)

/-- A rule is sourced wherever it is run. -/
abbrev AlwaysSourced (rule : Rule α) : Prop :=
  ∀ state, Sourced rule state

/-! ## Tags -/

/-- The word of a tag stands on one line. -/
theorem State.isLine_of_tagKeyword?
    {state : State}
    {keyword : Text}
    (seen : state.tagKeyword? = some keyword) :
    keyword.IsLine := by
  unfold State.tagKeyword? at seen
  split at seen
  · cases seen
  · split at seen
    · rename_i token finish scanned
      simp only [Option.ite_none_right_eq_some, Option.some.injEq] at seen
      obtain ⟨isWord, rfl⟩ := seen
      exact (Token.scanHere_eq_ok.1 scanned).isLine_value (by simp [isWord])
    · cases seen

theorem sourced_openTag (keyword : Text) : AlwaysSourced (openTag keyword) := by
  intro state
  refine .get_bind ?_
  dsimp only
  split
  · exact .inconsistent _
  · refine .bind (.modify _ _) fun _ _ _ => ?_
    refine .reading_bind (.token _) fun _ _ _ => ?_
    split
    · exact .bind (.modify _ _) fun _ _ _ => .pure _ _
    · exact .inconsistent _

theorem sourced_closeTag (grammar : Grammar) : AlwaysSourced (closeTag grammar) :=
  fun _ => .get_bind (.reading (Region.sourced_close (Delimiters.has_block _).2 _))

theorem sourced_expressionTag (grammar : Grammar) (calls depth : Nat) :
    AlwaysSourced (expressionTag grammar calls depth) := by
  intro state
  refine .get_bind (.reading_bind ((Region.sourced_of_rules _ _ calls).1 depth 1 _) ?_)
  exact fun _ _ _ => .bind (sourced_closeTag grammar _) fun _ _ _ => .pure _ _

theorem sourced_patternTag (grammar : Grammar) (calls : Nat) :
    AlwaysSourced (patternTag grammar calls) := by
  intro state
  refine .get_bind (.reading_bind (Region.sourced_pattern calls _) ?_)
  exact fun _ _ _ => .bind (sourced_closeTag grammar _) fun _ _ _ => .pure _ _

/-- A block that is not ended cites the active delimiters, its own word and the word that
is found. -/
theorem sourced_expectTerminator
    {terminator : Text}
    (isLine : terminator.IsLine)
    (grammar : Grammar)
    (construct : Construct)
    (opener : Position) :
    AlwaysSourced (expectTerminator grammar terminator construct opener) := by
  intro state
  refine .get_bind ?_
  split
  · refine .bind (sourced_openTag terminator state) ?_
    exact fun _ _ _ => sourced_closeTag grammar _
  · refine .fail ?_
    obtain ⟨opening, closing⟩ := state.delimiters.has_block
    intro text member
    simp only [Cause.cited, List.cons_append, List.nil_append, List.mem_cons] at member
    rcases member with rfl | rfl | rfl | member
    · exact .inr (.inl opening)
    · exact .inr (.inl closing)
    · exact .inl isLine
    · cases atEnd : state.cursor.isAtEnd with
      | true => simp [atEnd] at member
      | false =>
        have seen : state.tagKeyword? = some text := by simpa [atEnd] using member
        exact .inl (state.isLine_of_tagKeyword? seen)

/-! ## Regions -/

theorem sourced_insertion (grammar : Grammar) (depth calls : Nat) :
    AlwaysSourced (insertion grammar depth calls) := by
  intro state
  cases calls with
  | zero => exact .exhausted _
  | succ calls =>
    refine .get_bind (.bind (.modify _ _) ?_)
    rintro _ _ ⟨⟩
    refine .reading_bind ((Region.sourced_of_rules _ _ calls).1 depth 1 _) fun _ _ _ => ?_
    refine .reading_bind (Region.sourced_close ⟨.inline, .inr rfl⟩ _) ?_
    exact fun _ _ _ => .pure _ _

theorem sourced_comment : AlwaysSourced comment := by
  intro state
  refine .get_bind ?_
  dsimp only
  split
  · exact .modify _ _
  · exact .fail (List.forall_mem_singleton.2 (.inr (.inl ⟨.comment, .inr rfl⟩)))

theorem sourced_pragmaField
    (delimiters : Delimiters)
    (region : Region)
    (cursor : Cursor) :
    Reading.Sourced delimiters (pragmaField region cursor) := by
  refine .bind (.token cursor) ?_
  rintro ⟨name, behind⟩ scanned
  dsimp only
  split
  · exact .unexpected (.of_cited_eq_nil rfl) scanned
  · rename_i isName
    split
    · refine .fail (.of_isLine (List.forall_mem_singleton.2 ?_))
      simp only [ne_eq, decide_not, Bool.or_eq_true, not_or] at isName
      exact (Reading.token_eq_ok_iff_scans.1 scanned).isLine_value (by
        have isWord : name.kind = .identifier := by simpa using isName.1
        simp [isWord])
    · -- Each further token is expected, and what is asked for stands on one line.
      refine .bind (.expectOperator (by decide) _) fun _ _ => ?_
      refine .bind (.expect (Expectation.isSourced_literal (by decide)) _ _) fun _ _ => ?_
      refine .bind (.expect (.of_cited_eq_nil rfl) _ _) fun _ _ => ?_
      refine .bind (.expect (Expectation.isSourced_literal (by decide)) _ _) fun _ _ => ?_
      refine .bind (.expect (.of_cited_eq_nil rfl) _ _) fun _ _ => ?_
      exact .bind (.expect (Expectation.isSourced_literal (by decide)) _ _) fun _ _ => .pure _

theorem sourced_pragmaChanges
    (delimiters : Delimiters)
    (region : Region)
    (turns : Nat)
    (changes : List (Kind × Value))
    (cursor : Cursor) :
    Reading.Sourced delimiters (pragmaChanges region turns changes cursor) := by
  induction turns generalizing cursor changes with
  | zero => exact .exhausted
  | succ turns hypothesis =>
    refine .bind (sourced_pragmaField delimiters region cursor) ?_
    rintro ⟨⟨kind, value⟩, middle⟩ _
    dsimp only
    split
    · exact .pure _
    · refine .bind (.expect (Expectation.isSourced_literal (by decide)) _ _) ?_
      exact fun _ _ => hypothesis _ _

theorem mem_putChange
    {kind : Kind}
    {value : Value}
    {changes : List (Kind × Value)}
    {change : Kind × Value}
    (member : change ∈ putChange kind value changes) :
    change = (kind, value) ∨ change ∈ changes := by
  induction changes with
  | nil => exact .inl (List.mem_singleton.1 member)
  | cons known rest hypothesis =>
    rw [putChange] at member
    split at member
    · exact (List.mem_cons.1 member).imp_right (List.mem_cons_of_mem _)
    · rcases List.mem_cons.1 member with rfl | inside
      · exact .inr List.mem_cons_self
      · exact (hypothesis inside).imp_right (List.mem_cons_of_mem _)

/-- What holds of the value of every field holds of all values that a pragma lists. -/
theorem Changes.every
    {region : Region}
    {changes result : List (Kind × Value)}
    {cursor finish : Cursor}
    {stands : Cursor → Prop}
    {holds : Value → Prop}
    (listed : Changes region changes cursor result finish)
    (ofField : ∀ {kind value} {cursor finish : Cursor}, stands cursor →
      pragmaField region cursor = .ok ((kind, value), finish) → holds value)
    (further : ∀ {field} {cursor finish : Cursor} {comma behind}, stands cursor →
      pragmaField region cursor = .ok (field, finish) →
      Reading.expect .comma (.literal (Text.of ",")) finish = .ok (comma, behind) → stands behind)
    (here : stands cursor)
    (before : ∀ change ∈ changes, holds change.2) :
    ∀ change ∈ result, holds change.2 := by
  have put {changes : List (Kind × Value)} {kind : Kind} {value : Value}
      (before : ∀ change ∈ changes, holds change.2)
      (given : holds value) :
      ∀ change ∈ putChange kind value changes, holds change.2 := by
    intro change member
    rcases mem_putChange member with rfl | inside
    · exact given
    · exact before change inside
  induction listed with
  | last field => exact put before (ofField here field)
  | more field _ separated _ hypothesis =>
    exact hypothesis (further here field separated) (put before (ofField here field))

/-- A pragma that gives no delimiters is reported with a pair of texts. -/
theorem isLine_of_fault
    {region : Region}
    {turns : Nat}
    {cursor finish : Cursor}
    {changes : List (Kind × Value)}
    {delimiters : Delimiters}
    {fault : Delimiters.Fault}
    (listed : pragmaChanges region turns [] cursor = .ok (changes, finish))
    (failure : delimiters.change changes = .error fault) :
    fault.value.quoted.IsLine := by
  obtain ⟨given, _⟩ := Delimiters.fault_of_change failure
  obtain ⟨change, found, isValue⟩ := Option.map_eq_some_iff.1 given
  have ofField {kind : Kind} {value : Value} {cursor finish : Cursor}
      (_ : True)
      (field : pragmaField region cursor = .ok ((kind, value), finish)) :
      ∃ first second, value = .tuple [.text first, .text second] := by
    obtain ⟨_, _, _, _, _, _, _, _, _, _, _, _, _, _, _, _, _, _, _, _, _, _, rfl⟩ :=
      pragmaField_eq_ok.1 field
    exact ⟨_, _, rfl⟩
  have listedOnes := List.mem_reverse.1 (List.mem_of_find?_eq_some found)
  obtain ⟨first, second, isPair⟩ := (Changes.of_pragmaChanges listed).every ofField
    (fun _ _ _ => trivial) trivial (List.forall_mem_nil _) change listedOnes
  rw [← isValue, isPair]
  exact Value.isLine_quoted_pair first second

/-- A pragma cites its closing delimiter as it was before. -/
theorem sourced_pragma (grammar : Grammar) (calls : Nat) :
    AlwaysSourced (pragma grammar calls) := by
  intro state
  cases calls with
  | zero => exact .exhausted _
  | succ calls =>
    refine .get_bind (.bind (.modify _ _) ?_)
    rintro _ _ ⟨⟩
    refine .reading_bind (sourced_pragmaChanges _ _ _ _ _) fun _ _ listed => ?_
    refine .reading_bind (Region.sourced_close ⟨.pragma, .inr rfl⟩ _) fun _ _ _ => ?_
    split
    · exact .bind (.modify _ _) fun _ _ _ => .modify _ _
    · rename_i failure
      exact .fail (.of_isLine (List.forall_mem_singleton.2 (isLine_of_fault listed failure)))

/-! ## Blocks -/

theorem sourced_skipToAlternatives (grammar : Grammar) (turns : Nat) :
    AlwaysSourced (skipToAlternatives grammar turns) := by
  intro state
  induction turns generalizing state with
  | zero => exact .exhausted _
  | succ turns hypothesis =>
    refine .get_bind ?_
    dsimp only
    split
    · exact .pure _ _
    · split
      · exact .bind (sourced_comment state) fun _ _ _ => hypothesis _
      · split
        · exact .bind (.modify _ _) fun _ _ _ => hypothesis _
        · obtain ⟨opening, closing⟩ := state.delimiters.has_block
          refine .fail (List.forall_mem_cons.2 ⟨.inr (.inl opening), ?_⟩)
          exact List.forall_mem_singleton.2 (.inr (.inl closing))
      · exact .pure _ _

section Blocks

variable
  {condition scrutinee value body : Rule Node}
  {pattern : Rule Pattern}
  {otherwise : Rule (Option Node)}
  (grammar : Grammar)

theorem sourced_furtherBranches
    (conditions : AlwaysSourced condition)
    (bodies : AlwaysSourced body)
    (turns : Nat) :
    AlwaysSourced (furtherBranches grammar condition body turns) := by
  intro state
  induction turns generalizing state with
  | zero => exact .exhausted _
  | succ turns hypothesis =>
    refine .get_bind ?_
    split
    · refine .bind (sourced_openTag _ _) fun _ _ _ => ?_
      refine .bind (conditions _) fun _ _ _ => ?_
      refine .bind (bodies _) fun _ _ _ => ?_
      exact .bind (hypothesis _) fun _ _ _ => .pure _ _
    · exact .pure _ _

theorem sourced_alternatives
    (patterns : AlwaysSourced pattern)
    (bodies : AlwaysSourced body)
    (turns : Nat) :
    AlwaysSourced (alternatives grammar pattern body turns) := by
  intro state
  induction turns generalizing state with
  | zero => exact .exhausted _
  | succ turns hypothesis =>
    refine .get_bind ?_
    split
    · refine .bind (sourced_openTag _ _) fun _ _ _ => ?_
      refine .bind (patterns _) fun _ _ _ => ?_
      refine .bind (bodies _) fun _ _ _ => ?_
      exact .bind (hypothesis _) fun _ _ _ => .pure _ _
    · exact .pure _ _

theorem sourced_conditional
    (conditions : AlwaysSourced condition)
    (bodies : AlwaysSourced body)
    (defaults : AlwaysSourced otherwise) :
    AlwaysSourced (conditional grammar condition body otherwise) := by
  intro state
  refine .bind (sourced_openTag _ _) fun _ _ _ => ?_
  refine .bind (conditions _) fun _ _ _ => ?_
  refine .bind (bodies _) fun _ _ _ => ?_
  refine .bind (sourced_furtherBranches grammar conditions bodies _ _) fun _ _ _ => ?_
  refine .bind (defaults _) fun _ _ _ => ?_
  exact .bind (sourced_expectTerminator (by decide) _ _ _ _) fun _ _ _ => .pure _ _

theorem sourced_selection
    (scrutinees : AlwaysSourced scrutinee)
    (patterns : AlwaysSourced pattern)
    (bodies : AlwaysSourced body)
    (defaults : AlwaysSourced otherwise) :
    AlwaysSourced (selection grammar scrutinee pattern body otherwise) := by
  intro state
  refine .bind (sourced_openTag _ _) fun _ _ _ => ?_
  refine .bind (scrutinees _) fun _ _ _ => ?_
  refine .bind (sourced_skipToAlternatives grammar _ _) fun _ _ _ => ?_
  refine .bind (sourced_alternatives grammar patterns bodies _ _) fun _ _ _ => ?_
  refine .bind (defaults _) fun _ _ _ => ?_
  exact .bind (sourced_expectTerminator (by decide) _ _ _ _) fun _ _ _ => .pure _ _

theorem sourced_loop
    (calls : Nat)
    (bodies : AlwaysSourced body)
    (defaults : AlwaysSourced otherwise) :
    AlwaysSourced (loop grammar calls body otherwise) := by
  intro state
  refine .bind (sourced_openTag _ _) fun _ _ _ => .get_bind ?_
  refine .reading_bind (Region.sourced_identifier calls _) fun _ _ _ => ?_
  refine .reading_bind (Region.sourced_keyword (by decide) _) fun _ _ _ => ?_
  refine .reading_bind (Region.sourced_path calls _) fun _ _ _ => ?_
  refine .bind (sourced_closeTag grammar _) fun _ _ _ => ?_
  refine .bind (bodies _) fun _ _ _ => ?_
  refine .bind (defaults _) fun _ _ _ => ?_
  exact .bind (sourced_expectTerminator (by decide) _ _ _ _) fun _ _ _ => .pure _ _

theorem sourced_bindingSign
    {name : Text}
    (isLine : name.IsLine)
    (delimiters : Delimiters)
    (cursor : Cursor) :
    Reading.Sourced delimiters (bindingSign name cursor) := by
  unfold bindingSign
  dsimp only
  split
  · exact .ok _
  · refine .bind (.token _) ?_
    rintro ⟨found, behind⟩ scanned
    exact .unexpected (List.forall_mem_singleton.2 (.inl isLine)) scanned

theorem sourced_binding
    (calls : Nat)
    (values : AlwaysSourced value)
    (bodies : AlwaysSourced body) :
    AlwaysSourced (binding grammar calls value body) := by
  intro state
  refine .bind (sourced_openTag _ _) fun _ _ _ => .get_bind ?_
  refine .reading_bind (Region.sourced_identifier calls _) fun name _ named => ?_
  have isLine := Region.isLine_of_identifier named
  refine .reading_bind (sourced_bindingSign isLine _ _) fun _ _ _ => ?_
  refine .bind (values _) fun _ _ _ => ?_
  refine .bind (bodies _) fun _ _ _ => ?_
  exact .bind (sourced_expectTerminator (by decide) _ _ _ _) fun _ _ _ => .pure _ _

theorem sourced_inclusionKey
    (delimiters : Delimiters)
    (region : Region)
    (cursor : Cursor) :
    Reading.Sourced delimiters (inclusionKey region cursor) := by
  refine .bind (.token cursor) ?_
  rintro ⟨found, behind⟩ scanned
  dsimp only
  split
  · exact .unexpected (.of_cited_eq_nil rfl) scanned
  · exact .pure _

theorem sourced_withContext
    (delimiters : Delimiters)
    (region : Region)
    (cursor : Cursor) :
    Reading.Sourced delimiters (withContext region cursor) := by
  unfold withContext
  split
  · exact .ok _
  · refine .bind (.token cursor) ?_
    rintro ⟨found, behind⟩ _
    dsimp only
    split <;> exact .pure _

theorem sourced_inclusion
    (contexts : AlwaysSourced value) :
    AlwaysSourced (inclusion grammar value) := by
  intro state
  refine .bind (sourced_openTag _ _) fun _ _ _ => .get_bind ?_
  refine .reading_bind (sourced_inclusionKey _ _ _) fun _ _ _ => ?_
  refine .bind (.modify _ _) fun _ _ _ => ?_
  refine .reading_bind (sourced_withContext _ _ _) fun follows _ _ => ?_
  cases follows with
  | true => exact .bind (contexts _) fun _ _ _ => .pure _ _
  | false => exact .bind (sourced_closeTag grammar _) fun _ _ _ => .pure _ _

end Blocks

/-! ## Documents -/

/-- The loop over the parts of a document is sourced if its regions are. -/
theorem sourced_collectParts
    {inline : Rule Node}
    {switch : Rule Unit}
    {block : Construct → Rule Node}
    (grammar : Grammar)
    (inlines : AlwaysSourced inline)
    (switches : AlwaysSourced switch)
    (blocks : ∀ construct, AlwaysSourced (block construct))
    (turns : Nat)
    (parts : List Node) :
    AlwaysSourced (collectParts grammar inline switch block turns parts) := by
  intro state
  induction turns generalizing state parts with
  | zero => exact .exhausted _
  | succ turns hypothesis =>
    refine .get_bind ?_
    dsimp only
    split
    · exact .pure _ _
    · split
      · exact .bind (.modify _ _) fun _ _ _ => hypothesis _ _
      · exact .bind (inlines _) fun _ _ _ => hypothesis _ _
      · exact .bind (sourced_comment _) fun _ _ _ => hypothesis _ _
      · exact .bind (switches _) fun _ _ _ => hypothesis _ _
      · split
        · exact .fail (List.forall_mem_singleton.2 (.inr (.inl (Delimiters.has_block _).1)))
        · rename_i keyword seen
          split
          · exact .bind (blocks _ _) fun _ _ _ => hypothesis _ _
          · split
            · exact .pure _ _
            · refine .fail (.of_isLine (List.forall_mem_singleton.2 ?_))
              exact state.isLine_of_tagKeyword? seen

/-- What the diagnostic of a document cites stands on one line, is a delimiter that is
active where reading stops, or is quoted. -/
theorem sourced_of_rules (grammar : Grammar) (calls : Nat) :
    (∀ depth, AlwaysSourced (document grammar calls depth)) ∧
    (∀ depth, AlwaysSourced (parts grammar calls depth)) ∧
    (∀ depth construct, AlwaysSourced (block grammar calls depth construct)) ∧
    (∀ depth, AlwaysSourced (otherwise grammar calls depth)) := by
  induction calls with
  | zero =>
    refine ⟨fun _ _ => ?_, fun _ _ => ?_, fun _ _ _ => ?_, fun _ _ => ?_⟩
    · rw [document]
      exact .exhausted _
    · rw [parts]
      exact .exhausted _
    · rw [block]
      exact .exhausted _
    · rw [otherwise]
      exact .exhausted _
  | succ calls hypothesis =>
    obtain ⟨ofDocument, ofParts, ofBlock, ofOtherwise⟩ := hypothesis
    refine ⟨?_, ?_, ?_, ?_⟩
    · intro depth state
      rw [document]
      refine .get_bind ?_
      dsimp only
      split
      · rename_i halt failure
        intro diagnostic after failed
        cases failed
        exact Reading.Sourced.nest grammar depth _ diagnostic failure
      · exact .bind (ofParts _ _) fun _ _ _ => .pure _ _
    · intro depth state
      rw [parts]
      exact sourced_collectParts grammar (sourced_insertion grammar depth calls)
        (sourced_pragma grammar calls) (ofBlock depth) _ _ state
    · intro depth construct state
      have expressions := sourced_expressionTag grammar calls depth
      cases construct with
      | conditional =>
        rw [block]
        exact sourced_conditional grammar expressions (ofDocument depth) (ofOtherwise depth) state
      | selection =>
        rw [block]
        exact sourced_selection grammar expressions (sourced_patternTag grammar calls)
          (ofDocument depth) (ofOtherwise depth) state
      | loop =>
        rw [block]
        exact sourced_loop grammar calls (ofDocument depth) (ofOtherwise depth) state
      | binding =>
        rw [block]
        exact sourced_binding grammar calls expressions (ofDocument depth) state
      | inclusion =>
        rw [block]
        exact sourced_inclusion grammar expressions state
    · intro depth state
      rw [otherwise]
      refine .get_bind ?_
      split
      · refine .bind (sourced_openTag _ _) fun _ _ _ => ?_
        refine .bind (sourced_closeTag grammar _) fun _ _ _ => ?_
        exact .bind (ofDocument depth _) fun _ _ _ => .pure _ _
      · exact .pure _ _

end Document

namespace Template

open Document

/-- What the diagnostic of a source cites stands on one line, is a delimiter that is active
where reading stops, or is quoted. -/
theorem sourced_whole
    (grammar : Grammar)
    (calls : Nat)
    (name : Text) :
    AlwaysSourced (whole grammar calls name) := by
  intro state
  refine .bind ((sourced_of_rules grammar calls).1 0 state) fun _ final _ => .get_bind ?_
  split
  · exact .bind (.modify _ _) fun _ _ _ => .pure _ _
  · refine .fail ?_
    obtain ⟨opening, closing⟩ := final.delimiters.has_block
    refine List.forall_mem_append.2 ⟨?_, fun text member => ?_⟩
    · exact List.forall_mem_cons.2
        ⟨.inr (.inl opening), List.forall_mem_singleton.2 (.inr (.inl closing))⟩
    · exact .inl (final.isLine_of_tagKeyword? (Option.mem_toList.1 member))

end Template

end Stencil
