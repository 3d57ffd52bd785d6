import Stencil.Proofs.Continuation.Lexeme
import Stencil.Proofs.Filter
import Stencil.Proofs.Segment

/-!
# Regions read alongside each other

A region of another source can be read alongside a region if cursors of the two are
related in such a way that related cursors are followed by the same tokens, up to
positions, wherever it is known what follows.  Then everything that stands in the one
region stands in the other.  The rules look one token ahead; such a token is passed later
on, or the closing delimiter stands in its place, so what is known at the end of an
expression tells what is known before it.
-/

namespace Stencil

/-- How a region of another source is read alongside a region. -/
structure Region.Alongside (region other : Region) (relocation : Relocation) where
  /-- The cursors that stand at corresponding places. -/
  related : Cursor → Cursor → Prop
  /-- Whether what a region needs is still ahead of a cursor. -/
  room : Cursor → Prop
  /-- Whether it is known what follows a cursor. -/
  known : Cursor → Prop
  /-- The operators are the same. -/
  operators : other.grammar.operators = region.grammar.operators
  /-- Where it is known what follows there is room. -/
  room_of_known : ∀ {cursor}, known cursor → room cursor
  /-- There is room before a place where there is room. -/
  room_of_reaches : ∀ {cursor behind}, room behind → cursor.Reaches behind → room cursor
  /-- A token that some lexeme begins with is known to follow. -/
  known_of_token : ∀ {cursor token behind}, Reading.token cursor = .ok (token, behind) →
    token.kind ≠ .unknown → room behind → known cursor
  /-- The regions end at corresponding places. -/
  isDone_eq : ∀ {cursor target}, related cursor target → known cursor →
    other.isDone target = region.isDone cursor
  /-- The same tokens follow within the regions. -/
  continues : ∀ {cursor target token behind}, related cursor target → known cursor →
    region.Continues cursor token behind →
    ∃ token' behind', other.Continues target token' behind' ∧ token.Moves relocation token' ∧
      related behind behind'
  /-- The same tokens that lexemes begin with follow where it is known what comes next. -/
  tokens : ∀ {cursor target token behind}, related cursor target →
    Reading.token cursor = .ok (token, behind) → token.kind ≠ .unknown → known behind →
    ∃ token' behind', Reading.token target = .ok (token', behind') ∧
      token.Moves relocation token' ∧ related behind behind'
  /-- A digit that a token touches is touched at the corresponding place. -/
  touches : ∀ {cursor target token behind token' behind'}, related cursor target →
    Reading.token cursor = .ok (token, behind) → token.kind ≠ .unknown → known behind →
    Region.isBeforeDigit behind = true →
    Reading.token target = .ok (token', behind') → Region.isBeforeDigit behind' = true
  /-- The sign of a binding stands at corresponding places. -/
  bindingSign : ∀ {name cursor target behind}, related cursor target →
    Document.bindingSign name cursor = .ok ((), behind) → room behind →
    ∃ behind', Document.bindingSign name target = .ok ((), behind') ∧ related behind behind'

namespace Token

variable {token : Token}

theorem kind_of_isWord
    {word : Text}
    (isWord : token.isWord word = true) :
    token.kind = .identifier := by
  rw [Token.isWord, Bool.and_eq_true, decide_eq_true_eq] at isWord
  exact isWord.1

theorem kind_of_isOperator
    {symbol : Text}
    (isOperator : token.isOperator symbol = true) :
    token.kind = .operator := by
  rw [Token.isOperator, Bool.and_eq_true, decide_eq_true_eq] at isOperator
  exact isOperator.1

end Token

namespace Region

theorem token_reaches
    {cursor behind : Cursor}
    {token : Token}
    (scanned : Reading.token cursor = .ok (token, behind)) :
    cursor.Reaches behind :=
  (Cursor.reaches_skipBlanks cursor).trans (Reading.token_eq_ok_iff_scans.1 scanned).reaches

/-- A name is a literal exactly if it is a word for a truth value. -/
theorem literal?_eq_none_iff
    {cursor behind : Cursor}
    {token : Token}
    (scanned : Reading.token cursor = .ok (token, behind))
    (isName : token.kind = .identifier) :
    literal? 1 cursor = .ok (none, cursor) ↔
      token.isWord (Text.of "true") = false ∧ token.isWord (Text.of "false") = false := by
  have noOperator : ∀ symbol, token.isOperator symbol = false := by
    intro symbol
    simp [Token.isOperator, isName]
  simp only [literal?, scanned, Reading.ok_bind, isName, noOperator, Bool.false_and]
  cases token.isWord (Text.of "true") with
  | true => simp
  | false => cases token.isWord (Text.of "false") <;> simp

/-- A literal begins with a token that some lexeme begins with, and it is passed from
that token on. -/
theorem Written.begins
    {cursor behind finish : Cursor}
    {position : Position}
    {literal : Literal}
    {token : Token}
    (written : Written cursor position literal finish)
    (scanned : Reading.token cursor = .ok (token, behind)) :
    token.kind ≠ .unknown ∧ behind.Reaches finish := by
  have same : ∀ {other : Token} {after : Cursor}, Reading.token cursor = .ok (other, after) →
      other = token ∧ after = behind := by
    intro other after scanned'
    rw [scanned'] at scanned
    exact Prod.mk.inj (Except.ok.inj scanned)
  cases written with
  | boolean scanned' isTruth =>
    obtain ⟨rfl, rfl⟩ := same scanned'
    exact ⟨by simp [Token.kind_of_isWord isTruth], .refl _⟩
  | number scanned' isNumber valued =>
    obtain ⟨rfl, rfl⟩ := same scanned'
    exact ⟨by simp [isNumber], .refl _⟩
  | text scanned' isString =>
    obtain ⟨rfl, rfl⟩ := same scanned'
    exact ⟨by simp [isString], .refl _⟩
  | negative signed isSign touches scanned' valued =>
    obtain ⟨rfl, rfl⟩ := same signed
    exact ⟨by simp [Token.kind_of_isOperator isSign], token_reaches scanned'⟩
  | positive signed isSign touches scanned' valued =>
    obtain ⟨rfl, rfl⟩ := same signed
    exact ⟨by simp [Token.kind_of_isOperator isSign], token_reaches scanned'⟩

/-- What is asked for, at its new position. -/
def Goal.moved (relocation : Relocation) : Goal → Goal
  | .operators least left => .operators least (left.moved relocation)
  | goal => goal

end Region

namespace Document

variable
  {region : Region}
  {cursor behind finish : Cursor}

theorem inclusionKey_eq_ok
    {key : Text} :
    inclusionKey region cursor = .ok (key, behind) ↔
      ∃ token, region.Continues cursor token behind ∧ token.kind = .string ∧
        key = token.value := by
  simp only [inclusionKey, Reading.bind_eq_ok, Prod.exists, Region.Continues]
  constructor
  · rintro ⟨token, after, scanned, outcome⟩
    split at outcome
    · simp at outcome
    · rename_i isKey
      simp only [ne_eq, decide_not, Bool.or_eq_true, Bool.not_eq_eq_eq_not, Bool.not_true,
        decide_eq_false_iff_not, not_or, Decidable.not_not, Bool.not_eq_true] at isKey
      simp only [Reading.pure_eq_ok, Prod.mk.injEq] at outcome
      obtain ⟨rfl, rfl⟩ := outcome
      exact ⟨token, ⟨isKey.2, scanned⟩, isKey.1, rfl⟩
  · rintro ⟨token, ⟨notDone, scanned⟩, isString, rfl⟩
    exact ⟨token, behind, scanned, by simp [isString, notDone]⟩

theorem withContext_eq_ok
    {follows : Bool} :
    withContext region cursor = .ok (follows, finish) ↔
      (region.isDone cursor = true ∧ follows = false ∧ finish = cursor) ∨
      ∃ token behind, region.Continues cursor token behind ∧
        follows = token.isWord (Text.of "with") ∧
        finish = if follows then behind else cursor := by
  simp only [withContext, Region.Continues]
  cases region.isDone cursor with
  | true => simp [eq_comm]
  | false =>
    simp only [Bool.false_eq_true, if_false, Reading.bind_eq_ok, Prod.exists, false_and, false_or,
      true_and]
    refine exists_congr fun token => exists_congr fun behind => and_congr_right fun _ => ?_
    cases token.isWord (Text.of "with") <;> cases follows <;> simp [@eq_comm Cursor finish]

end Document

namespace Region.Alongside

variable
  {region other : Region}
  {relocation : Relocation}
  {cursor target behind finish : Cursor}
  (along : region.Alongside other relocation)

include along

/-! ## Names and literals -/

theorem identifier
    {name : Identifier}
    (success : region.identifier 1 cursor = .ok (name, behind))
    (related : along.related cursor target)
    (room : along.room behind) :
    ∃ behind', other.identifier 1 target = .ok (name.moved relocation, behind') ∧
      along.related behind behind' := by
  obtain ⟨token, next, isName, free, rfl⟩ := identifier_eq_ok.1 success
  have known := along.known_of_token next.2 (by simp [isName]) room
  obtain ⟨token', behind', next', sameToken, further⟩ := along.continues related known next
  refine ⟨behind', identifier_eq_ok.2 ⟨token', next', ?_, ?_, ?_⟩, further⟩
  · rw [sameToken.kind, isName]
  · rw [sameToken.value, free]
  · rw [sameToken.value, sameToken.position]
    rfl

theorem names
    {others : List Identifier}
    (names : region.Names cursor others finish)
    (related : along.related cursor target)
    (known : along.known finish) :
    ∃ finish', other.Names target (others.map (Identifier.moved relocation)) finish' ∧
      along.related finish finish' := by
  induction names generalizing target with
  | closed done => exact ⟨target, .closed ((along.isDone_eq related known).trans done), related⟩
  | other next noDot =>
    obtain ⟨token', behind', next', sameToken, _⟩ := along.continues related known next
    exact ⟨target, .other next' (by rwa [sameToken.kind]), related⟩
  | dot next isDot name rest hypothesis =>
    have middleRoom := along.room_of_reaches (along.room_of_known known) rest.reaches
    have behindRoom := along.room_of_reaches middleRoom (identifier_passes name).1
    obtain ⟨token', behind', next', sameToken, further⟩ :=
      along.continues related (along.known_of_token next.2 (by simp [isDot]) behindRoom) next
    obtain ⟨middle', name', onward⟩ := along.identifier name further middleRoom
    obtain ⟨finish', rest', last⟩ := hypothesis onward known
    exact ⟨finish', .dot next' (by rwa [sameToken.kind]) name' rest', last⟩

theorem path
    {path : Variable}
    (stands : region.Path cursor path finish)
    (related : along.related cursor target)
    (known : along.known finish) :
    ∃ finish', other.Path target (path.moved relocation) finish' ∧
      along.related finish finish' := by
  obtain ⟨middle, first, others⟩ := stands
  have middleRoom := along.room_of_reaches (along.room_of_known known) others.reaches
  obtain ⟨middle', first', onward⟩ := along.identifier first related middleRoom
  obtain ⟨finish', others', last⟩ := along.names others onward known
  exact ⟨finish', ⟨middle', first', others'⟩, last⟩

theorem known_of_path
    {path : Variable}
    (stands : region.Path cursor path finish)
    (known : along.known finish) :
    along.known cursor := by
  obtain ⟨middle, first, others⟩ := stands
  obtain ⟨token, next, isName, _⟩ := identifier_eq_ok.1 first
  exact along.known_of_token next.2 (by simp [isName])
    (along.room_of_reaches (along.room_of_known known) others.reaches)

/-- A sign and the numeral that it touches. -/
theorem signed
    {sign numeral : Token}
    (scannedSign : Reading.token cursor = .ok (sign, behind))
    (isSign : sign.kind = .operator)
    (touches : isBeforeDigit behind = true)
    (scanned : Reading.token behind = .ok (numeral, finish))
    (related : along.related cursor target)
    (known : along.known finish) :
    ∃ sign' behind' numeral' finish', Reading.token target = .ok (sign', behind') ∧
      sign.Moves relocation sign' ∧ isBeforeDigit behind' = true ∧
      Reading.token behind' = .ok (numeral', finish') ∧ numeral.Moves relocation numeral' ∧
      along.related finish finish' := by
  have isNumber := kind_of_isBeforeDigit touches scanned
  have behindKnown := along.known_of_token scanned (by simp [isNumber]) (along.room_of_known known)
  obtain ⟨sign', behind', scannedSign', sameSign, further⟩ :=
    along.tokens related scannedSign (by simp [isSign]) behindKnown
  obtain ⟨numeral', finish', scanned', sameNumeral, last⟩ :=
    along.tokens further scanned (by simp [isNumber]) known
  exact ⟨sign', behind', numeral', finish', scannedSign', sameSign,
    along.touches related scannedSign (by simp [isSign]) behindKnown touches scannedSign',
    scanned', sameNumeral, last⟩

theorem written
    {position : Position}
    {literal : Literal}
    (written : Written cursor position literal finish)
    (related : along.related cursor target)
    (known : along.known finish) :
    ∃ finish', Written target (relocation.map position) literal finish' ∧
      along.related finish finish' := by
  cases written with
  | boolean scanned isTruth =>
    obtain ⟨word, finish', scanned', sameToken, last⟩ :=
      along.tokens related scanned (by simp [Token.kind_of_isWord isTruth]) known
    rw [← sameToken.position]
    exact ⟨finish', .boolean scanned' (sameToken.isWord_eq _ ▸ isTruth), last⟩
  | number scanned isNumber valued =>
    obtain ⟨numeral, finish', scanned', sameToken, last⟩ :=
      along.tokens related scanned (by simp [isNumber]) known
    rw [← sameToken.position]
    exact ⟨finish', .number scanned' (sameToken.kind.trans isNumber) (sameToken.value ▸ valued),
      last⟩
  | text scanned isString =>
    obtain ⟨quoted, finish', scanned', sameToken, last⟩ :=
      along.tokens related scanned (by simp [isString]) known
    rw [← sameToken.position, ← sameToken.value]
    exact ⟨finish', .text scanned' (sameToken.kind.trans isString), last⟩
  | negative signed isSign touches scanned valued =>
    obtain ⟨sign, middle', numeral, finish', signed', sameSign, touches', scanned', sameNumeral,
      last⟩ := along.signed signed (Token.kind_of_isOperator isSign) touches
        scanned related known
    rw [← sameSign.position]
    exact ⟨finish', .negative signed' (sameSign.isOperator_eq _ ▸ isSign) touches' scanned'
      (sameNumeral.value ▸ valued), last⟩
  | positive signed isSign touches scanned valued =>
    obtain ⟨sign, middle', numeral, finish', signed', sameSign, touches', scanned', sameNumeral,
      last⟩ := along.signed signed (Token.kind_of_isOperator isSign) touches
        scanned related known
    rw [← sameSign.position]
    exact ⟨finish', .positive signed' (sameSign.isOperator_eq _ ▸ isSign) touches' scanned'
      (sameNumeral.value ▸ valued), last⟩

theorem literal?
    {position : Position}
    {literal : Literal}
    (found : Region.literal? 1 cursor = .ok (some (position, literal), finish))
    (related : along.related cursor target)
    (known : along.known finish) :
    ∃ finish', Region.literal? 1 target =
        .ok (some (relocation.map position, literal), finish') ∧
      along.related finish finish' := by
  obtain ⟨finish', written, last⟩ := along.written (.of_literal? found) related known
  exact ⟨finish', written.literal?_eq_ok 0, last⟩

/-- What begins a literal that is passed is known. -/
theorem known_of_literal?
    {position : Position}
    {literal : Literal}
    {token : Token}
    (scanned : Reading.token cursor = .ok (token, behind))
    (found : Region.literal? 1 cursor = .ok (some (position, literal), finish))
    (known : along.known finish) :
    along.known cursor := by
  obtain ⟨begins, reaches⟩ := (Written.of_literal? found).begins scanned
  exact along.known_of_token scanned begins
    (along.room_of_reaches (along.room_of_known known) reaches)

/-! ## Operators -/

theorem meets
    {token : Token}
    {operator : Operator}
    (meets : region.Meets cursor token operator behind)
    (related : along.related cursor target)
    (known : along.known cursor) :
    ∃ token' behind', other.Meets target token' operator behind' ∧
      token.Moves relocation token' ∧ along.related behind behind' := by
  obtain ⟨next, isOperator, found⟩ := meets
  obtain ⟨token', behind', next', sameToken, further⟩ := along.continues related known next
  refine ⟨token', behind', ⟨next', ?_, ?_⟩, sameToken, further⟩
  · rw [sameToken.kind, isOperator]
  · rw [sameToken.value, along.operators, found]

theorem stops
    {least : Int}
    (stops : region.Stops least cursor)
    (related : along.related cursor target)
    (known : along.known cursor) :
    other.Stops least target := by
  rcases stops with done | ⟨token, behind, next, noOperator⟩ |
    ⟨token, operator, behind, meets, weak⟩
  · exact .inl ((along.isDone_eq related known).trans done)
  · obtain ⟨token', behind', next', sameToken, _⟩ := along.continues related known next
    exact .inr (.inl ⟨token', behind', next', by rwa [sameToken.kind]⟩)
  · obtain ⟨token', behind', meets', _, _⟩ := along.meets meets related known
    exact .inr (.inr ⟨token', operator, behind', meets', weak⟩)

theorem known_of_meets
    {token : Token}
    {operator : Operator}
    (meets : region.Meets cursor token operator behind)
    (room : along.room behind) :
    along.known cursor :=
  along.known_of_token meets.1.2 (by simp [meets.2.1]) room

theorem filterName
    {operator : Operator}
    {symbol : Token}
    {name : Text}
    (success : region.filterName operator symbol 1 cursor = .ok (name, behind))
    (related : along.related cursor target)
    (known : along.known behind)
    (symbol' : Token) :
    ∃ behind', other.filterName operator symbol' 1 target = .ok (name, behind') ∧
      along.related behind behind' := by
  obtain ⟨token, next, isName, free, rfl, ending⟩ := filterName_eq_ok.1 success
  have here := along.known_of_token next.2 (by simp [isName]) (along.room_of_known known)
  obtain ⟨token', behind', next', sameToken, further⟩ := along.continues related here next
  refine ⟨behind', filterName_eq_ok.2 ⟨token', next', ?_, ?_, sameToken.value.symm, ?_⟩, further⟩
  · rw [sameToken.kind, isName]
  · rw [sameToken.value, free]
  · rcases ending with done | ⟨following, after, another, noDot, noOpening, loose⟩
    · exact .inl ((along.isDone_eq further known).trans done)
    · obtain ⟨following', after', another', sameFollowing, _⟩ :=
        along.continues further known another
      refine .inr ⟨following', after', another', ?_, ?_, ?_⟩
      · rwa [sameFollowing.kind]
      · rwa [sameFollowing.kind]
      · rw [bindsTighter, sameFollowing.kind, sameFollowing.value, along.operators]
        exact loose

theorem expect
    {kind : Token.Kind}
    {expected : Expectation}
    {token : Token}
    (success : Reading.expect kind expected cursor = .ok (token, behind))
    (lexeme : kind ≠ .unknown)
    (related : along.related cursor target)
    (known : along.known behind) :
    ∃ token' behind', Reading.expect kind expected target = .ok (token', behind') ∧
      token.Moves relocation token' ∧ along.related behind behind' := by
  obtain ⟨scanned, isKind⟩ := Reading.expect_eq_ok.1 success
  obtain ⟨token', behind', scanned', sameToken, further⟩ :=
    along.tokens related scanned (isKind ▸ lexeme) known
  exact ⟨token', behind', Reading.expect_eq_ok.2 ⟨scanned', sameToken.kind.trans isKind⟩,
    sameToken, further⟩

/-! ## Expressions -/

/-- What follows an expression is known, so what it begins with is. -/
theorem known_of_reads
    {goal : Goal}
    {levels : Nat}
    {node : Node}
    (reads : region.Reads goal levels cursor node finish)
    (known : along.known finish) :
    along.known cursor := by
  induction reads with
  | expression first rest stops firstHypothesis restHypothesis =>
    exact firstHypothesis (restHypothesis known)
  | none => exact known
  | filter meets strong role named rest hypothesis =>
    have reaches := (filterName_passes named).1.trans rest.progress.1
    exact along.known_of_meets meets (along.room_of_reaches (along.room_of_known known) reaches)
  | binary meets strong role operand rest operandHypothesis restHypothesis =>
    have reaches := operand.progress.1.trans rest.progress.1
    exact along.known_of_meets meets (along.room_of_reaches (along.room_of_known known) reaches)
  | operand next bare rest hypothesis => exact hypothesis known
  | prefixed next before rest hypothesis =>
    rw [Bool.and_eq_true, decide_eq_true_eq] at before
    exact along.known_of_token next.2 (by simp [before.1])
      (along.room_of_reaches (along.room_of_known known) rest.progress.1)
  | parenthesised next opening inner closing hypothesis =>
    have reaches := inner.progress.1.trans (token_reaches (Reading.expect_eq_ok.1 closing).1)
    exact along.known_of_token next.2 (by simp [opening])
      (along.room_of_reaches (along.room_of_known known) reaches)
  | literal next noOpening found => exact along.known_of_literal? next.2 found known
  | reference next isName noLiteral found => exact along.known_of_path found known

/-- An expression stands in the other region where it stands in the first, if it is known
what follows it. -/
theorem reads
    {goal : Goal}
    {levels : Nat}
    {node : Node}
    (reads : region.Reads goal levels cursor node finish)
    (related : along.related cursor target)
    (known : along.known finish) :
    ∃ finish', other.Reads (goal.moved relocation) levels target (node.moved relocation) finish' ∧
      along.related finish finish' := by
  induction reads generalizing target with
  | expression first rest stops firstHypothesis restHypothesis =>
    obtain ⟨middle', first', onward⟩ := firstHypothesis related (along.known_of_reads rest known)
    obtain ⟨finish', rest', last⟩ := restHypothesis onward known
    exact ⟨finish', .expression first' rest' (along.stops stops last known), last⟩
  | none => exact ⟨target, .none, related⟩
  | filter meets strong role named rest hypothesis =>
    have middleKnown := along.known_of_reads rest known
    have behindRoom :=
      along.room_of_reaches (along.room_of_known middleKnown) (filterName_passes named).1
    obtain ⟨token', behind', meets', sameToken, further⟩ :=
      along.meets meets related (along.known_of_meets meets behindRoom)
    obtain ⟨middle', named', onward⟩ := along.filterName named further middleKnown token'
    obtain ⟨finish', rest', last⟩ := hypothesis onward known
    rw [Goal.moved, Node.moved_call, ← sameToken.position] at rest'
    exact ⟨finish', .filter meets' strong role named' rest', last⟩
  | binary meets strong role operand rest operandHypothesis restHypothesis =>
    have middleKnown := along.known_of_reads rest known
    have behindRoom := along.room_of_reaches (along.room_of_known middleKnown) operand.progress.1
    obtain ⟨token', behind', meets', sameToken, further⟩ :=
      along.meets meets related (along.known_of_meets meets behindRoom)
    obtain ⟨middle', operand', onward⟩ := operandHypothesis further middleKnown
    obtain ⟨finish', rest', last⟩ := restHypothesis onward known
    rw [Goal.moved, Node.moved_binary, ← sameToken.position] at rest'
    exact ⟨finish', .binary meets' strong role operand' rest', last⟩
  | operand next bare rest hypothesis =>
    obtain ⟨token', behind', next', sameToken, _⟩ :=
      along.continues related (along.known_of_reads rest known) next
    obtain ⟨finish', rest', last⟩ := hypothesis related known
    exact ⟨finish', .operand next' (by rwa [sameToken.kind, sameToken.value]) rest', last⟩
  | prefixed next before rest hypothesis =>
    have here := along.known_of_reads (.prefixed next before rest) known
    obtain ⟨token', behind', next', sameToken, further⟩ := along.continues related here next
    obtain ⟨finish', rest', last⟩ := hypothesis further known
    rw [Node.moved_call, ← sameToken.position, ← sameToken.value]
    exact ⟨finish', .prefixed next' (by rwa [sameToken.kind, sameToken.value]) rest', last⟩
  | parenthesised next opening inner closing hypothesis =>
    obtain ⟨scanned, isClosing⟩ := Reading.expect_eq_ok.1 closing
    have middleKnown :=
      along.known_of_token scanned (by simp [isClosing]) (along.room_of_known known)
    have here := along.known_of_reads (.parenthesised next opening inner closing) known
    obtain ⟨token', behind', next', sameToken, further⟩ := along.continues related here next
    obtain ⟨middle', inner', onward⟩ := hypothesis further middleKnown
    obtain ⟨last', finish', closing', _, last⟩ := along.expect closing (by simp) onward known
    exact ⟨finish', .parenthesised next' (by rwa [sameToken.kind]) inner' closing', last⟩
  | literal next noOpening found =>
    have here := along.known_of_literal? next.2 found known
    obtain ⟨token', behind', next', sameToken, _⟩ := along.continues related here next
    obtain ⟨finish', found', last⟩ := along.literal? found related known
    rw [Node.moved]
    exact ⟨finish', .literal next' (by rwa [sameToken.kind]) found', last⟩
  | reference next isName noLiteral found =>
    have here := along.known_of_path found known
    obtain ⟨token', behind', next', sameToken, _⟩ := along.continues related here next
    obtain ⟨finish', found', last⟩ := along.path found related known
    have isName' := sameToken.kind.trans isName
    have noLiteral' := (literal?_eq_none_iff next.2 isName).1 noLiteral
    rw [← sameToken.isWord_eq, ← sameToken.isWord_eq] at noLiteral'
    rw [Node.moved]
    exact ⟨finish', .reference next' isName'
      ((literal?_eq_none_iff next'.2 isName').2 noLiteral') found', last⟩

/-- A pattern stands in the other region where it stands in the first, if it is known
what follows it. -/
theorem isMatched
    {pattern : Pattern}
    (matched : region.Matches cursor pattern finish)
    (related : along.related cursor target)
    (known : along.known finish) :
    ∃ finish', other.Matches target (pattern.moved relocation) finish' ∧
      along.related finish finish' := by
  cases matched with
  | wildcard next isWildcard =>
    have here := along.known_of_token next.2 (by simp [Token.kind_of_isWord isWildcard])
      (along.room_of_known known)
    obtain ⟨token', finish', next', sameToken, last⟩ := along.continues related here next
    exact ⟨finish', .wildcard next' (by rwa [sameToken.isWord_eq]), last⟩
  | literal next noWildcard found =>
    have here := along.known_of_literal? next.2 found known
    obtain ⟨token', behind', next', sameToken, _⟩ := along.continues related here next
    obtain ⟨finish', found', last⟩ := along.literal? found related known
    exact ⟨finish', .literal next' (by rwa [sameToken.isWord_eq]) found', last⟩
  | path next noWildcard isName noLiteral found =>
    obtain ⟨token', behind', next', sameToken, _⟩ :=
      along.continues related (along.known_of_path found known) next
    obtain ⟨finish', found', last⟩ := along.path found related known
    have isName' := sameToken.kind.trans isName
    have noLiteral' := (literal?_eq_none_iff next.2 isName).1 noLiteral
    rw [← sameToken.isWord_eq, ← sameToken.isWord_eq] at noLiteral'
    exact ⟨finish', .path next' (by rwa [sameToken.isWord_eq]) isName'
      ((literal?_eq_none_iff next'.2 isName').2 noLiteral') found', last⟩

/-! ## What tags hold -/

theorem keyword
    {word : Text}
    {token : Token}
    (success : region.keyword word cursor = .ok (token, behind))
    (related : along.related cursor target)
    (room : along.room behind) :
    ∃ token' behind', other.keyword word target = .ok (token', behind') ∧
      along.related behind behind' := by
  obtain ⟨next, isWord⟩ := keyword_eq_ok.1 success
  have known := along.known_of_token next.2 (by simp [Token.kind_of_isWord isWord]) room
  obtain ⟨token', behind', next', sameToken, further⟩ := along.continues related known next
  exact ⟨token', behind', keyword_eq_ok.2 ⟨next', by rwa [sameToken.isWord_eq]⟩, further⟩

theorem inclusionKey
    {key : Text}
    (success : Document.inclusionKey region cursor = .ok (key, behind))
    (related : along.related cursor target)
    (room : along.room behind) :
    ∃ behind', Document.inclusionKey other target = .ok (key, behind') ∧
      along.related behind behind' := by
  obtain ⟨token, next, isString, rfl⟩ := Document.inclusionKey_eq_ok.1 success
  have known := along.known_of_token next.2 (by simp [isString]) room
  obtain ⟨token', behind', next', sameToken, further⟩ := along.continues related known next
  exact ⟨behind', Document.inclusionKey_eq_ok.2 ⟨token', next', sameToken.kind.trans isString,
    sameToken.value.symm⟩, further⟩

theorem withContext
    {follows : Bool}
    (success : Document.withContext region cursor = .ok (follows, finish))
    (related : along.related cursor target)
    (known : along.known cursor) :
    ∃ finish', Document.withContext other target = .ok (follows, finish') ∧
      along.related finish finish' := by
  rcases Document.withContext_eq_ok.1 success with
    ⟨done, rfl, rfl⟩ | ⟨token, behind, next, isWith, rfl⟩
  · have done' := (along.isDone_eq related known).trans done
    exact ⟨target, Document.withContext_eq_ok.2 (.inl ⟨done', rfl, rfl⟩), related⟩
  · obtain ⟨token', behind', next', sameToken, further⟩ := along.continues related known next
    refine ⟨if follows then behind' else target, Document.withContext_eq_ok.2 (.inr
      ⟨token', behind', next', isWith.trans (sameToken.isWord_eq _).symm, rfl⟩), ?_⟩
    cases follows with
    | true => exact further
    | false => exact related

/-- What is looked at behind the key of an include is known by what follows it. -/
theorem known_of_withContext
    {follows : Bool}
    (success : Document.withContext region cursor = .ok (follows, finish))
    (known : along.known finish) :
    along.known cursor := by
  rcases Document.withContext_eq_ok.1 success with ⟨_, _, rfl⟩ | ⟨token, behind, next, isWith, rfl⟩
  · exact known
  · cases follows with
    | true =>
      exact along.known_of_token next.2 (by simp [Token.kind_of_isWord isWith.symm])
        (along.room_of_known known)
    | false => exact known

/-- What a tag holds stands in the other region where it stands in the first, if it is
known what follows it. -/
theorem holds
    {tag : Document.Tag}
    (holds : tag.Holds region cursor finish)
    (related : along.related cursor target)
    (known : along.known finish) :
    ∃ finish', (tag.moved relocation).Holds other target finish' ∧
      along.related finish finish' := by
  cases holds with
  | condition reads =>
    obtain ⟨finish', reads', last⟩ := along.reads reads related known
    exact ⟨finish', .condition reads', last⟩
  | further reads =>
    obtain ⟨finish', reads', last⟩ := along.reads reads related known
    exact ⟨finish', .further reads', last⟩
  | scrutinee reads =>
    obtain ⟨finish', reads', last⟩ := along.reads reads related known
    exact ⟨finish', .scrutinee reads', last⟩
  | alternative matched =>
    obtain ⟨finish', matched', last⟩ := along.isMatched matched related known
    exact ⟨finish', .alternative matched', last⟩
  | loop named joined iterated =>
    have wordRoom := along.room_of_known (along.known_of_path iterated known)
    have nameRoom := along.room_of_reaches wordRoom (Document.keyword_passes joined).1
    obtain ⟨middle', named', onward⟩ := along.identifier named related nameRoom
    obtain ⟨word', behind', joined', further⟩ := along.keyword joined onward wordRoom
    obtain ⟨finish', iterated', last⟩ := along.path iterated further known
    exact ⟨finish', .loop named' joined' iterated', last⟩
  | binding named signed reads =>
    have signRoom := along.room_of_known (along.known_of_reads reads known)
    have nameRoom := along.room_of_reaches signRoom (Document.bindingSign_passes signed).1
    obtain ⟨middle', named', onward⟩ := along.identifier named related nameRoom
    obtain ⟨behind', signed', further⟩ := along.bindingSign onward signed signRoom
    obtain ⟨finish', reads', last⟩ := along.reads reads further known
    exact ⟨finish', .binding named' signed' reads', last⟩
  | inclusion keyed alone =>
    have middleKnown := along.known_of_withContext alone known
    obtain ⟨middle', keyed', onward⟩ :=
      along.inclusionKey keyed related (along.room_of_known middleKnown)
    obtain ⟨finish', alone', last⟩ := along.withContext alone onward middleKnown
    exact ⟨finish', .inclusion keyed' alone', last⟩
  | inclusionWith keyed joined reads =>
    have middleKnown := along.known_of_withContext joined (along.known_of_reads reads known)
    obtain ⟨middle', keyed', onward⟩ :=
      along.inclusionKey keyed related (along.room_of_known middleKnown)
    obtain ⟨behind', joined', further⟩ := along.withContext joined onward middleKnown
    obtain ⟨finish', reads', last⟩ := along.reads reads further known
    exact ⟨finish', .inclusionWith keyed' joined' reads', last⟩
  | marker => exact ⟨target, .marker, related⟩

end Region.Alongside

end Stencil
