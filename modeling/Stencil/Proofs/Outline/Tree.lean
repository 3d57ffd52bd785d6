import Stencil.Node.Equality
import Stencil.Proofs.Numeral
import Stencil.Proofs.Outline
import Stencil.Proofs.Reporting.Command

/-!
# What a report tells about a tree

Without its lines and columns, the report of a template tells its tree up to
positions, with one exception.  A literal in an expression is reported with its kind,
but a literal pattern is not, so a pattern that is a number is reported like the one
that is the text of that number.  The main statement is that nothing else is lost:
templates with equal reports have the same tree once the numbers of their patterns
are put into words.
-/

namespace Stencil

open Template (Origin)

/-! ## Trees with worded patterns -/

/-- The literal with a number replaced by its text. -/
def Literal.worded : Literal → Literal
  | .number value => .text value.toText
  | other => other

/-- The pattern with a number replaced by its text. -/
def Pattern.worded : Pattern → Pattern
  | .literal held => .literal held.worded
  | other => other

namespace Node

mutual

/-- The tree with the numbers of its patterns replaced by their texts. -/
def worded : Node → Node
  | .apply position callee argument => .apply position (worded callee) (worded argument)
  | .selection position scrutinee alternatives =>
    .selection position (worded scrutinee) (alternativesWorded alternatives)
  | .loop position item source body otherwise =>
    .loop position item source (worded body) (optionalWorded otherwise)
  | .binding position name value body => .binding position name (worded value) (worded body)
  | .inclusion position key context => .inclusion position key (optionalWorded context)
  | .sequence position parts => .sequence position (partsWorded parts)
  | node => node

/-- An optional tree with the numbers of its patterns replaced. -/
def optionalWorded : Option Node → Option Node
  | none => none
  | some node => some (worded node)

/-- Trees with the numbers of their patterns replaced. -/
def partsWorded : List Node → List Node
  | [] => []
  | part :: rest => worded part :: partsWorded rest

/-- Alternatives with the numbers of their patterns replaced. -/
def alternativesWorded : List (Pattern × Node) → List (Pattern × Node)
  | [] => []
  | (pattern, body) :: rest => (pattern.worded, worded body) :: alternativesWorded rest

end

example (position : Position) (body : Text) :
    (partsWorded [.selection position nothing [(.literal (.boolean true), .text position body)]]) =
      [.selection position nothing [(.literal (.boolean true), .text position body)]] := by
  cbv

end Node

/-! ## Names without dots -/

/-- A path whose names have no dots in them. -/
def Variable.IsDotless (path : Variable) : Prop :=
  ∀ name ∈ path.names.map Identifier.name, CodePoint.ofChar '.' ∉ name

namespace Text

/-- Strings are known by their texts. -/
theorem of_injective : Function.Injective of := by
  have points : Function.Injective CodePoint.ofChar := by
    intro first second same
    have values := congrArg Fin.val same
    rw [CodePoint.val_ofChar, CodePoint.val_ofChar] at values
    exact Char.toNat_inj.1 values
  intro first second same
  exact String.toList_inj.1 (points.list_map same)

theorem join_cons (separator first : Text) (others : List Text) :
    join separator (first :: others) =
      first ++ others.flatMap fun text => separator ++ text := by
  induction others generalizing first with
  | nil => simp [join]
  | cons second others hypothesis =>
    have rest := hypothesis second
    simp only [join] at rest ⊢
    rw [List.intersperse_cons_cons, List.flatten_cons, List.flatten_cons, rest,
      List.flatMap_cons, List.append_assoc]

/-- A name without dots is what stands before the first dot. -/
theorem takeWhile_dotless_append
    {name : Text}
    (dotless : CodePoint.ofChar '.' ∉ name)
    (others : List Text) :
    (name ++ others.flatMap fun text => of "." ++ text).takeWhile (· != CodePoint.ofChar '.') =
      name := by
  refine takeWhile_append_of_head? ?_ ?_
  · rw [List.all_eq_true]
    intro point member
    rw [bne_iff_ne]
    rintro rfl
    exact dotless member
  · intro point first
    cases others with
    | nil => cases first
    | cons second others =>
      cases first
      decide

/-- The first name of a path without dots is known by the path, and so is the rest. -/
theorem eq_and_eq_of_join_eq
    {first first' : Text}
    {others others' : List Text}
    (dotless : CodePoint.ofChar '.' ∉ first)
    (dotless' : CodePoint.ofChar '.' ∉ first')
    (same : join (of ".") (first :: others) = join (of ".") (first' :: others')) :
    first = first' ∧
      (others.flatMap fun text => of "." ++ text) =
        others'.flatMap fun text => of "." ++ text := by
  rw [join_cons, join_cons] at same
  have begin := congrArg (List.takeWhile (· != CodePoint.ofChar '.')) same
  rw [takeWhile_dotless_append dotless, takeWhile_dotless_append dotless'] at begin
  subst begin
  exact ⟨rfl, List.append_cancel_left same⟩

/-- Names without dots are known by their path. -/
theorem eq_of_join_eq
    {first first' : Text}
    {others others' : List Text}
    (dotless : ∀ name ∈ first :: others, CodePoint.ofChar '.' ∉ name)
    (dotless' : ∀ name ∈ first' :: others', CodePoint.ofChar '.' ∉ name)
    (same : join (of ".") (first :: others) = join (of ".") (first' :: others')) :
    first :: others = first' :: others' := by
  rw [List.forall_mem_cons] at dotless dotless'
  induction others generalizing first first' others' with
  | nil =>
    obtain ⟨rfl, rest⟩ := eq_and_eq_of_join_eq dotless.1 dotless'.1 same
    cases others' with
    | nil => rfl
    | cons second' others' => simp [of] at rest
  | cons second others hypothesis =>
    obtain ⟨rfl, rest⟩ := eq_and_eq_of_join_eq dotless.1 dotless'.1 same
    cases others' with
    | nil => simp [of] at rest
    | cons second' others' =>
      rw [List.flatMap_cons, List.flatMap_cons, List.append_assoc, List.append_assoc,
        List.append_cancel_left_eq, ← join_cons, ← join_cons] at rest
      rw [hypothesis (List.forall_mem_cons.1 dotless.2) (List.forall_mem_cons.1 dotless'.2) rest]

end Text

theorem Variable.same_of_toText_eq
    {left right : Variable}
    (dotless : left.IsDotless)
    (dotless' : right.IsDotless)
    (same : left.toText = right.toText) :
    left.same right = true := by
  rw [Variable.same, beq_iff_eq]
  exact Text.eq_of_join_eq dotless dotless' same

/-- A word has no dot in it. -/
theorem Style.dot_notMem_of_lexeme?
    {text word : Text}
    (found : Style.identifier.lexeme? text = some word) :
    CodePoint.ofChar '.' ∉ word := by
  obtain ⟨point, rest, _, isStart, rfl⟩ := Token.exists_of_lexeme? found
  intro member
  rcases List.mem_cons.1 member with rfl | inside
  · exact absurd isStart (by decide)
  · exact absurd (List.all_eq_true.1 List.all_takeWhile _ inside) (by decide)

theorem Variable.Located.isDotless
    {origin : Origin}
    {path : Variable}
    (located : path.Located origin) :
    path.IsDotless := by
  intro name member
  obtain ⟨identifier, inside, rfl⟩ := List.mem_map.1 member
  obtain ⟨_, _, _, found⟩ := located identifier inside
  exact Style.dot_notMem_of_lexeme? found

/-! ## Trees that can be told from their reports -/

/-- A pattern of a template, with names that have no dots. -/
def Pattern.Told : Pattern → Prop
  | .path names => names.IsDotless
  | .bare _ => False
  | _ => True

namespace Node

mutual

/-- A tree without bare nodes and patterns, with names that have no dots. -/
def Told : Node → Prop
  | .reference path => path.IsDotless
  | .apply _ callee argument => Told callee ∧ Told argument
  | .selection _ scrutinee alternatives => Told scrutinee ∧ AlternativesTold alternatives
  | .loop _ _ source body otherwise => source.IsDotless ∧ Told body ∧ OptionalTold otherwise
  | .binding _ _ value body => Told value ∧ Told body
  | .inclusion _ _ context => OptionalTold context
  | .sequence _ parts => PartsTold parts
  | .bare _ => False
  | _ => True

/-- The nodes of an optional tree are told. -/
def OptionalTold : Option Node → Prop
  | none => True
  | some node => Told node

/-- The nodes of neighbouring parts are told. -/
def PartsTold : List Node → Prop
  | [] => True
  | part :: rest => Told part ∧ PartsTold rest

/-- The nodes of alternatives are told. -/
def AlternativesTold : List (Pattern × Node) → Prop
  | [] => True
  | (pattern, body) :: rest => pattern.Told ∧ Told body ∧ AlternativesTold rest

end

end Node

theorem Pattern.Located.told
    {origin : Origin}
    {pattern : Pattern}
    (located : pattern.Located origin) :
    pattern.Told := by
  cases pattern with
  | path names => exact Variable.Located.isDotless located
  | bare held => exact located
  | _ => trivial

namespace Node

mutual

/-- The trees of templates are told. -/
theorem Located.told
    {origin : Origin}
    (node : Node)
    (located : node.Located origin) :
    node.Told := by
  cases node with
  | reference path =>
    simp only [Located] at located
    simpa only [Told] using located.names.isDotless
  | apply position callee argument =>
    simp only [Located] at located
    simp only [Told]
    exact ⟨Located.told callee located.2.1, Located.told argument located.2.2⟩
  | selection position scrutinee alternatives =>
    simp only [Located] at located
    simp only [Told]
    exact ⟨Located.told scrutinee located.2.1,
      AlternativesLocated.told alternatives located.2.2⟩
  | loop position item source body otherwise =>
    simp only [Located] at located
    simp only [Told]
    exact ⟨located.2.2.1.names.isDotless, Located.told body located.2.2.2.1,
      OptionalLocated.told otherwise located.2.2.2.2⟩
  | binding position name value body =>
    simp only [Located] at located
    simp only [Told]
    exact ⟨Located.told value located.2.2.1, Located.told body located.2.2.2⟩
  | inclusion position key context =>
    simp only [Located] at located
    simp only [Told]
    exact OptionalLocated.told context located.2
  | sequence position parts =>
    simp only [Located] at located
    simp only [Told]
    exact PartsLocated.told parts located.2
  | bare position => simp only [Located] at located
  | _ => simp only [Told]

theorem OptionalLocated.told
    {origin : Origin}
    (node : Option Node)
    (located : OptionalLocated origin node) :
    OptionalTold node := by
  cases node with
  | none => simp only [OptionalTold]
  | some node =>
    simp only [OptionalLocated] at located
    simp only [OptionalTold]
    exact Located.told node located

theorem PartsLocated.told
    {origin : Origin}
    (parts : List Node)
    (located : PartsLocated origin parts) :
    PartsTold parts := by
  cases parts with
  | nil => simp only [PartsTold]
  | cons part rest =>
    simp only [PartsLocated] at located
    simp only [PartsTold]
    exact ⟨Located.told part located.1, PartsLocated.told rest located.2⟩

theorem AlternativesLocated.told
    {origin : Origin}
    (alternatives : List (Pattern × Node))
    (located : AlternativesLocated origin alternatives) :
    AlternativesTold alternatives := by
  cases alternatives with
  | nil => simp only [AlternativesTold]
  | cons alternative rest =>
    obtain ⟨pattern, body⟩ := alternative
    simp only [AlternativesLocated] at located
    obtain ⟨patternLocated, bodyLocated, restLocated⟩ := located
    simp only [AlternativesTold]
    refine ⟨patternLocated.told, ?_, AlternativesLocated.told rest restLocated⟩
    rcases bodyLocated with bodyLocated | ⟨_, rfl⟩
    · exact Located.told body bodyLocated
    · simp only [nothing, Told, PartsTold]

end

end Node

namespace Report

open Reading (bind_eq_ok pure_eq_ok)
open Value

/-- The word for the kind of a node. -/
def label : Node → String
  | .text _ _ => "text"
  | .literal _ _ => "literal"
  | .reference _ => "variable"
  | .function _ _ => "function"
  | .apply _ _ _ => "apply"
  | .selection _ _ _ => "case"
  | .loop _ _ _ _ _ => "loop"
  | .binding _ _ _ _ => "let"
  | .inclusion _ _ _ => "include"
  | .sequence _ _ => "build"
  | .bare _ => ""

/-- A report begins with the kind of the node. -/
theorem exists_of_ofNode
    {node : Node}
    {value : Value}
    (shown : ofNode node = .ok value) :
    ∃ rest, value = .map (member "node" (word (label node)) :: rest) := by
  cases node <;> simp only [ofNode, bind_eq_ok, pure_eq_ok, Except.ok.injEq] at shown
  case text | literal | reference | function =>
    subst shown
    exact ⟨_, rfl⟩
  case inclusion | sequence =>
    obtain ⟨_, _, rfl⟩ := shown
    exact ⟨_, rfl⟩
  case apply | selection | loop | binding =>
    obtain ⟨_, _, _, _, rfl⟩ := shown
    exact ⟨_, rfl⟩
  case bare => cases shown

/-- Reports agree only for nodes of one kind. -/
theorem label_eq_of_agrees
    {left right : Node}
    {value value' : Value}
    (shown : ofNode left = .ok value)
    (shown' : ofNode right = .ok value')
    (agrees : Agrees value value') :
    label left = label right := by
  obtain ⟨rest, rfl⟩ := exists_of_ofNode shown
  obtain ⟨rest', rfl⟩ := exists_of_ofNode shown'
  have kinds := agrees_members ["node"] [word (label left)] [word (label right)] (by decide)
    rfl rfl agrees
  simp only [List.forall₂_cons, List.forall₂_nil_left_iff, and_true] at kinds
  exact Text.of_injective kinds.eq_of_text

/-! ## Literals and patterns -/

/-- A literal of an expression is known by its kind and its value. -/
theorem same_of_agrees_literal
    {left right : Literal}
    (kinds : Agrees (literalKind left) (literalKind right))
    (values : Agrees (ofLiteral left) (ofLiteral right)) :
    left.same right = true := by
  cases left with
  | boolean flag =>
    cases right with
    | boolean flag' => simpa [Literal.same] using values.eq_of_boolean
    | _ => exact absurd kinds.eq_of_text (by decide)
  | number number =>
    cases right with
    | number number' =>
      have equal := Decimal.toText_injective values.eq_of_text
      simp [Literal.same, equal]
    | _ => exact absurd kinds.eq_of_text (by decide)
  | text content =>
    cases right with
    | text content' => simpa [Literal.same] using values.eq_of_text
    | _ => exact absurd kinds.eq_of_text (by decide)

theorem ofLiteral_worded (literal : Literal) : ofLiteral literal.worded = ofLiteral literal := by
  cases literal <;> rfl

/-- A literal is known by its value alone once numbers are texts. -/
theorem same_worded_of_agrees
    {left right : Literal}
    (values : Agrees (ofLiteral left) (ofLiteral right)) :
    left.worded.same right.worded = true := by
  rw [← ofLiteral_worded left, ← ofLiteral_worded right] at values
  cases left with
  | boolean flag =>
    cases right with
    | boolean flag' => simpa [Literal.worded, Literal.same] using values.eq_of_boolean
    | _ => exact absurd values (not_agrees_boolean_text _ _)
  | _ =>
    cases right with
    | boolean flag' => exact absurd values (not_agrees_text_boolean _ _)
    | _ => simpa [Literal.worded, Literal.same] using values.eq_of_text

/-- The word for the kind of a pattern. -/
def patternLabel : Pattern → String
  | .wildcard => "wildcard"
  | .path _ => "variable"
  | .literal _ => "literal"
  | .bare _ => ""

theorem exists_of_ofPattern
    {pattern : Pattern}
    {value : Value}
    (shown : ofPattern pattern = .ok value) :
    ∃ rest, value = .map (member "pattern" (word (patternLabel pattern)) :: rest) := by
  cases pattern <;> cases shown <;> exact ⟨_, rfl⟩

/-- Patterns are known by their reports once numbers are texts. -/
theorem same_worded_of_agrees_pattern
    {left right : Pattern}
    {value value' : Value}
    (told : left.Told)
    (told' : right.Told)
    (shown : ofPattern left = .ok value)
    (shown' : ofPattern right = .ok value')
    (agrees : Agrees value value') :
    left.worded.same right.worded = true := by
  have labels : patternLabel left = patternLabel right := by
    obtain ⟨rest, rfl⟩ := exists_of_ofPattern shown
    obtain ⟨rest', rfl⟩ := exists_of_ofPattern shown'
    have kinds := agrees_members ["pattern"] [word (patternLabel left)]
      [word (patternLabel right)] (by decide) rfl rfl agrees
    simp only [List.forall₂_cons, List.forall₂_nil_left_iff, and_true] at kinds
    exact Text.of_injective kinds.eq_of_text
  cases left with
  | wildcard =>
    cases right with
    | wildcard => rfl
    | _ => simp [patternLabel] at labels
  | path names =>
    cases right with
    | path names' =>
      cases shown
      cases shown'
      have fields := agrees_members ["pattern", "path"] [word "variable", .text names.toText]
        [word "variable", .text names'.toText] (by decide) rfl rfl agrees
      simp only [List.forall₂_cons, List.forall₂_nil_left_iff, and_true] at fields
      exact Variable.same_of_toText_eq told told' fields.2.eq_of_text
    | _ => simp [patternLabel] at labels
  | literal held =>
    cases right with
    | literal held' =>
      cases shown
      cases shown'
      have fields := agrees_members ["pattern", "value"] [word "literal", ofLiteral held]
        [word "literal", ofLiteral held'] (by decide) rfl rfl agrees
      simp only [List.forall₂_cons, List.forall₂_nil_left_iff, and_true] at fields
      exact same_worded_of_agrees fields.2
    | _ => simp [patternLabel] at labels
  | bare held => exact absurd told id

/-! ## Trees -/

/-- The members of two nodes of one kind agree one by one. -/
theorem agrees_object
    {kind : String}
    {position position' : Position}
    (keys : List String)
    (values values' : List Value)
    (told : AreTold ("node" :: keys))
    (length : values.length = keys.length)
    (length' : values'.length = keys.length)
    (agrees : Agrees (object kind position (members keys values))
      (object kind position' (members keys values'))) :
    List.Forall₂ Agrees values values' := by
  have fields := agrees_members ("node" :: keys) (word kind :: values) (word kind :: values') told
    (by simp [length]) (by simp [length']) agrees
  exact (List.forall₂_cons.1 fields).2

/-- A tree is known by its report, once the numbers of patterns are texts. -/
def IsKnown (left : Node) : Prop :=
  ∀ ⦃right : Node⦄ ⦃value value' : Value⦄, right.Told → ofNode left = .ok value →
    ofNode right = .ok value' → Agrees value value' → left.worded.same right.worded = true

theorem isKnown_text (position : Position) (content : Text) :
    IsKnown (.text position content) := by
  intro right value value' told' shown shown' agrees
  have labels := label_eq_of_agrees shown shown' agrees
  cases right with
  | text position' content' =>
    simp only [ofNode, Except.ok.injEq] at shown shown'
    subst shown shown'
    have fields := agrees_object ["text"] [.text content] [.text content'] (by decide) rfl rfl
      agrees
    simp only [List.forall₂_cons, List.forall₂_nil_left_iff, and_true] at fields
    simpa [Node.worded, Node.same] using fields.eq_of_text
  | _ => simp [label] at labels

theorem isKnown_literal (position : Position) (held : Literal) :
    IsKnown (.literal position held) := by
  intro right value value' told' shown shown' agrees
  have labels := label_eq_of_agrees shown shown' agrees
  cases right with
  | literal position' held' =>
    simp only [ofNode, Except.ok.injEq] at shown shown'
    subst shown shown'
    have fields := agrees_object ["type", "value"] [literalKind held, ofLiteral held]
      [literalKind held', ofLiteral held'] (by decide) rfl rfl agrees
    simp only [List.forall₂_cons, List.forall₂_nil_left_iff, and_true] at fields
    simpa only [Node.worded, Node.same] using same_of_agrees_literal fields.1 fields.2
  | _ => simp [label] at labels

theorem isKnown_reference
    {path : Reference}
    (dotless : path.IsDotless) :
    IsKnown (.reference path) := by
  intro right value value' told' shown shown' agrees
  have labels := label_eq_of_agrees shown shown' agrees
  cases right with
  | reference path' =>
    simp only [ofNode, Except.ok.injEq] at shown shown'
    subst shown shown'
    have fields := agrees_object ["path"] [.text path.toText] [.text path'.toText] (by decide)
      rfl rfl agrees
    simp only [List.forall₂_cons, List.forall₂_nil_left_iff, and_true] at fields
    simp only [Node.Told] at told'
    simpa only [Node.worded, Node.same, Reference.same] using
      Variable.same_of_toText_eq dotless told' fields.eq_of_text
  | _ => simp [label] at labels

theorem isKnown_function (position : Position) (name : Identifier) :
    IsKnown (.function position name) := by
  intro right value value' told' shown shown' agrees
  have labels := label_eq_of_agrees shown shown' agrees
  cases right with
  | function position' name' =>
    simp only [ofNode, Except.ok.injEq] at shown shown'
    subst shown shown'
    have fields := agrees_object ["name"] [.text name.name] [.text name'.name] (by decide)
      rfl rfl agrees
    simp only [List.forall₂_cons, List.forall₂_nil_left_iff, and_true] at fields
    simpa [Node.worded, Node.same, Identifier.same] using fields.eq_of_text
  | _ => simp [label] at labels

theorem isKnown_apply
    {position : Position}
    {callee argument : Node}
    (ofCallee : IsKnown callee)
    (ofArgument : IsKnown argument) :
    IsKnown (.apply position callee argument) := by
  intro right value value' told' shown shown' agrees
  have labels := label_eq_of_agrees shown shown' agrees
  cases right with
  | apply position' callee' argument' =>
    simp only [ofNode, bind_eq_ok, pure_eq_ok] at shown shown'
    obtain ⟨first, firstShown, second, secondShown, rfl⟩ := shown
    obtain ⟨first', firstShown', second', secondShown', rfl⟩ := shown'
    have fields := agrees_object ["function", "argument"] [first, second] [first', second']
      (by decide) rfl rfl agrees
    simp only [List.forall₂_cons, List.forall₂_nil_left_iff, and_true] at fields
    simp only [Node.Told] at told'
    simp only [Node.worded, Node.same, Bool.and_eq_true]
    exact ⟨ofCallee told'.1 firstShown firstShown' fields.1,
      ofArgument told'.2 secondShown secondShown' fields.2⟩
  | _ => simp [label] at labels

/-- Alternatives are known by their reports if their bodies are. -/
theorem same_worded_alternatives
    {left right : List (Pattern × Node)}
    {values values' : List Value}
    (known : ∀ alternative ∈ left, alternative.1.Told ∧ IsKnown alternative.2)
    (told' : Node.AlternativesTold right)
    (shown : ofAlternatives left = .ok values)
    (shown' : ofAlternatives right = .ok values')
    (agrees : List.Forall₂ Agrees values values') :
    Node.sameAlternatives (Node.alternativesWorded left) (Node.alternativesWorded right) =
      true := by
  induction left generalizing right values values' with
  | nil =>
    simp only [ofAlternatives, Except.ok.injEq] at shown
    subst shown
    cases agrees
    cases right with
    | nil => simp only [Node.alternativesWorded, Node.sameAlternatives]
    | cons alternative' rest' =>
      simp only [ofAlternatives, bind_eq_ok, pure_eq_ok] at shown'
      obtain ⟨_, _, _, _, _, _, impossible⟩ := shown'
      cases impossible
  | cons alternative rest hypothesis =>
    simp only [ofAlternatives, bind_eq_ok, pure_eq_ok] at shown
    obtain ⟨matched, matchedShown, first, firstShown, others, othersShown, rfl⟩ := shown
    obtain ⟨⟨patternTold, ofBody⟩, ofRest⟩ := List.forall_mem_cons.1 known
    cases right with
    | nil =>
      simp only [ofAlternatives, Except.ok.injEq] at shown'
      subst shown'
      cases agrees
    | cons alternative' rest' =>
      simp only [ofAlternatives, bind_eq_ok, pure_eq_ok] at shown'
      obtain ⟨matched', matchedShown', first', firstShown', others', othersShown', rfl⟩ := shown'
      rw [List.forall₂_cons] at agrees
      have fields := agrees_members ["pattern", "body"] [matched, first] [matched', first']
        (by decide) rfl rfl agrees.1
      simp only [List.forall₂_cons, List.forall₂_nil_left_iff, and_true] at fields
      simp only [Node.AlternativesTold] at told'
      simp only [Node.alternativesWorded, Node.sameAlternatives, Bool.and_eq_true]
      exact ⟨⟨same_worded_of_agrees_pattern patternTold told'.1 matchedShown matchedShown' fields.1,
          ofBody told'.2.1 firstShown firstShown' fields.2⟩,
        hypothesis ofRest told'.2.2 othersShown othersShown' agrees.2⟩

theorem isKnown_selection
    {position : Position}
    {scrutinee : Node}
    {alternatives : List (Pattern × Node)}
    (ofScrutinee : IsKnown scrutinee)
    (known : ∀ alternative ∈ alternatives, alternative.1.Told ∧ IsKnown alternative.2) :
    IsKnown (.selection position scrutinee alternatives) := by
  intro right value value' told' shown shown' agrees
  have labels := label_eq_of_agrees shown shown' agrees
  cases right with
  | selection position' scrutinee' alternatives' =>
    simp only [ofNode, bind_eq_ok, pure_eq_ok] at shown shown'
    obtain ⟨first, firstShown, second, secondShown, rfl⟩ := shown
    obtain ⟨first', firstShown', second', secondShown', rfl⟩ := shown'
    have fields := agrees_object ["scrutinee", "alternatives"] [first, .list second]
      [first', .list second'] (by decide) rfl rfl agrees
    simp only [List.forall₂_cons, List.forall₂_nil_left_iff, and_true] at fields
    simp only [Node.Told] at told'
    simp only [Node.worded, Node.same, Bool.and_eq_true]
    exact ⟨ofScrutinee told'.1 firstShown firstShown' fields.1,
      same_worded_alternatives known told'.2 secondShown secondShown' fields.2.forall₂_of_list⟩
  | _ => simp [label] at labels

/-- An optional tree is known by its report if the tree is. -/
theorem same_worded_optional
    {left right : Option Node}
    {value value' : Value}
    (known : ∀ node ∈ left, IsKnown node)
    (told' : Node.OptionalTold right)
    (shown : ofOptional left = .ok value)
    (shown' : ofOptional right = .ok value')
    (agrees : Agrees value value') :
    Node.sameOptional (Node.optionalWorded left) (Node.optionalWorded right) = true := by
  cases left with
  | none =>
    cases right with
    | none => simp only [Node.optionalWorded, Node.sameOptional]
    | some node' =>
      simp only [ofOptional, Except.ok.injEq] at shown shown'
      obtain ⟨rest, rfl⟩ := exists_of_ofNode shown'
      subst shown
      exact absurd agrees (not_agrees_null_map _)
  | some node =>
    cases right with
    | none =>
      simp only [ofOptional, Except.ok.injEq] at shown shown'
      obtain ⟨rest, rfl⟩ := exists_of_ofNode shown
      subst shown'
      exact absurd agrees (not_agrees_map_null _)
    | some node' =>
      simp only [ofOptional] at shown shown'
      simp only [Node.OptionalTold] at told'
      simp only [Node.optionalWorded, Node.sameOptional]
      exact known node rfl told' shown shown' agrees

theorem isKnown_loop
    {position : Position}
    {item : Identifier}
    {source : Reference}
    {body : Node}
    {otherwise : Option Node}
    (dotless : source.IsDotless)
    (ofBody : IsKnown body)
    (ofOtherwise : ∀ node ∈ otherwise, IsKnown node) :
    IsKnown (.loop position item source body otherwise) := by
  intro right value value' told' shown shown' agrees
  have labels := label_eq_of_agrees shown shown' agrees
  cases right with
  | loop position' item' source' body' otherwise' =>
    simp only [ofNode, bind_eq_ok, pure_eq_ok] at shown shown'
    obtain ⟨first, firstShown, second, secondShown, rfl⟩ := shown
    obtain ⟨first', firstShown', second', secondShown', rfl⟩ := shown'
    have fields := agrees_object ["binding", "source", "body", "else"]
      [.text item.name, .text source.toText, first, second]
      [.text item'.name, .text source'.toText, first', second'] (by decide) rfl rfl agrees
    simp only [List.forall₂_cons, List.forall₂_nil_left_iff, and_true] at fields
    obtain ⟨items, sources, bodies, defaults⟩ := fields
    simp only [Node.Told] at told'
    simp only [Node.worded, Node.same, Bool.and_eq_true, Identifier.same, beq_iff_eq, and_assoc]
    exact ⟨items.eq_of_text, Variable.same_of_toText_eq dotless told'.1 sources.eq_of_text,
      ofBody told'.2.1 firstShown firstShown' bodies,
      same_worded_optional ofOtherwise told'.2.2 secondShown secondShown' defaults⟩
  | _ => simp [label] at labels

theorem isKnown_binding
    {position : Position}
    {name : Identifier}
    {bound body : Node}
    (ofBound : IsKnown bound)
    (ofBody : IsKnown body) :
    IsKnown (.binding position name bound body) := by
  intro right value value' told' shown shown' agrees
  have labels := label_eq_of_agrees shown shown' agrees
  cases right with
  | binding position' name' bound' body' =>
    simp only [ofNode, bind_eq_ok, pure_eq_ok] at shown shown'
    obtain ⟨first, firstShown, second, secondShown, rfl⟩ := shown
    obtain ⟨first', firstShown', second', secondShown', rfl⟩ := shown'
    have fields := agrees_object ["binding", "value", "body"] [.text name.name, first, second]
      [.text name'.name, first', second'] (by decide) rfl rfl agrees
    simp only [List.forall₂_cons, List.forall₂_nil_left_iff, and_true] at fields
    obtain ⟨names, values, bodies⟩ := fields
    simp only [Node.Told] at told'
    simp only [Node.worded, Node.same, Bool.and_eq_true, Identifier.same, beq_iff_eq, and_assoc]
    exact ⟨names.eq_of_text, ofBound told'.1 firstShown firstShown' values,
      ofBody told'.2 secondShown secondShown' bodies⟩
  | _ => simp [label] at labels

theorem isKnown_inclusion
    {position : Position}
    {key : Text}
    {context : Option Node}
    (ofContext : ∀ node ∈ context, IsKnown node) :
    IsKnown (.inclusion position key context) := by
  intro right value value' told' shown shown' agrees
  have labels := label_eq_of_agrees shown shown' agrees
  cases right with
  | inclusion position' key' context' =>
    simp only [ofNode, bind_eq_ok, pure_eq_ok] at shown shown'
    obtain ⟨first, firstShown, rfl⟩ := shown
    obtain ⟨first', firstShown', rfl⟩ := shown'
    have fields := agrees_object ["key", "with"] [.text key, first] [.text key', first']
      (by decide) rfl rfl agrees
    simp only [List.forall₂_cons, List.forall₂_nil_left_iff, and_true] at fields
    simp only [Node.Told] at told'
    simp only [Node.worded, Node.same, Bool.and_eq_true, beq_iff_eq]
    exact ⟨fields.1.eq_of_text,
      same_worded_optional ofContext told' firstShown firstShown' fields.2⟩
  | _ => simp [label] at labels

/-- Neighbouring parts are known by their reports if each of them is. -/
theorem same_worded_parts
    {left right : List Node}
    {values values' : List Value}
    (known : ∀ part ∈ left, IsKnown part)
    (told' : Node.PartsTold right)
    (shown : ofParts left = .ok values)
    (shown' : ofParts right = .ok values')
    (agrees : List.Forall₂ Agrees values values') :
    Node.sameParts (Node.partsWorded left) (Node.partsWorded right) = true := by
  induction left generalizing right values values' with
  | nil =>
    simp only [ofParts, Except.ok.injEq] at shown
    subst shown
    cases agrees
    cases right with
    | nil => simp only [Node.partsWorded, Node.sameParts]
    | cons part' rest' =>
      simp only [ofParts, bind_eq_ok, pure_eq_ok] at shown'
      obtain ⟨_, _, _, _, impossible⟩ := shown'
      cases impossible
  | cons part rest hypothesis =>
    simp only [ofParts, bind_eq_ok, pure_eq_ok] at shown
    obtain ⟨first, firstShown, others, othersShown, rfl⟩ := shown
    obtain ⟨ofPart, ofRest⟩ := List.forall_mem_cons.1 known
    cases right with
    | nil =>
      simp only [ofParts, Except.ok.injEq] at shown'
      subst shown'
      cases agrees
    | cons part' rest' =>
      simp only [ofParts, bind_eq_ok, pure_eq_ok] at shown'
      obtain ⟨first', firstShown', others', othersShown', rfl⟩ := shown'
      rw [List.forall₂_cons] at agrees
      simp only [Node.PartsTold] at told'
      simp only [Node.partsWorded, Node.sameParts, Bool.and_eq_true]
      exact ⟨ofPart told'.1 firstShown firstShown' agrees.1,
        hypothesis ofRest told'.2 othersShown othersShown' agrees.2⟩

theorem isKnown_sequence
    {position : Position}
    {parts : List Node}
    (known : ∀ part ∈ parts, IsKnown part) :
    IsKnown (.sequence position parts) := by
  intro right value value' told' shown shown' agrees
  have labels := label_eq_of_agrees shown shown' agrees
  cases right with
  | sequence position' parts' =>
    simp only [ofNode, bind_eq_ok, pure_eq_ok] at shown shown'
    obtain ⟨first, firstShown, rfl⟩ := shown
    obtain ⟨first', firstShown', rfl⟩ := shown'
    have fields := agrees_object ["parts"] [.list first] [.list first'] (by decide) rfl rfl
      agrees
    simp only [List.forall₂_cons, List.forall₂_nil_left_iff, and_true] at fields
    simp only [Node.Told] at told'
    simp only [Node.worded, Node.same]
    exact same_worded_parts known told' firstShown firstShown' fields.forall₂_of_list
  | _ => simp [label] at labels

mutual

/-- Trees of templates are known by their reports, once the numbers of patterns are
texts. -/
theorem isKnown_of_told (node : Node) (told : node.Told) : IsKnown node := by
  cases node with
  | text position content => exact isKnown_text position content
  | literal position held => exact isKnown_literal position held
  | reference path =>
    simp only [Node.Told] at told
    exact isKnown_reference told
  | function position name => exact isKnown_function position name
  | apply position callee argument =>
    simp only [Node.Told] at told
    exact isKnown_apply (isKnown_of_told callee told.1) (isKnown_of_told argument told.2)
  | selection position scrutinee alternatives =>
    simp only [Node.Told] at told
    exact isKnown_selection (isKnown_of_told scrutinee told.1)
      (isKnown_of_alternativesTold alternatives told.2)
  | loop position item source body otherwise =>
    simp only [Node.Told] at told
    exact isKnown_loop told.1 (isKnown_of_told body told.2.1)
      (isKnown_of_optionalTold otherwise told.2.2)
  | binding position name bound body =>
    simp only [Node.Told] at told
    exact isKnown_binding (isKnown_of_told bound told.1) (isKnown_of_told body told.2)
  | inclusion position key context =>
    simp only [Node.Told] at told
    exact isKnown_inclusion (isKnown_of_optionalTold context told)
  | sequence position parts =>
    simp only [Node.Told] at told
    exact isKnown_sequence (isKnown_of_partsTold parts told)
  | bare position => simp only [Node.Told] at told

theorem isKnown_of_optionalTold
    (node : Option Node)
    (told : Node.OptionalTold node) :
    ∀ part ∈ node, IsKnown part := by
  cases node with
  | none => simp
  | some node =>
    simp only [Node.OptionalTold] at told
    rintro part ⟨⟩
    exact isKnown_of_told node told

theorem isKnown_of_partsTold
    (parts : List Node)
    (told : Node.PartsTold parts) :
    ∀ part ∈ parts, IsKnown part := by
  cases parts with
  | nil => simp
  | cons part rest =>
    simp only [Node.PartsTold] at told
    exact List.forall_mem_cons.2
      ⟨isKnown_of_told part told.1, isKnown_of_partsTold rest told.2⟩

theorem isKnown_of_alternativesTold
    (alternatives : List (Pattern × Node))
    (told : Node.AlternativesTold alternatives) :
    ∀ alternative ∈ alternatives, alternative.1.Told ∧ IsKnown alternative.2 := by
  cases alternatives with
  | nil => simp
  | cons alternative rest =>
    obtain ⟨pattern, body⟩ := alternative
    simp only [Node.AlternativesTold] at told
    exact List.forall_mem_cons.2 ⟨⟨told.1, isKnown_of_told body told.2.1⟩,
      isKnown_of_alternativesTold rest told.2.2⟩

end

end Report

namespace Template

/-- Every template has a report, and templates whose reports are equal apart from lines
and columns have the same tree, once the numbers of their patterns are texts. -/
theorem same_worded_of_reports_agree
    {options options' : Options}
    {name name' source source' : Text}
    {delimiters delimiters' : Delimiters}
    {template template' : Template}
    (success : (read options name delimiters source).result = .ok template)
    (success' : (read options' name' delimiters' source').result = .ok template') :
    ∃ value value', Report.ofNode template.root = .ok value ∧
      Report.ofNode template'.root = .ok value' ∧
      (value.withoutPlaces.same value'.withoutPlaces = true →
        template.root.worded.same template'.root.worded = true) := by
  have located := (located_of_read ⟨options, name, delimiters, source⟩ success).root
  have located' := (located_of_read ⟨options', name', delimiters', source'⟩ success').root
  obtain ⟨value, shown, _⟩ := Report.ofNode_isJson template.root located
  obtain ⟨value', shown', _⟩ := Report.ofNode_isJson template'.root located'
  refine ⟨value, value', shown, shown', fun agrees => ?_⟩
  exact Report.isKnown_of_told template.root (Node.Located.told _ located)
    (Node.Located.told _ located') shown shown' agrees

/-- How the reports and the trees of two sources compare: whether the reports are equal,
whether they are equal apart from lines and columns, and whether the trees are the
same. -/
def compared? (source source' : Text) : Option (Bool × Bool × Bool) := do
  let template ← (read {} [] .braces source).result.toOption
  let template' ← (read {} [] .braces source').result.toOption
  let value ← (Report.ofNode template.root).toOption
  let value' ← (Report.ofNode template'.root).toOption
  return (value.same value', value.withoutPlaces.same value'.withoutPlaces,
    template.root.same template'.root)

theorem exists_of_compared?
    {source source' : Text}
    {equal agree same : Bool}
    (compared : compared? source source' = some (equal, agree, same)) :
    ∃ template template' value value',
      (read {} [] .braces source).result = .ok template ∧
      (read {} [] .braces source').result = .ok template' ∧
      Report.ofNode template.root = .ok value ∧ Report.ofNode template'.root = .ok value' ∧
      value.same value' = equal ∧ value.withoutPlaces.same value'.withoutPlaces = agree ∧
      template.root.same template'.root = same := by
  simp only [compared?, Option.bind_eq_bind, Option.bind_eq_some_iff, Reading.toOption_eq_some,
    Option.pure_def, Option.some.injEq, Prod.mk.injEq] at compared
  obtain ⟨template, success, template', success', value, shown, value', shown', equal, agree,
    same⟩ := compared
  exact ⟨template, template', value, value', success, success', shown, shown', equal, agree, same⟩

/-- A selection with a path, a number and a filter. -/
def spacedSource : Text :=
  Text.of "\x7b% case a.b %\x7d\x7b% when 1.50 %\x7d\x7b\x7b y | f \x7d\x7d\x7b% endcase %\x7d"

/-- The same template with fewer spaces, behind a comment. -/
def denseSource : Text :=
  Text.of "\x7b##\x7d\x7b%case a.b%\x7d\x7b%when 1.50%\x7d\x7b\x7by|f\x7d\x7d\x7b%endcase%\x7d"

/-- Spaces and comments change nothing in a report but lines and columns. -/
theorem reports_agree_of_spaces :
    ∃ template template' value value',
      (read {} [] .braces spacedSource).result = .ok template ∧
      (read {} [] .braces denseSource).result = .ok template' ∧
      Report.ofNode template.root = .ok value ∧ Report.ofNode template'.root = .ok value' ∧
      value.same value' = false ∧ value.withoutPlaces.same value'.withoutPlaces = true ∧
      template.root.worded.same template'.root.worded = true := by
  have compared : compared? spacedSource denseSource = some (false, true, true) := by
    decide +kernel
  obtain ⟨template, template', value, value', success, success', shown, shown', differ, agree, _⟩ :=
    exists_of_compared? compared
  obtain ⟨_, _, reported, reported', known⟩ := same_worded_of_reports_agree success success'
  cases shown.symm.trans reported
  cases shown'.symm.trans reported'
  exact ⟨template, template', value, value', success, success', shown, shown', differ, agree,
    known agree⟩

/-- A pattern that is a number and a pattern that is the text of that number are reported
alike. -/
theorem reports_agree_of_number_and_text_patterns :
    ∃ template template' value value',
      (read {} [] .braces (Text.of
        "\x7b% case x %\x7d\x7b% when 1 %\x7da\x7b% endcase %\x7d")).result = .ok template ∧
      (read {} [] .braces (Text.of
        "\x7b% case x %\x7d\x7b% when \"1\" %\x7da\x7b% endcase %\x7d")).result = .ok template' ∧
      Report.ofNode template.root = .ok value ∧ Report.ofNode template'.root = .ok value' ∧
      value.withoutPlaces.same value'.withoutPlaces = true ∧
      template.root.same template'.root = false := by
  have compared : compared?
      (Text.of "\x7b% case x %\x7d\x7b% when 1 %\x7da\x7b% endcase %\x7d")
      (Text.of "\x7b% case x %\x7d\x7b% when \"1\" %\x7da\x7b% endcase %\x7d") =
        some (false, true, false) := by
    decide +kernel
  obtain ⟨template, template', value, value', success, success', shown, shown', _, agree, differ⟩ :=
    exists_of_compared? compared
  exact ⟨template, template', value, value', success, success', shown, shown', agree, differ⟩

end Template

end Stencil
