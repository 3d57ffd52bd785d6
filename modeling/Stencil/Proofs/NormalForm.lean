import Stencil.Report
import Stencil.Proofs.NormalForm.Selection

/-!
# Templates are in normal form

The main statement is that the tree of every template is in normal form, that its
selections come from the tags of conditions and scrutinees in the order of the
source, a condition being a selection between true and false, and that a tree in
normal form can be reported.
-/

namespace Stencil

/-! ## Reports of normal forms -/

namespace Report

/-- Trees that are all reported are reported as a list. -/
theorem exists_ofParts
    {parts : List Node}
    (each : ∀ part ∈ parts, ∃ value, ofNode part = .ok value) :
    ∃ values, ofParts parts = .ok values := by
  induction parts with
  | nil => exact ⟨[], by rw [ofParts]⟩
  | cons part rest hypothesis =>
    rw [List.forall_mem_cons] at each
    obtain ⟨first, shown⟩ := each.1
    obtain ⟨others, othersShown⟩ := hypothesis each.2
    exact ⟨first :: others, by rw [ofParts, shown, othersShown]; rfl⟩

theorem exists_ofOptional
    {node : Option Node}
    (each : ∀ part ∈ node, ∃ value, ofNode part = .ok value) :
    ∃ value, ofOptional node = .ok value := by
  cases node with
  | none => exact ⟨_, by rw [ofOptional]⟩
  | some node =>
    obtain ⟨value, shown⟩ := each node rfl
    exact ⟨value, by rw [ofOptional, shown]⟩

theorem exists_ofPattern
    {pattern : Pattern}
    (normal : pattern.IsNormal) :
    ∃ value, ofPattern pattern = .ok value := by
  cases pattern with
  | bare value => exact absurd normal id
  | _ => exact ⟨_, rfl⟩

theorem exists_ofAlternatives
    {alternatives : List (Pattern × Node)}
    (patterns : ∀ alternative ∈ alternatives, alternative.1.IsNormal)
    (bodies : ∀ alternative ∈ alternatives, ∃ value, ofNode alternative.2 = .ok value) :
    ∃ values, ofAlternatives alternatives = .ok values := by
  induction alternatives with
  | nil => exact ⟨[], by rw [ofAlternatives]⟩
  | cons alternative rest hypothesis =>
    rw [List.forall_mem_cons] at patterns bodies
    obtain ⟨pattern, patternShown⟩ := exists_ofPattern patterns.1
    obtain ⟨body, shown⟩ := bodies.1
    obtain ⟨others, othersShown⟩ := hypothesis patterns.2 bodies.2
    exact ⟨_, by rw [ofAlternatives, patternShown, shown, othersShown]; rfl⟩

end Report

namespace Node

variable {table : OperatorTable} {node : Node}

open Report

theorem IsPure.exists_ofNode
    (isPure : node.IsPure table) :
    ∃ value, ofNode node = .ok value := by
  induction isPure with
  | literal => exact ⟨_, by rw [ofNode]⟩
  | reference named => exact ⟨_, by rw [ofNode]⟩
  | call known notBinary given hypothesis =>
    obtain ⟨argument, shown⟩ := hypothesis
    exact ⟨_, by rw [ofNode, ofNode, shown]; rfl⟩
  | binary known first second firstHypothesis secondHypothesis =>
    obtain ⟨left, leftShown⟩ := firstHypothesis
    obtain ⟨right, rightShown⟩ := secondHypothesis
    exact ⟨_, by rw [ofNode, ofNode, ofNode, leftShown, rightShown]; rfl⟩

/-- A tree in normal form can be reported. -/
theorem IsNormal.exists_ofNode
    (normal : node.IsNormal table) :
    ∃ value, ofNode node = .ok value := by
  induction normal with
  | text notEmpty => exact ⟨_, by rw [ofNode]⟩
  | expression isPure => exact isPure.exists_ofNode
  | selection compared patterns bodies hypothesis =>
    obtain ⟨scrutinee, shown⟩ := compared.exists_ofNode
    obtain ⟨alternatives, alternativesShown⟩ := exists_ofAlternatives patterns hypothesis
    exact ⟨_, by rw [ofNode, shown, alternativesShown]; rfl⟩
  | loop named iterated each none eachHypothesis noneHypothesis =>
    obtain ⟨body, shown⟩ := eachHypothesis
    obtain ⟨otherwise, otherwiseShown⟩ := exists_ofOptional noneHypothesis
    exact ⟨_, by rw [ofNode, shown, otherwiseShown]; rfl⟩
  | binding named bound scope hypothesis =>
    obtain ⟨value, valueShown⟩ := bound.exists_ofNode
    obtain ⟨body, shown⟩ := hypothesis
    exact ⟨_, by rw [ofNode, valueShown, shown]; rfl⟩
  | inclusion given =>
    obtain ⟨context, shown⟩ := exists_ofOptional fun value member =>
      (given value member).exists_ofNode
    exact ⟨_, by rw [ofNode, shown]; rfl⟩
  | sequence several flat separate each hypothesis =>
    obtain ⟨parts, shown⟩ := exists_ofParts hypothesis
    exact ⟨_, by rw [ofNode, shown]; rfl⟩

end Node

/-! ## Templates -/

namespace Template

open Document

/-- The tree of a template is in normal form, its selections come from the tags of
conditions and scrutinees, and it can be reported. -/
theorem read_isNormal
    (options : Options)
    (name : Text)
    (delimiters : Delimiters)
    (source : Text)
    (template : Template)
    (lexical : options.operators.IsLexical)
    (success : (read options name delimiters source).result = .ok template) :
    template.root.IsNormal options.operators ∧
      (∃ segments levels final,
        Arises options name delimiters source template segments levels final ∧
        List.Forall₂ Opener.Opens (openers segments) template.root.selections) ∧
      ∃ value, Report.ofNode template.root = .ok value := by
  obtain ⟨segments, levels, final, arises⟩ := arises_of_read success
  have inSegments : ∀ segment ∈ segments, segment.IsNormal options.operators :=
    arises.steps.isNormal lexical
  have normal : template.root.IsNormal options.operators := arises.derives.isNormal inSegments
  have opened : List.Forall₂ Opener.Opens (openers segments) template.root.selections :=
    arises.derives.opens inSegments
  exact ⟨normal, ⟨segments, levels, final, arises, opened⟩, normal.exists_ofNode⟩

/-- Text around a comment, and two conditions with a selection in the second body. -/
def nestedTests : Text :=
  Text.of ("x\x7b# #\x7dy\x7b% if !a %\x7d\x7b\x7b b.c | f \x7d\x7d\x7b% elif 1 < d %\x7d" ++
    "\x7b% case e %\x7d\x7b% when \"g\" %\x7d\x7b% endcase %\x7d\x7b% endif %\x7d")

/-- The selections of two conditions and a scrutinee, in the order of their tags. -/
theorem read_isNormal_of_nestedTests :
    ∃ template,
      OperatorTable.standard.IsLexical ∧
      (read {} (Text.of "t") .braces nestedTests).result = .ok template ∧
      template.root.IsNormal .standard ∧
      (∃ value, Report.ofNode template.root = .ok value) ∧
      template.root.selections.map Prod.snd =
        [[Node.truth true, Node.truth false], [Node.truth true, Node.truth false],
          [.literal (.text (Text.of "g"))]] := by
  have evaluated : (read {} (Text.of "t") .braces nestedTests).result.toOption.map
      (fun template => template.root.selections.map Prod.snd) =
        some [[Node.truth true, Node.truth false], [Node.truth true, Node.truth false],
          [.literal (.text (Text.of "g"))]] := by
    decide +kernel
  have lexical : OperatorTable.standard.IsLexical := by
    decide
  obtain ⟨template, read, patterns⟩ := Option.map_eq_some_iff.1 evaluated
  have success := Reading.toOption_eq_some.1 read
  obtain ⟨normal, _, reported⟩ :=
    read_isNormal {} (Text.of "t") .braces nestedTests template lexical success
  exact ⟨template, lexical, success, normal, reported, patterns⟩

end Template

end Stencil
