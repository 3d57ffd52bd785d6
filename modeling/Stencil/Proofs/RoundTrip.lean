import Stencil.Proofs.Acceptance
import Stencil.Proofs.Printer.Document

/-!
# Writing a template and reading it

Reading what was written gives the tree back, whatever the layout: the result
has the same constructors, names, texts and values in the same order, and differs
in positions only.  This holds for both presets of delimiters and for every tree
that a template can have, as long as its text does not begin a region and it is
not nested too deeply.
-/

namespace Stencil

namespace Template

open Document

/-- The source of a tree is read to that tree. -/
theorem read_nodeText
    (layout : Layout)
    (delimiters : Delimiters)
    (preset : delimiters = .braces ∨ delimiters = .alternate)
    (limit : Int)
    (name : Text)
    (tree : Node)
    (template : tree.IsTemplate delimiters .document)
    (nested : (layout.nodeLevels tree + 1 : Int) ≤ limit) :
    ∃ result, (read ⟨.standard, limit, Kind.all⟩ name delimiters
      (layout.nodeText delimiters tree)).result = .ok result ∧ result.root.same tree = true := by
  have legible : delimiters.Legible := by
    rcases preset with rfl | rfl
    · exact Delimiters.legible_braces
    · exact Delimiters.legible_alternate
  have spells : (initial name delimiters (layout.nodeText delimiters tree)).cursor.Spells
      (layout.nodeText delimiters tree) _ :=
    Cursor.spells_forward (List.append_nil _).symm
  have ended : (Cursor.forward (layout.nodeText delimiters tree).length
      (initial name delimiters (layout.nodeText delimiters tree)).cursor).rest = [] :=
    Cursor.rest_forward_of_append (List.append_nil _).symm
  have recovers : Recovers (grammarFor ⟨.standard, limit, Kind.all⟩
      (layout.nodeText delimiters tree)) layout delimiters .document tree :=
    .of_isTemplate layout rfl rfl legible template
  obtain ⟨root, final, ⟨_, stands⟩, ⟨segments, steps, derives, gapless⟩, same⟩ :=
    recovers (Nat.le_refl _) rfl spells (.inl ended)
  refine ⟨⟨root, final.includes⟩, Arises.read_eq_ok ⟨steps, ?_, derives, ?_, ?_, rfl⟩, same⟩
  · rw [Cursor.isAtEnd, stands, ended]
    rfl
  · simpa [gapsAreBlank] using gapless []
  · exact_mod_cast nested

/-- A layout with dots that touch their names, and with few parentheses and
escapes. -/
def plainLayout : Layout :=
  ⟨[], rfl, false, .sparing⟩

/-- A name that stands nowhere. -/
def nameOf (name : String) : Identifier :=
  ⟨.synthetic [], Text.of name⟩

/-- A tree with all that a template can hold. -/
def letter : Node :=
  let origin := Position.synthetic []
  let customer : Node := .reference ⟨⟨nameOf "order", [nameOf "customer"]⟩, origin⟩
  .sequence origin [
    .text origin (Text.of "Dear "),
    .apply origin (.function origin (nameOf "title")) customer,
    .loop origin (nameOf "item") ⟨⟨nameOf "order", [nameOf "items"]⟩, origin⟩
      (.apply origin (.apply origin (.function origin (nameOf "+"))
        (.reference ⟨⟨nameOf "item", []⟩, origin⟩))
        (.literal origin (.number ⟨false, 150, -2⟩)))
      (some (.sequence origin [])),
    .selection origin
      (.apply origin (.function origin (nameOf "!")) customer) [
        (.literal (.boolean true), .text origin (Text.of "none")),
        (.wildcard, .inclusion origin (Text.of "\x7d\x7d \"") (some customer))],
    .binding origin (nameOf "x") (.literal origin (.text (Text.of "%\x7d\n")))
      (.reference ⟨⟨nameOf "x", []⟩, origin⟩)]

theorem isTemplate_letter : letter.IsTemplate .braces .document := by
  have isName : ∀ name ∈ ["order", "customer", "item", "items", "title", "x"],
      (nameOf name).name.IsName := by
    decide
  have customer : Node.IsExpression
      (.reference ⟨⟨nameOf "order", [nameOf "customer"]⟩, .synthetic []⟩) :=
    .reference (List.forall_mem_cons.2 ⟨isName "order" (by decide),
      List.forall_mem_cons.2 ⟨isName "customer" (by decide), nofun⟩⟩)
  have single : ∀ name ∈ ["item", "x"],
      Node.IsExpression (.reference ⟨⟨nameOf name, []⟩, .synthetic []⟩) := by
    intro name member
    refine .reference (List.forall_mem_cons.2 ⟨isName name ?_, nofun⟩)
    revert name
    decide
  have plain : ∀ content ∈ ["Dear ", "none"], ∀ point ∈ Text.of content,
      Delimiters.braces.begins point = false := by
    intro content member point
    have checked : (["Dear ", "none"].all fun content => (Text.of content).all fun point =>
        !Delimiters.braces.begins point) = true := by
      decide
    simpa using List.all_eq_true.1 (List.all_eq_true.1 checked content member) point
  refine .sequence (by decide) ?_ rfl
  refine List.forall_mem_cons.2 ⟨?_, List.forall_mem_cons.2 ⟨?_, List.forall_mem_cons.2 ⟨?_,
    List.forall_mem_cons.2 ⟨?_, List.forall_mem_cons.2 ⟨?_, nofun⟩⟩⟩⟩⟩
  · exact .text (by decide) (plain "Dear " (by decide))
  · exact .insertion (.filter (isName "title" (by decide)) customer)
  · refine .loop (isName "item" (by decide)) ?_ (.single (.insertion ?_)) ?_
    · exact List.forall_mem_cons.2 ⟨isName "order" (by decide),
        List.forall_mem_cons.2 ⟨isName "items" (by decide), nofun⟩⟩
    · have member : Operator.leftBinary "+" 5 ∈ OperatorTable.standard := by decide
      exact .binary member rfl rfl (single "item" (by decide)) (.literal ⟨rfl, by decide⟩)
    · rintro other ⟨⟩
      exact .sequence (by decide) nofun rfl
  · refine .selection (.prefixed (by decide) customer) ?_ ?_
    · exact List.forall_mem_cons.2 ⟨.literal trivial, List.forall_mem_cons.2 ⟨.wildcard, nofun⟩⟩
    · refine List.forall_mem_cons.2 ⟨.single (.text (by decide) (plain "none" (by decide))),
        List.forall_mem_cons.2 ⟨.single (.inclusion ?_), nofun⟩⟩
      rintro value ⟨⟩
      exact customer
  · exact .binding (isName "x" (by decide)) (.literal trivial)
      (.single (.insertion (single "x" (by decide))))

/-- The letter is read back from its source. -/
theorem read_nodeText_letter :
    letter.IsTemplate .braces .document ∧
      ∃ result, (read ⟨.standard, 100, Kind.all⟩ (Text.of "letter") .braces
        (plainLayout.nodeText .braces letter)).result = .ok result ∧
        result.root.same letter = true :=
  ⟨isTemplate_letter, read_nodeText plainLayout .braces (.inl rfl) 100 (Text.of "letter") letter
    isTemplate_letter (by decide)⟩

end Template

end Stencil
