import Stencil.Proofs.Structure.Completeness
import Stencil.Proofs.Structure.Soundness

/-!
# Which sources are templates

Reading a source with nested rules comes to the same as cutting it into segments
first and matching the tags afterwards.  The main statement is that a source is
read to a template exactly if it can be cut into segments up to its end, the
segments can be derived from a document, the gaps behind scrutinees are blank,
and the levels of the derivation stay within the limit; the tree is the one of
the derivation.
-/

namespace Stencil

namespace Template

open Document

/-- The state before a source. -/
def initial (name : Text) (delimiters : Delimiters) (source : Text) : State :=
  ⟨Cursor.start name source, delimiters, [], []⟩

/-- A source is cut into segments, and the segments are the document of a
template. -/
structure Arises
    (options : Options)
    (name : Text)
    (delimiters : Delimiters)
    (source : Text)
    (template : Template)
    (segments : List Segment)
    (levels : Nat)
    (final : State) : Prop where
  /-- The source is cut from left to right. -/
  steps : Steps (grammarFor options source) (initial name delimiters source) segments final
  /-- Nothing is left. -/
  ended : final.cursor.isAtEnd = true
  /-- The tags match, and the tree is the one that they stand for. -/
  derives : Derives (.document (Cursor.start name source).position template.root) levels segments
  /-- Behind a scrutinee there is nothing but blanks and comments up to the next tag. -/
  gaps : gapsAreBlank segments = true
  /-- Documents, parentheses and prefix operators are not nested too deeply. -/
  nested : (levels : Int) ≤ options.limit
  /-- The includes are those that were met on the way. -/
  includes : final.includes = template.includes

/-- A document up to the end of the source is the whole source. -/
theorem whole_of_document
    {options : Options}
    {name source : Text}
    {delimiters : Delimiters}
    {root : Node}
    {final : State}
    (read : document (grammarFor options source) (callsFor source) 0
      (initial name delimiters source) = .ok root final)
    (atEnd : final.cursor.isAtEnd = true) :
    whole (grammarFor options source) (callsFor source) name (initial name delimiters source) =
      .ok ⟨root, final.includes⟩
        { final with journal := .parsed name final.includes.length :: final.journal } := by
  simp only [whole, Rule.bind_of_ok read, Rule.get_bind, atEnd, if_true, Rule.log_bind]
  rfl

/-- Reading a template is reading a document up to the end of the source. -/
theorem read_eq_ok_iff_document
    {options : Options}
    {name source : Text}
    {delimiters : Delimiters}
    {template : Template} :
    (read options name delimiters source).result = .ok template ↔
      ∃ final, document (grammarFor options source) (callsFor source) 0
          (initial name delimiters source) = .ok template.root final ∧
        final.cursor.isAtEnd = true ∧ final.includes = template.includes := by
  have opened : (read options name delimiters source).result = .ok template ↔
      ∃ final, whole (grammarFor options source) (callsFor source) name
        (initial name delimiters source) = .ok template final := by
    simp only [read, initial]
    cases whole (grammarFor options source) (callsFor source) name
      ⟨Cursor.start name source, delimiters, [], []⟩ <;> simp
  rw [opened]
  constructor
  · rintro ⟨final, success⟩
    simp only [whole, Rule.bind_eq_ok, Rule.get_bind] at success
    obtain ⟨root, middle, read, success⟩ := success
    cases atEnd : middle.cursor.isAtEnd with
    | true =>
      simp only [atEnd, if_true, Rule.log_bind, Rule.pure_eq_ok] at success
      obtain ⟨rfl, rfl⟩ := success
      exact ⟨middle, read, atEnd, rfl⟩
    | false => simp [atEnd] at success
  · rintro ⟨final, read, atEnd, includes⟩
    have succeeds := whole_of_document read atEnd
    rw [includes] at succeeds
    exact ⟨_, succeeds⟩

/-- The delimiters at the end are those behind the document. -/
theorem delimiters_of_document
    {options : Options}
    {name source : Text}
    {delimiters : Delimiters}
    {root : Node}
    {final : State}
    (read : document (grammarFor options source) (callsFor source) 0
      (initial name delimiters source) = .ok root final)
    (atEnd : final.cursor.isAtEnd = true) :
    (Template.read options name delimiters source).delimiters = final.delimiters := by
  have succeeds := whole_of_document read atEnd
  rw [initial] at succeeds
  simp only [Template.read, succeeds]

/-- What is read can be cut into segments and derived. -/
theorem arises_of_read
    {options : Options}
    {name source : Text}
    {delimiters : Delimiters}
    {template : Template}
    (success : (read options name delimiters source).result = .ok template) :
    ∃ segments levels final, Arises options name delimiters source template segments levels
      final := by
  obtain ⟨final, read, atEnd, includes⟩ := read_eq_ok_iff_document.1 success
  obtain ⟨segments, steps, derives, gapless⟩ :=
    (Explained.of_rules (grammarFor options source) (callsFor source)).1 read
  have blank : gapsAreBlank segments = true := by
    simpa [gapsAreBlank] using gapless []
  -- A document was opened, so the limit is positive and no level is lost.
  have nested : ((grammarFor options source).levelsBelow 0 : Int) ≤ options.limit := by
    have positive := derives.levels_pos
    simp only [Grammar.levelsBelow, grammarFor] at positive ⊢
    omega
  exact ⟨segments, _, final, steps, atEnd, derives, blank, nested, includes⟩

/-- What can be cut into segments and derived is a document up to the last state. -/
theorem Arises.document_eq_ok
    {options : Options}
    {name source : Text}
    {delimiters : Delimiters}
    {template : Template}
    {segments : List Segment}
    {levels : Nat}
    {final : State}
    (arises : Arises options name delimiters source template segments levels final) :
    document (grammarFor options source) (callsFor source) 0 (initial name delimiters source) =
      .ok template.root final := by
  have allowed : ((0 : Nat) + levels : Int) ≤ (grammarFor options source).limit := by
    have := arises.nested
    simp only [grammarFor]
    omega
  have enoughTurns : (initial name delimiters source).cursor.rest.length <
      (grammarFor options source).turns := Nat.lt_succ_self _
  have enoughCalls : 4 * (initial name delimiters source).cursor.rest.length + 8 ≤
      callsFor source := by
    simp only [initial, Cursor.start, callsFor]
    omega
  exact arises.derives.succeeds arises.steps arises.gaps (callsFor source) 0 allowed enoughTurns
    enoughCalls rfl (.inl arises.ended)

/-- What can be cut into segments and derived is read. -/
theorem Arises.read_eq_ok
    {options : Options}
    {name source : Text}
    {delimiters : Delimiters}
    {template : Template}
    {segments : List Segment}
    {levels : Nat}
    {final : State}
    (arises : Arises options name delimiters source template segments levels final) :
    (read options name delimiters source).result = .ok template :=
  read_eq_ok_iff_document.2 ⟨final, arises.document_eq_ok, arises.ended, arises.includes⟩

/-- A source is read to a template exactly if it can be cut into segments that
are derived from a document with the tree of the template. -/
theorem read_eq_ok_iff_arises
    (options : Options)
    (name : Text)
    (delimiters : Delimiters)
    (source : Text)
    (template : Template) :
    (read options name delimiters source).result = .ok template ↔
      ∃ segments levels final, Arises options name delimiters source template segments levels
        final :=
  ⟨arises_of_read, fun ⟨_, _, _, arises⟩ => arises.read_eq_ok⟩

end Template

end Stencil
