import Mathlib.Data.Nat.Find
import Mathlib.Order.Bounds.Basic
import Stencil.Proofs.Allowance.Document
import Stencil.Proofs.Reporting

/-!
# The limit on nesting

The limit only ever rejects.  As long as a source is not nested too deeply for a
limit, a higher one changes nothing: not the template, nor the diagnostic, nor the
delimiters at the end.  A source that is a template at all has a depth, the least
number of levels that its documents, parentheses and prefix operators fit into, and
exactly the limits below it reject the source.
-/

namespace Stencil

/-! ## The grammar does not depend on the limit -/

namespace Region

theorem Names.within
    {region : Region}
    {cursor finish : Cursor}
    {others : List Identifier}
    (names : region.Names cursor others finish)
    (limit : Int) :
    (region.within limit).Names cursor others finish := by
  induction names with
  | closed done => exact .closed done
  | other next noDot => exact .other next noDot
  | dot next isDot name rest hypothesis => exact .dot next isDot name hypothesis

theorem Path.within
    {region : Region}
    {cursor finish : Cursor}
    {path : Variable}
    (stands : region.Path cursor path finish)
    (limit : Int) :
    (region.within limit).Path cursor path finish := by
  obtain ⟨middle, first, others⟩ := stands
  exact ⟨middle, first, others.within limit⟩

theorem Matches.within
    {region : Region}
    {cursor finish : Cursor}
    {pattern : Pattern}
    (matched : region.Matches cursor pattern finish)
    (limit : Int) :
    (region.within limit).Matches cursor pattern finish := by
  cases matched with
  | wildcard next isWildcard => exact .wildcard next isWildcard
  | literal next noWildcard found => exact .literal next noWildcard found
  | path next noWildcard isName noLiteral found =>
    exact .path next noWildcard isName noLiteral (found.within limit)

theorem Reads.within
    {region : Region}
    {goal : Goal}
    {levels : Nat}
    {cursor finish : Cursor}
    {node : Node}
    (reads : region.Reads goal levels cursor node finish)
    (limit : Int) :
    (region.within limit).Reads goal levels cursor node finish := by
  induction reads with
  | expression first rest stops ofFirst ofRest => exact .expression ofFirst ofRest stops
  | none => exact .none
  | filter meets strong role named rest hypothesis =>
    exact .filter meets strong role named hypothesis
  | binary meets strong role operand rest ofOperand ofRest =>
    exact .binary meets strong role ofOperand ofRest
  | operand next bare rest hypothesis => exact .operand next bare hypothesis
  | prefixed next before rest hypothesis => exact .prefixed next before hypothesis
  | parenthesised next opening inner closing hypothesis =>
    exact .parenthesised next opening hypothesis closing
  | literal next noOpening found => exact .literal next noOpening found
  | reference next isName noLiteral found =>
    exact .reference next isName noLiteral (found.within limit)

end Region

namespace Document

theorem Tag.Holds.within
    {region : Region}
    {tag : Tag}
    {cursor finish : Cursor}
    (holds : tag.Holds region cursor finish)
    (limit : Int) :
    tag.Holds (region.within limit) cursor finish := by
  cases holds with
  | condition reads => exact .condition (reads.within limit)
  | further reads => exact .further (reads.within limit)
  | scrutinee reads => exact .scrutinee (reads.within limit)
  | alternative matched => exact .alternative (matched.within limit)
  | loop named joined iterated => exact .loop named joined (iterated.within limit)
  | binding named signed reads => exact .binding named signed (reads.within limit)
  | inclusion keyed alone => exact .inclusion keyed alone
  | inclusionWith keyed joined reads => exact .inclusionWith keyed joined (reads.within limit)
  | marker => exact .marker

theorem Changes.within
    {region : Region}
    {changes result : List (Kind × Value)}
    {cursor finish : Cursor}
    (listed : Changes region changes cursor result finish)
    (limit : Int) :
    Changes (region.within limit) changes cursor result finish := by
  induction listed with
  | last field done => exact .last field done
  | more field notDone separated rest hypothesis =>
    exact .more field notDone separated hypothesis

theorem Step.within
    {grammar : Grammar}
    {state after : State}
    {segment : Segment}
    (step : Step grammar state segment after)
    (limit : Int) :
    Step (grammar.within limit) state segment after := by
  cases step with
  | text unread noRegion => exact .text unread noRegion
  | insertion opens reads closes => exact .insertion opens (reads.within limit) closes
  | comment opens skipped => exact .comment opens skipped
  | pragma opens listed closes changed =>
    exact .pragma opens (listed.within limit) closes changed
  | tag opens entered holds closes => exact .tag opens entered (holds.within limit) closes

theorem Steps.within
    {grammar : Grammar}
    {state after : State}
    {segments : List Segment}
    (steps : Steps grammar state segments after)
    (limit : Int) :
    Steps (grammar.within limit) state segments after := by
  induction steps with
  | nil => exact .nil
  | cons step _ hypothesis => exact .cons (step.within limit) hypothesis

end Document

namespace Template

open Document

/-! ## The depth of a source -/

theorem Arises.within
    {options : Options}
    {name source : Text}
    {delimiters : Delimiters}
    {template : Template}
    {segments : List Segment}
    {levels : Nat}
    {final : State}
    (arises : Arises options name delimiters source template segments levels final)
    {limit : Int}
    (allowed : (levels : Int) ≤ limit) :
    Arises { options with limit := limit } name delimiters source template segments levels
      final where
  steps := arises.steps.within limit
  ended := arises.ended
  derives := arises.derives
  gaps := arises.gaps
  nested := allowed
  includes := arises.includes

/-- A source is a template whose documents, parentheses and prefix operators fit into
a number of levels: never are more of them open at the same time. -/
def FitsInto
    (options : Options)
    (name : Text)
    (delimiters : Delimiters)
    (source : Text)
    (levels : Nat) : Prop :=
  ∃ template segments final,
    Arises { options with limit := levels } name delimiters source template segments levels final

/-- A source that is read fits into no more levels than the limit allows. -/
theorem fitsInto_of_read
    {options : Options}
    {name source : Text}
    {delimiters : Delimiters}
    {template : Template}
    (success : (read options name delimiters source).result = .ok template) :
    ∃ levels : Nat, (levels : Int) ≤ options.limit ∧
      FitsInto options name delimiters source levels := by
  obtain ⟨segments, levels, final, arises⟩ := arises_of_read success
  exact ⟨levels, arises.nested, template, segments, final, arises.within (le_refl _)⟩

/-- A source that fits into a number of levels is read under every limit that allows
for them. -/
theorem FitsInto.read_eq_ok
    {options : Options}
    {name source : Text}
    {delimiters : Delimiters}
    {levels : Nat}
    (fits : FitsInto options name delimiters source levels)
    {limit : Int}
    (allowed : (levels : Int) ≤ limit) :
    ∃ template, (read { options with limit := limit } name delimiters source).result =
      .ok template := by
  obtain ⟨template, segments, final, arises⟩ := fits
  exact ⟨template, (arises.within allowed).read_eq_ok⟩

/-! ## Two limits -/

/-- Reading never runs out of open rules. -/
theorem read_ne_exhausted
    (options : Options)
    (name : Text)
    (delimiters : Delimiters)
    (source : Text) :
    (read options name delimiters source).result ≠ .error .exhausted :=
  fun failure => justified_of_read ⟨options, name, delimiters, source⟩ failure

/-- A source is nested too deeply for a limit. -/
def IsTooDeep
    (options : Options)
    (name : Text)
    (delimiters : Delimiters)
    (source : Text) : Prop :=
  ∃ position, (read options name delimiters source).result =
    .error (.diagnosed ⟨.nestedTooDeeply options.limit, position⟩)

/-- A higher limit keeps the outcome, unless the source is nested too deeply for the
lower one. -/
theorem read_eq_or_isTooDeep
    {options : Options}
    {higher : Int}
    (raised : options.limit ≤ higher)
    (name : Text)
    (delimiters : Delimiters)
    (source : Text) :
    read { options with limit := higher } name delimiters source =
        read options name delimiters source ∨
      IsTooDeep options name delimiters source := by
  have kept := readWithin_kept raised (le_refl (callsFor source)) name delimiters source
  rw [readWithin_callsFor, readWithin_callsFor] at kept
  rcases kept with same | ⟨halt, failed, rfl | ⟨_, position, rfl⟩⟩
  · exact .inl same
  · exact absurd failed (read_ne_exhausted options name delimiters source)
  · exact .inr ⟨position, failed⟩

/-- A limit that the source does not fit into rejects it, if some limit accepts it. -/
theorem isTooDeep_of_not_fitsInto
    {options : Options}
    {name source : Text}
    {delimiters : Delimiters}
    {levels : Nat}
    (fits : FitsInto options name delimiters source levels)
    (least : ∀ fewer, FitsInto options name delimiters source fewer → levels ≤ fewer)
    {limit : Int}
    (low : limit < levels) :
    IsTooDeep { options with limit := limit } name delimiters source := by
  obtain ⟨template, success⟩ := fits.read_eq_ok (le_refl (levels : Int))
  have lower : ({ options with limit := limit } : Options).limit ≤ (levels : Int) := le_of_lt low
  rcases read_eq_or_isTooDeep lower name delimiters source with same | deep
  · -- The same template under the lower limit would fit into fewer levels.
    have accepted := (congrArg Outcome.result same).symm.trans success
    obtain ⟨fewer, allowed, fitsToo⟩ := fitsInto_of_read accepted
    have atLeast := least fewer fitsToo
    dsimp only at allowed
    omega
  · exact deep

/-- The limit only ever rejects, and exactly.  Unless a source is nested too deeply for
a limit, every higher limit gives the same outcome.  A source that some limit accepts
has a least number of levels that it fits into; the limits from there on give the same
outcome, and all others find it nested too deeply. -/
theorem read_of_limit
    (options : Options)
    (name : Text)
    (delimiters : Delimiters)
    (source : Text) :
    (∀ higher, options.limit ≤ higher → ¬ IsTooDeep options name delimiters source →
      read { options with limit := higher } name delimiters source =
        read options name delimiters source) ∧
    ∀ template, (read options name delimiters source).result = .ok template →
      ∃ levels : Nat, IsLeast {levels | FitsInto options name delimiters source levels} levels ∧
        ∀ limit : Int,
          (levels ≤ limit →
            read { options with limit := limit } name delimiters source =
              read options name delimiters source) ∧
          (limit < levels →
            IsTooDeep { options with limit := limit } name delimiters source) := by
  classical
  constructor
  · intro higher raised shallow
    exact (read_eq_or_isTooDeep raised name delimiters source).resolve_right shallow
  · intro template success
    obtain ⟨enough, within, fits⟩ := fitsInto_of_read success
    have some : ∃ levels, FitsInto options name delimiters source levels := ⟨enough, fits⟩
    have least : ∀ fewer, FitsInto options name delimiters source fewer → Nat.find some ≤ fewer :=
      fun fewer => Nat.find_min' some
    refine ⟨Nat.find some, ⟨Nat.find_spec some, least⟩, fun limit => ⟨fun allowed => ?_, ?_⟩⟩
    · -- Both limits are at least the depth, so the lower of the two accepts the source.
      rcases le_total options.limit limit with raised | lowered
      · have shallow : ¬ IsTooDeep options name delimiters source := by
          rintro ⟨position, failure⟩
          cases success.symm.trans failure
        exact (read_eq_or_isTooDeep raised name delimiters source).resolve_right shallow
      · obtain ⟨other, accepted⟩ := (Nat.find_spec some).read_eq_ok allowed
        have shallow : ¬ IsTooDeep { options with limit := limit } name delimiters source := by
          rintro ⟨position, failure⟩
          cases accepted.symm.trans failure
        have same := read_eq_or_isTooDeep
          (show ({ options with limit := limit } : Options).limit ≤ options.limit from lowered)
          name delimiters source
        exact (same.resolve_right shallow).symm
    · exact fun low => isTooDeep_of_not_fitsInto (Nat.find_spec some) least low

/-- Two parentheses inside of a document that stands inside of the first one. -/
def nestedSource : Text :=
  Text.of "\x7b% if !a %\x7d\x7b\x7b ((b)) \x7d\x7d\x7b% endif %\x7d"

/-- The depth of the source is four: that is the lowest limit that accepts it, and the
usual limit gives the same outcome. -/
theorem read_of_limit_of_nestedSource :
    IsLeast {levels | FitsInto { limit := 4 } [] .braces nestedSource levels} 4 ∧
      read {} [] .braces nestedSource = read { limit := 4 } [] .braces nestedSource ∧
      IsTooDeep { limit := 3 } [] .braces nestedSource := by
  have accepted : (read { limit := 4 } [] .braces nestedSource).result.toOption.isSome = true := by
    decide +kernel
  have rejected : (read { limit := 3 } [] .braces nestedSource).result.toOption.isSome = false := by
    decide +kernel
  obtain ⟨template, found⟩ := Option.isSome_iff_exists.1 accepted
  have success := Reading.toOption_eq_some.1 found
  have shallow : ¬ IsTooDeep { limit := 4 } [] .braces nestedSource := by
    rintro ⟨position, failure⟩
    cases success.symm.trans failure
  obtain ⟨higher, exact'⟩ := read_of_limit { limit := 4 } [] .braces nestedSource
  obtain ⟨levels, least, limits⟩ := exact' template success
  have enough : levels ≤ 4 := by
    by_contra deeper
    exact shallow ((limits 4).2 (by omega))
  have needed : 3 < levels := by
    by_contra flat
    have same := (limits 3).1 (by omega)
    rw [same, accepted] at rejected
    cases rejected
  obtain rfl : levels = 4 := by omega
  exact ⟨least, higher 100 (by decide) shallow, (limits 3).2 (by decide)⟩

end Template

end Stencil
