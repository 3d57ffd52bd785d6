import Mathlib.Data.List.Nodup
import Stencil.Proofs.Settings

/-!
# Overrides on top of a preset

Accepted settings give delimiters unless a configured delimiter is empty.  A kind that
is configured has the plain forms of its two elements, and every other kind has the pair
of the preset.  The overrides are a map, so their order does not matter.
-/

namespace Stencil

/-! ## Delimiters by kinds -/

namespace Delimiters

/-- Delimiters are known by the pairs of all kinds. -/
theorem eq_of_pair_eq
    {left right : Delimiters}
    (same : ∀ kind, left.pair kind = right.pair kind) :
    left = right := by
  obtain ⟨pragma, inline, comment, block⟩ := left
  obtain ⟨pragma', inline', comment', block'⟩ := right
  exact (mk.injEq ..).mpr ⟨same .pragma, same .inline, same .comment, same .block⟩

/-- The value of a kind that is listed once. -/
theorem change?_of_mem
    {changes : List (Kind × Value)}
    {kind : Kind}
    {value : Value}
    (single : (changes.map Prod.fst).Nodup)
    (listed : (kind, value) ∈ changes) :
    change? changes kind = some value := by
  induction changes with
  | nil => cases listed
  | cons change changes hypothesis =>
    obtain ⟨known, held⟩ := change
    rw [List.map_cons, List.nodup_cons] at single
    rw [change?_cons]
    rcases List.mem_cons.1 listed with first | later
    · cases first
      rw [change?_eq_none single.1, Option.none_or, if_pos rfl]
    · rw [hypothesis single.2 later, Option.some_or]

end Delimiters

namespace Settings

open Value Delimiters

/-! ## Configured pairs -/

/-- The overrides have a pair of elements for a kind. -/
def Configures
    (entries : List (Value × Value))
    (kind : Kind)
    (opening closing : Value) : Prop :=
  ∃ overrides value, lookup overridesField entries = some (.map overrides) ∧
    (.text kind.name, value) ∈ overrides ∧ HasElements value opening closing

/-- No key of the overrides is listed twice. -/
def OverridesOnce (entries : List (Value × Value)) : Prop :=
  ∀ overrides, lookup overridesField entries = some (.map overrides) →
    (overrides.map Prod.fst).Nodup

/-- Settings that name the same preset and list the same overrides in any order. -/
structure Reorders (entries others : List (Value × Value)) : Prop where
  /-- The field for the preset is the same. -/
  preset : lookup presetField entries = lookup presetField others
  /-- The overrides have the same entries. -/
  overrides : ∃ listed listed', lookup overridesField entries = some (.map listed) ∧
    lookup overridesField others = some (.map listed') ∧ listed.Perm listed'

/-- The settings of a map are accepted and give delimiters. -/
def Gives (entries : List (Value × Value)) (delimiters : Delimiters) : Prop :=
  ∃ settings events, ofMap entries = .ok settings ∧
    settings.delimiters = .ok (delimiters, events)

section Overrides

variable {entries : List (Value × Value)} {overrides : List (Kind × Text × Text)}

/-- The overrides are what is made of the entries. -/
theorem mem_overrides_iff
    (made : ofOverrides entries = .ok overrides)
    (override : Kind × Text × Text) :
    override ∈ overrides ↔ ∃ entry ∈ entries, ofEntry entry.1 entry.2 = .ok override := by
  rw [ofOverrides_eq_ok_iff] at made
  induction made with
  | nil => simp
  | @cons entry first rest others one _ hypothesis =>
    rw [List.mem_cons, hypothesis, List.exists_mem_cons_iff, one, Except.ok.injEq, eq_comm]

/-- The kinds of the overrides are the keys of the entries. -/
theorem map_key_eq
    (made : ofOverrides entries = .ok overrides) :
    entries.map Prod.fst = overrides.map fun override => .text override.1.name := by
  rw [ofOverrides_eq_ok_iff] at made
  induction made with
  | nil => rfl
  | cons one _ hypothesis =>
    obtain ⟨_, _, key, _⟩ := ofEntry_eq_ok_iff.1 one
    rw [List.map_cons, List.map_cons, hypothesis, key]

end Overrides

variable {entries : List (Value × Value)} {settings : Settings}

/-- The overrides of accepted settings are made of the map that stands for them. -/
theorem mem_overrides_iff_configures
    (accepted : ofMap entries = .ok settings)
    (kind : Kind)
    (texts : Text × Text) :
    (kind, texts) ∈ settings.overrides ↔
      ∃ opening closing, Configures entries kind opening closing ∧
        texts = (opening.plain, closing.plain) := by
  obtain ⟨_, _, _, listed, given, made⟩ := ofMap_eq_ok_iff.1 accepted
  rw [mem_overrides_iff made]
  constructor
  · rintro ⟨⟨key, value⟩, member, one⟩
    obtain ⟨opening, closing, rfl, elements, _, _, rfl⟩ := ofEntry_eq_ok_iff.1 one
    rcases overrideEntries_eq_ok_iff.1 given with isMap | ⟨_, rfl⟩
    · have found := overridesValue_eq_map_iff.1 isMap
      exact ⟨opening, closing, ⟨listed, value, found, member, elements⟩, rfl⟩
    · cases member
  · rintro ⟨opening, closing, ⟨overrides, value, found, member, elements⟩, rfl⟩
    have isOverride := (exists_ofMap_iff.1 ⟨settings, accepted⟩).isOverride found member
    obtain ⟨known, first, second, key, others, firstShown, secondShown⟩ := isOverride
    obtain ⟨rfl, rfl⟩ := elements.unique others
    rw [overridesValue_eq_map_iff.2 found, overrideEntries_eq_ok_iff] at given
    have same : overrides = listed := by
      rcases given with isMap | ⟨nothing, rfl⟩
      · exact Value.map.inj isMap
      · exact List.isEmpty_iff.1 nothing
    subst same
    exact ⟨_, member, ofEntry_eq_ok_iff.2 ⟨_, _, rfl, elements, firstShown, secondShown, rfl⟩⟩

/-- No kind is overridden twice. -/
theorem nodup_kinds
    (once : OverridesOnce entries)
    (accepted : ofMap entries = .ok settings) :
    (settings.changes.map Prod.fst).Nodup := by
  obtain ⟨_, _, _, listed, given, made⟩ := ofMap_eq_ok_iff.1 accepted
  have single : (listed.map Prod.fst).Nodup := by
    rcases overrideEntries_eq_ok_iff.1 given with isMap | ⟨_, rfl⟩
    · exact once listed (overridesValue_eq_map_iff.1 isMap)
    · exact List.nodup_nil
  rw [map_key_eq made] at single
  have kinds : settings.changes.map Prod.fst = settings.overrides.map Prod.fst := by
    rw [changes, List.map_map]
    rfl
  rw [kinds]
  have keys : (settings.overrides.map fun override => Value.text override.1.name) =
      (settings.overrides.map Prod.fst).map fun kind => Value.text kind.name := by
    rw [List.map_map]
    rfl
  rw [keys] at single
  exact List.Nodup.of_map _ single

/-- A configured kind is changed to the plain forms of its elements. -/
theorem change?_of_configures
    (once : OverridesOnce entries)
    (accepted : ofMap entries = .ok settings)
    {kind : Kind}
    {opening closing : Value}
    (configured : Configures entries kind opening closing) :
    change? settings.changes kind =
      some (.tuple [.text opening.plain, .text closing.plain]) := by
  refine change?_of_mem (nodup_kinds once accepted) ?_
  have member := (mem_overrides_iff_configures accepted kind _).2 ⟨_, _, configured, rfl⟩
  exact List.mem_map_of_mem member

/-- Only configured kinds are changed. -/
theorem exists_configures_of_change?
    (accepted : ofMap entries = .ok settings)
    {kind : Kind}
    {value : Value}
    (changed : change? settings.changes kind = some value) :
    ∃ opening closing, Configures entries kind opening closing ∧
      value = .tuple [.text opening.plain, .text closing.plain] := by
  rw [Delimiters.change?, Option.map_eq_some_iff] at changed
  obtain ⟨change, found, rfl⟩ := changed
  have isKind := List.find?_some found
  rw [beq_iff_eq] at isKind
  subst isKind
  have member := List.mem_reverse.1 (List.mem_of_find?_eq_some found)
  obtain ⟨⟨kind, texts⟩, override, rfl⟩ := List.mem_map.1 member
  obtain ⟨opening, closing, configured, rfl⟩ :=
    (mem_overrides_iff_configures accepted kind texts).1 override
  exact ⟨opening, closing, configured, rfl⟩

/-! ## Delimiters of settings -/

/-- The delimiters of settings are those of the preset after the changes. -/
theorem exists_delimiters_iff
    {delimiters : Delimiters} :
    (∃ events, settings.delimiters = .ok (delimiters, events)) ↔
      settings.preset.change settings.changes = .ok delimiters := by
  unfold Settings.delimiters
  split
  · rename_i none
    have noChanges : settings.changes = [] := by
      rw [changes, List.isEmpty_iff.1 none]
      rfl
    rw [noChanges]
    constructor
    · rintro ⟨_, given⟩
      cases given
      exact change_eq_ok_iff.2 fun kind => rfl
    · intro changed
      have same := eq_of_pair_eq fun kind => Except.ok.inj (change_eq_ok_iff.1 changed kind)
      exact ⟨[], by rw [same]⟩
  · cases settings.preset.change settings.changes with
    | ok changed => simp
    | error fault => simp

/-- A configured kind has the plain forms of its elements, and every other kind has the
pair of the preset. -/
def HasPair
    (entries : List (Value × Value))
    (preset : Delimiters)
    (kind : Kind)
    (pair : Pair) : Prop :=
  (∀ opening closing, Configures entries kind opening closing →
    pair.opening = opening.plain ∧ pair.closing = closing.plain) ∧
  ((∀ opening closing, ¬ Configures entries kind opening closing) → pair = preset.pair kind)

theorem changedPair_eq_ok_iff_hasPair
    (once : OverridesOnce entries)
    (accepted : ofMap entries = .ok settings)
    {kind : Kind}
    {pair : Pair} :
    settings.preset.changedPair settings.changes kind = .ok pair ↔
      HasPair entries settings.preset kind pair := by
  rw [changedPair_eq_ok_iff]
  constructor
  · rintro (changed | ⟨absent, rfl⟩)
    · obtain ⟨opening, closing, configured, _⟩ := exists_configures_of_change? accepted changed
      refine ⟨fun first second others => ?_, fun none => absurd configured (none opening closing)⟩
      have other := change?_of_configures once accepted others
      rw [changed] at other
      simpa [Pair.toValue] using other
    · refine ⟨fun opening closing configured => ?_, fun _ => rfl⟩
      rw [change?_of_configures once accepted configured] at absent
      cases absent
  · rintro ⟨configured, otherwise⟩
    cases changed : change? settings.changes kind with
    | some value =>
      obtain ⟨opening, closing, given, rfl⟩ := exists_configures_of_change? accepted changed
      obtain ⟨first, second⟩ := configured opening closing given
      exact .inl (by rw [Pair.toValue, first, second])
    | none =>
      refine .inr ⟨rfl, otherwise fun opening closing given => ?_⟩
      rw [change?_of_configures once accepted given] at changed
      cases changed

/-- What settings give, kind by kind. -/
theorem gives_iff
    (once : OverridesOnce entries)
    {delimiters : Delimiters} :
    Gives entries delimiters ↔
      IsAcceptable entries ∧ ∃ preset,
        Delimiters.preset? (presetValue entries).plain = some preset ∧
        ∀ kind, HasPair entries preset kind (delimiters.pair kind) := by
  constructor
  · rintro ⟨settings, events, accepted, given⟩
    obtain ⟨_, isName, named, _⟩ := ofMap_eq_ok_iff.1 accepted
    refine ⟨exists_ofMap_iff.1 ⟨settings, accepted⟩, settings.preset, isName ▸ named, ?_⟩
    have changed := exists_delimiters_iff.1 ⟨events, given⟩
    exact fun kind =>
      (changedPair_eq_ok_iff_hasPair once accepted).1 (change_eq_ok_iff.1 changed kind)
  · rintro ⟨acceptable, preset, named, pairs⟩
    obtain ⟨settings, accepted⟩ := exists_ofMap_iff.2 acceptable
    obtain ⟨_, isName, known, _⟩ := ofMap_eq_ok_iff.1 accepted
    rw [isName, named, Option.some.injEq] at known
    subst known
    have changed := change_eq_ok_iff.2 fun kind =>
      (changedPair_eq_ok_iff_hasPair once accepted).2 (pairs kind)
    obtain ⟨events, given⟩ := exists_delimiters_iff.2 changed
    exact ⟨settings, events, accepted, given⟩

/-- Accepted settings give no delimiters if a configured one is empty, and only then. -/
theorem exists_fault_of_delimiters_iff
    (once : OverridesOnce entries)
    (accepted : ofMap entries = .ok settings) :
    (∃ fault, settings.delimiters = .error fault) ↔
      ∃ kind opening closing, Configures entries kind opening closing ∧
        (opening.plain = [] ∨ closing.plain = []) := by
  constructor
  · rintro ⟨fault, failure⟩
    unfold Settings.delimiters at failure
    split at failure
    · cases failure
    · cases changed : settings.preset.change settings.changes with
      | ok delimiters =>
        rw [changed] at failure
        cases failure
      | error found =>
        obtain ⟨value, notPair⟩ := fault_of_change changed
        obtain ⟨opening, closing, configured, isValue⟩ :=
          exists_configures_of_change? accepted value
        refine ⟨found.kind, opening, closing, configured, ?_⟩
        by_contra notEmpty
        rw [not_or] at notEmpty
        rw [isValue, Pair.ofValue?, Pair.of?, dif_pos notEmpty] at notPair
        cases notPair
  · rintro ⟨kind, opening, closing, configured, empty⟩
    cases given : settings.delimiters with
    | error fault => exact ⟨fault, rfl⟩
    | ok outcome =>
      obtain ⟨delimiters, events⟩ := outcome
      have changed := exists_delimiters_iff.1 ⟨events, given⟩
      have hasPair := (changedPair_eq_ok_iff_hasPair once accepted).1
        (change_eq_ok_iff.1 changed kind)
      obtain ⟨first, second⟩ := hasPair.1 opening closing configured
      rcases empty with empty | empty
      · exact absurd (first.trans empty) (Pair.opening_ne_nil _)
      · exact absurd (second.trans empty) (Pair.closing_ne_nil _)

/-- An empty delimiter is reported as a mistake. -/
theorem isReported_of_delimiters
    {fault : Fault}
    (failure : settings.delimiters = .error fault) :
    fault.isReported = true := by
  unfold Settings.delimiters at failure
  split at failure
  · cases failure
  · split at failure
    · cases failure
    · obtain rfl := Except.error.inj failure
      rfl

/-! ## The order of overrides -/

namespace Reorders

variable {others : List (Value × Value)}

theorem symm (reorders : Reorders entries others) : Reorders others entries := by
  obtain ⟨listed, listed', found, found', permuted⟩ := reorders.overrides
  exact ⟨reorders.preset.symm, listed', listed, found', found, permuted.symm⟩

theorem overridesOnce
    (reorders : Reorders entries others)
    (once : OverridesOnce entries) :
    OverridesOnce others := by
  obtain ⟨listed, listed', found, found', permuted⟩ := reorders.overrides
  intro overrides given
  obtain rfl : listed' = overrides := by rwa [found', Option.some.injEq, map.injEq] at given
  exact ((permuted.map Prod.fst).nodup_iff).1 (once listed found)

theorem configures
    (reorders : Reorders entries others)
    {kind : Kind}
    {opening closing : Value}
    (configured : Configures entries kind opening closing) :
    Configures others kind opening closing := by
  obtain ⟨listed, listed', found, found', permuted⟩ := reorders.overrides
  obtain ⟨overrides, value, given, member, elements⟩ := configured
  obtain rfl : listed = overrides := by rwa [found, Option.some.injEq, map.injEq] at given
  exact ⟨listed', value, found', permuted.mem_iff.1 member, elements⟩

theorem isAcceptable
    (reorders : Reorders entries others)
    (acceptable : IsAcceptable entries) :
    IsAcceptable others := by
  obtain ⟨listed, listed', found, found', permuted⟩ := reorders.overrides
  refine ⟨fun value given => acceptable.preset value (by rw [reorders.preset, given]), ?_⟩
  intro value given
  obtain rfl : .map listed' = value := by rwa [found', Option.some.injEq] at given
  exact .inr ⟨listed', rfl, fun entry member =>
    acceptable.isOverride found (permuted.mem_iff.2 member)⟩

/-- The order of the overrides counts for nothing. -/
theorem gives
    (reorders : Reorders entries others)
    (once : OverridesOnce entries)
    {delimiters : Delimiters}
    (given : Gives entries delimiters) :
    Gives others delimiters := by
  obtain ⟨acceptable, preset, named, pairs⟩ := (gives_iff once).1 given
  refine (gives_iff (reorders.overridesOnce once)).2 ⟨reorders.isAcceptable acceptable, preset, ?_⟩
  have samePreset : presetValue others = presetValue entries := by
    rw [presetValue, presetValue, reorders.preset]
  refine ⟨samePreset ▸ named, fun kind => ⟨fun opening closing configured => ?_, fun none => ?_⟩⟩
  · exact (pairs kind).1 opening closing (reorders.symm.configures configured)
  · exact (pairs kind).2 fun opening closing configured =>
      none opening closing (reorders.configures configured)

end Reorders

/-- Settings that are not accepted are reported as a mistake, or some value in them cannot
be shown.  Accepted settings give no delimiters exactly if a
configured one is empty, which is reported too.  What is given has no empty delimiter,
the configured pair for every configured kind and the pair of the preset for every other
kind, and the order of the overrides does not change it. -/
theorem overrides_are_layered
    (entries : List (Value × Value))
    (once : OverridesOnce entries) :
    (∀ fault, ofMap entries = .error fault →
        fault.isReported = true ∨
          fault = .unshowable ∧ (Value.map entries).isShowable = false) ∧
      (∀ settings, ofMap entries = .ok settings →
        ((∃ fault, settings.delimiters = .error fault) ↔
          ∃ kind opening closing, Configures entries kind opening closing ∧
            (opening.plain = [] ∨ closing.plain = [])) ∧
        ∀ fault, settings.delimiters = .error fault → fault.isReported = true) ∧
      (∀ delimiters, Gives entries delimiters →
        ∃ preset, Delimiters.preset? (presetValue entries).plain = some preset ∧
          ∀ kind, (delimiters.pair kind).opening ≠ [] ∧ (delimiters.pair kind).closing ≠ [] ∧
            HasPair entries preset kind (delimiters.pair kind)) ∧
      ∀ others, Reorders entries others →
        ∀ delimiters, Gives entries delimiters ↔ Gives others delimiters := by
  refine ⟨fun fault failure => ?_, fun settings accepted => ?_, fun delimiters given => ?_,
    fun others reorders delimiters => ⟨reorders.gives once, ?_⟩⟩
  · rcases reports_ofMap entries fault failure with reported | ⟨hidden, notShown⟩
    · exact .inl reported
    · exact .inr ⟨hidden, eq_false_of_ne_true notShown⟩
  · exact ⟨exists_fault_of_delimiters_iff once accepted, fun _ => isReported_of_delimiters⟩
  · obtain ⟨_, preset, named, pairs⟩ := (gives_iff once).1 given
    exact ⟨preset, named, fun kind => ⟨Pair.opening_ne_nil _, Pair.closing_ne_nil _, pairs kind⟩⟩
  · exact reorders.symm.gives (reorders.overridesOnce once)

/-- Overrides of two kinds on top of the delimiters with a commercial at. -/
def twoKinds : List (Value × Value) :=
  [(.text (Kind.name .inline), .list [.foreign (fraction "1.5" false), .boolean true]),
    (.text (Kind.name .block), .tuple [.text (Text.of "<%"), .text (Text.of "%>")])]

/-- The settings with some overrides of the delimiters with a commercial at. -/
def onAlternate (overrides : List (Value × Value)) : List (Value × Value) :=
  [(.text presetField, .text (Text.of "alternate")), (.text overridesField, .map overrides)]

/-- Two overrides give the same delimiters in either order. -/
theorem overrides_are_layered_of_twoKinds :
    OverridesOnce (onAlternate twoKinds) ∧
      ∃ delimiters, Gives (onAlternate twoKinds) delimiters ∧
        delimiters.inline.opening = Text.of "1.5" ∧
        Gives (onAlternate twoKinds.reverse) delimiters := by
  have once : OverridesOnce (onAlternate twoKinds) := by
    intro overrides found
    obtain rfl : twoKinds = overrides := Value.map.inj (Option.some.inj found)
    refine List.nodup_cons.2 ⟨fun listed => ?_, List.nodup_singleton _⟩
    exact absurd (Value.text.inj (List.mem_singleton.1 listed)) (by decide)
  have layered := overrides_are_layered (onAlternate twoKinds) once
  have given : ∃ delimiters, Gives (onAlternate twoKinds) delimiters := ⟨_, _, _, rfl, rfl⟩
  obtain ⟨delimiters, given⟩ := given
  -- The pair is what the general statement says of a configured kind.
  obtain ⟨preset, _, pairs⟩ := layered.2.2.1 delimiters given
  have configured : Configures (onAlternate twoKinds) .inline
      (.foreign (fraction "1.5" false)) (.boolean true) :=
    ⟨twoKinds, _, rfl, .head _, .inl rfl⟩
  have reorders : Reorders (onAlternate twoKinds) (onAlternate twoKinds.reverse) :=
    ⟨rfl, twoKinds, twoKinds.reverse, rfl, rfl, twoKinds.reverse_perm.symm⟩
  exact ⟨once, delimiters, given, ((pairs .inline).2.2.1 _ _ configured).1,
    (layered.2.2.2 _ reorders delimiters).1 given⟩

/-- The least number with too many digits to be shown. -/
def longInteger : Value :=
  .integer (.ofNat (Nat.pow 10 Text.digitLimit))

theorem isShowable_ofNat (number : Nat) :
    (Value.integer (.ofNat number)).isShowable =
      decide (number < Nat.pow 10 Text.digitLimit) := by
  rw [isShowable]
  rfl

theorem isShowable_longInteger : longInteger.isShowable = false :=
  (isShowable_ofNat _).trans (decide_eq_false (Nat.lt_irrefl _))

/-- A preset that is named by an integer with too many digits fails without being
reported as a mistake. -/
theorem ofMap_of_longInteger :
    ofMap [(.text presetField, longInteger)] = .error .unshowable ∧
      Fault.isReported .unshowable = false := by
  refine ⟨?_, rfl⟩
  have found : lookup presetField [(.text presetField, longInteger)] = some longInteger := by
    rw [lookup, if_pos (sameKey_text_iff.2 rfl)]
  rw [presetField] at found
  rw [ofMap, presetField, found, Option.getD_some, shown, showing, isShowable_longInteger]
  rfl

end Settings

end Stencil
