import Stencil.Proofs.Numeral
import Stencil.Proofs.Outline
import Stencil.Proofs.Pragma.Change
import Stencil.Proofs.Success
import Stencil.Settings

/-!
# Which settings are accepted

Well-formed settings have the two known fields: a text that names a preset, and
overrides by pairs of texts.  Settings are accepted for less: fields that are not known
count for nothing, a value that holds nothing stands for no overrides, and the preset and
the elements of a pair may be values of any sort that can be shown.  The main statement is
that nothing else is accepted, and that settings which are not accepted are reported as a
mistake unless some value in them cannot be shown.
-/

namespace Stencil

/-! ## Values that are looked up and shown -/

namespace Value

/-- The value is a text. -/
def IsText (value : Value) : Prop :=
  ∃ content, value = .text content

theorem mem_of_lookup
    {key : Text}
    {entries : List (Value × Value)}
    {value : Value}
    (found : lookup key entries = some value) :
    (.text key, value) ∈ entries := by
  rw [lookup_eq_find?, Option.map_eq_some_iff] at found
  obtain ⟨⟨known, held⟩, first, rfl⟩ := found
  have isKey := List.find?_some first
  obtain rfl := sameKey_text_iff.1 isKey
  exact List.mem_of_find?_eq_some first

/-- What stands in a map that can be shown can be shown. -/
theorem isShowable_of_mem
    {entries : List (Value × Value)}
    (showable : entriesAreShowable entries = true)
    {entry : Value × Value}
    (member : entry ∈ entries) :
    entry.1.isShowable = true ∧ entry.2.isShowable = true := by
  induction entries with
  | nil => cases member
  | cons first rest hypothesis =>
    rw [entriesAreShowable, Bool.and_eq_true, Bool.and_eq_true] at showable
    rcases List.mem_cons.1 member with rfl | member
    · exact showable.1
    · exact hypothesis showable.2 member

/-- The value is of a sort that is not told apart. -/
def IsForeign (value : Value) : Prop :=
  ∃ other, value = .foreign other

/-- The plain form of a value of a known sort other than text does not begin with a small
letter. -/
theorem not_small_of_plain
    {value : Value}
    (notText : ¬ value.IsText)
    (notForeign : ¬ value.IsForeign)
    {point : CodePoint}
    {rest : Text}
    (begins : value.plain = point :: rest) :
    point.val < 0x61 ∨ 0x7A < point.val := by
  have ofDigit {digit : CodePoint} (isDigit : digit.isDigit = true) : digit.val < 0x61 := by
    simp only [CodePoint.isDigit, Bool.and_eq_true, decide_eq_true_eq] at isDigit
    omega
  have ofNatural {number : Nat} (written : Text.ofNat number = point :: rest) :
      point.val < 0x61 := by
    have digits := Text.all_isDigit_ofNat number
    rw [written, List.all_cons, Bool.and_eq_true] at digits
    exact ofDigit digits.1
  cases value with
  | null =>
    obtain ⟨rfl, _⟩ := List.cons.inj begins
    exact .inl (by decide)
  | boolean flag =>
    cases flag <;>
    · obtain ⟨rfl, _⟩ := List.cons.inj begins
      exact .inl (by decide)
  | integer number =>
    cases number with
    | ofNat number => exact .inl (ofNatural begins)
    | negSucc number =>
      obtain ⟨rfl, _⟩ := List.cons.inj begins
      exact .inl (by decide)
  | decimal number =>
    rw [plain] at begins
    cases negative : number.negative with
    | true =>
      rw [Decimal.toText_of_negative negative] at begins
      obtain ⟨rfl, _⟩ := List.cons.inj begins
      exact .inl (by decide)
    | false =>
      obtain ⟨digit, digits, written, isDigit⟩ := Decimal.exists_digit_toText negative
      rw [written] at begins
      obtain ⟨rfl, _⟩ := List.cons.inj begins
      exact .inl (ofDigit isDigit)
  | text content => exact absurd ⟨content, rfl⟩ notText
  | list items =>
    obtain ⟨rfl, _⟩ := List.cons.inj begins
    exact .inl (by decide)
  | tuple items =>
    obtain ⟨rfl, _⟩ := List.cons.inj begins
    exact .inl (by decide)
  | map entries =>
    obtain ⟨rfl, _⟩ := List.cons.inj begins
    exact .inr (by decide)
  | foreign other => exact absurd ⟨other, rfl⟩ notForeign

/-- Of the known sorts, only a text names a preset. -/
theorem isText_of_preset?
    {value : Value}
    {preset : Delimiters}
    (named : Delimiters.preset? value.plain = some preset)
    (notForeign : ¬ value.IsForeign) :
    value.IsText := by
  by_contra notText
  rw [Delimiters.preset?, Option.map_eq_some_iff] at named
  obtain ⟨entry, found, _⟩ := named
  have isName := List.find?_some found
  rw [beq_iff_eq] at isName
  have listed := List.mem_of_find?_eq_some found
  simp only [Delimiters.presets, List.mem_cons, List.not_mem_nil, or_false] at listed
  rcases listed with rfl | rfl <;>
  · rcases not_small_of_plain notText notForeign isName.symm with small | large
    · exact absurd small (by decide)
    · exact absurd large (by decide)

end Value

namespace Settings

open Value Reading

/-! ## What is accepted -/

/-- A list or a tuple of two elements. -/
def HasElements (value opening closing : Value) : Prop :=
  value = .list [opening, closing] ∨ value = .tuple [opening, closing]

/-- An override of a kind by two elements of a sort. -/
def IsOverride (isElement : Value → Prop) (entry : Value × Value) : Prop :=
  ∃ (kind : Kind) (opening closing : Value), entry.1 = .text kind.name ∧
    HasElements entry.2 opening closing ∧ isElement opening ∧ isElement closing

/-- The field for the preset. -/
def presetField : Text :=
  Text.of "syntax"

/-- The field for the overrides. -/
def overridesField : Text :=
  Text.of "delimiters"

/-- The preset is given by its name, if it is given. -/
def NamesPreset (entries : List (Value × Value)) : Prop :=
  ∀ value, lookup presetField entries = some value →
    ∃ name preset, value = .text name ∧ Delimiters.preset? name = some preset

/-- The preset is given by a value that shows as its name, if it is given. -/
def ShowsPreset (entries : List (Value × Value)) : Prop :=
  ∀ value, lookup presetField entries = some value →
    value.isShowable = true ∧ ∃ preset, Delimiters.preset? value.plain = some preset

/-- Settings as they are meant to be. -/
structure IsWellFormed (entries : List (Value × Value)) : Prop where
  /-- There are no other fields. -/
  fields : ∀ entry ∈ entries, entry.1 = .text presetField ∨ entry.1 = .text overridesField
  /-- The preset is given by its name. -/
  preset : NamesPreset entries
  /-- The overrides are absent or a map from kinds to pairs of texts. -/
  overrides : ∀ value, lookup overridesField entries = some value →
    value = .null ∨ ∃ overrides, value = .map overrides ∧
      ∀ entry ∈ overrides, IsOverride IsText entry

/-- Settings as they are accepted. -/
structure IsAcceptable (entries : List (Value × Value)) : Prop where
  /-- The preset is given by what shows as its name. -/
  preset : ShowsPreset entries
  /-- The overrides hold nothing or are a map from kinds to pairs of values that can be
  shown. -/
  overrides : ∀ value, lookup overridesField entries = some value →
    value.holdsNothing = true ∨ ∃ overrides, value = .map overrides ∧
      ∀ entry ∈ overrides, IsOverride (fun element => element.isShowable = true) entry

/-- A field has neither of the two names. -/
def HasUnknownField (entries : List (Value × Value)) : Prop :=
  ∃ entry ∈ entries, entry.1 ≠ .text presetField ∧ entry.1 ≠ .text overridesField

/-- The preset is given by a value of another sort. -/
def HasOddName (entries : List (Value × Value)) : Prop :=
  ∃ value, lookup presetField entries = some value ∧ value.IsForeign

/-- Some other value that holds nothing stands for the overrides. -/
def HasStandIn (entries : List (Value × Value)) : Prop :=
  ∃ value, lookup overridesField entries = some value ∧ value.holdsNothing = true ∧
    value ≠ .null ∧ ∀ overrides, value ≠ .map overrides

/-- An element of an override is no text. -/
def HasOddElement (entries : List (Value × Value)) : Prop :=
  ∃ overrides, lookup overridesField entries = some (.map overrides) ∧
    ∃ entry ∈ overrides, ∃ opening closing, HasElements entry.2 opening closing ∧
      ¬ (opening.IsText ∧ closing.IsText)

theorem two?_eq_some_iff
    {value opening closing : Value} :
    two? value = some (opening, closing) ↔ HasElements value opening closing := by
  constructor
  · intro two
    unfold two? at two
    split at two
    · cases two
      exact .inl rfl
    · cases two
      exact .inr rfl
    · cases two
  · rintro (rfl | rfl) <;> rfl

/-- A value has no other elements. -/
theorem HasElements.unique
    {value opening closing first second : Value}
    (elements : HasElements value opening closing)
    (others : HasElements value first second) :
    opening = first ∧ closing = second := by
  have two := two?_eq_some_iff.2 elements
  rw [two?_eq_some_iff.2 others] at two
  cases two
  exact ⟨rfl, rfl⟩

theorem IsOverride.mono
    {isElement isOther : Value → Prop}
    (weaker : ∀ value, isElement value → isOther value)
    {entry : Value × Value}
    (override : IsOverride isElement entry) :
    IsOverride isOther entry := by
  obtain ⟨kind, opening, closing, key, two, first, second⟩ := override
  exact ⟨kind, opening, closing, key, two, weaker opening first, weaker closing second⟩

theorem IsWellFormed.isAcceptable
    {entries : List (Value × Value)}
    (wellFormed : IsWellFormed entries) :
    IsAcceptable entries where
  preset value found := by
    obtain ⟨name, preset, rfl, named⟩ := wellFormed.preset value found
    exact ⟨rfl, preset, named⟩
  overrides value found := by
    rcases wellFormed.overrides value found with rfl | ⟨overrides, rfl, pairs⟩
    · exact .inl rfl
    · refine .inr ⟨overrides, rfl, fun entry member => (pairs entry member).mono ?_⟩
      rintro value ⟨content, rfl⟩
      rfl

theorem IsAcceptable.isOverride
    {entries overrides : List (Value × Value)}
    (acceptable : IsAcceptable entries)
    (found : lookup overridesField entries = some (.map overrides))
    {entry : Value × Value}
    (member : entry ∈ overrides) :
    IsOverride (fun element => element.isShowable = true) entry := by
  rcases acceptable.overrides _ found with nothing | ⟨_, isMap, pairs⟩
  · rw [List.isEmpty_iff.1 nothing] at member
    cases member
  · cases isMap
    exact pairs entry member

/-- What is accepted is well-formed but for four oversights. -/
theorem isWellFormed_iff
    {entries : List (Value × Value)} :
    IsWellFormed entries ↔
      IsAcceptable entries ∧ ¬ HasUnknownField entries ∧ ¬ HasOddName entries ∧
        ¬ HasStandIn entries ∧ ¬ HasOddElement entries := by
  constructor
  · intro wellFormed
    refine ⟨wellFormed.isAcceptable, ?_, ?_, ?_, ?_⟩
    · rintro ⟨entry, member, notPreset, notOverrides⟩
      exact (wellFormed.fields entry member).elim notPreset notOverrides
    · rintro ⟨_, found, other, rfl⟩
      obtain ⟨_, _, isText, _⟩ := wellFormed.preset _ found
      cases isText
    · rintro ⟨value, found, _, notNull, notMap⟩
      rcases wellFormed.overrides value found with isNull | ⟨overrides, isMap, _⟩
      · exact notNull isNull
      · exact notMap overrides isMap
    · rintro ⟨overrides, found, entry, member, opening, closing, elements, odd⟩
      rcases wellFormed.overrides _ found with isNull | ⟨_, isMap, pairs⟩
      · cases isNull
      · cases isMap
        obtain ⟨_, _, _, _, others, first, second⟩ := pairs entry member
        obtain ⟨rfl, rfl⟩ := elements.unique others
        exact odd ⟨first, second⟩
  · rintro ⟨acceptable, known, noOddName, noStandIn, noOddElement⟩
    refine ⟨fun entry member => ?_, fun value found => ?_, fun value found => ?_⟩
    · by_contra neither
      exact known ⟨entry, member, fun isPreset => neither (.inl isPreset),
        fun isOverrides => neither (.inr isOverrides)⟩
    · obtain ⟨_, preset, named⟩ := acceptable.preset value found
      obtain ⟨name, rfl⟩ := isText_of_preset? named fun odd => noOddName ⟨value, found, odd⟩
      exact ⟨name, preset, rfl, named⟩
    · by_cases isMap : ∃ overrides, value = .map overrides
      · obtain ⟨overrides, rfl⟩ := isMap
        refine .inr ⟨overrides, rfl, fun entry member => ?_⟩
        obtain ⟨kind, opening, closing, key, elements, _⟩ := acceptable.isOverride found member
        refine ⟨kind, opening, closing, key, elements, ?_⟩
        by_contra odd
        exact noOddElement ⟨overrides, found, entry, member, opening, closing, elements, odd⟩
      · rcases acceptable.overrides value found with nothing | ⟨overrides, given, _⟩
        · by_contra other
          refine noStandIn ⟨value, found, nothing, fun isNull => other (.inl isNull), ?_⟩
          exact fun overrides given => isMap ⟨overrides, given⟩
        · exact absurd ⟨overrides, given⟩ isMap

/-! ## What is made of them -/

theorem showing_eq_ok_iff
    {value : Value}
    {result outcome : α} :
    showing value result = .ok outcome ↔ value.isShowable = true ∧ outcome = result := by
  unfold showing
  cases value.isShowable with
  | true => simp [eq_comm]
  | false => simp

theorem shown_eq_ok_iff
    {value : Value}
    {text : Text} :
    shown value = .ok text ↔ value.isShowable = true ∧ text = value.plain :=
  showing_eq_ok_iff

theorem kind?_eq_some_iff
    {key : Value}
    {kind : Kind} :
    kind? key = some kind ↔ key = .text kind.name := by
  cases key with
  | text name => rw [kind?, Kind.ofName?_eq_some_iff, Value.text.injEq]
  | _ => simp [kind?]

/-- One override is made of the plain forms of its elements. -/
theorem ofEntry_eq_ok_iff
    {key value : Value}
    {kind : Kind}
    {texts : Text × Text} :
    ofEntry key value = .ok (kind, texts) ↔
      ∃ opening closing, key = .text kind.name ∧ HasElements value opening closing ∧
        opening.isShowable = true ∧ closing.isShowable = true ∧
        texts = (opening.plain, closing.plain) := by
  simp only [← kind?_eq_some_iff, ← two?_eq_some_iff]
  unfold ofEntry
  cases kind? key with
  | none => simp [bind_eq_ok]
  | some known =>
    dsimp only
    cases two? value with
    | none => simp [bind_eq_ok]
    | some elements =>
      obtain ⟨first, second⟩ := elements
      simp only [bind_eq_ok, shown_eq_ok_iff, pure_eq_ok, Option.some.injEq, Prod.mk.injEq]
      constructor
      · rintro ⟨_, ⟨firstShown, rfl⟩, _, ⟨secondShown, rfl⟩, rfl, rfl⟩
        exact ⟨first, second, rfl, ⟨rfl, rfl⟩, firstShown, secondShown, rfl⟩
      · rintro ⟨_, _, rfl, ⟨rfl, rfl⟩, firstShown, secondShown, rfl⟩
        exact ⟨_, ⟨firstShown, rfl⟩, _, ⟨secondShown, rfl⟩, rfl, rfl⟩

/-- The overrides are made one by one. -/
theorem ofOverrides_eq_ok_iff
    {entries : List (Value × Value)}
    {overrides : List (Kind × Text × Text)} :
    ofOverrides entries = .ok overrides ↔
      List.Forall₂ (fun entry override => ofEntry entry.1 entry.2 = .ok override)
        entries overrides := by
  induction entries generalizing overrides with
  | nil => cases overrides <;> simp [ofOverrides]
  | cons entry rest hypothesis =>
    rw [ofOverrides]
    cases made : ofEntry entry.1 entry.2 with
    | error fault => cases overrides <;> simp [bind, Except.bind, made]
    | ok first =>
      cases others : ofOverrides rest with
      | error fault => cases overrides <;> simp [bind, Except.bind, made, ← hypothesis, others]
      | ok others =>
        cases overrides <;>
          simp [bind, Except.bind, pure, Except.pure, made, ← hypothesis, others]

theorem exists_ofEntry_iff
    {entry : Value × Value} :
    (∃ override, ofEntry entry.1 entry.2 = .ok override) ↔
      IsOverride (fun element => element.isShowable = true) entry := by
  constructor
  · rintro ⟨⟨kind, texts⟩, made⟩
    obtain ⟨opening, closing, key, elements, first, second, _⟩ := ofEntry_eq_ok_iff.1 made
    exact ⟨kind, opening, closing, key, elements, first, second⟩
  · rintro ⟨kind, opening, closing, key, elements, first, second⟩
    exact ⟨_, ofEntry_eq_ok_iff.2 ⟨opening, closing, key, elements, first, second, rfl⟩⟩

/-- There are overrides if every entry is one. -/
theorem exists_ofOverrides_iff
    {entries : List (Value × Value)} :
    (∃ overrides, ofOverrides entries = .ok overrides) ↔
      ∀ entry ∈ entries, IsOverride (fun element => element.isShowable = true) entry := by
  induction entries with
  | nil => simp [ofOverrides]
  | cons entry rest hypothesis =>
    rw [List.forall_mem_cons, ← hypothesis, ← exists_ofEntry_iff]
    simp only [ofOverrides_eq_ok_iff]
    constructor
    · rintro ⟨_, made⟩
      cases made with
      | cons one others => exact ⟨⟨_, one⟩, _, others⟩
    · rintro ⟨⟨_, one⟩, _, others⟩
      exact ⟨_, .cons one others⟩

theorem overrideEntries_eq_ok_iff
    {value : Value}
    {listed : List (Value × Value)} :
    overrideEntries value = .ok listed ↔
      value = .map listed ∨ value.holdsNothing = true ∧ listed = [] := by
  unfold overrideEntries
  split
  · rename_i nothing
    constructor
    · intro none
      exact .inr ⟨nothing, (Except.ok.inj none).symm⟩
    · rintro (rfl | ⟨_, rfl⟩)
      · rw [List.isEmpty_iff.1 nothing]
      · rfl
  · rename_i something
    cases value with
    | map entries => simp [something, eq_comm]
    | _ => simp [something]

/-- The value that the preset is named by. -/
def presetValue (entries : List (Value × Value)) : Value :=
  (lookup presetField entries).getD (.text (Text.of "default"))

/-- The value that the overrides are taken from. -/
def overridesValue (entries : List (Value × Value)) : Value :=
  (lookup overridesField entries).getD .null

theorem overridesValue_eq_map_iff
    {entries overrides : List (Value × Value)} :
    overridesValue entries = .map overrides ↔
      lookup overridesField entries = some (.map overrides) := by
  unfold overridesValue
  cases lookup overridesField entries <;> simp

/-- Settings are made of the preset of a name and of the overrides. -/
theorem ofMap_eq_ok_iff
    {entries : List (Value × Value)}
    {settings : Settings} :
    ofMap entries = .ok settings ↔
      (presetValue entries).isShowable = true ∧
        settings.presetName = (presetValue entries).plain ∧
        Delimiters.preset? settings.presetName = some settings.preset ∧
        ∃ listed, overrideEntries (overridesValue entries) = .ok listed ∧
          ofOverrides listed = .ok settings.overrides := by
  obtain ⟨presetName, preset, overrides⟩ := settings
  simp only [ofMap, bind_eq_ok, shown_eq_ok_iff]
  constructor
  · rintro ⟨_, ⟨showable, rfl⟩, made⟩
    split at made
    · cases made
    · rename_i known named
      simp only [bind_eq_ok, pure_eq_ok, Settings.mk.injEq] at made
      obtain ⟨listed, given, _, pairs, rfl, rfl, rfl⟩ := made
      exact ⟨showable, rfl, named, listed, given, pairs⟩
  · rintro ⟨showable, rfl, named, listed, given, pairs⟩
    refine ⟨_, ⟨showable, rfl⟩, ?_⟩
    dsimp only [presetValue, presetField] at named
    rw [named]
    simp only [bind_eq_ok, pure_eq_ok]
    exact ⟨listed, given, _, pairs, rfl⟩

/-! ## What is reported -/

/-- A failure is reported as a mistake, unless some value cannot be shown. -/
def Reports (showable : Prop) (outcome : Except Fault α) : Prop :=
  ∀ fault, outcome = .error fault →
    fault.isReported = true ∨ fault = .unshowable ∧ ¬ showable

section Reports

variable {showable : Prop}

theorem reports_ok (value : α) : Reports showable (.ok value : Except Fault α) := by
  rintro fault ⟨⟩

theorem reports_error
    {fault : Fault}
    (reported : fault.isReported = true) :
    Reports showable (.error fault : Except Fault α) := by
  rintro found ⟨rfl⟩
  exact .inl reported

theorem reports_showing
    {value : Value}
    (canBeShown : showable → value.isShowable = true)
    (result : α) :
    Reports showable (showing value result) := by
  intro fault failure
  unfold showing at failure
  split at failure
  · cases failure
  · rename_i hidden
    obtain rfl := Except.error.inj failure
    exact .inr ⟨rfl, fun shown => hidden (canBeShown shown)⟩

theorem Reports.bind
    {first : Except Fault α}
    {second : α → Except Fault β}
    (reportsFirst : Reports showable first)
    (reportsSecond : ∀ value, first = .ok value → Reports showable (second value)) :
    Reports showable (first >>= second) := by
  intro fault failure
  cases outcome : first with
  | error found =>
    rw [outcome] at failure
    obtain rfl := Except.error.inj failure
    exact reportsFirst found outcome
  | ok value =>
    rw [outcome] at failure
    exact reportsSecond value outcome fault failure

theorem reports_ofEntry
    {key value : Value}
    (keyShown : showable → key.isShowable = true)
    (valueShown : showable → value.isShowable = true) :
    Reports showable (ofEntry key value) := by
  unfold ofEntry
  split
  · exact (reports_showing keyShown _).bind fun fault made =>
      reports_error (by rw [(showing_eq_ok_iff.1 made).2]; rfl)
  · split
    · exact (reports_showing valueShown _).bind fun fault made =>
        reports_error (by rw [(showing_eq_ok_iff.1 made).2]; rfl)
    · rename_i opening closing two
      have elementsShown (shown : showable) :
          opening.isShowable = true ∧ closing.isShowable = true := by
        have whole := valueShown shown
        rcases two?_eq_some_iff.1 two with rfl | rfl <;>
        · simpa [isShowable, areShowable] using whole
      refine (reports_showing (fun shown => (elementsShown shown).1) _).bind fun _ _ => ?_
      refine (reports_showing (fun shown => (elementsShown shown).2) _).bind fun _ _ => ?_
      exact reports_ok _

theorem reports_ofOverrides
    {entries : List (Value × Value)}
    (entriesShown : showable → entriesAreShowable entries = true) :
    Reports showable (ofOverrides entries) := by
  induction entries with
  | nil => exact reports_ok _
  | cons entry rest hypothesis =>
    have split (shown : showable) := entriesShown shown
    simp only [entriesAreShowable, Bool.and_eq_true] at split
    refine (reports_ofEntry (fun shown => (split shown).1.1) fun shown =>
      (split shown).1.2).bind fun _ _ => ?_
    exact (hypothesis fun shown => (split shown).2).bind fun _ _ => reports_ok _

end Reports

/-- Settings that can be shown are reported if they are not accepted. -/
theorem reports_ofMap (entries : List (Value × Value)) :
    Reports ((Value.map entries).isShowable = true) (ofMap entries) := by
  have found {key : Text} {value : Value} (shown : (Value.map entries).isShowable = true)
      (held : lookup key entries = some value) : value.isShowable = true :=
    (isShowable_of_mem shown (mem_of_lookup held)).2
  have presetShown (shown : (Value.map entries).isShowable = true) :
      (presetValue entries).isShowable = true := by
    unfold presetValue
    cases held : lookup presetField entries with
    | none => rfl
    | some value => exact found shown held
  refine (reports_showing presetShown _).bind fun name _ => ?_
  split
  · exact reports_error rfl
  · refine Reports.bind ?_ fun listed given => ?_
    · unfold overrideEntries
      split
      · exact reports_ok _
      · split
        · exact reports_ok _
        · exact reports_error rfl
    · refine (reports_ofOverrides fun shown => ?_).bind fun _ _ => reports_ok _
      rcases overrideEntries_eq_ok_iff.1 given with isMap | ⟨_, rfl⟩
      · exact found shown (overridesValue_eq_map_iff.1 isMap)
      · rfl

/-! ## Acceptance -/

theorem showsPreset_iff
    {entries : List (Value × Value)} :
    ShowsPreset entries ↔
      (presetValue entries).isShowable = true ∧
        ∃ preset, Delimiters.preset? (presetValue entries).plain = some preset := by
  unfold ShowsPreset presetValue
  cases lookup presetField entries with
  | none => exact ⟨fun _ => ⟨rfl, _, rfl⟩, fun _ => nofun⟩
  | some value => simp only [Option.some.injEq, forall_eq', Option.getD_some]

/-- Settings are accepted if and only if they are acceptable. -/
theorem exists_ofMap_iff
    {entries : List (Value × Value)} :
    (∃ settings, ofMap entries = .ok settings) ↔ IsAcceptable entries := by
  simp only [ofMap_eq_ok_iff]
  constructor
  · rintro ⟨settings, showable, isName, named, listed, given, made⟩
    refine ⟨showsPreset_iff.2 ⟨showable, settings.preset, by rw [← isName, named]⟩, ?_⟩
    intro value found
    rw [overridesValue, found, Option.getD_some] at given
    rcases overrideEntries_eq_ok_iff.1 given with rfl | ⟨nothing, _⟩
    · exact .inr ⟨listed, rfl, exists_ofOverrides_iff.1 ⟨_, made⟩⟩
    · exact .inl nothing
  · intro acceptable
    obtain ⟨showable, preset, named⟩ := showsPreset_iff.1 acceptable.preset
    have given : ∃ listed, overrideEntries (overridesValue entries) = .ok listed ∧
        ∃ overrides, ofOverrides listed = .ok overrides := by
      simp only [exists_ofOverrides_iff, overrideEntries_eq_ok_iff]
      unfold overridesValue
      cases found : lookup overridesField entries with
      | none => exact ⟨[], .inr ⟨rfl, rfl⟩, nofun⟩
      | some value =>
        rcases acceptable.overrides value found with nothing | ⟨overrides, rfl, pairs⟩
        · exact ⟨[], .inr ⟨nothing, rfl⟩, nofun⟩
        · exact ⟨overrides, .inl rfl, pairs⟩
    obtain ⟨listed, listing, overrides, made⟩ := given
    exact ⟨⟨_, preset, overrides⟩, showable, rfl, named, listed, listing, made⟩

/-- Settings are accepted if and only if they are acceptable.  Well-formed settings are
those acceptable ones without unknown fields, without a preset that merely shows as a
name, without values that stand in for no overrides and without elements that are no
texts.  Settings that are not accepted are reported as a mistake, or some value in them
cannot be shown. -/
theorem ofMap_accepts_acceptable
    (entries : List (Value × Value)) :
    ((∃ settings, ofMap entries = .ok settings) ↔ IsAcceptable entries) ∧
      (IsWellFormed entries ↔
        IsAcceptable entries ∧ ¬ HasUnknownField entries ∧ ¬ HasOddName entries ∧
          ¬ HasStandIn entries ∧ ¬ HasOddElement entries) ∧
      ∀ fault, ofMap entries = .error fault →
        fault.isReported = true ∨
          fault = .unshowable ∧ (Value.map entries).isShowable = false := by
  refine ⟨exists_ofMap_iff, isWellFormed_iff, fun fault failure => ?_⟩
  rcases reports_ofMap entries fault failure with reported | ⟨hidden, notShown⟩
  · exact .inl reported
  · exact .inr ⟨hidden, eq_false_of_ne_true notShown⟩

/-- A fraction in binary digits, which shows as its decimal digits. -/
def fraction (digits : String) (isZero : Bool) : Foreign where
  sort := "float"
  holdsNothing := isZero
  plain := Text.of digits
  quoted := Text.of digits
  json? := some (Text.of digits)

/-- The fraction zero stands for no overrides, as every value does that holds nothing. -/
example : (ofMap [(.text overridesField, .foreign (fraction "0.0" true))]).toBool = true := by
  rfl

/-- An unknown field, a false value for the overrides and numbers for delimiters are
accepted although none of the settings are well-formed. -/
theorem ofMap_accepts_oversights :
    ((∃ settings, ofMap [(.text (Text.of "colour"), .null)] = .ok settings) ∧
        ¬ IsWellFormed [(.text (Text.of "colour"), .null)]) ∧
      ((∃ settings, ofMap [(.text overridesField, .boolean false)] = .ok settings) ∧
        ¬ IsWellFormed [(.text overridesField, .boolean false)]) ∧
      (∃ settings, ofMap [(.text overridesField,
          .map [(.text (Kind.name .inline), .list [.null, .boolean true])])] = .ok settings) ∧
        ¬ IsWellFormed [(.text overridesField,
          .map [(.text (Kind.name .inline), .list [.null, .boolean true])])] := by
  refine ⟨⟨⟨_, rfl⟩, fun wellFormed => ?_⟩, ⟨⟨_, rfl⟩, fun wellFormed => ?_⟩, ⟨_, rfl⟩,
    fun wellFormed => ?_⟩
  · rcases wellFormed.fields _ (.head _) with field | field
    · exact absurd (Value.text.inj field) (by decide)
    · exact absurd (Value.text.inj field) (by decide)
  · rcases wellFormed.overrides _ rfl with isNull | ⟨_, isMap, _⟩
    · cases isNull
    · cases isMap
  · rcases wellFormed.overrides _ rfl with isNull | ⟨_, isMap, pairs⟩
    · cases isNull
    · cases isMap
      obtain ⟨_, opening, _, _, elements, ⟨content, isText⟩, _⟩ := pairs _ (.head _)
      obtain ⟨rfl, _⟩ := elements.unique (.inl rfl)
      cases isText

end Settings

end Stencil
