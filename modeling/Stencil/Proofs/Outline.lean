import Mathlib.Data.List.Forall2
import Stencil.Report

/-!
# Values without places

Two reports can be compared apart from the lines and columns in them.  Maps are
compared as maps: the order of their entries does not matter.  The statements below
take such a comparison apart, down to the members of the two maps.
-/

namespace Stencil

namespace Value

mutual

/-- Equality of values.  Maps are the same if they have as many entries and every key
of the first has the same value in the second. -/
def same : Value → Value → Bool
  | .null, .null => true
  | .text left, .text right => left == right
  | .list left, .list right => sameItems left right
  | .tuple left, .tuple right => sameItems left right
  | .map left, .map right => left.length == right.length && sameEntries left right
  | left, right =>
    match left.number?, right.number? with
    | some left, some right => left.numericallyEqual right
    | _, _ => false

/-- Equality of two sequences item by item. -/
def sameItems : List Value → List Value → Bool
  | [], [] => true
  | left :: lefts, right :: rights => same left right && sameItems lefts rights
  | _, _ => false

/-- Whether every key of some entries has the same value among others. -/
def sameEntries : List (Value × Value) → List (Value × Value) → Bool
  | [], _ => true
  | (key, value) :: rest, others =>
    (match others.find? fun entry => sameKey entry.1 key with
      | some entry => same value entry.2
      | none => false) && sameEntries rest others

end

/-- Whether a key of a report is the one of a line or of a column. -/
def isPlaceKey (key : Value) : Bool :=
  sameKey key (.text (Text.of "line")) || sameKey key (.text (Text.of "column"))

mutual

/-- A value without the lines and columns in it, at every level. -/
def withoutPlaces : Value → Value
  | .list items => .list (itemsWithoutPlaces items)
  | .tuple items => .tuple (itemsWithoutPlaces items)
  | .map entries => .map (entriesWithoutPlaces entries)
  | value => value

/-- Items without the lines and columns in them. -/
def itemsWithoutPlaces : List Value → List Value
  | [] => []
  | item :: rest => withoutPlaces item :: itemsWithoutPlaces rest

/-- Entries without those of lines and columns. -/
def entriesWithoutPlaces : List (Value × Value) → List (Value × Value)
  | [] => []
  | (key, value) :: rest =>
    if isPlaceKey key then entriesWithoutPlaces rest
    else (key, withoutPlaces value) :: entriesWithoutPlaces rest

end

/-- Two values are the same apart from lines and columns. -/
def Agrees (left right : Value) : Prop :=
  left.withoutPlaces.same right.withoutPlaces = true

example : Agrees (.map [(.null, .list []), (.boolean true, .null)])
    (.map [(.boolean true, .null), (.null, .list [])]) := by
  cbv

/-! ## Keys -/

theorem sameKey_text_iff
    {known : Value}
    {key : Text} :
    sameKey known (.text key) = true ↔ known = .text key := by
  cases known <;> simp [sameKey, number?]

theorem lookup_eq_find? (key : Text) (entries : List (Value × Value)) :
    lookup key entries =
      (entries.find? fun entry => sameKey entry.1 (.text key)).map Prod.snd := by
  induction entries with
  | nil => rfl
  | cons entry rest hypothesis =>
    rw [lookup, List.find?_cons]
    cases sameKey entry.1 (.text key) with
    | true => rfl
    | false => exact hypothesis

/-- A key of the first map has the same value in the second. -/
theorem exists_lookup_of_sameEntries
    {entries others : List (Value × Value)}
    {key : Text}
    {value : Value}
    (same : sameEntries entries others = true)
    (found : lookup key entries = some value) :
    ∃ other, lookup key others = some other ∧ value.same other = true := by
  induction entries with
  | nil => simp [lookup] at found
  | cons entry rest hypothesis =>
    obtain ⟨known, held⟩ := entry
    rw [sameEntries, Bool.and_eq_true] at same
    rw [lookup] at found
    by_cases isKey : sameKey known (.text key) = true
    · rw [if_pos isKey, Option.some.injEq] at found
      obtain rfl := sameKey_text_iff.1 isKey
      subst found
      cases other : others.find? fun entry => sameKey entry.1 (.text key) with
      | none => simp [other] at same
      | some entry =>
        rw [other] at same
        exact ⟨entry.2, by rw [lookup_eq_find?, other]; rfl, same.1⟩
    · rw [if_neg isKey] at found
      exact hypothesis same.2 found

/-- Only lines and columns are missing. -/
theorem lookup_entriesWithoutPlaces
    {key : Text}
    (kept : isPlaceKey (.text key) = false)
    (entries : List (Value × Value)) :
    lookup key (entriesWithoutPlaces entries) = (lookup key entries).map withoutPlaces := by
  induction entries with
  | nil => simp [entriesWithoutPlaces, lookup]
  | cons entry rest hypothesis =>
    obtain ⟨known, held⟩ := entry
    rw [entriesWithoutPlaces, lookup]
    by_cases isKey : sameKey known (.text key) = true
    · obtain rfl := sameKey_text_iff.1 isKey
      rw [if_pos isKey, kept, if_neg (by simp), lookup, if_pos isKey]
      rfl
    · rw [if_neg isKey]
      split
      · exact hypothesis
      · rw [lookup, if_neg isKey]
        exact hypothesis

/-! ## Agreement -/

theorem Agrees.eq_of_text
    {left right : Text}
    (agrees : Agrees (.text left) (.text right)) :
    left = right := by
  simpa [Agrees, withoutPlaces, same] using agrees

theorem Agrees.eq_of_boolean
    {left right : Bool}
    (agrees : Agrees (.boolean left) (.boolean right)) :
    left = right := by
  have equal : ∀ left right : Bool,
      (Decimal.ofNat left.toNat).canonical = (Decimal.ofNat right.toNat).canonical →
        left = right := by
    decide
  simp only [Agrees, withoutPlaces, same, number?, Decimal.numericallyEqual_iff] at agrees
  exact equal left right agrees

theorem not_agrees_null_map (entries : List (Value × Value)) : ¬ Agrees .null (.map entries) := by
  simp [Agrees, withoutPlaces, same, number?]

theorem not_agrees_map_null (entries : List (Value × Value)) : ¬ Agrees (.map entries) .null := by
  simp [Agrees, withoutPlaces, same, number?]

theorem not_agrees_boolean_text (flag : Bool) (content : Text) :
    ¬ Agrees (.boolean flag) (.text content) := by
  simp [Agrees, withoutPlaces, same, number?]

theorem not_agrees_text_boolean (content : Text) (flag : Bool) :
    ¬ Agrees (.text content) (.boolean flag) := by
  simp [Agrees, withoutPlaces, same, number?]

/-- Lists agree item by item. -/
theorem Agrees.forall₂_of_list
    {left right : List Value}
    (agrees : Agrees (.list left) (.list right)) :
    List.Forall₂ Agrees left right := by
  simp only [Agrees, withoutPlaces, same] at agrees
  induction left generalizing right with
  | nil =>
    cases right with
    | nil => exact .nil
    | cons item rest => simp [itemsWithoutPlaces, sameItems] at agrees
  | cons item rest hypothesis =>
    cases right with
    | nil => simp [itemsWithoutPlaces, sameItems] at agrees
    | cons item' rest' =>
      simp only [itemsWithoutPlaces, sameItems, Bool.and_eq_true] at agrees
      exact .cons agrees.1 (hypothesis agrees.2)

/-- What stands under a key of one map agrees with what stands under it in the other. -/
theorem Agrees.lookup
    {left right : List (Value × Value)}
    (agrees : Agrees (.map left) (.map right))
    {key : Text}
    (kept : isPlaceKey (.text key) = false)
    {value : Value}
    (found : lookup key left = some value) :
    ∃ other, Value.lookup key right = some other ∧ Agrees value other := by
  simp only [Agrees, withoutPlaces, same, Bool.and_eq_true] at agrees
  have shown : Value.lookup key (entriesWithoutPlaces left) = some value.withoutPlaces := by
    rw [lookup_entriesWithoutPlaces kept, found]
    rfl
  obtain ⟨other, otherShown, equal⟩ := exists_lookup_of_sameEntries agrees.2 shown
  rw [lookup_entriesWithoutPlaces kept, Option.map_eq_some_iff] at otherShown
  obtain ⟨held, found', rfl⟩ := otherShown
  exact ⟨held, found', equal⟩

end Value

namespace Report

open Value

/-- Members with the given keys and values. -/
def members (keys : List String) (values : List Value) : List (Value × Value) :=
  List.zipWith member keys values

/-- Keys that are all different and stand for no line and no column. -/
def AreTold (keys : List String) : Prop :=
  (keys.map Text.of).Nodup ∧ ∀ key ∈ keys, isPlaceKey (.text (Text.of key)) = false

instance (keys : List String) : Decidable (AreTold keys) :=
  inferInstanceAs (Decidable (_ ∧ _))

theorem lookup_member (key : String) (value : Value) (rest : List (Value × Value)) :
    lookup (Text.of key) (member key value :: rest) = some value := by
  rw [member, lookup, if_pos (sameKey_text_iff.2 rfl)]

theorem lookup_member_of_ne
    {key other : String}
    (ne : Text.of other ≠ Text.of key)
    (value : Value)
    (rest : List (Value × Value)) :
    lookup (Text.of key) (member other value :: rest) = lookup (Text.of key) rest := by
  rw [member, lookup, if_neg]
  rw [sameKey_text_iff, text.injEq]
  exact ne

/-- Values that agree wherever they are looked up agree one by one. -/
theorem forall₂_of_lookup
    {relation : Value → Value → Prop}
    {keys : List String}
    {values values' : List Value}
    {extra extra' : List (Value × Value)}
    (distinct : (keys.map Text.of).Nodup)
    (length : values.length = keys.length)
    (length' : values'.length = keys.length)
    (looked : ∀ key ∈ keys, ∀ value,
      lookup (Text.of key) (members keys values ++ extra) = some value →
        ∃ other, lookup (Text.of key) (members keys values' ++ extra') = some other ∧
          relation value other) :
    List.Forall₂ relation values values' := by
  induction keys generalizing values values' with
  | nil =>
    obtain rfl := List.length_eq_zero_iff.1 length
    obtain rfl := List.length_eq_zero_iff.1 length'
    exact .nil
  | cons key keys hypothesis =>
    obtain ⟨value, values, rfl⟩ := List.exists_cons_of_length_eq_add_one length
    obtain ⟨value', values', rfl⟩ := List.exists_cons_of_length_eq_add_one length'
    rw [List.map_cons, List.nodup_cons] at distinct
    simp only [List.length_cons, Nat.add_right_cancel_iff] at length length'
    obtain ⟨other, found, related⟩ :=
      looked key List.mem_cons_self value (lookup_member key value _)
    obtain rfl : value' = other :=
      Option.some.inj ((lookup_member key value' _).symm.trans found)
    refine .cons related (hypothesis distinct.2 length length' ?_)
    intro later member held heldFound
    have differs : Text.of key ≠ Text.of later := by
      intro equal
      exact distinct.1 (equal ▸ List.mem_map_of_mem member)
    obtain ⟨other, otherFound, related⟩ := looked later (List.mem_cons_of_mem _ member) held
      ((lookup_member_of_ne differs value _).trans heldFound)
    exact ⟨other, (lookup_member_of_ne differs value' _).symm.trans otherFound, related⟩

/-- Maps with the same keys agree value by value, whatever else they have. -/
theorem agrees_members
    (keys : List String)
    (values values' : List Value)
    {extra extra' : List (Value × Value)}
    (told : AreTold keys)
    (length : values.length = keys.length)
    (length' : values'.length = keys.length)
    (agrees : Agrees (.map (members keys values ++ extra))
      (.map (members keys values' ++ extra'))) :
    List.Forall₂ Agrees values values' :=
  forall₂_of_lookup told.1 length length' fun key isKey _ => agrees.lookup (told.2 key isKey)

end Report

end Stencil
