import Stencil.Document

/-!
# Changes of delimiters

Delimiters are changed kind by kind, all or nothing.  The main statements are that
the pairs of the changed delimiters are exactly the values that the changes have for
their kinds, and that of several values for one kind the last one counts.
-/

namespace Stencil

theorem Kind.ofName?_eq_some_iff
    {name : Text}
    {kind : Kind} :
    ofName? name = some kind ↔ name = kind.name := by
  constructor
  · intro found
    have isName := List.find?_some found
    exact (beq_iff_eq.1 isName).symm
  · rintro rfl
    cases kind <;> decide

namespace Pair

/-- A value denotes a pair exactly if it is the value of the pair. -/
theorem ofValue?_eq_some_iff {value : Value} {pair : Pair} :
    ofValue? value = some pair ↔ value = pair.toValue := by
  constructor
  · intro denotes
    unfold ofValue? at denotes
    split at denotes
    · unfold of? at denotes
      split at denotes
      · cases denotes
        rfl
      · cases denotes
    · cases denotes
  · rintro rfl
    have notEmpty : pair.opening ≠ [] ∧ pair.closing ≠ [] :=
      ⟨pair.opening_ne_nil, pair.closing_ne_nil⟩
    simp only [toValue, ofValue?, of?, dif_pos notEmpty]

end Pair

namespace Delimiters

/-- The pair of a kind is the one that the changes have for it, or else the old one. -/
theorem changedPair_eq_ok_iff
    {delimiters : Delimiters}
    {changes : List (Kind × Value)}
    {kind : Kind}
    {pair : Pair} :
    delimiters.changedPair changes kind = .ok pair ↔
      change? changes kind = some pair.toValue ∨
        change? changes kind = none ∧ pair = delimiters.pair kind := by
  unfold changedPair
  cases change? changes kind with
  | none => simp [eq_comm]
  | some value =>
    dsimp only
    rw [Option.some.injEq, ← Pair.ofValue?_eq_some_iff]
    cases Pair.ofValue? value <;> simp

/-- Delimiters are changed exactly if the pairs of all kinds are. -/
theorem change_eq_ok_iff
    {delimiters changed : Delimiters}
    {changes : List (Kind × Value)} :
    delimiters.change changes = .ok changed ↔
      ∀ kind, delimiters.changedPair changes kind = .ok (changed.pair kind) := by
  have ofKinds : (∀ kind, delimiters.changedPair changes kind = .ok (changed.pair kind)) ↔
      delimiters.changedPair changes .inline = .ok changed.inline ∧
        delimiters.changedPair changes .comment = .ok changed.comment ∧
        delimiters.changedPair changes .block = .ok changed.block ∧
        delimiters.changedPair changes .pragma = .ok changed.pragma := by
    constructor
    · exact fun all => ⟨all .inline, all .comment, all .block, all .pragma⟩
    · rintro ⟨inline, comment, block, pragma⟩ kind
      cases kind <;> assumption
  rw [ofKinds, change]
  cases delimiters.changedPair changes .inline with
  | error fault => simp [bind, Except.bind]
  | ok inline =>
    cases delimiters.changedPair changes .comment with
    | error fault => simp [bind, Except.bind]
    | ok comment =>
      cases delimiters.changedPair changes .block with
      | error fault => simp [bind, Except.bind]
      | ok block =>
        cases delimiters.changedPair changes .pragma with
        | error fault => simp [bind, Except.bind]
        | ok pragma =>
          obtain ⟨pragma', inline', comment', block'⟩ := changed
          simp only [bind, Except.bind, pure, Except.pure, Except.ok.injEq, Delimiters.mk.injEq]
          exact ⟨fun ⟨pragma, inline, comment, block⟩ => ⟨inline, comment, block, pragma⟩,
            fun ⟨inline, comment, block, pragma⟩ => ⟨pragma, inline, comment, block⟩⟩

/-- What delimiters are changed to are the texts of the changes, and neither is
empty. -/
theorem exists_of_change
    {delimiters changed : Delimiters}
    {changes : List (Kind × Value)}
    {kind : Kind}
    {value : Value}
    (success : delimiters.change changes = .ok changed)
    (listed : change? changes kind = some value) :
    ∃ opening closing, value = .tuple [.text opening, .text closing] ∧
      opening ≠ [] ∧ closing ≠ [] ∧
      (changed.pair kind).opening = opening ∧ (changed.pair kind).closing = closing := by
  rcases changedPair_eq_ok_iff.1 (change_eq_ok_iff.1 success kind) with given | ⟨absent, _⟩
  · rw [listed, Option.some.injEq] at given
    exact ⟨_, _, given, Pair.opening_ne_nil _, Pair.closing_ne_nil _, rfl, rfl⟩
  · rw [listed] at absent
    cases absent

/-- What is changed depends on the last value for each kind alone. -/
theorem change_congr
    {first second : List (Kind × Value)}
    (same : ∀ kind, change? first kind = change? second kind)
    (delimiters : Delimiters) :
    delimiters.change first = delimiters.change second := by
  have samePairs : ∀ kind, delimiters.changedPair first kind =
      delimiters.changedPair second kind := by
    intro kind
    rw [changedPair, changedPair, same]
  simp only [change, samePairs]

theorem changedPair_eq_error_iff
    {delimiters : Delimiters}
    {changes : List (Kind × Value)}
    {kind : Kind}
    {fault : Fault} :
    delimiters.changedPair changes kind = .error fault ↔
      fault.kind = kind ∧ change? changes kind = some fault.value ∧
        Pair.ofValue? fault.value = none := by
  unfold changedPair
  cases change? changes kind with
  | none => simp
  | some value =>
    dsimp only
    cases denotes : Pair.ofValue? value with
    | some pair =>
      simp only [reduceCtorEq, Option.some.injEq, false_iff, not_and]
      rintro _ rfl
      simp [denotes]
    | none =>
      simp only [Except.error.injEq, Option.some.injEq]
      constructor
      · rintro rfl
        exact ⟨rfl, rfl, denotes⟩
      · rintro ⟨rfl, rfl, _⟩
        rfl

/-- Delimiters are not changed because of a value that denotes no pair. -/
theorem fault_of_change
    {delimiters : Delimiters}
    {changes : List (Kind × Value)}
    {fault : Fault}
    (failure : delimiters.change changes = .error fault) :
    change? changes fault.kind = some fault.value ∧ Pair.ofValue? fault.value = none := by
  have ofPair {kind : Kind} (failed : delimiters.changedPair changes kind = .error fault) :
      change? changes fault.kind = some fault.value ∧ Pair.ofValue? fault.value = none := by
    obtain ⟨rfl, listed⟩ := changedPair_eq_error_iff.1 failed
    exact listed
  unfold change at failure
  cases inline : delimiters.changedPair changes .inline with
  | error found =>
    rw [inline] at failure
    obtain rfl := Except.error.inj failure
    exact ofPair inline
  | ok =>
    cases comment : delimiters.changedPair changes .comment with
    | error found =>
      rw [inline, comment] at failure
      obtain rfl := Except.error.inj failure
      exact ofPair comment
    | ok =>
      cases block : delimiters.changedPair changes .block with
      | error found =>
        rw [inline, comment, block] at failure
        obtain rfl := Except.error.inj failure
        exact ofPair block
      | ok =>
        cases pragma : delimiters.changedPair changes .pragma with
        | error found =>
          rw [inline, comment, block, pragma] at failure
          obtain rfl := Except.error.inj failure
          exact ofPair pragma
        | ok =>
          rw [inline, comment, block, pragma] at failure
          cases failure

/-! ## Changes one after the other -/

theorem change?_cons (kind : Kind) (value : Value) (changes : List (Kind × Value)) (other : Kind) :
    change? ((kind, value) :: changes) other =
      (change? changes other).or (if kind = other then some value else none) := by
  unfold change?
  rw [List.reverse_cons, List.find?_append, Option.map_or]
  congr 1
  by_cases same : kind = other <;> simp [same]

theorem change?_eq_none
    {changes : List (Kind × Value)}
    {kind : Kind}
    (absent : kind ∉ changes.map Prod.fst) :
    change? changes kind = none := by
  rw [change?, Option.map_eq_none_iff, List.find?_eq_none]
  intro change member
  rw [beq_iff_eq]
  rintro rfl
  exact absent (List.mem_map_of_mem (List.mem_reverse.1 member))

end Delimiters

namespace Document

open Delimiters

theorem map_fst_putChange (kind : Kind) (value : Value) (changes : List (Kind × Value)) :
    (putChange kind value changes).map Prod.fst =
      if kind ∈ changes.map Prod.fst then changes.map Prod.fst
      else changes.map Prod.fst ++ [kind] := by
  induction changes with
  | nil => rfl
  | cons change changes hypothesis =>
    obtain ⟨known, old⟩ := change
    rw [putChange]
    by_cases same : known = kind
    · simp [same]
    · rw [if_neg same, List.map_cons, hypothesis]
      simp only [List.map_cons, List.mem_cons, Ne.symm same, false_or]
      split <;> rfl

/-- No kind is listed twice. -/
theorem nodup_putChange
    {changes : List (Kind × Value)}
    (single : (changes.map Prod.fst).Nodup)
    (kind : Kind)
    (value : Value) :
    ((putChange kind value changes).map Prod.fst).Nodup := by
  rw [map_fst_putChange]
  split
  · exact single
  · rename_i absent
    refine List.nodup_append.2 ⟨single, List.pairwise_singleton _ kind, ?_⟩
    rintro known member other inside rfl
    rw [List.mem_singleton.1 inside] at member
    exact absent member

/-- A change that is put in place of an older one for its kind. -/
theorem change?_putChange
    {changes : List (Kind × Value)}
    (single : (changes.map Prod.fst).Nodup)
    (kind : Kind)
    (value : Value)
    (other : Kind) :
    change? (putChange kind value changes) other =
      if kind = other then some value else change? changes other := by
  induction changes with
  | nil =>
    rw [putChange, change?_cons]
    rfl
  | cons change changes hypothesis =>
    obtain ⟨known, old⟩ := change
    rw [List.map_cons, List.nodup_cons] at single
    rw [putChange]
    by_cases same : known = kind
    · subst same
      rw [if_pos rfl, change?_cons, change?_cons]
      by_cases asked : known = other
      · subst asked
        rw [change?_eq_none single.1, Option.none_or, if_pos rfl, if_pos rfl]
      · simp [asked]
    · rw [if_neg same, change?_cons, change?_cons, hypothesis single.2]
      by_cases asked : kind = other
      · simp [asked]
      · simp [asked]

/-- Of changes that are put one after the other, the last one for each kind counts. -/
theorem change?_foldl_putChange
    (listed : List (Kind × Value))
    {changes : List (Kind × Value)}
    (single : (changes.map Prod.fst).Nodup)
    (kind : Kind) :
    change? (listed.foldl (fun changes change => putChange change.1 change.2 changes) changes)
      kind = (change? listed kind).or (change? changes kind) := by
  induction listed generalizing changes with
  | nil => rfl
  | cons change listed hypothesis =>
    obtain ⟨known, value⟩ := change
    rw [List.foldl_cons, hypothesis (nodup_putChange single known value),
      change?_putChange single, change?_cons, Option.or_assoc]
    congr 1
    split <;> rfl

end Document

end Stencil
