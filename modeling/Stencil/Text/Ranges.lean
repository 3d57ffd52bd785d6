import Stencil.Text

/-!
# Character classes as ranges

A class of code points is an ascending list of closed ranges that do not touch.
-/

namespace Stencil

/-- Closed ranges of code points, ascending. -/
abbrev Ranges := List (Nat × Nat)

namespace Ranges

/-- Membership, which stops at the first range that ends at the point or above it. -/
def contains : Ranges → CodePoint → Bool
  | [], _ => false
  | (low, high) :: rest, point =>
    if point.val ≤ high then low ≤ point.val else contains rest point

/-- Whether ranges are ascending and have gaps between them. -/
def isAscending : Ranges → Bool
  | [] => true
  | [(low, high)] => low ≤ high
  | (low, high) :: (next, top) :: rest =>
    low ≤ high && high + 1 < next && isAscending ((next, top) :: rest)

/-- Behind a range, all ranges begin above it. -/
theorem lt_of_isAscending
    {low high : Nat}
    {rest : Ranges}
    (ascending : isAscending ((low, high) :: rest) = true)
    {range : Nat × Nat}
    (member : range ∈ rest) :
    high < range.1 := by
  induction rest generalizing low high with
  | nil => cases member
  | cons first rest hypothesis =>
    obtain ⟨next, top⟩ := first
    simp only [isAscending, Bool.and_eq_true, decide_eq_true_eq] at ascending
    rcases List.mem_cons.1 member with rfl | later
    · omega
    · have above := hypothesis ascending.2 later
      have ordered : next ≤ top := by
        cases rest <;> simp_all [isAscending]
      omega

/-- Of ascending ranges, the one that decides is the only one that may hold the point. -/
theorem contains_iff
    {ranges : Ranges}
    (ascending : ranges.isAscending = true)
    (point : CodePoint) :
    ranges.contains point = true ↔
      ∃ range ∈ ranges, range.1 ≤ point.val ∧ point.val ≤ range.2 := by
  induction ranges with
  | nil => simp [contains]
  | cons range rest hypothesis =>
    obtain ⟨low, high⟩ := range
    have further : isAscending rest = true := by
      cases rest <;> simp_all [isAscending]
    rw [contains]
    simp only [List.mem_cons, exists_eq_or_imp]
    split
    · rename_i within
      constructor
      · intro above
        exact .inl ⟨by simpa using above, within⟩
      · rintro (inside | ⟨other, member, begins, _⟩)
        · simpa using inside.1
        · have above := lt_of_isAscending ascending member
          omega
    · rename_i beyond
      rw [hypothesis further]
      constructor
      · exact .inr
      · rintro (inside | later)
        · exact absurd inside.2 beyond
        · exact later

end Ranges

end Stencil
