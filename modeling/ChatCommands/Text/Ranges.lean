/-!
Sets of code points as ascending lists of inclusive ranges. `inRanges_iff` says
that looking a code point up finds exactly the members of the listed ranges,
provided the list ascends.
-/

namespace ChatCommands.Text

/-- Whether `n` lies in one of the ranges; the list ascends, so the search ends at the first range
above `n`. -/
def inRanges : List (Nat × Nat) → Nat → Bool
  | [], _ => false
  | (low, high) :: rest, n =>
    if n < low then false else if n ≤ high then true else inRanges rest n

/-- Ranges in ascending order, each with its ends in order. -/
def Ascending : List (Nat × Nat) → Prop
  | [] => True
  | (low, high) :: rest => low ≤ high ∧ (∀ r ∈ rest, high < r.1) ∧ Ascending rest

theorem inRanges_iff {ranges : List (Nat × Nat)} (h : Ascending ranges) (n : Nat) :
    inRanges ranges n = true ↔ ∃ r ∈ ranges, r.1 ≤ n ∧ n ≤ r.2 := by
  induction ranges with
  | nil => simp [inRanges]
  | cons r rest ih =>
    obtain ⟨low, high⟩ := r
    obtain ⟨ordered, above, tail⟩ := h
    unfold inRanges
    by_cases below : n < low
    · simp only [below, if_true]
      constructor
      · intro impossible; cases impossible
      · rintro ⟨s, member, lower, _⟩
        rcases List.mem_cons.1 member with rfl | later
        · simp at lower; omega
        · have := above s later; omega
    · by_cases inside : n ≤ high
      · simp only [below, inside, if_true, if_false, true_iff]
        exact ⟨(low, high), List.mem_cons_self, by omega, inside⟩
      · simp only [below, inside, if_false]
        rw [ih tail]
        constructor
        · rintro ⟨s, member, bounds⟩
          exact ⟨s, List.mem_cons_of_mem _ member, bounds⟩
        · rintro ⟨s, member, lower, upper⟩
          rcases List.mem_cons.1 member with rfl | later
          · exact absurd upper inside
          · exact ⟨s, later, lower, upper⟩

end ChatCommands.Text
