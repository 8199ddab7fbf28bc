/-!
# Sets of characters as ranges

A set of code points is a list of disjoint ranges in ascending order, each with both ends included.
-/

namespace Panel.Text

/-- Whether a code point lies in one of the ranges.  The ranges ascend, so the search ends at the
first one that begins above the code point. -/
def inRanges : List (Nat × Nat) → Nat → Bool
  | [], _ => false
  | (low, high) :: rest, n => if n < low then false else n ≤ high || inRanges rest n

/-- Membership holds exactly in the ranges, when they ascend. -/
theorem inRanges_iff {rs : List (Nat × Nat)} (ordered : rs.Pairwise fun a b => a.2 < b.1)
    (proper : ∀ r ∈ rs, r.1 ≤ r.2) (n : Nat) :
    inRanges rs n = true ↔ ∃ r ∈ rs, r.1 ≤ n ∧ n ≤ r.2 := by
  induction rs with
  | nil => simp [inRanges]
  | cons r rest ih =>
    obtain ⟨later, ordered⟩ := List.pairwise_cons.1 ordered
    have first : r.1 ≤ r.2 := proper r (by simp)
    specialize ih ordered fun s hs => proper s (by simp [hs])
    rw [inRanges]
    split
    · refine ⟨fun h => by simp at h, ?_⟩
      rintro ⟨s, hs, low, -⟩
      rcases List.mem_cons.1 hs with rfl | hs
      · omega
      · have := later s hs
        omega
    · rename_i above
      simp only [Bool.or_eq_true, decide_eq_true_eq, ih, List.mem_cons, exists_eq_or_imp]
      constructor
      · rintro (h | h)
        · exact .inl ⟨by omega, h⟩
        · exact .inr h
      · rintro (h | h)
        · exact .inl h.2
        · exact .inr h

end Panel.Text
