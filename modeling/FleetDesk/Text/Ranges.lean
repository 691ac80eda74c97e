/-!
# Sets of code points

A set is a list of ranges in rising order, both ends included.
-/

namespace FleetDesk.Text

def inRanges (n : Nat) : List (Nat × Nat) → Bool
  | [] => false
  | (lo, hi) :: ranges => if n < lo then false else n ≤ hi || inRanges n ranges

theorem exists_range_of_inRanges {n : Nat} {ranges : List (Nat × Nat)} (h : inRanges n ranges) :
    ∃ r ∈ ranges, r.1 ≤ n ∧ n ≤ r.2 := by
  induction ranges with
  | nil => simp [inRanges] at h
  | cons r rs ih =>
    simp only [inRanges] at h
    split at h
    · cases h
    · rcases Bool.or_eq_true_iff.1 h with h | h
      · exact ⟨r, by simp, by omega, by simpa using h⟩
      · obtain ⟨s, hs, h⟩ := ih h
        exact ⟨s, by simp [hs], h⟩

end FleetDesk.Text
