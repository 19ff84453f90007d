/-
Sets of code points given by intervals.

A property of characters that a standard fixes is kept as a list of closed intervals in increasing
order. Membership walks the list and stops at the first interval that begins beyond the code point,
so the characters of the common scripts, which come early, are found early.
-/

set_option autoImplicit false

namespace ShaderLint.Text

/-- Whether `n` lies in one of the intervals, which stand in increasing order. -/
def inIntervals : List (Nat × Nat) → Nat → Bool
  | [], _ => false
  | (first, last) :: rest, n =>
    if n < first then false else if n ≤ last then true else inIntervals rest n

/-- The search finds nothing that is not there: a hit names an interval of the list. -/
theorem exists_interval_of_inIntervals {table : List (Nat × Nat)} {n : Nat}
    (h : inIntervals table n = true) : ∃ i ∈ table, i.1 ≤ n ∧ n ≤ i.2 := by
  induction table with
  | nil => simp [inIntervals] at h
  | cons i rest ih =>
    obtain ⟨first, last⟩ := i
    simp only [inIntervals] at h
    split at h
    · simp at h
    · split at h
      · exact ⟨(first, last), by simp, by omega, by assumption⟩
      · obtain ⟨j, hj, hn⟩ := ih h
        exact ⟨j, by simp [hj], hn⟩

end ShaderLint.Text
