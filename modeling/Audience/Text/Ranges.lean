/-! # Range tables

A class of characters is kept as an ascending list of closed intervals of code points. Membership
walks the list and stops at the first interval that starts beyond the code point.

* **`inRanges table n`** — whether `n` lies in one of the intervals. -/

namespace Audience

/-- Whether `n` lies in one of the closed intervals of an ascending table. -/
def inRanges : List (Nat × Nat) → Nat → Bool
  | [], _ => false
  | (lo, hi) :: rest, n => if n < lo then false else if n ≤ hi then true else inRanges rest n

/-- No code point lies in the empty table. -/
@[simp] theorem inRanges_nil (n : Nat) : inRanges [] n = false := rfl

/-- Cons reading of `inRanges`. -/
theorem inRanges_cons (lo hi n : Nat) (rest : List (Nat × Nat)) :
    inRanges ((lo, hi) :: rest) n
      = if n < lo then false else if n ≤ hi then true else inRanges rest n := rfl

/-- A code point found in a table lies between the ends of one of its intervals. -/
theorem exists_mem_of_inRanges {table : List (Nat × Nat)} {n : Nat}
    (h : inRanges table n = true) : ∃ r ∈ table, r.1 ≤ n ∧ n ≤ r.2 := by
  induction table with
  | nil => simp at h
  | cons r rest ih =>
    obtain ⟨lo, hi⟩ := r
    rw [inRanges_cons] at h
    by_cases h1 : n < lo
    · simp [h1] at h
    · by_cases h2 : n ≤ hi
      · exact ⟨(lo, hi), List.mem_cons_self, by omega, h2⟩
      · rw [if_neg h1, if_neg h2] at h
        obtain ⟨r, hr, hlo, hhi⟩ := ih h
        exact ⟨r, List.mem_cons_of_mem _ hr, hlo, hhi⟩

end Audience
