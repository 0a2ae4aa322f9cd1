/-!
# DataSchema.Text.Table.Ranges

**Looking a character up in a table of ranges.** The tables of this folder hold data of the Unicode
standard. Each is a list of closed ranges of code points, in increasing order, so a search can stop
at the first range that starts beyond the character.
-/

namespace DataSchema.Text.Table

/-- Is the code point in one of the ranges, which are in increasing order? -/
def inRanges : List (Nat × Nat) → Nat → Bool
  | [], _ => false
  | (first, last) :: rest, n => if n < first then false else n ≤ last || inRanges rest n

/-- A code point that is found lies in a range of the table. -/
theorem exists_range_of_inRanges {table : List (Nat × Nat)} {n : Nat}
    (h : inRanges table n = true) : ∃ r ∈ table, r.1 ≤ n ∧ n ≤ r.2 := by
  induction table with
  | nil => simp [inRanges] at h
  | cons r rest ih =>
    simp only [inRanges] at h
    split at h
    · simp at h
    · next hn =>
      rcases Bool.or_eq_true _ _ ▸ h with h | h
      · exact ⟨r, List.mem_cons_self, by omega, by simpa using h⟩
      · obtain ⟨s, hs, hr⟩ := ih h
        exact ⟨s, List.mem_cons_of_mem _ hs, hr⟩

end DataSchema.Text.Table
