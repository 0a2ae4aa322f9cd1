/-!
# DataSchema.Source.LineRange

**A half-open range of line numbers**, counted from zero. Ranges written by hand may run backwards;
such a range is empty.
-/

namespace DataSchema.Source

/-- The lines from `start` up to, and without, `stop`. -/
structure LineRange where
  /-- The first line of the range. -/
  start : Nat
  /-- The line after the last one. -/
  stop : Nat
deriving DecidableEq, Repr, Inhabited

namespace LineRange

/-- The number of lines. -/
def size (r : LineRange) : Nat := r.stop - r.start

/-- Is no line in the range? -/
def isEmpty (r : LineRange) : Bool := r.size == 0

instance : Membership Nat LineRange := ⟨fun r i => r.start ≤ i ∧ i < r.stop⟩

instance (i : Nat) (r : LineRange) : Decidable (i ∈ r) :=
  inferInstanceAs (Decidable (r.start ≤ i ∧ i < r.stop))

theorem mem_def {i : Nat} {r : LineRange} : i ∈ r ↔ r.start ≤ i ∧ i < r.stop := Iff.rfl

theorem not_mem_zero (i : Nat) : i ∉ (⟨0, 0⟩ : LineRange) := fun h => Nat.not_lt_zero i h.2

/-- The first `limit` lines of the range, in order. -/
def take (r : LineRange) (limit : Nat) : List Nat :=
  (List.range (min limit r.size)).map (r.start + ·)

end LineRange

end DataSchema.Source
