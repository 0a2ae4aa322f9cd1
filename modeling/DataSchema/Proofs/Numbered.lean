import Mathlib.Data.List.Nodup

/-!
# DataSchema.Proofs.Numbered

**Lists of numbered things, in the order of their numbers.** The lines of a range, the blocks of an
outline and the couples of a pairing are picked out of a list with their places there. Such a list is
a matter of membership: two of them are the same if they have the same members.
-/

namespace DataSchema

variable {α : Type}

theorem pairwise_zipIdx (s : List α) : s.zipIdx.Pairwise fun x y => x.2 < y.2 := by
  rw [← List.pairwise_map (f := Prod.snd) (R := (· < ·)), List.zipIdx_map_snd]
  exact List.pairwise_lt_range'

/-- Numbered things in the order of their numbers are determined by which things they are. -/
theorem eq_of_mem_iff {s t : List (Nat × α)} (hs : s.Pairwise fun x y => x.1 < y.1)
    (ht : t.Pairwise fun x y => x.1 < y.1) (h : ∀ i a, (i, a) ∈ s ↔ (i, a) ∈ t) : s = t := by
  have hnodup : ∀ {u : List (Nat × α)}, (u.Pairwise fun x y => x.1 < y.1) → u.Nodup := by
    intro u hu
    refine hu.imp fun {x y} hlt => ?_
    rintro rfl
    exact Nat.lt_irrefl _ hlt
  have hperm : s.Perm t := (List.perm_ext_iff_of_nodup (hnodup hs) (hnodup ht)).mpr
    fun entry => h entry.1 entry.2
  exact hperm.eq_of_pairwise (fun _ _ _ _ hab hba => absurd hab (Nat.lt_asymm hba)) hs ht

end DataSchema
