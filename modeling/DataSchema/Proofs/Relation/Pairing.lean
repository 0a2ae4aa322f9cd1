import Mathlib.Data.List.Perm.Subperm
import Mathlib.Data.List.ReduceOption
import DataSchema.Relation.Pairing

/-!
# DataSchema.Proofs.Relation.Pairing

**The pairing of lists with references is a matching.** Both passes move references from the free
ones to the partners and drop none, so the partners and what is still free are together a
rearrangement of the references that were there at first (`perm_byLabel`, `perm_byPosition`). That
no reference belongs to two lists, and that no list stays alone while a reference is free, follows
by counting.

Which reference a list gets is said for the two cases that a schema can rely on:

* a label that one list and one reference carry pairs the two, whatever the other fields are
  (`pair_of_onlyAt`);
* without a common label the pairing goes by position (`pair_of_disjoint`).
-/

namespace DataSchema.Pairing

/-! ### The first pass, step by step -/

/-- The free reference that a list takes for its label. -/
def wanted (label : Option String) (free : List Slot) : Option Slot :=
  label.bind fun label => free.find? fun slot => slot.2 = some label

theorem byLabel_cons_of_none {label : Option String} {free : List Slot}
    (h : wanted label free = none) (lists : List (Option String)) :
    byLabel (label :: lists) free =
      (none :: (byLabel lists free).1, (byLabel lists free).2) := by
  cases label with
  | none => rfl
  | some label =>
      have hfind : free.find? (fun slot => slot.2 = some label) = none := h
      rw [byLabel, hfind]

theorem byLabel_cons_of_some {label : Option String} {free : List Slot} {slot : Slot}
    (h : wanted label free = some slot) (lists : List (Option String)) :
    byLabel (label :: lists) free =
      (some slot.1 :: (byLabel lists (free.erase slot)).1, (byLabel lists (free.erase slot)).2) := by
  cases label with
  | none => exact absurd h (by simp [wanted])
  | some label =>
      have hfind : free.find? (fun slot => slot.2 = some label) = some slot := h
      rw [byLabel, hfind]

/-- What a list takes for its label is free and has that label. -/
theorem mem_and_label_of_wanted {label : Option String} {free : List Slot} {slot : Slot}
    (h : wanted label free = some slot) : slot ∈ free ∧ label.isSome ∧ slot.2 = label := by
  cases label with
  | none => exact absurd h (by simp [wanted])
  | some label =>
      have hfind : free.find? (fun slot => slot.2 = some label) = some slot := h
      exact ⟨List.mem_of_find?_eq_some hfind, rfl, by simpa using List.find?_some hfind⟩

/-! ### Nothing is taken twice

Partners and free references are counted together. -/

theorem perm_byLabel (lists : List (Option String)) (free : List Slot) :
    ((byLabel lists free).1.reduceOption ++ (byLabel lists free).2.map Prod.fst).Perm
      (free.map Prod.fst) := by
  induction lists generalizing free with
  | nil => exact .refl _
  | cons label rest ih =>
      cases hw : wanted label free with
      | none =>
          rw [byLabel_cons_of_none hw, List.reduceOption_cons_of_none]
          exact ih free
      | some slot =>
          rw [byLabel_cons_of_some hw, List.reduceOption_cons_of_some, List.cons_append]
          have htaken := (List.perm_cons_erase (mem_and_label_of_wanted hw).1).map Prod.fst
          exact ((ih (free.erase slot)).cons slot.1).trans htaken.symm

/-- The second pass takes the free references from the front, one for each list without partner. -/
theorem perm_byPosition (partners : List (Option Nat)) (free : List Slot) :
    (byPosition partners free).reduceOption.Perm (partners.reduceOption ++
      (free.take (partners.filter Option.isNone).length).map Prod.fst) := by
  fun_induction byPosition partners free with
  | case1 => simp
  | case2 partner rest free ih =>
      rw [List.reduceOption_cons_of_some, List.reduceOption_cons_of_some, List.cons_append,
        List.filter_cons_of_neg (by simp)]
      exact ih.cons partner
  | case3 rest slot free ih =>
      rw [List.reduceOption_cons_of_some, List.reduceOption_cons_of_none,
        List.filter_cons_of_pos rfl, List.length_cons, List.take_succ_cons, List.map_cons]
      exact (ih.cons slot.1).trans List.perm_middle.symm
  | case4 rest ih =>
      rw [List.reduceOption_cons_of_none, List.reduceOption_cons_of_none, List.take_nil]
      simpa using ih

@[simp] theorem map_fst_slots (references : List (Option String)) :
    (slots references).map Prod.fst = List.range references.length := by
  rw [slots, List.map_map, List.range_eq_range', ← List.zipIdx_map_snd 0 references]
  rfl

/-- The partners are taken from the references, each at most once. -/
theorem subperm_pair (lists references : List (Option String)) :
    (pair lists references).reduceOption.Subperm (List.range references.length) := by
  have hall := perm_byLabel lists (slots references)
  rw [map_fst_slots] at hall
  refine (perm_byPosition _ _).subperm.trans (List.Subperm.trans ?_ hall.subperm)
  exact (((List.take_sublist _ _).map Prod.fst).append_left _).subperm

theorem nodup_pair (lists references : List (Option String)) :
    (pair lists references).reduceOption.Nodup := by
  obtain ⟨partners, hperm, hsub⟩ := subperm_pair lists references
  exact hperm.nodup_iff.mp (hsub.nodup List.nodup_range)

/-- A partner is the place of a reference. -/
theorem lt_of_mem_pair {lists references : List (Option String)} {j : Nat}
    (h : some j ∈ pair lists references) : j < references.length := by
  have hmem := (subperm_pair lists references).subset (List.reduceOption_mem_iff.mpr h)
  exact List.mem_range.mp hmem

/-- Lists take references as long as there are any. -/
theorem length_reduceOption_pair (lists references : List (Option String)) :
    (pair lists references).reduceOption.length = min lists.length references.length := by
  -- The lists without partner after the first pass take what is free from the front.
  have hlabelled := (perm_byLabel lists (slots references)).length_eq
  have hpair := (perm_byPosition (byLabel lists (slots references)).1
    (byLabel lists (slots references)).2).length_eq
  have hlists := length_byLabel lists (slots references)
  rw [List.length_eq_reduceOption_length_add_filter_none] at hlists
  rw [List.length_append, List.length_map, map_fst_slots, List.length_range] at hlabelled
  rw [List.length_append, List.length_map, List.length_take] at hpair
  simp only [pair]
  omega

/-- Where there is a reference for each list, no list stays alone. -/
theorem isSome_of_mem_pair {lists references : List (Option String)}
    (h : lists.length ≤ references.length) {partner : Option Nat}
    (hmem : partner ∈ pair lists references) : partner.isSome = true := by
  refine List.reduceOption_length_eq_iff.mp ?_ partner hmem
  rw [length_reduceOption_pair, length_pair, Nat.min_eq_left h]

/-- Two lists never share a partner. -/
theorem eq_of_getElem?_pair {lists references : List (Option String)} {i k j : Nat}
    (hi : (pair lists references)[i]? = some (some j))
    (hk : (pair lists references)[k]? = some (some j)) : i = k := by
  -- Without the empty places the partners are all different, so any two places differ in theirs.
  have hpairwise := List.pairwise_iff_getElem.mp
    (List.pairwise_filterMap.mp (nodup_pair lists references))
  have hlt : ∀ {a b : Nat}, (pair lists references)[a]? = some (some j) →
      (pair lists references)[b]? = some (some j) → ¬a < b := by
    intro a b ha hb hab
    obtain ⟨hla, hga⟩ := List.getElem?_eq_some_iff.mp ha
    obtain ⟨hlb, hgb⟩ := List.getElem?_eq_some_iff.mp hb
    exact hpairwise a b hla hlb hab j hga j hgb rfl
  exact Nat.le_antisymm (Nat.le_of_not_lt (hlt hk hi)) (Nat.le_of_not_lt (hlt hi hk))

/-! ### A label carried once on both sides -/

/-- The label stands at one place of a list of labels, and nowhere else. -/
def OnlyAt (label : String) (i : Nat) (labels : List (Option String)) : Prop :=
  ∀ k, labels[k]? = some (some label) ↔ k = i

theorem onlyAt_iff {label : String} {i : Nat} {labels : List (Option String)} :
    (labels[i]? = some (some label) ∧
      ∀ k < labels.length, labels[k]? = some (some label) → k = i) ↔ OnlyAt label i labels := by
  constructor
  · rintro ⟨hi, honly⟩ k
    constructor
    · intro hk
      exact honly k (List.getElem?_eq_some_iff.mp hk).1 hk
    · rintro rfl
      exact hi
  · intro h
    exact ⟨(h i).mpr rfl, fun k _ hk => (h k).mp hk⟩

instance (label : String) (i : Nat) (labels : List (Option String)) :
    Decidable (OnlyAt label i labels) :=
  decidable_of_iff _ onlyAt_iff

/-- A partner found in the first pass is kept in the second. -/
theorem getElem?_byPosition {partners : List (Option Nat)} {i j : Nat}
    (h : partners[i]? = some (some j)) (free : List Slot) :
    (byPosition partners free)[i]? = some (some j) := by
  fun_induction byPosition partners free generalizing i with
  | case1 => exact absurd h (by simp)
  | case2 partner rest free ih =>
      cases i with
      | zero => exact h
      | succ i => exact ih h
  | case3 rest slot free ih =>
      cases i with
      | zero => exact absurd h (by simp)
      | succ i => exact ih h
  | case4 rest ih =>
      cases i with
      | zero => exact absurd h (by simp)
      | succ i => exact ih h

theorem mem_slots {references : List (Option String)} {slot : Slot} :
    slot ∈ slots references ↔ references[slot.1]? = some slot.2 := by
  simp only [slots, List.mem_map]
  constructor
  · rintro ⟨⟨label, index⟩, hmem, rfl⟩
    exact List.mem_zipIdx_iff_getElem?.mp hmem
  · intro h
    exact ⟨(slot.2, slot.1), List.mem_zipIdx_iff_getElem?.mpr h, rfl⟩

/-- The first pass pairs the only list of a label with the only reference of that label: the lists
before it want other labels, so they leave the reference free. -/
theorem getElem?_byLabel_of_onlyAt {label : String} {lists : List (Option String)} {i : Nat}
    (hlist : OnlyAt label i lists) {free : List Slot} {slot : Slot} (hslot : slot ∈ free)
    (hlabel : ∀ other ∈ free, other.2 = some label ↔ other = slot) :
    (byLabel lists free).1[i]? = some (some slot.1) := by
  induction lists generalizing i free with
  | nil => exact absurd ((hlist i).mpr rfl) (by simp)
  | cons first rest ih =>
      by_cases hfirst : first = some label
      · have hi : 0 = i := (hlist 0).mp (by rw [hfirst]; rfl)
        have hw : wanted first free = some slot := by
          cases hfind : wanted first free with
          | none =>
              rw [hfirst] at hfind
              exact absurd ((hlabel slot hslot).mpr rfl)
                (by simpa using List.find?_eq_none.mp hfind slot hslot)
          | some other =>
              obtain ⟨hmem, -, hother⟩ := mem_and_label_of_wanted hfind
              rw [(hlabel other hmem).mp (hother.trans hfirst)]
        rw [byLabel_cons_of_some hw, ← hi]
        rfl
      · cases i with
        | zero =>
            have hzero : (first :: rest)[0]? = some (some label) := (hlist 0).mpr rfl
            exact absurd (Option.some.inj hzero) hfirst
        | succ i =>
            have hrest : OnlyAt label i rest := fun k => (hlist (k + 1)).trans (by omega)
            cases hw : wanted first free with
            | none =>
                rw [byLabel_cons_of_none hw]
                exact ih hrest hslot hlabel
            | some other =>
                have hne : slot ≠ other := by
                  rintro rfl
                  obtain ⟨-, -, hother⟩ := mem_and_label_of_wanted hw
                  exact hfirst (hother.symm.trans ((hlabel slot hslot).mpr rfl))
                rw [byLabel_cons_of_some hw]
                exact ih hrest ((List.mem_erase_of_ne hne).mpr hslot)
                  fun o ho => hlabel o (List.mem_of_mem_erase ho)

/-- **A label decides.** A label carried by one list and one reference pairs the two. -/
theorem pair_of_onlyAt {label : String} {lists references : List (Option String)} {i j : Nat}
    (hlist : OnlyAt label i lists) (hreference : OnlyAt label j references) :
    (pair lists references)[i]? = some (some j) := by
  have hslot : (j, some label) ∈ slots references := mem_slots.mpr ((hreference j).mpr rfl)
  refine getElem?_byPosition (getElem?_byLabel_of_onlyAt hlist hslot fun other hother => ?_) _
  rw [mem_slots] at hother
  constructor
  · intro hlabel
    rw [hlabel] at hother
    exact Prod.ext ((hreference other.1).mp hother) hlabel
  · rintro rfl
    rfl

/-! ### No common label -/

/-- Without a common label the first pass pairs nothing. -/
theorem byLabel_of_disjoint {lists : List (Option String)} {free : List Slot}
    (h : ∀ label, some label ∈ lists → ∀ slot ∈ free, slot.2 ≠ some label) :
    byLabel lists free = (List.replicate lists.length none, free) := by
  induction lists with
  | nil => rfl
  | cons first rest ih =>
      have hw : wanted first free = none := by
        cases hfind : wanted first free with
        | none => rfl
        | some slot =>
            obtain ⟨hmem, hsome, hlabel⟩ := mem_and_label_of_wanted hfind
            obtain ⟨label, rfl⟩ := Option.isSome_iff_exists.mp hsome
            exact absurd hlabel (h label (List.mem_cons_self ..) slot hmem)
      rw [byLabel_cons_of_none hw,
        ih fun label hlabel => h label (List.mem_cons_of_mem _ hlabel)]
      rfl

/-- The second pass alone pairs by position. -/
theorem getElem?_byPosition_replicate {n k : Nat} (hk : k < n) (free : List Slot) :
    (byPosition (List.replicate n none) free)[k]? = some (free[k]?.map Prod.fst) := by
  induction n generalizing k free with
  | zero => exact absurd hk (Nat.not_lt_zero k)
  | succ n ih =>
      rw [List.replicate_succ]
      cases free with
      | nil =>
          cases k with
          | zero => rfl
          | succ k => exact ih (Nat.lt_of_succ_lt_succ hk) []
      | cons slot free =>
          cases k with
          | zero => rfl
          | succ k => exact ih (Nat.lt_of_succ_lt_succ hk) free

/-- **Otherwise the order decides.** Without a common label each list gets the reference at its own
place, and those beyond the last reference get none. -/
theorem pair_of_disjoint {lists references : List (Option String)}
    (h : ∀ label, some label ∈ lists → some label ∉ references) {k : Nat} (hk : k < lists.length) :
    (pair lists references)[k]? = some (if k < references.length then some k else none) := by
  have hfree : ∀ label, some label ∈ lists → ∀ slot ∈ slots references, slot.2 ≠ some label := by
    intro label hlabel slot hslot hsame
    rw [mem_slots, hsame] at hslot
    exact h label hlabel (List.mem_of_getElem? hslot)
  have hplaces : (slots references)[k]?.map Prod.fst =
      if k < references.length then some k else none := by
    rw [← List.getElem?_map, map_fst_slots]
    by_cases hlt : k < references.length
    · rw [if_pos hlt, List.getElem?_range hlt]
    · rw [if_neg hlt, List.getElem?_eq_none (by simpa using hlt)]
  simp only [pair, byLabel_of_disjoint hfree]
  rw [getElem?_byPosition_replicate hk, hplaces]

end DataSchema.Pairing
