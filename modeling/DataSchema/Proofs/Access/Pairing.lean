import Mathlib.Data.List.Nodup
import DataSchema.Proofs.Access.Basic
import DataSchema.Proofs.Relation.Pairing

/-!
# DataSchema.Proofs.Access.Pairing

**The pairing with marks.** References are not removed when they are taken but marked, in a list of
marks beside them, and partners are written at the place of their list. Both passes look for the
first reference without a mark by its index. What ties this to the free references that
`Pairing.pair` passes on is `Leaves`: the free ones are those without a mark, and there is a mark for
each reference. With it every index is in range (`pair_eq`).
-/

namespace DataSchema.Checked

open Pairing (Slot byLabel byPosition slots wanted)

/-! ### Marking -/

/-- The first reference without a mark that suits. -/
def firstFree (taken : List Bool) (count : Nat) (suits : Nat → Checked Bool) :
    Checked (Option Nat) :=
  (List.range count).findM? fun j => do
    if ← element taken j then pure false else suits j

/-- What the first pass changes: the marks of the references and the partners of the lists. -/
structure Progress where
  /-- Which references are taken. -/
  taken : List Bool
  /-- The partners found so far. -/
  partners : List (Option Nat)

/-- Is this the label of a reference? -/
def hasLabel (references : List (Option String)) (label : String) (j : Nat) : Checked Bool := do
  let other ← element references j
  pure (other = some label)

/-- The first pass at one list. -/
def pairLabel (references : List (Option String)) (p : Progress) (list : Option String × Nat) :
    Checked Progress :=
  match list.1 with
  | none => pure p
  | some label => do
    match ← firstFree p.taken references.length (hasLabel references label) with
    | none => pure p
    | some j => do
      let taken ← write p.taken j true
      let partners ← write p.partners list.2 (some j)
      pure ⟨taken, partners⟩

/-- The second pass. -/
def pairRest (count : Nat) (taken : List Bool) :
    List (Option Nat) → Checked (List (Option Nat))
  | [] => pure []
  | some partner :: rest => do
    let partners ← pairRest count taken rest
    pure (some partner :: partners)
  | none :: rest => do
    match ← firstFree taken count fun _ => pure true with
    | none => do
      let partners ← pairRest count taken rest
      pure (none :: partners)
    | some j => do
      let taken ← write taken j true
      let partners ← pairRest count taken rest
      pure (some j :: partners)

/-- For each list, by its label, the index of the reference that it belongs to. -/
def pair (lists references : List (Option String)) : Checked (List (Option Nat)) := do
  let p ← lists.zipIdx.foldlM (pairLabel references)
    ⟨List.replicate references.length false, List.replicate lists.length none⟩
  pairRest references.length p.taken p.partners

/-! ### Marks and free references -/

/-- The free references are those without a mark. -/
structure Leaves (references : List (Option String)) (taken : List Bool) (free : List Slot) :
    Prop where
  length : taken.length = references.length
  free_eq : free = (slots references).filter fun slot => taken[slot.1]? = some false

theorem lt_of_mem_slots {references : List (Option String)} {slot : Slot}
    (h : slot ∈ slots references) : slot.1 < references.length :=
  (List.getElem?_eq_some_iff.mp (Pairing.mem_slots.mp h)).1

/-- A reference is known by its place. -/
theorem eq_of_mem_slots {references : List (Option String)} {slot other : Slot}
    (h : slot ∈ slots references) (h' : other ∈ slots references) (heq : slot.1 = other.1) :
    slot = other := by
  rw [Pairing.mem_slots] at h h'
  rw [heq, h'] at h
  exact Prod.ext heq (Option.some.inj h).symm

theorem nodup_slots (references : List (Option String)) : (slots references).Nodup := by
  have hplaces : ((slots references).map Prod.fst).Nodup := by
    rw [Pairing.map_fst_slots]
    exact List.nodup_range
  exact List.Nodup.of_map Prod.fst hplaces

/-- At first no reference has a mark. -/
theorem leaves_slots (references : List (Option String)) :
    Leaves references (List.replicate references.length false) (slots references) where
  length := List.length_replicate
  free_eq := by
    refine (List.filter_eq_self.mpr fun slot hslot => ?_).symm
    rw [decide_eq_true_iff, List.getElem?_replicate, if_pos (lt_of_mem_slots hslot)]

namespace Leaves

variable {references : List (Option String)} {taken : List Bool} {free : List Slot}

/-- Looking for the first reference without a mark finds the first free one. -/
theorem firstFree_eq (h : Leaves references taken free) {suits : Nat → Checked Bool}
    {accepts : Slot → Bool} (hsuits : ∀ slot ∈ slots references, suits slot.1 = pure (accepts slot)) :
    firstFree taken references.length suits = pure ((free.find? accepts).map Prod.fst) := by
  have hmarks : ∀ slot ∈ slots references, slot.1 < taken.length := by
    intro slot hslot
    rw [h.length]
    exact lt_of_mem_slots hslot
  rw [firstFree, ← Pairing.map_fst_slots, h.free_eq]
  generalize slots references = all at hsuits hmarks
  induction all with
  | nil => rfl
  | cons slot rest ih =>
      have hrest := ih (fun other hother => hsuits other (List.mem_cons_of_mem _ hother))
        fun other hother => hmarks other (List.mem_cons_of_mem _ hother)
      have hlt := hmarks slot (List.mem_cons_self ..)
      have hmark := List.getElem?_eq_getElem hlt
      rw [List.map_cons, List.findM?, element_eq hmark, pure_bind]
      cases htaken : taken[slot.1] with
      | true =>
          rw [htaken] at hmark
          rw [List.filter_cons_of_neg (by simp [hmark])]
          exact hrest
      | false =>
          rw [htaken] at hmark
          rw [List.filter_cons_of_pos (by simp [hmark]), List.find?_cons]
          rw [if_neg Bool.false_ne_true, hsuits slot (List.mem_cons_self ..), pure_bind]
          cases accepts slot with
          | true => rfl
          | false => exact hrest

/-- A free reference can be marked, and then it is no longer free. -/
theorem mark (h : Leaves references taken free) {slot : Slot} (hslot : slot ∈ free) :
    write taken slot.1 true = pure (taken.set slot.1 true) ∧
      Leaves references (taken.set slot.1 true) (free.erase slot) := by
  have hfree := hslot
  rw [h.free_eq, List.mem_filter] at hfree
  have hlt := lt_of_mem_slots hfree.1
  rw [← h.length] at hlt
  refine ⟨write_eq hlt true, by rw [List.length_set, h.length], ?_⟩
  rw [h.free_eq, ((nodup_slots references).filter _).erase_eq_filter, List.filter_filter]
  refine List.filter_congr fun other hother => ?_
  by_cases heq : other = slot
  · subst heq
    simp [hlt]
  · have hne : slot.1 ≠ other.1 := fun hplace =>
      heq (eq_of_mem_slots hother hfree.1 hplace.symm)
    rw [List.getElem?_set_ne hne]
    simp [heq]

end Leaves

/-! ### The first pass -/

section FirstPass

variable {references : List (Option String)} {taken : List Bool} {free : List Slot}

theorem firstFree_label (h : Leaves references taken free) (label : String) :
    firstFree taken references.length (hasLabel references label) =
      pure ((wanted (some label) free).map Prod.fst) := by
  refine h.firstFree_eq fun slot hslot => ?_
  rw [hasLabel, element_eq (Pairing.mem_slots.mp hslot), pure_bind]

theorem pairLabel_of_none (h : Leaves references taken free) {label : Option String}
    (hwanted : wanted label free = none) (partners : List (Option Nat)) (i : Nat) :
    pairLabel references ⟨taken, partners⟩ (label, i) = pure ⟨taken, partners⟩ := by
  cases label with
  | none => rfl
  | some label =>
      rw [pairLabel]
      dsimp only
      rw [firstFree_label h, hwanted]
      rfl

theorem pairLabel_of_some (h : Leaves references taken free) {label : Option String} {slot : Slot}
    (hwanted : wanted label free = some slot) {partners : List (Option Nat)} {i : Nat}
    (hi : i < partners.length) :
    pairLabel references ⟨taken, partners⟩ (label, i) =
      pure ⟨taken.set slot.1 true, partners.set i (some slot.1)⟩ := by
  obtain ⟨hmem, hsome, -⟩ := Pairing.mem_and_label_of_wanted hwanted
  obtain ⟨label, rfl⟩ := Option.isSome_iff_exists.mp hsome
  rw [pairLabel]
  dsimp only
  rw [firstFree_label h, hwanted, pure_bind, Option.map_some]
  dsimp only
  rw [(h.mark hmem).1, pure_bind, write_eq hi, pure_bind]

/-- The first pass writes the partners of the lists behind those that are done. -/
theorem foldlM_pairLabel (h : Leaves references taken free) (lists : List (Option String))
    (done : List (Option Nat)) :
    ∃ taken', (lists.zipIdx done.length).foldlM (pairLabel references)
        ⟨taken, done ++ List.replicate lists.length none⟩ =
          pure ⟨taken', done ++ (byLabel lists free).1⟩ ∧
      Leaves references taken' (byLabel lists free).2 := by
  induction lists generalizing taken free done with
  | nil => exact ⟨taken, rfl, h⟩
  | cons first rest ih =>
      have hplace : done.length < (done ++ List.replicate (rest.length + 1) none).length := by simp
      rw [List.zipIdx_cons, List.foldlM_cons, List.length_cons]
      cases hw : wanted first free with
      | none =>
          obtain ⟨taken', hrun, hleaves⟩ := ih h (done ++ [none])
          refine ⟨taken', ?_, ?_⟩
          · rw [List.length_append, List.length_singleton, List.append_assoc,
              List.singleton_append, ← List.replicate_succ, List.append_assoc,
              List.singleton_append] at hrun
            rw [pairLabel_of_none h hw, pure_bind, Pairing.byLabel_cons_of_none hw]
            exact hrun
          · rw [Pairing.byLabel_cons_of_none hw]
            exact hleaves
      | some slot =>
          have hmem := (Pairing.mem_and_label_of_wanted hw).1
          obtain ⟨taken', hrun, hleaves⟩ := ih (h.mark hmem).2 (done ++ [some slot.1])
          refine ⟨taken', ?_, ?_⟩
          · have hset : (done ++ List.replicate (rest.length + 1) none).set done.length
                (some slot.1) = done ++ some slot.1 :: List.replicate rest.length none := by
              rw [List.set_append_right _ _ (Nat.le_refl _), Nat.sub_self, List.replicate_succ,
                List.set_cons_zero]
            rw [List.length_append, List.length_singleton, List.append_assoc,
              List.singleton_append, List.append_assoc, List.singleton_append] at hrun
            rw [pairLabel_of_some h hw hplace, pure_bind, hset, Pairing.byLabel_cons_of_some hw]
            exact hrun
          · rw [Pairing.byLabel_cons_of_some hw]
            exact hleaves

end FirstPass

/-! ### The second pass -/

theorem pairRest_eq {references : List (Option String)} {taken : List Bool} {free : List Slot}
    (h : Leaves references taken free) (partners : List (Option Nat)) :
    pairRest references.length taken partners = pure (byPosition partners free) := by
  fun_induction byPosition partners free generalizing taken with
  | case1 => rfl
  | case2 partner rest free ih =>
      rw [pairRest, ih h, pure_bind]
  | case3 rest slot free ih =>
      have hfound : firstFree taken references.length (fun _ => pure true) =
          pure (((slot :: free).find? fun _ => true).map Prod.fst) := h.firstFree_eq fun _ _ => rfl
      obtain ⟨hmark, hleaves⟩ := h.mark (List.mem_cons_self ..)
      rw [List.erase_cons_head] at hleaves
      rw [pairRest, hfound, pure_bind, List.find?_cons_of_pos rfl, Option.map_some]
      dsimp only
      rw [hmark, pure_bind, ih hleaves, pure_bind]
  | case4 rest ih =>
      have hfound : firstFree taken references.length (fun _ => pure true) = pure none :=
        h.firstFree_eq fun _ _ => rfl
      rw [pairRest, hfound, pure_bind]
      dsimp only
      rw [ih h, pure_bind]

/-- Every index that the pairing uses is in range. -/
theorem pair_eq (lists references : List (Option String)) :
    pair lists references = pure (Pairing.pair lists references) := by
  obtain ⟨taken, hrun, hleaves⟩ := foldlM_pairLabel (leaves_slots references) lists []
  rw [List.length_nil, List.nil_append, List.nil_append] at hrun
  rw [pair, hrun, pure_bind]
  exact pairRest_eq hleaves _

end DataSchema.Checked
