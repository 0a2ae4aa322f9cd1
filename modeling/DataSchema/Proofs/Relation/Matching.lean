import Mathlib.Data.List.Sort
import DataSchema.Proofs.Numbered
import DataSchema.Proofs.Relation.Pairing

/-!
# DataSchema.Proofs.Relation.Matching

**The pairing is the label-first matching.** It leaves no choice. The lists that carry a label and
the references that carry it are paired in their order, as far as both go; what is left of the lists
and of the references, whatever it carries, is paired in its order as well.

The two passes are described by the couples they add. A list takes for its label the reference whose
number among those of the label is the list's own (`getElem?_byLabel_iff`), and a list without a
partner the free reference whose number is its own (`getElem?_byPosition_iff`). That the second pass
adds no couple with a common label is where the two meet: a list that found no reference for its
label leaves none of that label free (`label_ne_of_mem_left`).
-/

namespace DataSchema.Pairing

/-! ### Couples -/

/-- The places of the lists that have a partner, each with the place of the partner. -/
def couples (partners : List (Option Nat)) : List (Nat × Nat) :=
  partners.zipIdx.filterMap fun (partner, i) => partner.map fun j => (i, j)

/-- List and reference both carry the label. -/
def Carries (lists references : List (Option String)) (label : String) (couple : Nat × Nat) : Prop :=
  lists[couple.1]? = some (some label) ∧ references[couple.2]? = some (some label)

instance (lists references : List (Option String)) (label : String) (couple : Nat × Nat) :
    Decidable (Carries lists references label couple) :=
  inferInstanceAs (Decidable (_ ∧ _))

/-- List and reference carry the same label. -/
def Agrees (lists references : List (Option String)) (couple : Nat × Nat) : Prop :=
  ∃ label, Carries lists references label couple

theorem agrees_iff {lists references : List (Option String)} {couple : Nat × Nat} :
    (∃ label ∈ lists[couple.1]?.join, Carries lists references label couple) ↔
      Agrees lists references couple := by
  constructor
  · rintro ⟨label, -, h⟩
    exact ⟨label, h⟩
  · rintro ⟨label, h⟩
    exact ⟨label, by rw [h.1]; rfl, h⟩

instance (lists references : List (Option String)) (couple : Nat × Nat) :
    Decidable (Agrees lists references couple) :=
  decidable_of_iff _ agrees_iff

theorem mem_couples {partners : List (Option Nat)} {i j : Nat} :
    (i, j) ∈ couples partners ↔ partners[i]? = some (some j) := by
  rw [couples, List.mem_filterMap]
  constructor
  · rintro ⟨⟨partner, place⟩, hmem, hsome⟩
    obtain ⟨k, rfl, hk⟩ := Option.map_eq_some_iff.mp hsome
    obtain ⟨rfl, rfl⟩ := Prod.mk.inj hk
    exact List.mem_zipIdx_iff_getElem?.mp hmem
  · intro h
    exact ⟨(some j, i), List.mem_zipIdx_iff_getElem?.mpr h, rfl⟩

theorem pairwise_couples (partners : List (Option Nat)) :
    (couples partners).Pairwise fun x y => x.1 < y.1 := by
  refine (pairwise_zipIdx partners).filterMap _ fun x y hxy b hb c hc => ?_
  obtain ⟨j, -, rfl⟩ := Option.map_eq_some_iff.mp hb
  obtain ⟨k, -, rfl⟩ := Option.map_eq_some_iff.mp hc
  exact hxy

/-! ### The couples of the first pass -/

/-- The free references that carry a label. -/
def carrying (label : String) (free : List Slot) : List Slot :=
  free.filter fun slot => slot.2 = some label

theorem wanted_eq_head? (label : String) (free : List Slot) :
    wanted (some label) free = (carrying label free).head? :=
  List.head?_filter.symm

theorem carrying_erase_of_ne {label : String} {free : List Slot} {slot : Slot}
    (h : slot.2 ≠ some label) : carrying label (free.erase slot) = carrying label free := by
  have hnot : slot ∉ carrying label free := by
    rw [carrying, List.mem_filter, decide_eq_true_iff]
    exact fun hmem => h hmem.2
  rw [carrying, ← List.erase_filter]
  exact List.erase_of_not_mem hnot

theorem carrying_erase_of_wanted {label : String} {free : List Slot} {slot : Slot}
    (h : wanted (some label) free = some slot) :
    carrying label free = slot :: carrying label (free.erase slot) := by
  rw [wanted_eq_head?, List.head?_eq_some_iff] at h
  obtain ⟨others, hothers⟩ := h
  rw [hothers, carrying, ← List.erase_filter]
  change _ = slot :: (carrying label free).erase slot
  rw [hothers, List.erase_cons_head]

/-- A place before the first number has no couple. -/
theorem not_mem_zip_idxsOf {α : Type} [BEq α] (xs : List α) (a : α) (s j : Nat) (ys : List Nat) :
    (s, j) ∉ (xs.idxsOf a (s + 1)).zip ys := by
  intro hmem
  have hle := List.ge_of_mem_idxsOf s (List.of_mem_zip hmem).1
  omega

/-- The first pass pairs the lists of a label with the references of that label, in order. The lists
are numbered from `s`, so that the list at the front can be taken away. -/
theorem getElem?_byLabel_iff {label : String} {lists : List (Option String)} {i : Nat}
    (hlist : lists[i]? = some (some label)) (free : List Slot) (s j : Nat) :
    (byLabel lists free).1[i]? = some (some j) ↔
      (s + i, j) ∈ (lists.idxsOf (some label) s).zip ((carrying label free).map Prod.fst) := by
  induction lists generalizing free s i with
  | nil => exact absurd hlist (by simp)
  | cons first rest ih =>
      by_cases hfirst : first = some label
      · subst hfirst
        rw [List.idxsOf_cons, if_pos (beq_self_eq_true _)]
        cases hw : wanted (some label) free with
        | none =>
            have hnone : carrying label free = [] := by
              rw [wanted_eq_head?] at hw
              exact List.head?_eq_none_iff.mp hw
            rw [byLabel_cons_of_none hw, hnone, List.map_nil, List.zip_nil_right]
            cases i with
            | zero => simp
            | succ i =>
                have hrest := ih hlist free (s + 1)
                rw [hnone, List.map_nil, List.zip_nil_right] at hrest
                exact hrest.trans (by simp)
        | some slot =>
            rw [byLabel_cons_of_some hw, carrying_erase_of_wanted hw, List.map_cons,
              List.zip_cons_cons, List.mem_cons, Prod.mk.injEq]
            cases i with
            | zero => simp [not_mem_zip_idxsOf, eq_comm]
            | succ i =>
                have hlater : ¬ (s + (i + 1) = s ∧ j = slot.1) := by omega
                rw [List.getElem?_cons_succ, ih hlist (free.erase slot) (s + 1), or_iff_right hlater,
                  Nat.add_right_comm, Nat.add_assoc]
      · rw [List.idxsOf_cons, if_neg (by simpa using hfirst)]
        cases i with
        | zero => exact absurd (Option.some.inj hlist) hfirst
        | succ i =>
            have hnumber : s + (i + 1) = s + 1 + i := (Nat.add_right_comm s 1 i).symm
            rw [hnumber]
            cases hw : wanted first free with
            | none =>
                rw [byLabel_cons_of_none hw]
                exact ih hlist free (s + 1)
            | some other =>
                have hother : other.2 ≠ some label := by
                  rw [(mem_and_label_of_wanted hw).2.2]
                  exact hfirst
                rw [byLabel_cons_of_some hw, ← carrying_erase_of_ne hother]
                exact ih hlist (free.erase other) (s + 1)

/-- A partner found in the first pass carries the label of its list. -/
theorem exists_label_of_byLabel {lists : List (Option String)} {free : List Slot} {i j : Nat}
    (h : (byLabel lists free).1[i]? = some (some j)) :
    ∃ label, lists[i]? = some (some label) ∧ (j, some label) ∈ free := by
  induction lists generalizing free i with
  | nil => exact absurd h (by simp [byLabel])
  | cons first rest ih =>
      cases hw : wanted first free with
      | none =>
          rw [byLabel_cons_of_none hw] at h
          cases i with
          | zero => exact absurd h (by simp)
          | succ i => exact ih h
      | some slot =>
          rw [byLabel_cons_of_some hw] at h
          obtain ⟨hmem, hsome, hlabel⟩ := mem_and_label_of_wanted hw
          cases i with
          | zero =>
              obtain ⟨label, rfl⟩ := Option.isSome_iff_exists.mp hsome
              obtain rfl : slot.1 = j := Option.some.inj (Option.some.inj h)
              refine ⟨label, rfl, ?_⟩
              rw [← hlabel]
              exact hmem
          | succ i =>
              obtain ⟨label, hlist, hfree⟩ := ih h
              exact ⟨label, hlist, List.mem_of_mem_erase hfree⟩

/-! ### What the first pass leaves -/

theorem left_sublist (lists : List (Option String)) (free : List Slot) :
    (byLabel lists free).2.Sublist free := by
  induction lists generalizing free with
  | nil => exact .refl _
  | cons first rest ih =>
      cases hw : wanted first free with
      | none =>
          rw [byLabel_cons_of_none hw]
          exact ih free
      | some slot =>
          rw [byLabel_cons_of_some hw]
          exact (ih (free.erase slot)).trans List.erase_sublist

/-- A list that finds no reference for its label leaves none of that label free. -/
theorem label_ne_of_mem_left {label : String} {lists : List (Option String)} {free : List Slot}
    {i : Nat} (hlist : lists[i]? = some (some label))
    (hnone : (byLabel lists free).1[i]? = some none) {slot : Slot}
    (hslot : slot ∈ (byLabel lists free).2) : slot.2 ≠ some label := by
  induction lists generalizing free i with
  | nil => exact absurd hlist (by simp)
  | cons first rest ih =>
      cases hw : wanted first free with
      | none =>
          rw [byLabel_cons_of_none hw] at hnone hslot
          cases i with
          | zero =>
              obtain rfl : first = some label := Option.some.inj hlist
              have hfree := (left_sublist rest free).subset hslot
              simpa using List.find?_eq_none.mp hw slot hfree
          | succ i => exact ih hlist hnone hslot
      | some other =>
          rw [byLabel_cons_of_some hw] at hnone hslot
          cases i with
          | zero => exact absurd hnone (by simp)
          | succ i => exact ih hlist hnone hslot

/-! ### The couples of the second pass -/

/-- The second pass keeps the couples of the first and pairs the lists without a partner with the
free references, in order. -/
theorem getElem?_byPosition_iff (partners : List (Option Nat)) (free : List Slot) (s i j : Nat) :
    (byPosition partners free)[i]? = some (some j) ↔
      partners[i]? = some (some j) ∨
        (s + i, j) ∈ (partners.idxsOf none s).zip (free.map Prod.fst) := by
  fun_induction byPosition partners free generalizing s i with
  | case1 => simp
  | case2 partner rest free ih =>
      rw [List.idxsOf_cons, if_neg (by simp)]
      cases i with
      | zero => simp [not_mem_zip_idxsOf]
      | succ i =>
          have hnumber : s + (i + 1) = s + 1 + i := (Nat.add_right_comm s 1 i).symm
          rw [hnumber]
          exact ih (s + 1) i
  | case3 rest slot free ih =>
      rw [List.idxsOf_cons, if_pos (by simp), List.map_cons, List.zip_cons_cons, List.mem_cons,
        Prod.mk.injEq]
      cases i with
      | zero => simp [not_mem_zip_idxsOf, eq_comm]
      | succ i =>
          have hlater : ¬ (s + (i + 1) = s ∧ j = slot.1) := by omega
          rw [List.getElem?_cons_succ, List.getElem?_cons_succ, ih (s + 1) i, or_iff_right hlater,
            Nat.add_right_comm, Nat.add_assoc]
  | case4 rest ih =>
      rw [List.map_nil, List.zip_nil_right]
      cases i with
      | zero => simp
      | succ i =>
          have hrest := ih (s + 1) i
          rw [List.map_nil, List.zip_nil_right] at hrest
          exact hrest.trans (by simp)

/-! ### Places -/

theorem mem_idxsOf_iff {α : Type} [BEq α] [LawfulBEq α] {xs : List α} {a : α} {i : Nat} :
    i ∈ xs.idxsOf a ↔ xs[i]? = some a := by
  rw [List.mem_idxsOf_iff_exists_getElem_pos, List.getElem?_eq_some_iff]
  simp only [beq_iff_eq]

/-- The references of a label, among all of them. -/
theorem map_fst_carrying_slots (label : String) (references : List (Option String)) :
    (carrying label (slots references)).map Prod.fst = references.idxsOf (some label) := by
  have hsorted : ((carrying label (slots references)).map Prod.fst).Pairwise (· < ·) := by
    refine List.Pairwise.sublist (List.filter_sublist.map _) ?_
    rw [map_fst_slots]
    exact List.pairwise_lt_range
  refine hsorted.eq_of_mem_iff List.pairwise_idxsOf fun j => ?_
  simp only [carrying, List.mem_map, List.mem_filter, decide_eq_true_iff, mem_slots, mem_idxsOf_iff]
  constructor
  · rintro ⟨slot, ⟨hplace, hlabel⟩, rfl⟩
    rw [hplace, hlabel]
  · intro hplace
    exact ⟨(j, some label), ⟨hplace, rfl⟩, rfl⟩

/-- Places in order stay in order when they are put beside others. -/
theorem pairwise_zip {places : List Nat} (h : places.Pairwise (· < ·)) (others : List Nat) :
    (places.zip others).Pairwise fun x y => x.1 < y.1 := by
  rw [List.pairwise_iff_getElem] at h ⊢
  intro i k hi hk hlt
  rw [List.length_zip] at hi hk
  rw [List.getElem_zip, List.getElem_zip]
  exact h i k (by omega) (by omega) hlt

/-- The first pass leaves the references that it has not taken. -/
theorem map_fst_left (lists references : List (Option String)) :
    (byLabel lists (slots references)).2.map Prod.fst =
      (List.range references.length).filter fun j =>
        some j ∉ (byLabel lists (slots references)).1 := by
  have hsub : ((byLabel lists (slots references)).2.map Prod.fst).Sublist
      (List.range references.length) := by
    rw [← map_fst_slots]
    exact (left_sublist lists (slots references)).map Prod.fst
  have hperm := perm_byLabel lists (slots references)
  rw [map_fst_slots] at hperm
  have hdisjoint := (List.nodup_append.mp (hperm.nodup_iff.mpr List.nodup_range)).2.2
  refine (List.pairwise_lt_range.sublist hsub).eq_of_mem_iff
    (List.pairwise_lt_range.filter _) fun j => ?_
  rw [List.mem_filter, decide_eq_true_iff, ← List.reduceOption_mem_iff]
  constructor
  · intro hleft
    exact ⟨hsub.subset hleft, fun htaken => hdisjoint j htaken j hleft rfl⟩
  · rintro ⟨hrange, htaken⟩
    exact (List.mem_append.mp (hperm.mem_iff.mpr hrange)).resolve_left htaken

/-! ### The couples of the pairing -/

section Couples

variable {lists references : List (Option String)} {i j : Nat}

theorem getElem?_byLabel_slots_iff {label : String} (hlist : lists[i]? = some (some label)) :
    (byLabel lists (slots references)).1[i]? = some (some j) ↔
      (i, j) ∈ (lists.idxsOf (some label)).zip (references.idxsOf (some label)) := by
  have h := getElem?_byLabel_iff hlist (slots references) 0 j
  rwa [Nat.zero_add, map_fst_carrying_slots] at h

theorem mem_couples_pair_iff :
    (i, j) ∈ couples (pair lists references) ↔
      (byLabel lists (slots references)).1[i]? = some (some j) ∨
        (i, j) ∈ ((byLabel lists (slots references)).1.idxsOf none).zip
          ((byLabel lists (slots references)).2.map Prod.fst) := by
  rw [mem_couples]
  have h := getElem?_byPosition_iff (byLabel lists (slots references)).1
    (byLabel lists (slots references)).2 0 i j
  rwa [Nat.zero_add] at h

/-- The couples of the first pass have a common label. -/
theorem agrees_of_byLabel (h : (byLabel lists (slots references)).1[i]? = some (some j)) :
    Agrees lists references (i, j) := by
  obtain ⟨label, hlist, hslot⟩ := exists_label_of_byLabel h
  exact ⟨label, hlist, mem_slots.mp hslot⟩

/-- The couples that the second pass adds have none. -/
theorem not_agrees_of_mem_zip
    (h : (i, j) ∈ ((byLabel lists (slots references)).1.idxsOf none).zip
      ((byLabel lists (slots references)).2.map Prod.fst)) : ¬ Agrees lists references (i, j) := by
  rintro ⟨label, hlist, hreference⟩
  obtain ⟨hnone, hleft⟩ := List.of_mem_zip h
  obtain ⟨slot, hslot, rfl⟩ := List.mem_map.mp hleft
  have hplace := mem_slots.mp ((left_sublist lists (slots references)).subset hslot)
  refine label_ne_of_mem_left hlist (mem_idxsOf_iff.mp hnone) hslot ?_
  exact Option.some.inj (hplace.symm.trans hreference)

/-- The couples with a common label are those of the first pass. -/
theorem mem_couples_and_agrees_iff :
    (i, j) ∈ couples (pair lists references) ∧ Agrees lists references (i, j) ↔
      (byLabel lists (slots references)).1[i]? = some (some j) := by
  rw [mem_couples_pair_iff]
  constructor
  · rintro ⟨hlabelled | hplaced, hagrees⟩
    · exact hlabelled
    · exact absurd hagrees (not_agrees_of_mem_zip hplaced)
  · intro h
    exact ⟨.inl h, agrees_of_byLabel h⟩

end Couples

/-! ### The matching -/

/-- The couples whose list and reference both carry a label. -/
def couplesOf (lists references : List (Option String)) (partners : List (Option Nat))
    (label : String) : List (Nat × Nat) :=
  (couples partners).filter (Carries lists references label)

/-- The places of the lists that stand in no couple with a common label. -/
def otherLists (lists references : List (Option String)) (partners : List (Option Nat)) :
    List Nat :=
  (List.range lists.length).filter fun i =>
    ∀ couple ∈ couples partners, Agrees lists references couple → couple.1 ≠ i

/-- The places of the references that stand in no couple with a common label. -/
def otherReferences (lists references : List (Option String)) (partners : List (Option Nat)) :
    List Nat :=
  (List.range references.length).filter fun j =>
    ∀ couple ∈ couples partners, Agrees lists references couple → couple.2 ≠ j

/-- The partners are a matching of the lists with the references, as large as there can be one, in
which labels come first and the order decides what is left. -/
structure IsLabelFirst (lists references : List (Option String)) (partners : List (Option Nat)) :
    Prop where
  /-- Each list has a partner or none. -/
  length_eq : partners.length = lists.length
  /-- A partner is the place of a reference. -/
  lt : ∀ j, some j ∈ partners → j < references.length
  /-- No two lists have the same partner. -/
  nodup : partners.reduceOption.Nodup
  /-- A list is without a partner only if all references are taken. -/
  maximal : partners.reduceOption.length = min lists.length references.length
  /-- The first lists of a label have the first references of the label as partners, in order. -/
  couplesOf_eq : ∀ label, couplesOf lists references partners label =
    (lists.idxsOf (some label)).zip (references.idxsOf (some label))
  /-- So there are as many couples of a label as lists or references of it, whichever are fewer. -/
  length_couplesOf : ∀ label, (couplesOf lists references partners label).length =
    min (lists.count (some label)) (references.count (some label))
  /-- The first of the other lists have the first of the other references, in order. -/
  others_eq : (couples partners).filter (¬ Agrees lists references ·) =
    (otherLists lists references partners).zip (otherReferences lists references partners)

theorem couplesOf_pair (lists references : List (Option String)) (label : String) :
    couplesOf lists references (pair lists references) label =
      (lists.idxsOf (some label)).zip (references.idxsOf (some label)) := by
  refine eq_of_mem_iff ((pairwise_couples _).filter _) (pairwise_zip List.pairwise_idxsOf _)
    fun i j => ?_
  rw [couplesOf, List.mem_filter, decide_eq_true_iff]
  constructor
  · rintro ⟨hmem, hcarries⟩
    have hfirst := mem_couples_and_agrees_iff.mp ⟨hmem, label, hcarries⟩
    exact (getElem?_byLabel_slots_iff hcarries.1).mp hfirst
  · intro hzip
    obtain ⟨hlist, hreference⟩ := List.of_mem_zip hzip
    have hlist := mem_idxsOf_iff.mp hlist
    have hfirst := (getElem?_byLabel_slots_iff hlist).mpr hzip
    exact ⟨(mem_couples_and_agrees_iff.mpr hfirst).1, hlist, mem_idxsOf_iff.mp hreference⟩

/-- The lists that the first pass gives no partner. -/
theorem otherLists_pair (lists references : List (Option String)) :
    otherLists lists references (pair lists references) =
      (byLabel lists (slots references)).1.idxsOf none := by
  have hlength := length_byLabel lists (slots references)
  refine (List.pairwise_lt_range.filter _).eq_of_mem_iff List.pairwise_idxsOf fun i => ?_
  rw [List.mem_filter, List.mem_range, decide_eq_true_iff, mem_idxsOf_iff]
  constructor
  · rintro ⟨hlt, hother⟩
    rw [← hlength] at hlt
    rw [List.getElem?_eq_getElem hlt]
    cases hpartner : (byLabel lists (slots references)).1[i] with
    | none => rfl
    | some j =>
        have hfirst := List.getElem?_eq_some_iff.mpr ⟨hlt, hpartner⟩
        obtain ⟨hmem, hagrees⟩ := mem_couples_and_agrees_iff.mpr hfirst
        exact absurd rfl (hother (i, j) hmem hagrees)
  · intro hnone
    have hlt := (List.getElem?_eq_some_iff.mp hnone).1
    refine ⟨by rwa [← hlength], ?_⟩
    rintro ⟨i', j⟩ hmem hagrees rfl
    have hfirst := mem_couples_and_agrees_iff.mp ⟨hmem, hagrees⟩
    exact absurd (hnone.symm.trans hfirst) (by simp)

/-- The references that the first pass leaves. -/
theorem otherReferences_pair (lists references : List (Option String)) :
    otherReferences lists references (pair lists references) =
      (byLabel lists (slots references)).2.map Prod.fst := by
  rw [map_fst_left]
  refine List.filter_congr fun j _ => decide_eq_decide.mpr ?_
  constructor
  · intro hother htaken
    obtain ⟨i, hfirst⟩ := List.mem_iff_getElem?.mp htaken
    obtain ⟨hmem, hagrees⟩ := mem_couples_and_agrees_iff.mpr hfirst
    exact hother (i, j) hmem hagrees rfl
  · rintro htaken ⟨i, j'⟩ hmem hagrees rfl
    exact htaken (List.mem_of_getElem? (mem_couples_and_agrees_iff.mp ⟨hmem, hagrees⟩))

theorem others_pair (lists references : List (Option String)) :
    (couples (pair lists references)).filter (¬ Agrees lists references ·) =
      (otherLists lists references (pair lists references)).zip
        (otherReferences lists references (pair lists references)) := by
  rw [otherLists_pair, otherReferences_pair]
  refine eq_of_mem_iff ((pairwise_couples _).filter _) (pairwise_zip List.pairwise_idxsOf _)
    fun i j => ?_
  rw [List.mem_filter, decide_eq_true_iff, mem_couples_pair_iff]
  constructor
  · rintro ⟨hlabelled | hplaced, hnot⟩
    · exact absurd (agrees_of_byLabel hlabelled) hnot
    · exact hplaced
  · intro hplaced
    exact ⟨.inr hplaced, not_agrees_of_mem_zip hplaced⟩

/-- **Labels first, then the order.** -/
theorem isLabelFirst_pair (lists references : List (Option String)) :
    IsLabelFirst lists references (pair lists references) where
  length_eq := length_pair lists references
  lt _ := lt_of_mem_pair
  nodup := nodup_pair lists references
  maximal := length_reduceOption_pair lists references
  couplesOf_eq := couplesOf_pair lists references
  length_couplesOf label := by
    rw [couplesOf_pair, List.length_zip, List.length_idxsOf, List.length_idxsOf]
  others_eq := others_pair lists references

-- The second list takes the only reference of its label, and the third one what is left behind it.
example : pair [none, some "A", some "A"] [some "B", some "A", none] =
    [some 0, some 1, some 2] := by decide

end DataSchema.Pairing
