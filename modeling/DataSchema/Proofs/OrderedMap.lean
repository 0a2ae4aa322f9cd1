import Mathlib.Data.List.Basic
import DataSchema.OrderedMap

/-!
# DataSchema.Proofs.OrderedMap

**What a lookup finds.** The operations of a map are written on its list of entries. Here they are
read back through `get?`: a lookup finds exactly the entries (`get?_eq_some_iff`), and a map written
from pairs with different keys has these pairs as its entries, in the same order (`entries_ofList`).

A map is *keyed* by a function of its values when every value stands at its own key. Maps of
declarations are: each is filed under its declared name.
-/

namespace DataSchema.OrderedMap

variable {α β γ : Type}

/-! ### Lookup -/

/-- Among pairs with different keys a search by key finds exactly the pairs. -/
theorem find?_key_eq_some_iff {entries : List (String × α)} (h : (entries.map Prod.fst).Nodup)
    {key : String} {value : α} :
    (entries.find? (fun entry => entry.1 = key)).map Prod.snd = some value ↔
      (key, value) ∈ entries := by
  induction entries with
  | nil => simp
  | cons entry rest ih =>
      rw [List.map_cons, List.nodup_cons] at h
      rw [List.mem_cons]
      by_cases hk : entry.1 = key
      · rw [List.find?_cons_of_pos (by simpa using hk)]
        have hrest : (key, value) ∉ rest :=
          fun hmem => h.1 (List.mem_map.mpr ⟨_, hmem, hk.symm⟩)
        constructor
        · intro hv
          have hv : entry.2 = value := by simpa using hv
          exact Or.inl (by rw [← hk, ← hv])
        · rintro (rfl | hmem)
          · rfl
          · exact absurd hmem hrest
      · rw [List.find?_cons_of_neg (by simpa using hk), ih h.2]
        have hne : (key, value) ≠ entry := fun e => hk (by rw [← e])
        simp [hne]

/-- A lookup finds exactly the entries. -/
theorem get?_eq_some_iff {m : OrderedMap α} {key : String} {value : α} :
    m.get? key = some value ↔ (key, value) ∈ m.entries :=
  find?_key_eq_some_iff m.nodup

/-- A lookup does not depend on the order of the entries. -/
theorem get?_of_perm {m n : OrderedMap α} (h : m.entries.Perm n.entries) (key : String) :
    m.get? key = n.get? key := by
  refine Option.ext fun value => ?_
  rw [get?_eq_some_iff, get?_eq_some_iff, h.mem_iff]

theorem get?_mapEntries (m : OrderedMap α) (f : String → α → β) (key : String) :
    (m.mapEntries f).get? key = (m.get? key).map (f key) := by
  refine Option.ext fun value => ?_
  rw [get?_eq_some_iff, Option.map_eq_some_iff]
  simp only [mapEntries, List.mem_map, Prod.mk.injEq, get?_eq_some_iff]
  constructor
  · rintro ⟨⟨k, v⟩, hmem, rfl, rfl⟩
    exact ⟨v, hmem, rfl⟩
  · rintro ⟨v, hmem, rfl⟩
    exact ⟨(key, v), hmem, rfl, rfl⟩

/-- A map is its keys in their order, and what a lookup finds. -/
theorem ext_get? {m n : OrderedMap α} (hkeys : m.keys = n.keys)
    (hget : ∀ key, m.get? key = n.get? key) : m = n := by
  have hentries : ∀ o : OrderedMap α,
      o.entries = o.keys.filterMap fun key => (o.get? key).map fun value => (key, value) := by
    intro o
    have hsome : ∀ entry ∈ o.entries,
        (o.get? entry.1).map (fun value => (entry.1, value)) = some entry := by
      intro entry hentry
      rw [get?_eq_some_iff.mpr hentry, Option.map_some]
    rw [keys, List.filterMap_map]
    exact List.filterMap_some.symm.trans (List.filterMap_congr hsome).symm
  refine ext ?_
  rw [hentries m, hentries n, hkeys]
  simp only [hget]

theorem get?_erase (m : OrderedMap α) (erased key : String) :
    (m.erase erased).get? key = if key = erased then none else m.get? key := by
  refine Option.ext fun value => ?_
  by_cases hkey : key = erased
  · simp [get?_eq_some_iff, erase, hkey]
  · simp [get?_eq_some_iff, erase, hkey]

/-! ### Writing pairs with different keys -/

theorem put_of_not_mem {key : String} {entries : List (String × α)}
    (h : key ∉ entries.map Prod.fst) (value : α) :
    put key value entries = entries ++ [(key, value)] := by
  induction entries with
  | nil => rfl
  | cons entry rest ih =>
      rw [List.map_cons, List.mem_cons, not_or] at h
      rw [put, if_neg (Ne.symm h.1), ih h.2, List.cons_append]

/-- Writing pairs one after the other appends them, as long as every key is new. -/
theorem entries_foldl_insert (m : OrderedMap α) (pairs : List (String × α))
    (h : ((m.entries ++ pairs).map Prod.fst).Nodup) :
    (pairs.foldl (fun m pair => m.insert pair.1 pair.2) m).entries = m.entries ++ pairs := by
  induction pairs generalizing m with
  | nil => simp
  | cons pair rest ih =>
      have hnew : pair.1 ∉ m.entries.map Prod.fst := by
        rw [List.map_append, List.nodup_append] at h
        exact fun hmem => h.2.2 _ hmem _ (by simp) rfl
      have hput : (m.insert pair.1 pair.2).entries = m.entries ++ [pair] :=
        put_of_not_mem hnew pair.2
      have happend : m.entries ++ [pair] ++ rest = m.entries ++ pair :: rest := by simp
      rw [List.foldl_cons, ih _ (by rw [hput, happend]; exact h), hput, happend]

/-- A map written from pairs with different keys has these pairs as its entries. -/
theorem entries_ofList {pairs : List (String × α)} (h : (pairs.map Prod.fst).Nodup) :
    (ofList pairs).entries = pairs :=
  entries_foldl_insert empty pairs h

/-- A map written from different names has an entry for each name, in their order. -/
theorem entries_ofList_names {names : List String} (h : names.Nodup) (f : String → α) :
    (ofList (names.map fun name => (name, f name))).entries =
      names.map fun name => (name, f name) := by
  refine entries_ofList ?_
  rw [List.map_map]
  simpa [Function.comp_def] using h

theorem keys_ofList_names {names : List String} (h : names.Nodup) (f : String → α) :
    (ofList (names.map fun name => (name, f name))).keys = names := by
  rw [keys, entries_ofList_names h, List.map_map]
  exact List.map_id names

theorem mem_values_ofList_names {names : List String} (h : names.Nodup) {f : String → α} {a : α} :
    a ∈ (ofList (names.map fun name => (name, f name))).values ↔ ∃ name ∈ names, f name = a := by
  rw [values, entries_ofList_names h, List.map_map]
  exact List.mem_map

/-! ### Values that know their key -/

/-- Every value stands at its own key. -/
def KeyedBy (name : α → String) (m : OrderedMap α) : Prop :=
  ∀ entry ∈ m.entries, name entry.2 = entry.1

section Keyed

variable {name : α → String} {m : OrderedMap α}

theorem KeyedBy.get?_of_mem (h : m.KeyedBy name) {a : α} (ha : a ∈ m.values) :
    m.get? (name a) = some a := by
  obtain ⟨⟨key, value⟩, hmem, rfl⟩ := List.mem_map.mp ha
  have hkey : name value = key := h _ hmem
  rw [hkey]
  exact get?_eq_some_iff.mpr hmem

theorem KeyedBy.name_of_get? (h : m.KeyedBy name) {key : String} {a : α}
    (ha : m.get? key = some a) : name a = key :=
  h _ (get?_eq_some_iff.mp ha)

theorem mem_values_of_get? {key : String} {a : α} (h : m.get? key = some a) : a ∈ m.values :=
  List.mem_map.mpr ⟨(key, a), get?_eq_some_iff.mp h, rfl⟩

/-- Two values with one name are the same. -/
theorem KeyedBy.name_inj (h : m.KeyedBy name) {a b : α} (ha : a ∈ m.values) (hb : b ∈ m.values)
    (hab : name a = name b) : a = b := by
  have hget := h.get?_of_mem ha
  rw [hab, h.get?_of_mem hb] at hget
  exact (Option.some.inj hget).symm

/-- Rewriting the values of a keyed map, each under its own name, keeps every key in its place. -/
theorem KeyedBy.ofList_map_values (h : m.KeyedBy name) (f : α → β) :
    ofList (m.values.map fun value => (name value, f value)) = m.mapEntries fun _ => f := by
  have hpairs : (m.values.map fun value => (name value, f value)) =
      (m.mapEntries fun _ => f).entries := by
    rw [values, List.map_map]
    refine List.map_congr_left fun entry hentry => ?_
    exact Prod.ext (h entry hentry) rfl
  refine ext ?_
  rw [hpairs]
  exact entries_ofList (m.mapEntries fun _ => f).nodup

end Keyed

/-! ### Two maps side by side -/

/-- The maps have the same keys, in any order, and related values under each key. -/
def Matches (r : α → β → Prop) (m : OrderedMap α) (n : OrderedMap β) : Prop :=
  ∀ key, Option.Rel r (m.get? key) (n.get? key)

section Matches

variable {r : α → β → Prop} {m : OrderedMap α} {n : OrderedMap β}

theorem Matches.imp {s : α → β → Prop} (h : Matches r m n) (hrs : ∀ a b, r a b → s a b) :
    Matches s m n := by
  intro key
  have hrel := h key
  generalize m.get? key = a at hrel ⊢
  generalize n.get? key = b at hrel ⊢
  cases hrel with
  | none => exact .none
  | some hab => exact .some (hrs _ _ hab)

theorem Matches.and {s : α → β → Prop} (h : Matches r m n) (h' : Matches s m n) :
    Matches (fun a b => r a b ∧ s a b) m n := by
  intro key
  have hrel := h key
  have hrel' := h' key
  generalize m.get? key = a at hrel hrel' ⊢
  generalize n.get? key = b at hrel hrel' ⊢
  cases hrel with
  | none => exact .none
  | some hab =>
      cases hrel' with
      | some hab' => exact .some ⟨hab, hab'⟩

/-- At a key of one map the other map has a related value. -/
theorem Matches.exists_get? (h : Matches r m n) {key : String} {a : α} (ha : m.get? key = some a) :
    ∃ b, n.get? key = some b ∧ r a b := by
  have hrel := h key
  rw [ha] at hrel
  generalize n.get? key = b at hrel ⊢
  cases hrel with
  | some hab => exact ⟨_, rfl, hab⟩

theorem Matches.get?_eq_none (h : Matches r m n) {key : String} (hnone : m.get? key = none) :
    n.get? key = none := by
  have hrel := h key
  rw [hnone] at hrel
  generalize n.get? key = b at hrel ⊢
  cases hrel
  rfl

/-- Two lookups have the same image if and only if both fail or their values have it. -/
theorem map_eq_map_iff {f : α → γ} {g : β → γ} {a : Option α} {b : Option β} :
    a.map f = b.map g ↔ Option.Rel (fun x y => f x = g y) a b := by
  constructor
  · intro h
    cases a with
    | none =>
        cases b with
        | none => exact .none
        | some y => simp at h
    | some x =>
        cases b with
        | none => simp at h
        | some y => exact .some (Option.some.inj h)
  · intro h
    cases h with
    | none => rfl
    | some hxy => exact congrArg some hxy

/-- Maps with equal values under each key answer every lookup alike. -/
theorem matches_eq_iff {m n : OrderedMap α} :
    Matches Eq m n ↔ ∀ key, m.get? key = n.get? key := by
  refine forall_congr' fun key => ?_
  have himage := map_eq_map_iff (f := id) (g := id) (a := m.get? key) (b := n.get? key)
  rw [Option.map_id] at himage
  exact himage.symm

theorem matches_mapEntries {α' β' : Type} {f : α' → α} {g : β' → β} {m : OrderedMap α'}
    {n : OrderedMap β'} (h : Matches (fun a b => r (f a) (g b)) m n) :
    Matches r (m.mapEntries fun _ => f) (n.mapEntries fun _ => g) := by
  intro key
  rw [get?_mapEntries, get?_mapEntries]
  cases ha : m.get? key with
  | none =>
      rw [h.get?_eq_none ha]
      exact .none
  | some a =>
      obtain ⟨b, hb, hab⟩ := h.exists_get? ha
      rw [hb]
      exact .some hab

/-- Values under one key that know their key have the same name. -/
theorem Matches.name_eq {r : α → α → Prop} {n : OrderedMap α} {name : α → String}
    (h : Matches r m n) (keyed : m.KeyedBy name) (keyed' : n.KeyedBy name) :
    Matches (fun a b => name a = name b ∧ r a b) m n := by
  intro key
  cases ha : m.get? key with
  | none =>
      rw [h.get?_eq_none ha]
      exact .none
  | some a =>
      obtain ⟨b, hb, hab⟩ := h.exists_get? ha
      rw [hb]
      exact .some ⟨(keyed.name_of_get? ha).trans (keyed'.name_of_get? hb).symm, hab⟩

/-- Maps have the same images in the same order if their keys are in the same order and the values
under each key have the same image. -/
theorem mapEntries_eq_iff {f : α → γ} {g : β → γ} :
    (m.mapEntries fun _ => f) = (n.mapEntries fun _ => g) ↔
      m.keys = n.keys ∧ Matches (fun a b => f a = g b) m n := by
  have himages : Matches (fun a b => f a = g b) m n ↔
      ∀ key, (m.mapEntries fun _ => f).get? key = (n.mapEntries fun _ => g).get? key := by
    simp only [Matches, get?_mapEntries, map_eq_map_iff]
  rw [himages]
  constructor
  · intro h
    exact ⟨by simpa using congrArg keys h, fun key => by rw [h]⟩
  · intro h
    exact ext_get? (by simpa using h.1) h.2

end Matches

end DataSchema.OrderedMap
