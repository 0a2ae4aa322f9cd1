import DataSchema.Proofs.Relation.DeepKey

/-!
# DataSchema.Proofs.Relation.Ambiguity

**Which lists need a deep key.** A deep key is there to tell references apart, so it is present where
there are two references back or more. Only many-to-one references count, and between two different
models these are all references of the target or none of them: one field of the list's own model that
refers to one record of the target makes every reference back one to one, and takes the deep keys of
all lists with it. In a model that refers to itself two references with different names answer each
other, so there are no deep keys at all.

Where the field names differ and there is a reference for each list, the lists and the references
they leave out are matched one to one (`leavesOut_iff`).
-/

namespace DataSchema

/-- The deep key of an entry is some names without one of them. -/
def RelationEntry.LeavesOut (e : RelationEntry) (names : List String) (f : String) : Prop :=
  f ∈ names ∧ e.deepKey = some (names.erase f)

/-- What the deep keys of the one-to-many entries from a model `m` to a model `t` are, in terms of
the declared fields. -/
structure DeepKeysFit (m t : Model) (entries : List RelationEntry) : Prop where
  /-- Between different models an entry has a deep key if and only if the target has two references
  back or more, and the model has no reference to the target. -/
  present : m ≠ t → ∀ e ∈ entries, e.deepKey.isSome = true ↔
    2 ≤ (t.referencesTo m.name).length ∧ m.referencesTo t.name = []
  /-- A model whose references to itself have different names has no deep keys on its own lists. -/
  self : m = t → ((m.referencesTo m.name).map (·.key)).Nodup → ∀ e ∈ entries, e.deepKey = none
  /-- A deep key names all references back but at most one, in the order of declaration. -/
  names : ∀ e ∈ entries, ∀ names, e.deepKey = some names →
    names ≠ [] ∧ names.Sublist ((t.referencesTo m.name).map (·.key)) ∧
      (t.referencesTo m.name).length ≤ names.length + 1
  /-- Where field names differ and there is a reference back for each list, a deep key leaves out
  one reference. -/
  leaves : (m.properties.map (·.key)).Nodup → (t.properties.map (·.key)).Nodup →
    (m.listsOf t.name).length ≤ (t.referencesTo m.name).length →
    ∀ e ∈ entries, e.deepKey.isSome = true →
      ∃ f, e.LeavesOut ((t.referencesTo m.name).map (·.key)) f
  /-- Under the same conditions different lists leave out different references. -/
  differ : (m.properties.map (·.key)).Nodup → (t.properties.map (·.key)).Nodup →
    (m.listsOf t.name).length ≤ (t.referencesTo m.name).length →
    ∀ e ∈ entries, ∀ e' ∈ entries, e.key ≠ e'.key → ∀ f f',
      e.LeavesOut ((t.referencesTo m.name).map (·.key)) f →
      e'.LeavesOut ((t.referencesTo m.name).map (·.key)) f' → f ≠ f'

/-! ### The deep key of one list -/

theorem isSome_deepKeyOf {lists references : List Property} {p : Property} (hp : p ∈ lists) :
    (deepKeyOf lists references p).isSome = true ↔ 2 ≤ references.length := by
  have hfound : (lists.findIdx? fun q => decide (q.key = p.key)).isSome = true := by
    rw [List.findIdx?_isSome, List.any_eq_true]
    exact ⟨p, hp, decide_eq_true rfl⟩
  by_cases hshort : references.length < 2
  · rw [deepKeyOf, if_pos hshort]
    exact ⟨fun h => absurd h Bool.false_ne_true, fun h => absurd hshort (Nat.not_lt.mpr h)⟩
  · rw [deepKeyOf, if_neg hshort, Option.isSome_map, hfound]
    exact ⟨fun _ => Nat.le_of_not_lt hshort, fun _ => rfl⟩

theorem eq_others_of_deepKeyOf {lists references : List Property} {p : Property}
    {names : List String} (h : deepKeyOf lists references p = some names) :
    2 ≤ references.length ∧ ∃ partner, names = others (references.map (·.key)) partner := by
  by_cases hshort : references.length < 2
  · rw [deepKeyOf, if_pos hshort] at h
    exact absurd h (by simp)
  · rw [deepKeyOf, if_neg hshort] at h
    obtain ⟨i, -, hnames⟩ := Option.map_eq_some_iff.mp h
    exact ⟨Nat.le_of_not_lt hshort, _, hnames.symm⟩

theorem partnerAt_eq_some_iff {lists references : List Property} {i j : Nat} :
    partnerAt lists references i = some j ↔
      (Pairing.pair (lists.map (·.relationLabel)) (references.map (·.relationLabel)))[i]? =
        some (some j) := by
  rw [partnerAt, Option.join_eq_some_iff]

/-- A list has a partner if there is a reference for each list. -/
theorem exists_partnerAt {lists references : List Property}
    (h : lists.length ≤ references.length) {i : Nat} (hi : i < lists.length) :
    ∃ j, partnerAt lists references i = some j := by
  have hlength : (Pairing.pair (lists.map (·.relationLabel))
      (references.map (·.relationLabel))).length = lists.length := by
    rw [Pairing.length_pair, List.length_map]
  have hsome := Pairing.isSome_of_mem_pair
    (by rwa [List.length_map, List.length_map] : (lists.map (·.relationLabel)).length ≤
      (references.map (·.relationLabel)).length)
    (List.getElem_mem (by rw [hlength]; exact hi))
  obtain ⟨j, hj⟩ := Option.isSome_iff_exists.mp hsome
  exact ⟨j, partnerAt_eq_some_iff.mpr (List.getElem?_eq_some_iff.mpr ⟨_, hj⟩)⟩

theorem lt_of_partnerAt {lists references : List Property} {i j : Nat}
    (h : partnerAt lists references i = some j) : j < references.length := by
  have hlt := Pairing.lt_of_mem_pair (List.mem_of_getElem? (partnerAt_eq_some_iff.mp h))
  rwa [List.length_map] at hlt

/-! ### Which reference is left out -/

theorem eq_of_erase_eq {names : List String} (distinct : names.Nodup) {f g : String}
    (hf : f ∈ names) (h : names.erase f = names.erase g) : f = g := by
  by_contra hne
  have hmem : f ∈ names.erase g := (List.mem_erase_of_ne hne).mpr hf
  rw [← h] at hmem
  exact distinct.not_mem_erase hmem

/-- Where names differ, a list leaves out its partner and nothing else. -/
theorem leavesOut_iff {lists references : List Property} {target f : String}
    (hlists : (lists.map (·.key)).Nodup) (hreferences : (references.map (·.key)).Nodup)
    (two : 2 ≤ references.length) {i : Nat} (hi : i < lists.length) :
    (⟨lists[i].key, target, deepKeyOf lists references lists[i]⟩ : RelationEntry).LeavesOut
        (references.map (·.key)) f ↔
      ∃ j, partnerAt lists references i = some j ∧ (references.map (·.key))[j]? = some f := by
  rw [RelationEntry.LeavesOut, deepKeyOf_getElem hlists two hi, Option.some.injEq]
  cases hpartner : partnerAt lists references i with
  | none =>
      constructor
      · rintro ⟨hf, hall⟩
        have hlength := congrArg List.length hall
        have hpos : 0 < (references.map (·.key)).length := List.length_pos_of_mem hf
        rw [others, List.length_erase_of_mem hf] at hlength
        omega
      · rintro ⟨j, hj, -⟩
        exact absurd hj (by simp)
  | some j =>
      have hj : j < (references.map (·.key)).length := by
        rw [List.length_map]
        exact lt_of_partnerAt hpartner
      have herase : others (references.map (·.key)) (some j) =
          (references.map (·.key)).erase (references.map (·.key))[j] :=
        (hreferences.erase_getElem j hj).symm
      rw [herase]
      constructor
      · rintro ⟨hf, hsame⟩
        refine ⟨j, rfl, ?_⟩
        rw [eq_of_erase_eq hreferences hf hsame.symm, List.getElem?_eq_getElem hj]
      · rintro ⟨k, hk, hget⟩
        obtain rfl := Option.some.inj hk
        rw [List.getElem?_eq_getElem hj, Option.some.injEq] at hget
        subst hget
        exact ⟨List.getElem_mem hj, rfl⟩

/-! ### The deep keys of a model's lists -/

section Keyed

variable {models : OrderedMap Model} (keyed : models.KeyedBy Model.name) {m t : Model}
  (hm : m ∈ models.values) (ht : t ∈ models.values)

include keyed hm

/-- Of the references of a model to itself, if their names differ, at most one is many to one: any
other would answer it. -/
theorem length_fieldsTo_self (distinct : ((m.referencesTo m.name).map (·.key)).Nodup) :
    (m.fieldsTo models .manyToOne m.name).length < 2 := by
  have hget : models.get? m.name = some m := keyed.get?_of_mem hm
  have hkeys : ((m.fieldsTo models .manyToOne m.name).map (·.key)).Nodup := by
    rw [Model.fieldsTo_eq_filter rfl]
    exact distinct.sublist (List.filter_sublist.map _)
  match hfields : m.fieldsTo models .manyToOne m.name with
  | [] => exact Nat.zero_lt_two
  | [_] => exact Nat.one_lt_two
  | p :: q :: rest =>
      have hp : p ∈ m.fieldsTo models .manyToOne m.name := by simp [hfields]
      have hq : q ∈ m.fieldsTo models .manyToOne m.name := by simp [hfields]
      have hsame : q.key = p.key :=
        (Model.references_of_manyToOne hget hget hp (Model.referencesTo_of_fieldsTo rfl hq)).2 rfl
      rw [hfields, List.map_cons, List.map_cons, List.nodup_cons] at hkeys
      exact absurd (List.mem_cons.mpr (Or.inl hsame.symm)) hkeys.1

include ht

/-- The references that a deep key is made of are all references back. -/
theorem references_of_deepKeyOf {p : Property} {names : List String}
    (h : deepKeyOf (m.fieldsTo models .oneToMany t.name) (t.fieldsTo models .manyToOne m.name) p =
      some names) :
    t.fieldsTo models .manyToOne m.name = t.referencesTo m.name := by
  refine Model.fieldsTo_manyToOne_eq (keyed.get?_of_mem hm) (keyed.get?_of_mem ht) ?_
  have two := (eq_others_of_deepKeyOf h).1
  exact List.ne_nil_of_length_pos (by omega)

/-- Where field names differ, an entry with a deep key is a list at some place, and what it leaves
out is the partner of that place. -/
theorem exists_place_of_deepKey (hkeys : (m.properties.map (·.key)).Nodup)
    (hback : (t.properties.map (·.key)).Nodup) {e : RelationEntry}
    (he : e ∈ (m.record models).entriesTo t.name) {names : List String}
    (hnames : e.deepKey = some names) :
    ∃ i p, (m.fieldsTo models .oneToMany t.name)[i]? = some p ∧ p.key = e.key ∧
      ∀ f, e.LeavesOut ((t.referencesTo m.name).map (·.key)) f ↔
        ∃ j, partnerAt (m.fieldsTo models .oneToMany t.name) (t.referencesTo m.name) i = some j ∧
          ((t.referencesTo m.name).map (·.key))[j]? = some f := by
  obtain ⟨p, hp, rfl⟩ := exists_list_of_mem_entriesTo keyed ht he
  obtain ⟨i, hi, rfl⟩ := List.getElem_of_mem hp
  have two := (eq_others_of_deepKeyOf hnames).1
  rw [references_of_deepKeyOf keyed hm ht hnames] at two ⊢
  refine ⟨i, _, List.getElem?_eq_getElem hi, rfl, fun f => ?_⟩
  exact leavesOut_iff (Model.nodup_fieldsTo hkeys models _ _) (Model.nodup_referencesTo hback _) two
    hi

/-- The deep keys of a record fit the declared fields. -/
theorem deepKeysFit_record : DeepKeysFit m t ((m.record models).entriesTo t.name) where
  present := by
    intro hne e he
    have hnames : m.name ≠ t.name := fun h => hne (keyed.name_inj hm ht h)
    obtain ⟨p, hp, rfl⟩ := exists_list_of_mem_entriesTo keyed ht he
    rw [isSome_deepKeyOf hp, Model.fieldsTo_manyToOne_of_ne hnames (keyed.get?_of_mem hm)]
    by_cases hnone : m.referencesTo t.name = []
    · simp [hnone]
    · simp [hnone]
  self := by
    rintro rfl distinct e he
    obtain ⟨p, -, rfl⟩ := exists_list_of_mem_entriesTo keyed hm he
    exact if_pos (length_fieldsTo_self keyed hm distinct)
  names := by
    intro e he names hnames
    obtain ⟨p, -, rfl⟩ := exists_list_of_mem_entriesTo keyed ht he
    have hall := references_of_deepKeyOf keyed hm ht hnames
    obtain ⟨two, partner, rfl⟩ := eq_others_of_deepKeyOf hnames
    rw [hall] at two ⊢
    refine ⟨others_ne_nil (by rwa [List.length_map]) _, others_sublist _ _, ?_⟩
    have hle := length_le_length_others ((t.referencesTo m.name).map (·.key)) partner
    rwa [List.length_map] at hle
  leaves := by
    intro hkeys hback hcount e he hsome
    obtain ⟨names, hnames⟩ := Option.isSome_iff_exists.mp hsome
    obtain ⟨i, p, hp, -, hiff⟩ := exists_place_of_deepKey keyed hm ht hkeys hback he hnames
    have hi := (List.getElem?_eq_some_iff.mp hp).1
    have hle := (Model.fieldsTo_sublist_listsOf models m (c := .oneToMany) rfl t.name).length_le
    obtain ⟨j, hj⟩ := exists_partnerAt (Nat.le_trans hle hcount) hi
    have hlt : j < ((t.referencesTo m.name).map (·.key)).length := by
      rw [List.length_map]
      exact lt_of_partnerAt hj
    exact ⟨_, (hiff _).mpr ⟨j, hj, List.getElem?_eq_getElem hlt⟩⟩
  differ := by
    intro hkeys hback _ e he e' he' hne f f' hf hf' hsame
    subst hsame
    obtain ⟨i, p, hi, hp, hiff⟩ := exists_place_of_deepKey keyed hm ht hkeys hback he hf.2
    obtain ⟨k, q, hk, hq, hiff'⟩ := exists_place_of_deepKey keyed hm ht hkeys hback he' hf'.2
    obtain ⟨j, hj, hjf⟩ := (hiff f).mp hf
    obtain ⟨l, hl, hlf⟩ := (hiff' f).mp hf'
    -- One name is one place among the references, and a reference has one list.
    have hjlt := (List.getElem?_eq_some_iff.mp hjf).1
    have hjl : j = l :=
      (List.getElem?_inj hjlt (Model.nodup_referencesTo hback _)).mp (hjf.trans hlf.symm)
    subst hjl
    have hik : i = k :=
      Pairing.eq_of_getElem?_pair (partnerAt_eq_some_iff.mp hj) (partnerAt_eq_some_iff.mp hl)
    subst hik
    have hpq : p = q := Option.some.inj (hi.symm.trans hk)
    exact hne (hp.symm.trans (hpq ▸ hq))

end Keyed

/-- **Deep keys from the declared fields.** In a compiled schema only one-to-many entries have deep
keys. Their targets are among the models. For each of the targets there is an entry for each of the
one-to-many lists, and the deep keys fit the declared fields. -/
theorem Schema.deepKeys_compile (source : String) (markers : Markers) :
    let s := Schema.compile source markers
    ∀ m ∈ s.models.values, ∃ r, s.relations.get? m.name = some r ∧
      (∀ c, c ≠ .oneToMany → ∀ e ∈ r.bucket c, e.deepKey = none) ∧
      (∀ e ∈ r.oneToMany, ∃ t ∈ s.models.values, t.name = e.value) ∧
      ∀ t ∈ s.models.values,
        (r.entriesTo t.name).map (·.key) = (m.fieldsTo s.models .oneToMany t.name).map (·.key) ∧
          DeepKeysFit m t (r.entriesTo t.name) := by
  intro s m hm
  have keyed : s.models.KeyedBy Model.name := keyed_models_compile source markers
  refine ⟨_, get?_inferRelations_of_mem keyed hm, ?_, ?_, ?_⟩
  · intro c hc e he
    rw [Model.bucket_record] at he
    obtain ⟨p, -, rfl⟩ := List.mem_map.mp he
    exact if_neg hc
  · intro e he
    have he : e ∈ (m.record s.models).bucket .oneToMany := he
    rw [Model.bucket_record] at he
    obtain ⟨p, hp, rfl⟩ := List.mem_map.mp he
    have hc := (Model.mem_fieldsOf.mp hp).2
    have hrel := (Model.cardinality?_eq_some_iff.mp hc).1
    obtain ⟨t, ht⟩ :=
      Model.exists_target_of_isAnswered (Property.isRelation_iff_relationName?.mp hrel) hc rfl
    exact ⟨t, OrderedMap.mem_values_of_get? ht, keyed.name_of_get? ht⟩
  · intro t ht
    refine ⟨?_, deepKeysFit_record keyed hm ht⟩
    rw [entriesTo_record keyed ht, List.map_map]
    rfl

theorem Schema.deepKeys_compile_letters :
    let s := Schema.compile lettersSchema
    ∃ r, s.relations.get? "P" = some r ∧ (∀ e ∈ r.bucket .oneToOne, e.deepKey = none) ∧
      (∃ e ∈ r.entriesTo "P", e.key = "team" ∧ e.deepKey = none) ∧
      ∃ e ∈ r.entriesTo "L", ∃ e' ∈ r.entriesTo "L", e.key = "sent" ∧ e'.key = "kept" ∧
        ∃ f f', e.LeavesOut ["from", "to"] f ∧ e'.LeavesOut ["from", "to"] f' ∧ f ≠ f' := by
  intro s
  have hfacts : ∃ m ∈ s.models.values, ∃ t ∈ s.models.values, m.name = "P" ∧ t.name = "L" ∧
      (m.properties.map (·.key)).Nodup ∧ (t.properties.map (·.key)).Nodup ∧
      ((m.referencesTo "P").map (·.key)).Nodup ∧ m.referencesTo "L" = [] ∧
      (m.listsOf "L").length = 2 ∧ (t.referencesTo "P").map (·.key) = ["from", "to"] ∧
      ∃ r ∈ s.relations.get? "P", (∃ e ∈ r.entriesTo "P", e.key = "team") ∧
        (∃ e ∈ r.entriesTo "L", e.key = "sent") ∧ ∃ e ∈ r.entriesTo "L", e.key = "kept" := by
    decide +kernel
  obtain ⟨m, hm, t, ht, hmname, htname, hkeys, hback, hself, hnone, hlists, hrefs, r, hr,
    ⟨team, hteam, hteamkey⟩, ⟨e, he, hkey⟩, e', he', hkey'⟩ := hfacts
  obtain ⟨r', hr', hothers, -, hfit⟩ := Schema.deepKeys_compile lettersSchema {} m hm
  rw [hmname] at hr'
  obtain rfl : r = r' := Option.some.inj (hr.symm.trans hr')
  have fitSelf := (hfit m hm).2
  have fit := (hfit t ht).2
  have hne : m ≠ t := fun h => absurd (hmname.symm.trans ((congrArg Model.name h).trans htname))
    (by decide)
  rw [hmname] at fitSelf
  rw [htname] at fit
  have hlength : (t.referencesTo m.name).length = 2 := by
    rw [hmname, ← List.length_map (·.key), hrefs]
    rfl
  have hcount : (m.listsOf t.name).length ≤ (t.referencesTo m.name).length := by
    rw [htname, hlists]
    exact Nat.le_of_eq hlength.symm
  have hpresent : ∀ e ∈ r.entriesTo "L", e.deepKey.isSome = true := by
    intro e he
    refine (fit.present hne e he).mpr ⟨Nat.le_of_eq hlength.symm, ?_⟩
    rw [htname]
    exact hnone
  obtain ⟨f, hf⟩ := fit.leaves hkeys hback hcount e he (hpresent e he)
  obtain ⟨f', hf'⟩ := fit.leaves hkeys hback hcount e' he' (hpresent e' he')
  have hdiffer := fit.differ hkeys hback hcount e he e' he' (by rw [hkey, hkey']; decide) f f' hf hf'
  rw [hmname, hrefs] at hf hf'
  refine ⟨r, hr, hothers _ (by decide), ⟨team, hteam, hteamkey, ?_⟩, e, he, e', he', hkey, hkey', f,
    f', hf, hf', hdiffer⟩
  exact fitSelf.self rfl (by rw [hmname]; exact hself) team hteam

end DataSchema
