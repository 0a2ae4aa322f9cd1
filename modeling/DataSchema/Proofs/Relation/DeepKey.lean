import DataSchema.Proofs.Relation.Buckets
import DataSchema.Proofs.Relation.Pairing

/-!
# DataSchema.Proofs.Relation.DeepKey

**What a deep key says.** A one-to-many list of a model `m` with the target `t` has two lists of
fields behind it: the one-to-many lists from `m` to `t`, and the many-to-one references from `t` back
to `m`. Its deep key is a function of the two (`deepKeyOf`), and the entries of a record that lead to
`t` are these lists, each with its deep key (`entriesTo_record`). Everything else is read off there.

* A deep key is the names of the references with at most the partner left out, so with two
  references or more it is never empty.
* Which one is the partner is the matter of the pairing.
-/

namespace DataSchema

/-! ### Leaving out a partner -/

/-- The names of references without the one at the partner's place. -/
def others (names : List String) : Option Nat → List String
  | none => names
  | some j => names.eraseIdx j

theorem others_sublist (names : List String) (partner : Option Nat) :
    (others names partner).Sublist names := by
  cases partner with
  | none => exact .refl _
  | some j => exact List.eraseIdx_sublist names j

theorem length_le_length_others (names : List String) (partner : Option Nat) :
    names.length ≤ (others names partner).length + 1 := by
  cases partner with
  | none => exact Nat.le_succ _
  | some j =>
      rw [others, List.length_eraseIdx]
      split <;> omega

theorem others_ne_nil {names : List String} (h : 2 ≤ names.length) (partner : Option Nat) :
    others names partner ≠ [] := by
  have hle := length_le_length_others names partner
  exact List.ne_nil_of_length_pos (by omega)

/-- The name of a reference, unless it stands at the partner's place. -/
def nameUnless (partner : Option Nat) (reference : RelationEdge × Nat) : Option String :=
  if some reference.2 = partner then none else some reference.1.field

/-- Past its place the partner leaves out nothing. -/
theorem filterMap_nameUnless_of_lt (references : List RelationEdge) {start place : Nat}
    (h : place < start) :
    (references.zipIdx start).filterMap (nameUnless (some place)) = references.map (·.field) := by
  induction references generalizing start with
  | nil => rfl
  | cons e rest ih =>
      have hkept : nameUnless (some place) (e, start) = some e.field :=
        if_neg (by simpa using (Nat.ne_of_lt h).symm)
      rw [List.zipIdx_cons, List.filterMap_cons_some hkept, ih (Nat.lt_succ_of_lt h)]
      rfl

theorem filterMap_nameUnless (references : List RelationEdge) (start j : Nat) :
    (references.zipIdx start).filterMap (nameUnless (some (start + j))) =
      (references.map (·.field)).eraseIdx j := by
  induction references generalizing start j with
  | nil => rfl
  | cons e rest ih =>
      rw [List.zipIdx_cons]
      cases j with
      | zero =>
          have hgone : nameUnless (some start) (e, start) = none := if_pos rfl
          rw [Nat.add_zero, List.filterMap_cons_none hgone,
            filterMap_nameUnless_of_lt rest (Nat.lt_succ_self start)]
          rfl
      | succ j =>
          have hkept : nameUnless (some (start + (j + 1))) (e, start) = some e.field :=
            if_neg (by simp)
          have hplace : start + (j + 1) = start + 1 + j := by omega
          rw [List.filterMap_cons_some hkept, hplace, ih (start + 1) j]
          rfl

/-- What a deep key keeps of the references. -/
theorem filterMap_zipIdx_eq_others (references : List RelationEdge) (partner : Option Nat) :
    references.zipIdx.filterMap (nameUnless partner) =
      others (references.map (·.field)) partner := by
  cases partner with
  | none =>
      have hkeep : nameUnless none = some ∘ RelationEdge.field ∘ Prod.fst := by
        funext reference
        exact if_neg (by simp)
      rw [hkeep, List.filterMap_eq_map, ← List.map_map, List.zipIdx_map_fst]
      rfl
  | some j =>
      have h := filterMap_nameUnless references 0 j
      rwa [Nat.zero_add] at h

/-! ### The deep key of a list, from the fields -/

/-- The one-to-many entries of a record that lead to a target. -/
def RelationRecord.entriesTo (r : RelationRecord) (target : String) : List RelationEntry :=
  r.oneToMany.filter fun e => e.value = target

/-- The partner of the list at a place, among the lists and references of two models. -/
def partnerAt (lists references : List Property) (i : Nat) : Option Nat :=
  ((Pairing.pair (lists.map (·.relationLabel)) (references.map (·.relationLabel)))[i]?).join

/-- The deep key of a list, among the lists and references of two models. -/
def deepKeyOf (lists references : List Property) (p : Property) : Option (List String) :=
  if references.length < 2 then none
  else (lists.findIdx? (·.key = p.key)).map fun i =>
    others (references.map (·.key)) (partnerAt lists references i)

/-- The deep key of an edge is that of its field, if the edges that count are those of the lists and
references. -/
theorem deepKey?_eq_deepKeyOf {own back : ClassifiedEdges} {lists references : List Property}
    {source target : String} {p : Property}
    (hown : own.leading .oneToMany target = lists.map (·.edge source))
    (hback : back.leading .manyToOne source = references.map (·.edge target))
    (hp : p.type.name = target) :
    deepKey? own back (p.edge source) = deepKeyOf lists references p := by
  have htarget : (p.edge source).target = target := hp
  have hsource : (p.edge source).source = source := rfl
  have hfield : ((fun e : RelationEdge => decide (e.field = (p.edge source).field)) ∘
      fun q : Property => q.edge source) = fun q => decide (q.key = p.key) := rfl
  unfold deepKey? deepKeyOf
  simp only [htarget, hsource, hown, hback, List.length_map, List.map_map, List.findIdx?_map, hfield]
  by_cases hshort : references.length < 2
  · rw [if_pos hshort, if_pos hshort]
  · rw [if_neg hshort, if_neg hshort]
    cases lists.findIdx? fun q => decide (q.key = p.key) with
    | none => rfl
    | some i =>
        have hremaining : (references.map (·.edge target)).zipIdx.filterMap
            (nameUnless (partnerAt lists references i)) =
              others (references.map (·.key)) (partnerAt lists references i) := by
          rw [filterMap_zipIdx_eq_others, List.map_map]
          rfl
        have hne : others (references.map (·.key)) (partnerAt lists references i) ≠ [] :=
          others_ne_nil (by rw [List.length_map]; omega) _
        -- The keeping step of the deep key is `nameUnless` with its pair taken apart.
        change (if (references.map (·.edge target)).zipIdx.filterMap
            (nameUnless (partnerAt lists references i)) = [] then none
          else some ((references.map (·.edge target)).zipIdx.filterMap
            (nameUnless (partnerAt lists references i)))) = _
        rw [hremaining, if_neg hne]
        rfl

section Fields

variable {models : OrderedMap Model} {m t : Model}

/-- The edges of one cardinality that lead to a target are those of the fields. -/
theorem leading_classifiedEdges (models : OrderedMap Model) (m : Model) (c : Cardinality)
    (target : String) :
    (m.classifiedEdges models).leading c target =
      (m.fieldsTo models c target).map (·.edge m.name) := by
  have hsplit : (m.classifiedEdges models).filter (fun edge => edge.1 = c ∧ edge.2.target = target) =
      ((m.classifiedEdges models).filter (·.1 = c)).filter (·.2.target = target) := by
    rw [List.filter_filter]
    refine List.filter_congr fun edge _ => ?_
    rw [Bool.decide_and, Bool.and_comm]
  have htarget : ∀ p ∈ m.fieldsOf models c,
      decide ((p.edge m.name).target = target) = decide (p.relationName? = some target) := by
    intro p hp
    have hrel := (Model.cardinality?_eq_some_iff.mp (Model.mem_fieldsOf.mp hp).2).1
    rw [Property.isRelation_iff_relationName?.mp hrel, decide_eq_decide, Option.some.injEq]
    exact Iff.rfl
  rw [ClassifiedEdges.leading, hsplit, Model.filter_classifiedEdges, List.filter_map, List.map_map,
    Model.fieldsTo]
  refine congrArg (List.map _) (List.filter_congr fun p hp => ?_)
  exact htarget p hp

/-- The one-to-many lists of a model that lead to a target, each with its deep key. -/
theorem entryOf_oneToMany (keyed : models.KeyedBy Model.name) (ht : t ∈ models.values)
    {p : Property} (hp : p ∈ m.fieldsTo models .oneToMany t.name) :
    m.entryOf models .oneToMany p = ⟨p.key, t.name,
      deepKeyOf (m.fieldsTo models .oneToMany t.name) (t.fieldsTo models .manyToOne m.name) p⟩ := by
  have htype : p.type.name = t.name :=
    (Property.relationName?_eq_some_iff.mp (Model.mem_fieldsTo.mp hp).2.2).2
  have hclassified : (classifyEdges models).get? p.type.name = some (t.classifiedEdges models) := by
    rw [classifyEdges_eq keyed, OrderedMap.get?_mapEntries, htype, keyed.get?_of_mem ht]
    rfl
  have hkey : (m.entryOf models .oneToMany p).deepKey =
      deepKey? (m.classifiedEdges models) (t.classifiedEdges models) (p.edge m.name) := by
    change ((classifyEdges models).get? p.type.name).bind _ = _
    rw [hclassified]
    rfl
  rw [← deepKey?_eq_deepKeyOf (leading_classifiedEdges models m _ _)
    (leading_classifiedEdges models t _ _) htype, ← hkey, ← htype]
  rfl

/-- The entries of a record that lead to a target are the one-to-many lists, in their order. -/
theorem entriesTo_record (keyed : models.KeyedBy Model.name) (ht : t ∈ models.values) :
    (m.record models).entriesTo t.name = (m.fieldsTo models .oneToMany t.name).map fun p =>
      ⟨p.key, t.name,
        deepKeyOf (m.fieldsTo models .oneToMany t.name) (t.fieldsTo models .manyToOne m.name) p⟩ := by
  have hentries : (m.record models).entriesTo t.name =
      (m.fieldsTo models .oneToMany t.name).map (m.entryOf models .oneToMany) := by
    have hbucket := Model.bucket_record models m .oneToMany
    rw [RelationRecord.bucket] at hbucket
    rw [RelationRecord.entriesTo, hbucket, List.filter_map, Model.fieldsTo]
    refine congrArg (List.map _) (List.filter_congr fun p hp => ?_)
    have hrel := (Model.cardinality?_eq_some_iff.mp (Model.mem_fieldsOf.mp hp).2).1
    rw [Property.isRelation_iff_relationName?.mp hrel, Function.comp_apply, decide_eq_decide,
      Option.some.injEq]
    exact Iff.rfl
  rw [hentries]
  exact List.map_congr_left fun p hp => entryOf_oneToMany keyed ht hp

theorem exists_list_of_mem_entriesTo (keyed : models.KeyedBy Model.name) (ht : t ∈ models.values)
    {e : RelationEntry} (he : e ∈ (m.record models).entriesTo t.name) :
    ∃ p ∈ m.fieldsTo models .oneToMany t.name,
      ⟨p.key, t.name, deepKeyOf (m.fieldsTo models .oneToMany t.name)
        (t.fieldsTo models .manyToOne m.name) p⟩ = e := by
  rw [entriesTo_record keyed ht] at he
  exact List.mem_map.mp he

end Fields

/-! ### Places

A list of fields is searched by name, and the first of a name stands for all. Where the names differ
every field is found at its own place. -/

theorem findIdx?_key_of_nodup {fields : List Property} (distinct : (fields.map (·.key)).Nodup)
    {i : Nat} (hi : i < fields.length) :
    fields.findIdx? (fun p => p.key = fields[i].key) = some i := by
  refine List.findIdx?_eq_some_iff_getElem.mpr ⟨hi, by simp, fun j hj => ?_⟩
  have hjlt : j < fields.length := Nat.lt_trans hj hi
  have hne : fields[j].key ≠ fields[i].key := by
    intro hkey
    have hsame : (fields.map (·.key))[j]? = (fields.map (·.key))[i]? := by
      rw [List.getElem?_map, List.getElem?_map, List.getElem?_eq_getElem hjlt,
        List.getElem?_eq_getElem hi, Option.map_some, Option.map_some, hkey]
    exact Nat.ne_of_lt hj ((List.getElem?_inj (by rwa [List.length_map]) distinct).mp hsame)
  simpa using hne

/-- With two references or more, the list at a place has the others as its deep key. -/
theorem deepKeyOf_getElem {lists references : List Property}
    (distinct : (lists.map (·.key)).Nodup) (two : 2 ≤ references.length) {i : Nat}
    (hi : i < lists.length) :
    deepKeyOf lists references lists[i] =
      some (others (references.map (·.key)) (partnerAt lists references i)) := by
  rw [deepKeyOf, if_neg (Nat.not_lt.mpr two), findIdx?_key_of_nodup distinct hi]
  rfl

theorem partnerAt_of_onlyAt {lists references : List Property} {label : String} {i j : Nat}
    (hlist : Pairing.OnlyAt label i (lists.map (·.relationLabel)))
    (hreference : Pairing.OnlyAt label j (references.map (·.relationLabel))) :
    partnerAt lists references i = some j := by
  rw [partnerAt, Pairing.pair_of_onlyAt hlist hreference]
  rfl

/-- Without a common label a list leaves out the reference at its own place, if there is one. -/
theorem others_partnerAt_of_disjoint {lists references : List Property}
    (h : ∀ label, some label ∈ lists.map (·.relationLabel) →
      some label ∉ references.map (·.relationLabel)) {i : Nat} (hi : i < lists.length) :
    others (references.map (·.key)) (partnerAt lists references i) =
      (references.map (·.key)).eraseIdx i := by
  have hpair := Pairing.pair_of_disjoint h (k := i) (by rwa [List.length_map])
  rw [partnerAt, hpair, Option.join_some, List.length_map]
  by_cases hlt : i < references.length
  · rw [if_pos hlt]
    rfl
  · rw [if_neg hlt, List.eraseIdx_of_length_le (by rw [List.length_map]; omega)]
    rfl

/-! ### Labels and places decide -/

/-- **The content of deep keys.** Let the one-to-many lists of a model with one target have different
names, and let there be two many-to-one references back or more. A list and a reference that alone
carry a label belong together, so the deep key of that list names all references but that one. Where
lists and references have no label in common the lists leave out the references in their order; what
is past the last reference leaves out none. -/
theorem deepKeys_inferRelations {models : OrderedMap Model} (keyed : models.KeyedBy Model.name)
    {m t : Model} (hm : m ∈ models.values) (ht : t ∈ models.values)
    (distinct : ((m.fieldsTo models .oneToMany t.name).map (·.key)).Nodup)
    (two : 2 ≤ (t.fieldsTo models .manyToOne m.name).length) :
    let lists := m.fieldsTo models .oneToMany t.name
    let references := t.fieldsTo models .manyToOne m.name
    let names := references.map (·.key)
    ∃ r, (inferRelations models).get? m.name = some r ∧
      (∀ label i j, Pairing.OnlyAt label i (lists.map (·.relationLabel)) →
        Pairing.OnlyAt label j (references.map (·.relationLabel)) →
        ∃ p, lists[i]? = some p ∧
          (r.entriesTo t.name)[i]? = some ⟨p.key, t.name, some (names.eraseIdx j)⟩) ∧
      ((∀ label, some label ∈ lists.map (·.relationLabel) →
          some label ∉ references.map (·.relationLabel)) →
        r.entriesTo t.name =
          lists.mapIdx fun i p => ⟨p.key, t.name, some (names.eraseIdx i)⟩) := by
  intro lists references names
  refine ⟨_, get?_inferRelations_of_mem keyed hm, ?_, ?_⟩
  · intro label i j hlist hreference
    obtain ⟨hlt, -⟩ := List.getElem?_eq_some_iff.mp ((hlist i).mpr rfl)
    have hi : i < lists.length := by rwa [List.length_map] at hlt
    refine ⟨lists[i], List.getElem?_eq_getElem hi, ?_⟩
    rw [entriesTo_record keyed ht, List.getElem?_map, List.getElem?_eq_getElem hi, Option.map_some,
      deepKeyOf_getElem distinct two hi, partnerAt_of_onlyAt hlist hreference]
    rfl
  · intro disjoint
    rw [entriesTo_record keyed ht]
    refine List.ext_getElem (by simp [lists]) fun i hi _ => ?_
    have hi : i < lists.length := by simpa [lists] using hi
    rw [List.getElem_map, List.getElem_mapIdx, deepKeyOf_getElem distinct two hi,
      others_partnerAt_of_disjoint disjoint hi]

/-! A schema for the theorem: people with lists of tickets and of notes. A label of the tickets'
references also stands at a list; the notes refer back without labels. -/

namespace Tickets

/-- A person has two lists of tickets and three of notes. -/
def person : Model := ⟨"Person",
  [{ key := "watched", type := .relation "Ticket", isArray := true },
    { key := "opened", type := .relation "Ticket", isArray := true,
      relationLabel := some "Opened" },
    { key := "notes", type := .relation "Note", isArray := true },
    { key := "drafts", type := .relation "Note", isArray := true,
      relationLabel := some "Drafts" },
    { key := "shared", type := .relation "Note", isArray := true }], ⟨0, 0⟩⟩

/-- A ticket refers to three people. -/
def ticket : Model := ⟨"Ticket",
  [{ key := "watcher", type := .relation "Person", relationLabel := some "Watched" },
    { key := "closer", type := .relation "Person" },
    { key := "opener", type := .relation "Person", relationLabel := some "Opened" }], ⟨0, 0⟩⟩

/-- A note refers to two people. -/
def note : Model := ⟨"Note",
  [{ key := "author", type := .relation "Person" },
    { key := "reader", type := .relation "Person" }], ⟨0, 0⟩⟩

/-- The three models by their names. -/
def models : OrderedMap Model :=
  .ofList [("Person", person), ("Ticket", ticket), ("Note", note)]

end Tickets

theorem deepKeys_inferRelations_tickets :
    Tickets.models.KeyedBy Model.name ∧
      ∃ r, (inferRelations Tickets.models).get? "Person" = some r ∧
        (r.entriesTo "Ticket")[1]? = some ⟨"opened", "Ticket", some ["watcher", "closer"]⟩ ∧
        r.entriesTo "Note" = [⟨"notes", "Note", some ["reader"]⟩,
          ⟨"drafts", "Note", some ["author"]⟩, ⟨"shared", "Note", some ["author", "reader"]⟩] := by
  have keyed : Tickets.models.KeyedBy Model.name := by
    unfold OrderedMap.KeyedBy
    decide
  have hperson : Tickets.person ∈ Tickets.models.values := by decide
  obtain ⟨r, hr, hlabels, -⟩ := deepKeys_inferRelations (t := Tickets.ticket) keyed hperson
    (by decide) (by decide) (by decide)
  obtain ⟨r', hr', -, hplaces⟩ := deepKeys_inferRelations (t := Tickets.note) keyed hperson
    (by decide) (by decide) (by decide)
  obtain rfl : r = r' := Option.some.inj (hr.symm.trans hr')
  refine ⟨keyed, r, hr, ?_, ?_⟩
  · obtain ⟨p, hp, hentry⟩ := hlabels "Opened" 1 2 (by decide) (by decide)
    have hplace : ((Tickets.person.fieldsTo Tickets.models .oneToMany
        Tickets.ticket.name)[1]?).map (·.key) = some "opened" := by decide
    rw [hp, Option.map_some, Option.some.injEq] at hplace
    refine hentry.trans ?_
    rw [hplace]
    decide
  · have hnone : (Tickets.note.fieldsTo Tickets.models .manyToOne Tickets.person.name).map
        (·.relationLabel) = [none, none] := by decide
    refine (hplaces fun label _ hmem => ?_).trans (by decide)
    rw [hnone] at hmem
    simp at hmem

end DataSchema
