import Mathlib.Algebra.GroupWithZero.Nat
import Mathlib.Data.List.Nodup
import DataSchema.Proofs.Relation.Fields
import DataSchema.Proofs.Schema.Naming

/-!
# DataSchema.Proofs.Relation.Buckets

**Every relation field stands in exactly one bucket.** A record is written entry by entry from the
classified edges of its model, and read bucket by bucket. The bridge is `bucket_record`: a bucket is
the list of the fields of its cardinality, each with its entry, in the order of declaration. What is
said of a record follows from it: its size, the fields it lists, and what a lookup by name finds.

Names may repeat among the fields of a model. The lists are right all the same; only the lookup by
name needs the names to differ.
-/

namespace DataSchema

open Source (Outline)

/-! ### The record of a model -/

/-- The relation record of a model among models. -/
def Model.record (models : OrderedMap Model) (m : Model) : RelationRecord :=
  .ofList ((m.classifiedEdges models).map fun edge =>
    (edge.1, relationEntry (classifyEdges models) (m.classifiedEdges models) edge))

section Keyed

variable {models : OrderedMap Model} (keyed : models.KeyedBy Model.name)

include keyed

theorem classifyEdges_eq :
    classifyEdges models = models.mapEntries fun _ m => m.classifiedEdges models :=
  keyed.ofList_map_values _

/-- Each model has the record that is inferred from it, under the model's own name. -/
theorem inferRelations_eq : inferRelations models = models.mapEntries fun _ m => m.record models := by
  refine OrderedMap.ext ?_
  have hclassified : (classifyEdges models).entries =
      models.entries.map fun entry => (entry.1, entry.2.classifiedEdges models) := by
    rw [classifyEdges_eq keyed]
    rfl
  simp only [inferRelations, OrderedMap.mapEntries, hclassified, List.map_map]
  rfl

theorem get?_inferRelations (name : String) :
    (inferRelations models).get? name = (models.get? name).map (·.record models) := by
  rw [inferRelations_eq keyed, OrderedMap.get?_mapEntries]

theorem get?_inferRelations_of_mem {m : Model} (hm : m ∈ models.values) :
    (inferRelations models).get? m.name = some (m.record models) := by
  rw [get?_inferRelations keyed, keyed.get?_of_mem hm, Option.map_some]

theorem values_inferRelations :
    (inferRelations models).values = models.values.map (·.record models) := by
  rw [inferRelations_eq keyed]
  simp [OrderedMap.values, OrderedMap.mapEntries]

end Keyed

namespace Model

variable {models : OrderedMap Model} {m : Model} {c : Cardinality}

/-! ### Buckets -/

/-- The entry of a relation field that has a cardinality. -/
def entryOf (models : OrderedMap Model) (m : Model) (c : Cardinality) (p : Property) :
    RelationEntry :=
  relationEntry (classifyEdges models) (m.classifiedEdges models) (c, p.edge m.name)

@[simp] theorem key_entryOf (models : OrderedMap Model) (m : Model) (c : Cardinality)
    (p : Property) : (m.entryOf models c p).key = p.key := rfl

/-- The edges of one cardinality are those of the fields of that cardinality. -/
theorem filter_classifiedEdges (models : OrderedMap Model) (m : Model) (c : Cardinality) :
    (m.classifiedEdges models).filter (·.1 = c) =
      (m.fieldsOf models c).map fun p => (c, p.edge m.name) := by
  rw [classifiedEdges_eq, fieldsOf]
  have hrel : ∀ p ∈ m.relationProperties, p.isRelation = true :=
    fun p hp => (mem_relationProperties.mp hp).2
  generalize m.relationProperties = fields at hrel ⊢
  induction fields with
  | nil => rfl
  | cons p rest ih =>
      have ih := ih fun q hq => hrel q (List.mem_cons_of_mem _ hq)
      have hiff : m.cardinality? models p = some c ↔
          p.isRelation = true ∧ (p.edge m.name).cardinality models = c := cardinality?_eq_some_iff
      by_cases hc : m.cardinality? models p = some c
      · have hcard := (hiff.mp hc).2
        rw [List.map_cons, List.filter_cons_of_pos (by simpa using hcard), ih,
          List.filter_cons_of_pos (by simpa using hc), List.map_cons, hcard]
      · have hcard : (p.edge m.name).cardinality models ≠ c :=
          fun h => hc (hiff.mpr ⟨hrel p (List.mem_cons_self ..), h⟩)
        rw [List.map_cons, List.filter_cons_of_neg (by simpa using hcard), ih,
          List.filter_cons_of_neg (by simpa using hc)]

/-- A bucket lists the fields of its cardinality, in the order of declaration. -/
theorem bucket_record (models : OrderedMap Model) (m : Model) (c : Cardinality) :
    (m.record models).bucket c = (m.fieldsOf models c).map (m.entryOf models c) := by
  have hfilter := congrArg
    (List.map (relationEntry (classifyEdges models) (m.classifiedEdges models)))
    (filter_classifiedEdges models m c)
  rw [record, RelationRecord.bucket_ofList, List.filter_map, List.map_map]
  rw [List.map_map] at hfilter
  exact hfilter

/-- A bucket lists the name and the target of each of its fields. -/
theorem map_bucket_record (models : OrderedMap Model) (m : Model) (c : Cardinality) :
    ((m.record models).bucket c).map (fun e => (e.key, some e.value)) =
      (m.fieldsOf models c).map fun p => (p.key, p.relationName?) := by
  rw [bucket_record, List.map_map]
  refine List.map_congr_left fun p hp => ?_
  have hrel := (cardinality?_eq_some_iff.mp (mem_fieldsOf.mp hp).2).1
  rw [Property.isRelation_iff_relationName?.mp hrel]
  rfl

/-! ### Nothing lost and nothing twice -/

/-- The fields of the four cardinalities are as many as the relation fields. -/
theorem sum_length_fieldsOf (models : OrderedMap Model) (m : Model) :
    (Cardinality.all.map fun c => (m.fieldsOf models c).length).sum =
      m.relationProperties.length := by
  simp only [fieldsOf]
  have hrel : ∀ p ∈ m.relationProperties, p.isRelation = true :=
    fun p hp => (mem_relationProperties.mp hp).2
  generalize m.relationProperties = fields at hrel ⊢
  induction fields with
  | nil => rfl
  | cons p rest ih =>
      have ih := ih fun q hq => hrel q (List.mem_cons_of_mem _ hq)
      obtain ⟨c, hc⟩ := exists_cardinality? models m (hrel p (List.mem_cons_self ..))
      simp only [Cardinality.all, List.map_cons, List.map_nil, List.sum_cons, List.sum_nil,
        List.filter_cons, hc, List.length_cons] at ih ⊢
      cases c <;> simp at ih ⊢ <;> omega

theorem size_record (models : OrderedMap Model) (m : Model) :
    (m.record models).size = m.relationProperties.length := by
  rw [← sum_length_fieldsOf models m]
  have hlength : ∀ c, ((m.record models).bucket c).length = (m.fieldsOf models c).length := by
    intro c
    rw [bucket_record, List.length_map]
  simp only [Cardinality.all, List.map_cons, List.map_nil, List.sum_cons, List.sum_nil, ← hlength]
  simp only [RelationRecord.size, RelationRecord.bucket]
  omega

/-! ### Lookup by name -/

theorem mem_toList_record {entry : Cardinality × RelationEntry} :
    entry ∈ (m.record models).toList ↔
      ∃ p ∈ m.fieldsOf models entry.1, m.entryOf models entry.1 p = entry.2 := by
  simp only [RelationRecord.toList, List.mem_flatMap, List.mem_map, bucket_record]
  constructor
  · rintro ⟨c, -, e, ⟨p, hp, rfl⟩, rfl⟩
    exact ⟨p, hp, rfl⟩
  · rintro ⟨p, hp, he⟩
    exact ⟨entry.1, Cardinality.mem_all _, entry.2, ⟨p, hp, he⟩, rfl⟩

/-- Where the names differ, a lookup by name finds the field of that name: any entry with the name is
its own. -/
theorem find?_record {p : Property} (distinct : (m.relationProperties.map (·.key)).Nodup)
    (hp : p ∈ m.properties) (hc : m.cardinality? models p = some c) :
    (m.record models).find? p.key = some (c, m.entryOf models c p) := by
  have hrel : ∀ {q d}, q ∈ m.fieldsOf models d → q ∈ m.relationProperties :=
    fun hq => (List.mem_filter.mp hq).1
  have hpc : p ∈ m.fieldsOf models c := mem_fieldsOf.mpr ⟨hp, hc⟩
  rw [RelationRecord.find?]
  cases hfound : (m.record models).toList.find? (fun entry => entry.2.key = p.key) with
  | none =>
      have hmem : (c, m.entryOf models c p) ∈ (m.record models).toList :=
        mem_toList_record.mpr ⟨p, hpc, rfl⟩
      have hnot := List.find?_eq_none.mp hfound _ hmem
      simp at hnot
  | some entry =>
      obtain ⟨q, hq, hentry⟩ := mem_toList_record.mp (List.mem_of_find?_eq_some hfound)
      have hkey : entry.2.key = p.key := by simpa using List.find?_some hfound
      rw [← hentry] at hkey
      have hqp : q = p := List.inj_on_of_nodup_map distinct (hrel hq) (hrel hpc) hkey
      subst hqp
      have hcard : c = entry.1 := Option.some.inj (hc.symm.trans (mem_fieldsOf.mp hq).2)
      subst hcard
      rw [hentry]

/-- A name that no relation field has is not found. -/
theorem find?_record_eq_none {key : String} (h : key ∉ m.relationProperties.map (·.key)) :
    (m.record models).find? key = none := by
  refine List.find?_eq_none.mpr fun entry hentry => ?_
  obtain ⟨p, hp, he⟩ := mem_toList_record.mp hentry
  have hmem : p.key ∈ m.relationProperties.map (·.key) :=
    List.mem_map.mpr ⟨p, (List.mem_filter.mp hp).1, rfl⟩
  rw [← he, key_entryOf, decide_eq_true_eq]
  exact fun hkey => h (hkey ▸ hmem)

end Model

/-! ### A compiled schema -/

/-- A record *covers* a model: each relation field is listed once, in the bucket of its cardinality,
and where the names differ it is found there by its name. -/
structure RelationRecord.Covers (r : RelationRecord) (models : OrderedMap Model) (m : Model) :
    Prop where
  /-- A bucket lists name and target of the fields of its cardinality, in order of declaration. -/
  bucket : ∀ c, (r.bucket c).map (fun e => (e.key, some e.value)) =
    (m.fieldsOf models c).map fun p => (p.key, p.relationName?)
  /-- There are as many entries as relation fields. -/
  size : r.size = m.relationProperties.length
  /-- A field is found by its name, with its own cardinality and target. -/
  found : (m.relationProperties.map (·.key)).Nodup → ∀ p ∈ m.relationProperties,
    ∃ c e, r.find? p.key = some (c, e) ∧ r.cardinality? p.key = some c ∧
      m.cardinality? models p = some c ∧ e.key = p.key ∧ p.relationName? = some e.value
  /-- No other name is found. -/
  missing : ∀ key, key ∉ m.relationProperties.map (·.key) →
    r.find? key = none ∧ r.cardinality? key = none

theorem Model.covers_record (models : OrderedMap Model) (m : Model) :
    (m.record models).Covers models m where
  bucket := Model.map_bucket_record models m
  size := Model.size_record models m
  found := by
    intro distinct p hp
    obtain ⟨hmem, hrel⟩ := Model.mem_relationProperties.mp hp
    obtain ⟨c, hc⟩ := Model.exists_cardinality? models m hrel
    have hfind := Model.find?_record distinct hmem hc
    refine ⟨c, m.entryOf models c p, hfind, ?_, hc, rfl, ?_⟩
    · rw [RelationRecord.cardinality?, hfind]
      rfl
    · exact Property.isRelation_iff_relationName?.mp hrel
  missing := by
    intro key hkey
    have hfind : (m.record models).find? key = none := Model.find?_record_eq_none hkey
    exact ⟨hfind, by rw [RelationRecord.cardinality?, hfind]; rfl⟩

/-- In a compiled schema each model has one relation record, in the order of the models, and the
record covers the model. So the relation fields of all models are counted once each. -/
theorem Schema.relations_covers (source : String) (markers : Markers) :
    let s := Schema.compile source markers
    s.relations.keys = s.models.keys ∧
      (∀ m ∈ s.models.values, ∃ r, s.relations.get? m.name = some r ∧ r.Covers s.models m) ∧
      s.relationCount = (s.models.values.map fun m => m.relationProperties.length).sum := by
  intro s
  have keyed : s.models.KeyedBy Model.name := keyed_models_compile source markers
  have hrelations : s.relations = inferRelations s.models := relations_compile source markers
  refine ⟨?_, ?_, ?_⟩
  · rw [hrelations, inferRelations_eq keyed, OrderedMap.keys_mapEntries]
  · intro m hm
    rw [hrelations]
    exact ⟨_, get?_inferRelations_of_mem keyed hm, Model.covers_record s.models m⟩
  · rw [relationCount, hrelations, values_inferRelations keyed]
    induction s.models.values with
    | nil => rfl
    | cons m rest ih =>
        rw [List.map_cons, List.foldr_cons, ih, Model.size_record, List.map_cons, List.sum_cons]

/-- People, letters and topics: fields of all four cardinalities, three of them of a model to
itself. -/
def lettersSchema : String :=
  "model P \x7b\n sent L[]\n kept L[]\n boss P?\n aide P?\n team P[]\n\x7d\n" ++
    "model L \x7b\n from P\n to P\n on T[]\n\x7d\nmodel T \x7b\n all L[]\n\x7d\n"

theorem Schema.relations_covers_letters :
    let s := Schema.compile lettersSchema
    ∃ m ∈ s.models.values, ∃ p ∈ m.relationProperties,
      (m.relationProperties.map (·.key)).Nodup ∧ p.key = "sent" ∧
      "from" ∉ m.relationProperties.map (·.key) ∧
      ∃ r e, s.relations.get? m.name = some r ∧ r.size = 5 ∧
        r.find? "sent" = some (.oneToMany, e) ∧ e.value = "L" ∧
        r.cardinality? "from" = none := by
  intro s
  have hfields : ∃ m ∈ s.models.values, ∃ p ∈ m.relationProperties,
      (m.relationProperties.map (·.key)).Nodup ∧ p.key = "sent" ∧
      "from" ∉ m.relationProperties.map (·.key) ∧ m.relationProperties.length = 5 ∧
      m.cardinality? s.models p = some .oneToMany ∧ p.relationName? = some "L" := by
    decide +kernel
  obtain ⟨m, hm, p, hp, distinct, hkey, hmissing, hlength, hcard, htarget⟩ := hfields
  obtain ⟨-, hcovers, -⟩ := Schema.relations_covers lettersSchema {}
  obtain ⟨r, hr, covers⟩ := hcovers m hm
  obtain ⟨c, e, hfind, -, hc, -, hvalue⟩ := covers.found distinct p hp
  have hcc : c = .oneToMany := Option.some.inj (hc.symm.trans hcard)
  have hvv : e.value = "L" := Option.some.inj (hvalue.symm.trans htarget)
  rw [hkey, hcc] at hfind
  exact ⟨m, hm, p, hp, distinct, hkey, hmissing, r, e, hr, covers.size.trans hlength, hfind, hvv,
    (covers.missing "from" hmissing).2⟩

end DataSchema
