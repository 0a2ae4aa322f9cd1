import DataSchema.Proofs.Relation.Buckets

/-!
# DataSchema.Proofs.Relation.Reciprocity

**The two sides of a relation fit together.** Every edge is classified alone, from the side of its
own model. That the two sides agree is a theorem: whether a field is answered depends on the
references of the target, and whether those are answered depends on the references of the source.

The bridge is `hasEdge_inferRelations_iff`. An entry of a record is a declared field with its
cardinality, so each law below is a fact about the fields of two models. Between different models
only the question "does the other side refer to one record?" is left (`isAnswered_iff_of_ne`); in a
model that refers to itself the name of the field has to be carried along.
-/

namespace DataSchema

/-- The relations list the field `f` of the model `m`, which leads to `t`, with cardinality `c`. -/
def HasEdge (relations : OrderedMap RelationRecord) (m f t : String) (c : Cardinality) : Prop :=
  ∃ r ∈ relations.get? m, ∃ e ∈ r.bucket c, e.key = f ∧ e.value = t

instance (relations : OrderedMap RelationRecord) (m f t : String) (c : Cardinality) :
    Decidable (HasEdge relations m f t c) :=
  inferInstanceAs (Decidable (∃ r ∈ relations.get? m, ∃ e ∈ r.bucket c, e.key = f ∧ e.value = t))

/-- The sides of the relations of some models are *consistent*. -/
structure Consistent (models : OrderedMap Model) (relations : OrderedMap RelationRecord) :
    Prop where
  /-- The entries of a to-one bucket are fields of one record, those of the others are lists. -/
  shape : ∀ m ∈ models.values, ∃ r, relations.get? m.name = some r ∧
    ∀ c, (r.bucket c).map (fun e => (e.key, some e.value)) =
      ((if c.isToOne then m.toOne else m.toMany).filter fun p =>
        m.cardinality? models p = some c).map fun p => (p.key, p.relationName?)
  /-- A one-to-one field has a one-to-one field on the other side, which is not the field itself. -/
  partner : ∀ m f t, HasEdge relations m f t .oneToOne →
    ∃ g, HasEdge relations t g m .oneToOne ∧ (m = t → g ≠ f)
  /-- From one model to another all fields of one shape have the same cardinality. -/
  uniform : ∀ m t, m ≠ t → ∀ f g c d, HasEdge relations m f t c → HasEdge relations m g t d →
    c.isToOne = d.isToOne → c = d
  /-- Where a model has many-to-one fields, all that comes back from the target is one to many. -/
  unanswered : ∀ m t, m ≠ t → ∀ f, HasEdge relations m f t .manyToOne →
    ∀ g c, HasEdge relations t g m c → c = .oneToMany
  /-- Where a model has one-to-many lists the target refers back, and the cardinality of these
  references says whether the model also refers to the target. -/
  collected : ∀ m t, m ≠ t → ∀ f, HasEdge relations m f t .oneToMany →
    (∃ g c, c.isToOne = true ∧ HasEdge relations t g m c) ∧
    ∀ g c, HasEdge relations t g m c → c.isToOne = true → ∀ model, models.get? m = some model →
      c = if model.referencesTo t = [] then .manyToOne else .oneToOne
  /-- A many-to-many field is not answered by any field of one record, itself apart. -/
  unreferenced : ∀ m f t, HasEdge relations m f t .manyToMany →
    ∀ target, models.get? t = some target → ∀ q ∈ target.referencesTo m, m = t ∧ q.key = f

section Keyed

variable {models : OrderedMap Model} (keyed : models.KeyedBy Model.name)

include keyed

/-- The inferred relations list the declared fields with their cardinalities. -/
theorem hasEdge_inferRelations_iff {m f t : String} {c : Cardinality} :
    HasEdge (inferRelations models) m f t c ↔
      ∃ model, models.get? m = some model ∧ ∃ p ∈ model.fieldsTo models c t, p.key = f := by
  simp only [HasEdge, get?_inferRelations keyed, Option.mem_def, Option.map_eq_some_iff]
  constructor
  · rintro ⟨_, ⟨model, hm, rfl⟩, e, he, hkey, hvalue⟩
    rw [Model.bucket_record] at he
    obtain ⟨p, hp, rfl⟩ := List.mem_map.mp he
    obtain ⟨hmem, hc⟩ := Model.mem_fieldsOf.mp hp
    have htarget : p.relationName? = some t :=
      Property.relationName?_eq_some_iff.mpr ⟨(Model.cardinality?_eq_some_iff.mp hc).1, hvalue⟩
    exact ⟨model, hm, p, Model.mem_fieldsTo.mpr ⟨hmem, hc, htarget⟩, hkey⟩
  · rintro ⟨model, hm, p, hp, hkey⟩
    obtain ⟨hmem, hc, ht⟩ := Model.mem_fieldsTo.mp hp
    have hentry : model.entryOf models c p ∈ (model.record models).bucket c := by
      rw [Model.bucket_record]
      exact List.mem_map.mpr ⟨p, Model.mem_fieldsOf.mpr ⟨hmem, hc⟩, rfl⟩
    exact ⟨_, ⟨model, hm, rfl⟩, _, hentry, hkey, (Property.relationName?_eq_some_iff.mp ht).2⟩

/-- A reference of a model is listed with some to-one cardinality. -/
theorem exists_hasEdge_of_reference {model : Model} {m t : String} {p : Property}
    (hm : models.get? m = some model) (hp : p ∈ model.referencesTo t) :
    ∃ c, c.isToOne = true ∧ model.cardinality? models p = some c ∧
      HasEdge (inferRelations models) m p.key t c := by
  obtain ⟨hmem, harr, ht⟩ := Model.mem_referencesTo.mp hp
  obtain ⟨c, hc⟩ :=
    Model.exists_cardinality? models model (Property.relationName?_eq_some_iff.mp ht).1
  have hone : c.isToOne = true := by
    rw [← Cardinality.isToMany_eq_false_iff, ← Model.isArray_of_cardinality? hc, harr]
  exact ⟨c, hone, hc, (hasEdge_inferRelations_iff keyed).mpr
    ⟨model, hm, p, Model.mem_fieldsTo.mpr ⟨hmem, hc, ht⟩, rfl⟩⟩

/-! ### The laws, one by one

Each starts from two entries, reads them as fields of two models, and compares what answers them. -/

theorem partner_of_oneToOne {m f t : String} (h : HasEdge (inferRelations models) m f t .oneToOne) :
    ∃ g, HasEdge (inferRelations models) t g m .oneToOne ∧ (m = t → g ≠ f) := by
  obtain ⟨source, hm, p, hp, rfl⟩ := (hasEdge_inferRelations_iff keyed).mp h
  obtain rfl := keyed.name_of_get? hm
  obtain ⟨-, hc, hpt⟩ := Model.mem_fieldsTo.mp hp
  obtain ⟨target, ht⟩ := Model.exists_target_of_isAnswered hpt hc rfl
  obtain rfl := keyed.name_of_get? ht
  obtain ⟨q, hq, hother⟩ := (Model.isAnswered_iff ht hpt hc).mp rfl
  obtain ⟨c, hone, hqc, hedge⟩ := exists_hasEdge_of_reference keyed ht hq
  -- The field answers its partner in turn, since the two differ where the models do not.
  have hanswered : c.isAnswered = true :=
    (Model.isAnswered_iff hm (Model.mem_referencesTo.mp hq).2.2 hqc).mpr
      ⟨p, Model.referencesTo_of_fieldsTo rfl hp, fun h => hother ⟨h.1.symm, h.2.symm⟩⟩
  have hcc : c = .oneToOne := by
    refine Cardinality.eq_of_shape ?_ hanswered
    rw [Cardinality.isToMany_eq_false_iff.mpr hone]
    rfl
  subst hcc
  exact ⟨q.key, hedge, fun hname hkey => hother ⟨hname, hkey⟩⟩

theorem eq_of_isToOne_eq {m f g t : String} {c d : Cardinality} (hne : m ≠ t)
    (hf : HasEdge (inferRelations models) m f t c) (hg : HasEdge (inferRelations models) m g t d)
    (hshape : c.isToOne = d.isToOne) : c = d := by
  obtain ⟨source, hm, p, hp, rfl⟩ := (hasEdge_inferRelations_iff keyed).mp hf
  obtain ⟨source', hm', q, hq, rfl⟩ := (hasEdge_inferRelations_iff keyed).mp hg
  rw [hm] at hm'
  cases hm'
  obtain rfl := keyed.name_of_get? hm
  refine Cardinality.eq_of_shape ?_ (Model.isAnswered_eq_of_ne hne hp hq)
  rw [Cardinality.isToMany, Cardinality.isToMany, hshape]

theorem oneToMany_of_manyToOne {m f g t : String} {c : Cardinality} (hne : m ≠ t)
    (hf : HasEdge (inferRelations models) m f t .manyToOne)
    (hg : HasEdge (inferRelations models) t g m c) : c = .oneToMany := by
  obtain ⟨source, hm, p, hp, rfl⟩ := (hasEdge_inferRelations_iff keyed).mp hf
  obtain ⟨target, ht, q, hq, rfl⟩ := (hasEdge_inferRelations_iff keyed).mp hg
  obtain rfl := keyed.name_of_get? hm
  obtain rfl := keyed.name_of_get? ht
  have hpref := Model.referencesTo_of_fieldsTo (c := .manyToOne) rfl hp
  obtain ⟨-, hpc, hpt⟩ := Model.mem_fieldsTo.mp hp
  obtain ⟨-, hqc, hqt⟩ := Model.mem_fieldsTo.mp hq
  have hanswered : c.isAnswered = true := by
    rw [Model.isAnswered_iff_of_ne (Ne.symm hne) hm hqt hqc]
    exact List.ne_nil_of_mem hpref
  have hmany : c.isToMany = true := by
    by_contra hone
    have hone : c.isToOne = true := Cardinality.isToMany_eq_false_iff.mp (Bool.eq_false_iff.mpr hone)
    have hsome : target.referencesTo source.name ≠ [] :=
      List.ne_nil_of_mem (Model.referencesTo_of_fieldsTo hone hq)
    exact Bool.false_ne_true ((Model.isAnswered_iff_of_ne hne ht hpt hpc).mpr hsome)
  exact Cardinality.eq_of_shape hmany hanswered

/-- A one-to-many list is answered by some reference. -/
theorem exists_hasEdge_of_oneToMany {m f t : String}
    (hf : HasEdge (inferRelations models) m f t .oneToMany) :
    ∃ g c, c.isToOne = true ∧ HasEdge (inferRelations models) t g m c := by
  obtain ⟨source, hm, p, hp, rfl⟩ := (hasEdge_inferRelations_iff keyed).mp hf
  obtain rfl := keyed.name_of_get? hm
  obtain ⟨-, hc, hpt⟩ := Model.mem_fieldsTo.mp hp
  obtain ⟨target, ht⟩ := Model.exists_target_of_isAnswered hpt hc rfl
  obtain rfl := keyed.name_of_get? ht
  obtain ⟨q, hq, -⟩ := (Model.isAnswered_iff ht hpt hc).mp rfl
  obtain ⟨c, hone, -, hedge⟩ := exists_hasEdge_of_reference keyed ht hq
  exact ⟨q.key, c, hone, hedge⟩

theorem eq_ite_of_isToOne {m g t : String} {c : Cardinality} (hne : m ≠ t)
    (hg : HasEdge (inferRelations models) t g m c) (hone : c.isToOne = true) {model : Model}
    (hm : models.get? m = some model) :
    c = if model.referencesTo t = [] then .manyToOne else .oneToOne := by
  obtain ⟨target, ht, q, hq, rfl⟩ := (hasEdge_inferRelations_iff keyed).mp hg
  obtain rfl := keyed.name_of_get? hm
  obtain rfl := keyed.name_of_get? ht
  have hcard := Model.cardinality?_of_reference (Ne.symm hne) hm
    (Model.referencesTo_of_fieldsTo hone hq)
  exact Option.some.inj ((Model.mem_fieldsTo.mp hq).2.1.symm.trans hcard)

theorem eq_self_of_manyToMany {m f t : String} (hf : HasEdge (inferRelations models) m f t .manyToMany)
    {target : Model} (ht : models.get? t = some target) {q : Property}
    (hq : q ∈ target.referencesTo m) : m = t ∧ q.key = f := by
  obtain ⟨source, hm, p, hp, rfl⟩ := (hasEdge_inferRelations_iff keyed).mp hf
  obtain rfl := keyed.name_of_get? hm
  obtain rfl := keyed.name_of_get? ht
  obtain ⟨-, hc, hpt⟩ := Model.mem_fieldsTo.mp hp
  by_contra hother
  exact Bool.false_ne_true ((Model.isAnswered_iff ht hpt hc).mpr ⟨q, hq, hother⟩)

/-- The two sides of inferred relations are consistent. -/
theorem consistent_inferRelations : Consistent models (inferRelations models) where
  shape := by
    intro m hm
    refine ⟨_, get?_inferRelations_of_mem keyed hm, fun c => ?_⟩
    rw [Model.map_bucket_record, Model.fieldsOf_eq]
  partner _ _ _ := partner_of_oneToOne keyed
  uniform _ _ hne _ _ _ _ := eq_of_isToOne_eq keyed hne
  unanswered _ _ hne _ hf _ _ := oneToMany_of_manyToOne keyed hne hf
  collected _ _ hne _ hf :=
    ⟨exists_hasEdge_of_oneToMany keyed hf, fun _ _ hg hone _ hm =>
      eq_ite_of_isToOne keyed hne hg hone hm⟩
  unreferenced _ _ _ hf _ ht _ hq := eq_self_of_manyToMany keyed hf ht hq

end Keyed

/-- In a compiled schema the cardinalities of the two sides of every relation fit together. -/
theorem Schema.consistent_compile (source : String) (markers : Markers) :
    let s := Schema.compile source markers
    Consistent s.models s.relations :=
  consistent_inferRelations (keyed_models_compile source markers)

theorem Schema.consistent_letters :
    let s := Schema.compile lettersSchema
    HasEdge s.relations "P" "boss" "P" .oneToOne ∧ HasEdge s.relations "L" "from" "P" .manyToOne ∧
      HasEdge s.relations "P" "sent" "L" .oneToMany ∧ HasEdge s.relations "L" "on" "T" .manyToMany ∧
      (∃ g, HasEdge s.relations "P" g "P" .oneToOne ∧ g ≠ "boss") ∧
      (∀ g c, HasEdge s.relations "P" g "L" c → c = .oneToMany) ∧
      (∃ g c, c.isToOne = true ∧ HasEdge s.relations "L" g "P" c) ∧
      ∀ topic, s.models.get? "T" = some topic → topic.referencesTo "L" = [] := by
  intro s
  have consistent := Schema.consistent_compile lettersSchema {}
  have hedges : HasEdge s.relations "P" "boss" "P" .oneToOne ∧
      HasEdge s.relations "L" "from" "P" .manyToOne ∧
      HasEdge s.relations "P" "sent" "L" .oneToMany ∧
      HasEdge s.relations "L" "on" "T" .manyToMany := by decide +kernel
  obtain ⟨hboss, hfrom, hsent, hon⟩ := hedges
  obtain ⟨g, hg, hother⟩ := consistent.partner _ _ _ hboss
  refine ⟨hboss, hfrom, hsent, hon, ⟨g, hg, hother rfl⟩, ?_, ?_, ?_⟩
  · exact consistent.unanswered _ _ (by decide) _ hfrom
  · exact (consistent.collected _ _ (by decide) _ hsent).1
  · intro topic htopic
    refine List.eq_nil_iff_forall_not_mem.mpr fun q hq => ?_
    exact absurd (consistent.unreferenced _ _ _ hon topic htopic q hq).1 (by decide)

end DataSchema
