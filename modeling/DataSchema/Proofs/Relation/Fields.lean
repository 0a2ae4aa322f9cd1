import DataSchema.Proofs.OrderedMap
import DataSchema.Relation.Inference

/-!
# DataSchema.Proofs.Relation.Fields

**Cardinalities from the declared fields.** The inference works on edges. What a reader of a schema
sees are fields, so here the cardinality of a field is said in terms of the fields that the two
models declare towards each other: the *references* of a model to a target, which are its fields of
one record, and its *lists* of the target's records.

The spec of a cardinality is `Model.isArray_of_cardinality?` with `Model.isAnswered_iff`. Between two
different models the field that is classified cannot be its own way back, so there every field of one
shape has the same cardinality (`Model.cardinality?_of_ne`).
-/

namespace DataSchema

/-! ### The two questions -/

namespace Cardinality

/-- Does the target refer back to one record of the owner? -/
def isAnswered : Cardinality → Bool
  | oneToOne | oneToMany => true
  | manyToOne | manyToMany => false

theorem ofShape_eq_iff {isArray hasBackReference : Bool} {c : Cardinality} :
    ofShape isArray hasBackReference = c ↔
      isArray = c.isToMany ∧ hasBackReference = c.isAnswered := by
  cases isArray <;> cases hasBackReference <;> cases c <;> decide

/-- The two answers determine the cardinality. -/
theorem eq_of_shape {c d : Cardinality} (hmany : c.isToMany = d.isToMany)
    (hanswer : c.isAnswered = d.isAnswered) : c = d := by
  cases c <;> cases d <;> simp_all [isToMany, isToOne, isAnswered]

theorem isToMany_eq_false_iff {c : Cardinality} : c.isToMany = false ↔ c.isToOne = true := by
  cases c <;> decide

end Cardinality

/-! ### Relation fields and their edges -/

namespace Property

theorem isRelation_iff_relationName? {p : Property} :
    p.isRelation = true ↔ p.relationName? = some p.type.name := by
  cases hp : p.type <;>
    simp [isRelation, relationName?, hp, FieldType.isRelation, FieldType.relationName?,
      FieldType.name]

theorem relationName?_eq_some_iff {p : Property} {target : String} :
    p.relationName? = some target ↔ p.isRelation = true ∧ p.type.name = target := by
  constructor
  · intro h
    have hrel : p.isRelation = true := by
      cases hp : p.type <;>
        simp_all [isRelation, relationName?, FieldType.isRelation, FieldType.relationName?]
    rw [isRelation_iff_relationName?.mp hrel] at h
    exact ⟨hrel, Option.some.inj h⟩
  · rintro ⟨hrel, rfl⟩
    exact isRelation_iff_relationName?.mp hrel

/-- The edge of a relation field of a model. -/
def edge (p : Property) (source : String) : RelationEdge :=
  ⟨source, p.key, p.type.name, p.isArray, p.relationLabel⟩

theorem ofProperty?_eq (p : Property) (source : String) :
    RelationEdge.ofProperty? source p = if p.isRelation then some (p.edge source) else none := by
  by_cases hp : p.isRelation = true
  · rw [if_pos hp, RelationEdge.ofProperty?, isRelation_iff_relationName?.mp hp]
    rfl
  · rw [if_neg hp, RelationEdge.ofProperty?]
    have hnone : p.relationName? = none :=
      Option.eq_none_iff_forall_ne_some.mpr fun t ht => hp (relationName?_eq_some_iff.mp ht).1
    rw [hnone]
    rfl

end Property

namespace Model

variable {models : OrderedMap Model} {m t : Model} {p : Property} {c : Cardinality}

/-- The fields of a model that refer to one record of a target. -/
def referencesTo (m : Model) (target : String) : List Property :=
  m.toOne.filter fun p => p.relationName? = some target

/-- The fields of a model that hold lists of a target's records. -/
def listsOf (m : Model) (target : String) : List Property :=
  m.toMany.filter fun p => p.relationName? = some target

/-- The relation fields of a model that have a cardinality, in the order of declaration. -/
def fieldsOf (m : Model) (models : OrderedMap Model) (c : Cardinality) : List Property :=
  m.relationProperties.filter fun p => m.cardinality? models p = some c

/-- Those of them that lead to a target. -/
def fieldsTo (m : Model) (models : OrderedMap Model) (c : Cardinality) (target : String) :
    List Property :=
  (m.fieldsOf models c).filter fun p => p.relationName? = some target

theorem mem_referencesTo {target : String} :
    p ∈ m.referencesTo target ↔
      p ∈ m.properties ∧ p.isArray = false ∧ p.relationName? = some target := by
  simp only [referencesTo, toOne, Property.isToOne, List.mem_filter, decide_eq_true_eq,
    Bool.and_eq_true, Bool.not_eq_true']
  constructor
  · rintro ⟨⟨hmem, -, harr⟩, ht⟩
    exact ⟨hmem, harr, ht⟩
  · rintro ⟨hmem, harr, ht⟩
    exact ⟨⟨hmem, (Property.relationName?_eq_some_iff.mp ht).1, harr⟩, ht⟩

theorem mem_relationProperties : p ∈ m.relationProperties ↔ p ∈ m.properties ∧ p.isRelation := by
  simp [relationProperties]

/-- The edges of a model are those of its relation fields. -/
theorem edges_eq (m : Model) : m.edges = m.relationProperties.map (·.edge m.name) := by
  rw [edges, relationProperties]
  induction m.properties with
  | nil => rfl
  | cons p rest ih =>
      rw [List.filterMap_cons, Property.ofProperty?_eq, ih]
      by_cases hp : p.isRelation = true
      · rw [if_pos hp, List.filter_cons_of_pos hp, List.map_cons]
      · rw [if_neg hp, List.filter_cons_of_neg hp]

theorem classifiedEdges_eq (models : OrderedMap Model) (m : Model) :
    m.classifiedEdges models =
      m.relationProperties.map fun p => ((p.edge m.name).cardinality models, p.edge m.name) := by
  rw [classifiedEdges, edges_eq, List.map_map]
  rfl

/-! ### The cardinality of a field -/

theorem cardinality?_eq_some_iff :
    m.cardinality? models p = some c ↔
      p.isRelation = true ∧ (p.edge m.name).cardinality models = c := by
  rw [cardinality?, Property.ofProperty?_eq]
  by_cases hp : p.isRelation = true
  · simp [hp]
  · simp [hp]

theorem exists_cardinality? (models : OrderedMap Model) (m : Model) (h : p.isRelation = true) :
    ∃ c, m.cardinality? models p = some c :=
  ⟨_, cardinality?_eq_some_iff.mpr ⟨h, rfl⟩⟩

/-- A field is a list if and only if its cardinality says so. -/
theorem isArray_of_cardinality? (h : m.cardinality? models p = some c) : p.isArray = c.isToMany :=
  (Cardinality.ofShape_eq_iff.mp (cardinality?_eq_some_iff.mp h).2).1

theorem mem_fieldsOf :
    p ∈ m.fieldsOf models c ↔ p ∈ m.properties ∧ m.cardinality? models p = some c := by
  simp only [fieldsOf, List.mem_filter, mem_relationProperties, decide_eq_true_eq]
  constructor
  · rintro ⟨⟨hmem, -⟩, hc⟩
    exact ⟨hmem, hc⟩
  · rintro ⟨hmem, hc⟩
    exact ⟨⟨hmem, (cardinality?_eq_some_iff.mp hc).1⟩, hc⟩

theorem mem_fieldsTo {target : String} :
    p ∈ m.fieldsTo models c target ↔
      p ∈ m.properties ∧ m.cardinality? models p = some c ∧ p.relationName? = some target := by
  rw [fieldsTo, List.mem_filter, mem_fieldsOf, decide_eq_true_eq, and_assoc]

/-- A field of a to-one cardinality is a reference. -/
theorem referencesTo_of_fieldsTo {target : String} (hone : c.isToOne = true)
    (hp : p ∈ m.fieldsTo models c target) : p ∈ m.referencesTo target := by
  obtain ⟨hmem, hc, ht⟩ := mem_fieldsTo.mp hp
  have harr : p.isArray = false := by
    rw [isArray_of_cardinality? hc, Cardinality.isToMany_eq_false_iff, hone]
  exact mem_referencesTo.mpr ⟨hmem, harr, ht⟩

/-- The fields of a cardinality are found among the fields of one record, or among the lists. -/
theorem fieldsOf_eq (models : OrderedMap Model) (m : Model) (c : Cardinality) :
    m.fieldsOf models c =
      (if c.isToOne then m.toOne else m.toMany).filter fun p => m.cardinality? models p = some c := by
  have hsplit : (if c.isToOne then m.toOne else m.toMany) =
      m.properties.filter fun p => p.isRelation && p.isArray == c.isToMany := by
    cases hc : c.isToOne <;>
      simp [toOne, toMany, Property.isToOne, Property.isToMany, Cardinality.isToMany, hc]
  rw [hsplit, fieldsOf, relationProperties, List.filter_filter, List.filter_filter]
  refine List.filter_congr fun p _ => ?_
  by_cases hp : m.cardinality? models p = some c
  · simp [hp, isArray_of_cardinality? hp]
  · simp [hp]

/-- The fields of a to-one cardinality are those among the references that have it. -/
theorem fieldsTo_eq_filter {target : String} (hone : c.isToOne = true) :
    m.fieldsTo models c target =
      (m.referencesTo target).filter fun p => m.cardinality? models p = some c := by
  rw [fieldsTo, fieldsOf_eq, if_pos hone, referencesTo, List.filter_filter, List.filter_filter]
  exact List.filter_congr fun p _ => Bool.and_comm _ _

theorem nodup_fieldsTo (h : (m.properties.map (·.key)).Nodup) (models : OrderedMap Model)
    (c : Cardinality) (target : String) : ((m.fieldsTo models c target).map (·.key)).Nodup := by
  have hsub : (m.fieldsTo models c target).Sublist m.properties :=
    (List.filter_sublist.trans List.filter_sublist).trans List.filter_sublist
  exact h.sublist (hsub.map _)

theorem nodup_referencesTo (h : (m.properties.map (·.key)).Nodup) (target : String) :
    ((m.referencesTo target).map (·.key)).Nodup := by
  have hsub : (m.referencesTo target).Sublist m.properties :=
    List.filter_sublist.trans List.filter_sublist
  exact h.sublist (hsub.map _)

/-- The fields of a to-many cardinality are among the lists. -/
theorem fieldsTo_sublist_listsOf (models : OrderedMap Model) (m : Model) {c : Cardinality}
    (hone : c.isToOne = false) (target : String) :
    (m.fieldsTo models c target).Sublist (m.listsOf target) := by
  rw [fieldsTo, fieldsOf_eq, if_neg (by rw [hone]; exact Bool.false_ne_true), listsOf]
  exact List.filter_sublist.filter _

/-! ### The way back

A field is answered when its target has a reference back. In a model that refers to itself a
reference with the field's own name does not count, which is the only place where names matter. -/

theorem hasBackReference_iff {e : RelationEdge} :
    hasBackReference models e = true ↔
      ∃ target, models.get? e.target = some target ∧
        ∃ q ∈ target.referencesTo e.source, ¬(e.source = e.target ∧ q.key = e.field) := by
  simp only [hasBackReference, Option.any_eq_true, List.any_eq_true, referencesTo, List.mem_filter,
    Bool.and_eq_true, Bool.not_eq_true', beq_iff_eq, decide_eq_true_eq, RelationEdge.isSelf,
    Bool.and_eq_false_imp, beq_eq_false_iff_ne, not_and, and_assoc]

/-- A field is answered by a reference back that is not the field itself. -/
theorem isAnswered_iff (ht : models.get? t.name = some t) (hp : p.relationName? = some t.name)
    (hc : m.cardinality? models p = some c) :
    c.isAnswered = true ↔
      ∃ q ∈ t.referencesTo m.name, ¬(m.name = t.name ∧ q.key = p.key) := by
  have htype : p.type.name = t.name := (Property.relationName?_eq_some_iff.mp hp).2
  have hanswer := (Cardinality.ofShape_eq_iff.mp (cardinality?_eq_some_iff.mp hc).2).2
  rw [← hanswer, hasBackReference_iff]
  simp only [Property.edge, htype, ht, Option.some.injEq, exists_eq_left']

/-- The target of an answered field is among the models. -/
theorem exists_target_of_isAnswered {target : String} (hp : p.relationName? = some target)
    (hc : m.cardinality? models p = some c) (h : c.isAnswered = true) :
    ∃ t, models.get? target = some t := by
  have hanswer := (Cardinality.ofShape_eq_iff.mp (cardinality?_eq_some_iff.mp hc).2).2
  rw [← hanswer] at h
  obtain ⟨t, ht, -⟩ := hasBackReference_iff.mp h
  rw [← (Property.relationName?_eq_some_iff.mp hp).2]
  exact ⟨t, ht⟩

/-- Between two different models every reference back is an answer. -/
theorem isAnswered_iff_of_ne (hne : m.name ≠ t.name) (ht : models.get? t.name = some t)
    (hp : p.relationName? = some t.name) (hc : m.cardinality? models p = some c) :
    c.isAnswered = true ↔ t.referencesTo m.name ≠ [] := by
  rw [isAnswered_iff ht hp hc, Ne, List.eq_nil_iff_forall_not_mem]
  simp [hne]

/-- Between two different models the shape of a field and the references back decide. -/
theorem cardinality?_of_ne (hne : m.name ≠ t.name) (ht : models.get? t.name = some t)
    (hp : p.relationName? = some t.name) :
    m.cardinality? models p = some (.ofShape p.isArray (decide (t.referencesTo m.name ≠ []))) := by
  obtain ⟨c, hc⟩ := exists_cardinality? models m (Property.relationName?_eq_some_iff.mp hp).1
  have hanswer : decide (t.referencesTo m.name ≠ []) = c.isAnswered := by
    rw [Bool.eq_iff_iff, decide_eq_true_eq, isAnswered_iff_of_ne hne ht hp hc]
  rw [hc, Cardinality.ofShape_eq_iff.mpr ⟨isArray_of_cardinality? hc, hanswer⟩]

/-- The cardinality of a reference to another model says whether that model refers back. -/
theorem cardinality?_of_reference (hne : m.name ≠ t.name) (ht : models.get? t.name = some t)
    (hp : p ∈ m.referencesTo t.name) :
    m.cardinality? models p =
      some (if t.referencesTo m.name = [] then .manyToOne else .oneToOne) := by
  obtain ⟨-, harr, hpt⟩ := mem_referencesTo.mp hp
  rw [cardinality?_of_ne hne ht hpt, harr]
  by_cases hnone : t.referencesTo m.name = []
  · rw [if_pos hnone, decide_eq_false (not_not_intro hnone)]
    rfl
  · rw [if_neg hnone, decide_eq_true hnone]
    rfl

/-- Fields that lead from one model to another are all answered or all not. -/
theorem isAnswered_eq_of_ne {q : Property} {d : Cardinality} {target : String}
    (hne : m.name ≠ target) (hp : p ∈ m.fieldsTo models c target)
    (hq : q ∈ m.fieldsTo models d target) : c.isAnswered = d.isAnswered := by
  obtain ⟨-, hpc, hpt⟩ := mem_fieldsTo.mp hp
  obtain ⟨-, hqc, hqt⟩ := mem_fieldsTo.mp hq
  rw [← (Cardinality.ofShape_eq_iff.mp (cardinality?_eq_some_iff.mp hpc).2).2,
    ← (Cardinality.ofShape_eq_iff.mp (cardinality?_eq_some_iff.mp hqc).2).2]
  -- The target need not be a model, so the two questions are compared as they are computed.
  have hself : ∀ r : Property, r.relationName? = some target →
      hasBackReference models (r.edge m.name) =
        (models.get? target).any fun t => t.toOne.any fun q => q.relationName? == some m.name := by
    intro r hr
    have htype : r.type.name = target := (Property.relationName?_eq_some_iff.mp hr).2
    have hnotself : (r.edge m.name).isSelf = false := by
      simpa [RelationEdge.isSelf, Property.edge, htype] using hne
    simp only [hasBackReference, hnotself, Bool.false_and, Bool.not_false, Bool.and_true]
    rw [show (r.edge m.name).target = target from htype]
    rfl
  rw [hself p hpt, hself q hqt]

/-- The references of a model to a target stand or fall together: where one of them has no answer,
none has. In a model that refers to itself they then all have one name. -/
theorem references_of_manyToOne (hm : models.get? m.name = some m)
    (ht : models.get? t.name = some t) (hp : p ∈ t.fieldsTo models .manyToOne m.name)
    {q : Property} (hq : q ∈ t.referencesTo m.name) :
    q ∈ t.fieldsTo models .manyToOne m.name ∧ (t.name = m.name → q.key = p.key) := by
  obtain ⟨-, hpc, hpt⟩ := mem_fieldsTo.mp hp
  obtain ⟨hqmem, hqarr, hqt⟩ := mem_referencesTo.mp hq
  -- Nothing answers `p`, so a reference back can only be `p` itself.
  have hfree : ∀ r ∈ m.referencesTo t.name, t.name = m.name ∧ r.key = p.key := by
    intro r hr
    refine Classical.byContradiction fun hanswer => ?_
    exact Bool.false_ne_true ((isAnswered_iff hm hpt hpc).mpr ⟨r, hr, hanswer⟩)
  have hself : t.name = m.name → q.key = p.key := by
    intro hname
    rw [hname, hm] at ht
    cases ht
    exact (hfree q hq).2
  obtain ⟨c, hc⟩ := exists_cardinality? models t (Property.relationName?_eq_some_iff.mp hqt).1
  have hanswered : c.isAnswered = false := by
    refine Bool.eq_false_iff.mpr fun h => ?_
    obtain ⟨r, hr, hanswer⟩ := (isAnswered_iff hm hqt hc).mp h
    obtain ⟨hname, hkey⟩ := hfree r hr
    exact hanswer ⟨hname, hkey.trans (hself hname).symm⟩
  have hone : c.isToMany = false := by rw [← isArray_of_cardinality? hc, hqarr]
  have hcm : c = .manyToOne := Cardinality.eq_of_shape hone hanswered
  exact ⟨mem_fieldsTo.mpr ⟨hqmem, hcm ▸ hc, hqt⟩, hself⟩

/-- Where one reference of a model to a target is many to one, all of them are. -/
theorem fieldsTo_manyToOne_eq (hm : models.get? m.name = some m)
    (ht : models.get? t.name = some t) (h : t.fieldsTo models .manyToOne m.name ≠ []) :
    t.fieldsTo models .manyToOne m.name = t.referencesTo m.name := by
  obtain ⟨p, hp⟩ := List.exists_mem_of_ne_nil _ h
  rw [fieldsTo_eq_filter rfl, List.filter_eq_self]
  intro q hq
  have hmany := (references_of_manyToOne hm ht hp hq).1
  exact decide_eq_true (mem_fieldsTo.mp hmany).2.1

/-- The references of another model are many to one if and only if nothing refers to it. -/
theorem fieldsTo_manyToOne_of_ne (hne : m.name ≠ t.name) (hm : models.get? m.name = some m) :
    t.fieldsTo models .manyToOne m.name =
      if m.referencesTo t.name = [] then t.referencesTo m.name else [] := by
  have hcard : ∀ q ∈ t.referencesTo m.name, t.cardinality? models q =
      some (if m.referencesTo t.name = [] then .manyToOne else .oneToOne) :=
    fun q hq => cardinality?_of_reference (Ne.symm hne) hm hq
  rw [fieldsTo_eq_filter rfl]
  by_cases hnone : m.referencesTo t.name = []
  · rw [if_pos hnone, List.filter_eq_self]
    intro q hq
    rw [hcard q hq, if_pos hnone, decide_eq_true_eq]
  · rw [if_neg hnone, List.filter_eq_nil_iff]
    intro q hq
    rw [hcard q hq, if_neg hnone]
    decide

end Model

end DataSchema
