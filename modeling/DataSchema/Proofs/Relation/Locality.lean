import DataSchema.Proofs.Relation.DeepKey

/-!
# DataSchema.Proofs.Relation.Locality

**An entry looks at two models.** The inference walks through all models, but what it says of one
edge it reads off the edges of the two models at the ends: whether the target refers back decides the
cardinality, and the deep key compares the lists of the source with the references of the target,
which are classified by what the source refers to in turn. So the chain of lookups closes after two
steps and never reaches a third model (`Model.edgeEntry_congr`).

Everything else here follows. Two maps of models that agree except at one name `x` have the same
entries between the other models, whatever stands at `x` in either of them.
-/

namespace DataSchema

/-! ### What the inference reads of a model -/

/-- The edges of the model of a name, if there is one. -/
def edgesAt (models : OrderedMap Model) (name : String) : Option (List RelationEdge) :=
  (models.get? name).map Model.edges

theorem edgesAt_congr {models models' : OrderedMap Model} {name : String}
    (h : models.get? name = models'.get? name) : edgesAt models name = edgesAt models' name := by
  rw [edgesAt, edgesAt, h]

/-- The model `owner` has a field of this name that refers to one record of `target`. -/
def Refers (models : OrderedMap Model) (owner field target : String) : Prop :=
  ∃ edges, edgesAt models owner = some edges ∧
    ∃ e ∈ edges, e.field = field ∧ e.target = target ∧ e.isArray = false

namespace Model

theorem mem_edges {m : Model} {e : RelationEdge} :
    e ∈ m.edges ↔ ∃ p ∈ m.properties, p.isRelation = true ∧ p.edge m.name = e := by
  simp only [edges_eq, List.mem_map, mem_relationProperties, and_assoc]

/-- The references of a model are its edges that are no lists. -/
theorem exists_referencesTo_iff {m : Model} {target field : String} :
    (∃ q ∈ m.referencesTo target, q.key = field) ↔
      ∃ e ∈ m.edges, e.field = field ∧ e.target = target ∧ e.isArray = false := by
  constructor
  · intro h
    obtain ⟨q, hq, hkey⟩ := h
    obtain ⟨hmem, harr, ht⟩ := mem_referencesTo.mp hq
    obtain ⟨hrel, htype⟩ := Property.relationName?_eq_some_iff.mp ht
    exact ⟨q.edge m.name, mem_edges.mpr ⟨q, hmem, hrel, rfl⟩, hkey, htype, harr⟩
  · intro h
    obtain ⟨e, he, hfield, ht, harr⟩ := h
    obtain ⟨q, hmem, hrel, rfl⟩ := mem_edges.mp he
    exact ⟨q, mem_referencesTo.mpr
      ⟨hmem, harr, Property.relationName?_eq_some_iff.mpr ⟨hrel, ht⟩⟩, hfield⟩

end Model

section Cardinality

variable {models models' : OrderedMap Model}

theorem refers_iff {owner field target : String} :
    Refers models owner field target ↔
      ∃ m, models.get? owner = some m ∧ ∃ q ∈ m.referencesTo target, q.key = field := by
  simp only [Refers, edgesAt, Option.map_eq_some_iff, Model.exists_referencesTo_iff]
  constructor
  · intro h
    obtain ⟨_, ⟨m, hm, rfl⟩, hedge⟩ := h
    exact ⟨m, hm, hedge⟩
  · intro h
    obtain ⟨m, hm, hedge⟩ := h
    exact ⟨m.edges, ⟨m, hm, rfl⟩, hedge⟩

/-- What a target refers to is all that the classification of an edge looks at. -/
theorem hasBackReference_iff_refers {e : RelationEdge} :
    hasBackReference models e = true ↔
      ∃ field, Refers models e.target field e.source ∧
        ¬ (e.source = e.target ∧ field = e.field) := by
  rw [Model.hasBackReference_iff]
  constructor
  · intro h
    obtain ⟨t, ht, q, hq, hother⟩ := h
    exact ⟨q.key, refers_iff.mpr ⟨t, ht, q, hq, rfl⟩, hother⟩
  · intro h
    obtain ⟨field, hrefers, hother⟩ := h
    obtain ⟨t, ht, q, hq, rfl⟩ := refers_iff.mp hrefers
    exact ⟨t, ht, q, hq, hother⟩

/-- An edge has the same cardinality where its target refers back alike. -/
theorem RelationEdge.cardinality_congr {e : RelationEdge}
    (h : ∀ field, Refers models e.target field e.source ↔ Refers models' e.target field e.source) :
    e.cardinality models = e.cardinality models' := by
  have hback : hasBackReference models e = hasBackReference models' e := by
    rw [Bool.eq_iff_iff, hasBackReference_iff_refers, hasBackReference_iff_refers]
    simp only [h]
  rw [RelationEdge.cardinality, RelationEdge.cardinality, hback]

theorem RelationEdge.cardinality_of_edgesAt {e : RelationEdge}
    (h : edgesAt models e.target = edgesAt models' e.target) :
    e.cardinality models = e.cardinality models' := by
  refine RelationEdge.cardinality_congr fun field => ?_
  rw [Refers, Refers, h]

end Cardinality

/-! ### Entries from edges -/

namespace Model

/-- The entry of an edge of a model. -/
def edgeEntry (models : OrderedMap Model) (m : Model) (e : RelationEdge) : RelationEntry :=
  relationEntry (classifyEdges models) (m.classifiedEdges models) (e.cardinality models, e)

/-- A bucket lists the edges of its cardinality. -/
theorem bucket_record_eq_map_edges (models : OrderedMap Model) (m : Model) (c : Cardinality) :
    (m.record models).bucket c =
      (m.edges.filter (·.cardinality models = c)).map (m.edgeEntry models) := by
  have hedges : m.classifiedEdges models = m.edges.map fun e => (e.cardinality models, e) := rfl
  rw [record, RelationRecord.bucket_ofList, List.filter_map, List.map_map]
  conv_lhs => rw [hedges]
  rw [List.filter_map, List.map_map, ← hedges]
  rfl

theorem leading_eq_filter (models : OrderedMap Model) (m : Model) (c : Cardinality)
    (target : String) :
    (m.classifiedEdges models).leading c target =
      m.edges.filter fun e => e.cardinality models = c ∧ e.target = target := by
  rw [ClassifiedEdges.leading, classifiedEdges, List.filter_map, List.map_map]
  exact List.map_id _

end Model

section Local

variable {models models' : OrderedMap Model} {m m' : Model}

/-- The classified edges from one model to another depend on the edges of these two. -/
theorem leading_congr (hedges : m.edges = m'.edges) {target : String}
    (htarget : edgesAt models target = edgesAt models' target) (c : Cardinality) :
    (m.classifiedEdges models).leading c target =
      (m'.classifiedEdges models').leading c target := by
  rw [Model.leading_eq_filter, Model.leading_eq_filter, hedges]
  refine List.filter_congr fun e _ => ?_
  by_cases ht : e.target = target
  · subst ht
    rw [RelationEdge.cardinality_of_edgesAt htarget]
  · simp [ht]

theorem deepKey?_congr {own own' back back' : ClassifiedEdges} {list : RelationEdge}
    (hown : own.leading .oneToMany list.target = own'.leading .oneToMany list.target)
    (hback : back.leading .manyToOne list.source = back'.leading .manyToOne list.source) :
    deepKey? own back list = deepKey? own' back' list := by
  simp only [deepKey?, hown, hback]

variable (keyed : models.KeyedBy Model.name) (keyed' : models'.KeyedBy Model.name)

include keyed

theorem get?_classifyEdges (name : String) :
    (classifyEdges models).get? name = (models.get? name).map (·.classifiedEdges models) := by
  rw [classifyEdges_eq keyed, OrderedMap.get?_mapEntries]

include keyed'

/-- The entry of an edge depends on the edges of its source and of its target. -/
theorem Model.edgeEntry_congr (hedges : m.edges = m'.edges) {e : RelationEdge}
    (hsource : edgesAt models e.source = edgesAt models' e.source)
    (htarget : edgesAt models e.target = edgesAt models' e.target) :
    m.edgeEntry models e = m'.edgeEntry models' e := by
  have hown := leading_congr hedges htarget .oneToMany
  have hcard := RelationEdge.cardinality_of_edgesAt htarget
  have hkey : ((classifyEdges models).get? e.target).bind
        (fun back => deepKey? (m.classifiedEdges models) back e) =
      ((classifyEdges models').get? e.target).bind
        (fun back => deepKey? (m'.classifiedEdges models') back e) := by
    have hback := OrderedMap.map_eq_map_iff.mp htarget
    rw [get?_classifyEdges keyed, get?_classifyEdges keyed']
    generalize models.get? e.target = t at hback ⊢
    generalize models'.get? e.target = t' at hback ⊢
    cases hback with
    | none => rfl
    | some hback => exact deepKey?_congr hown (leading_congr hback hsource .manyToOne)
  simp only [Model.edgeEntry, relationEntry, hcard, hkey]

/-- Two models with the same edges have the same entries for the targets that look alike, if they
look alike themselves. -/
theorem Model.filter_bucket_congr (hedges : m.edges = m'.edges)
    (hsource : edgesAt models m.name = edgesAt models' m.name) (p : String → Bool)
    (htarget : ∀ e ∈ m.edges, p e.target = true →
      edgesAt models e.target = edgesAt models' e.target) (c : Cardinality) :
    ((m.record models).bucket c).filter (fun entry => p entry.value) =
      ((m'.record models').bucket c).filter (fun entry => p entry.value) := by
  rw [Model.bucket_record_eq_map_edges, Model.bucket_record_eq_map_edges, List.filter_map,
    List.filter_map, List.filter_filter, List.filter_filter, ← hedges]
  have hfilter : m.edges.filter (fun e => p e.target && decide (e.cardinality models = c)) =
      m.edges.filter fun e => p e.target && decide (e.cardinality models' = c) := by
    refine List.filter_congr fun e he => ?_
    cases hp : p e.target with
    | false => rfl
    | true => rw [RelationEdge.cardinality_of_edgesAt (htarget e he hp)]
  refine Eq.trans ?_ (congrArg (List.map (m'.edgeEntry models')) hfilter)
  refine List.map_congr_left fun e he => ?_
  obtain ⟨he, hkeep⟩ := List.mem_filter.mp he
  have hp : p e.target = true := (Bool.and_eq_true_iff.mp hkeep).1
  obtain ⟨q, -, -, rfl⟩ := Model.mem_edges.mp he
  exact Model.edgeEntry_congr keyed keyed' hedges hsource (htarget _ he hp)

/-- The record of a model depends on the edges of the model and of its targets. -/
theorem Model.record_congr (hedges : m.edges = m'.edges)
    (hsource : edgesAt models m.name = edgesAt models' m.name)
    (htarget : ∀ e ∈ m.edges, edgesAt models e.target = edgesAt models' e.target) :
    m.record models = m'.record models' := by
  refine RelationRecord.ext_bucket fun c => ?_
  have h := Model.filter_bucket_congr keyed keyed' hedges hsource (fun _ => true)
    (fun e he _ => htarget e he) c
  simpa using h

end Local

/-! ### Models that differ at one name -/

/-- **Inference is local.** Let two maps of models agree except at one name, where either may have any
model or none. Then every other model has a record in both, with the same entries for the targets
other than that name, deep keys included. The record of a model without a field that leads there does
not change at all. -/
theorem inferRelations_local {models models' : OrderedMap Model}
    (keyed : models.KeyedBy Model.name) (keyed' : models'.KeyedBy Model.name) {x : String}
    (agree : ∀ name, name ≠ x → models.get? name = models'.get? name) {m : Model}
    (hm : m ∈ models.values) (hne : m.name ≠ x) :
    ∃ r r', (inferRelations models).get? m.name = some r ∧
      (inferRelations models').get? m.name = some r' ∧
      (∀ c, (r.bucket c).filter (fun e => e.value ≠ x) =
        (r'.bucket c).filter (fun e => e.value ≠ x)) ∧
      ((∀ p ∈ m.properties, p.relationName? ≠ some x) → r = r') := by
  have hget : models.get? m.name = some m := keyed.get?_of_mem hm
  have hget' : models'.get? m.name = some m := by rw [← agree _ hne, hget]
  have hsource := edgesAt_congr (agree _ hne)
  refine ⟨m.record models, m.record models', ?_, ?_, fun c => ?_, fun hfree => ?_⟩
  · rw [get?_inferRelations keyed, hget, Option.map_some]
  · rw [get?_inferRelations keyed', hget', Option.map_some]
  · refine Model.filter_bucket_congr keyed keyed' rfl hsource (fun t => decide (t ≠ x)) ?_ c
    intro e _ htarget
    exact edgesAt_congr (agree _ (of_decide_eq_true htarget))
  · refine Model.record_congr keyed keyed' rfl hsource fun e he => ?_
    obtain ⟨p, hp, hrel, rfl⟩ := Model.mem_edges.mp he
    have htarget : (p.edge m.name).target ≠ x := fun h =>
      hfree p hp (Property.relationName?_eq_some_iff.mpr ⟨hrel, h⟩)
    exact edgesAt_congr (agree _ htarget)

/-- Without the model of tickets, a person keeps the lists of notes with their deep keys, and the
record of a note stays as it is. -/
theorem inferRelations_local_tickets :
    Tickets.models.KeyedBy Model.name ∧ (Tickets.models.erase "Ticket").KeyedBy Model.name ∧
      (∀ name, name ≠ "Ticket" →
        Tickets.models.get? name = (Tickets.models.erase "Ticket").get? name) ∧
      (∃ r r', (inferRelations Tickets.models).get? "Person" = some r ∧
        (inferRelations (Tickets.models.erase "Ticket")).get? "Person" = some r' ∧ r ≠ r' ∧
        ∀ c, (r.bucket c).filter (fun e => e.value ≠ "Ticket") =
          (r'.bucket c).filter (fun e => e.value ≠ "Ticket")) ∧
      (∀ p ∈ Tickets.note.properties, p.relationName? ≠ some "Ticket") ∧
      ∃ r, (inferRelations Tickets.models).get? "Note" = some r ∧
        (inferRelations (Tickets.models.erase "Ticket")).get? "Note" = some r := by
  have keyed : Tickets.models.KeyedBy Model.name := by
    unfold OrderedMap.KeyedBy
    decide
  have keyed' : (Tickets.models.erase "Ticket").KeyedBy Model.name := by
    unfold OrderedMap.KeyedBy
    decide
  have agree : ∀ name, name ≠ "Ticket" →
      Tickets.models.get? name = (Tickets.models.erase "Ticket").get? name := by
    intro name hname
    rw [OrderedMap.get?_erase, if_neg hname]
  have hfree : ∀ p ∈ Tickets.note.properties, p.relationName? ≠ some "Ticket" := by decide
  obtain ⟨r, r', hr, hr', hbuckets, -⟩ :=
    inferRelations_local (m := Tickets.person) keyed keyed' agree (by decide) (by decide)
  obtain ⟨n, n', hn, hn', -, hnote⟩ :=
    inferRelations_local (m := Tickets.note) keyed keyed' agree (by decide) (by decide)
  obtain rfl := hnote hfree
  refine ⟨keyed, keyed', agree, ⟨r, r', hr, hr', ?_, hbuckets⟩, hfree, n, hn, hn'⟩
  intro hsame
  subst hsame
  have hdiffer : (inferRelations Tickets.models).get? "Person" ≠
      (inferRelations (Tickets.models.erase "Ticket")).get? "Person" := by decide
  exact hdiffer (hr.trans hr'.symm)

end DataSchema
