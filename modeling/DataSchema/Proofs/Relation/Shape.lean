import DataSchema.Proofs.Relation.Ambiguity
import DataSchema.Proofs.Relation.Locality

/-!
# DataSchema.Proofs.Relation.Shape

**Shape decides, labels only pair.** The *shape* of a model is what its relation fields are called,
where they lead, and which of them are lists. The cardinality of an edge is a matter of shapes, and
so is the number of references that a list has to be told apart from. The labels come in last: they
say which of these references is a list's own, and with it what the deep key names, but not that
there is one.

So the inference is cut in two. The *outline* of a record lists its entries without what their deep
keys name, and is computed from shapes alone (`Model.outline_record`); the rest is computed from
shapes and labels together. All else about a field is not looked at.
-/

namespace DataSchema

/-! ### Shapes -/

/-- The edge without its label. -/
def RelationEdge.unlabelled (e : RelationEdge) : RelationEdge := { e with label := none }

namespace Model

/-- Name, target and form of the relation fields, in the order of declaration. -/
def shape (m : Model) : List (String × Option String × Bool) :=
  m.relationProperties.map fun p => (p.key, p.relationName?, p.isArray)

/-- The labels of the relation fields, in the same order. -/
def labels (m : Model) : List (Option String) := m.relationProperties.map (·.relationLabel)

/-- The edges of a model without their labels. -/
def unlabelledEdges (m : Model) : List RelationEdge := m.edges.map (·.unlabelled)

/-- The edge of a relation field with a shape and a label. -/
def shapeEdge (source : String) (field : (String × Option String × Bool) × Option String) :
    RelationEdge :=
  ⟨source, field.1.1, field.1.2.1.getD "", field.1.2.2, field.2⟩

theorem edges_eq_zip (m : Model) : m.edges = (m.shape.zip m.labels).map (shapeEdge m.name) := by
  rw [edges_eq, shape, labels, List.zip_map', List.map_map]
  refine List.map_congr_left fun p hp => ?_
  have hrel := Property.isRelation_iff_relationName?.mp (mem_relationProperties.mp hp).2
  simp [shapeEdge, hrel, Property.edge]

theorem unlabelledEdges_eq (m : Model) :
    m.unlabelledEdges = m.shape.map fun s => shapeEdge m.name (s, none) := by
  rw [unlabelledEdges, edges_eq, shape, List.map_map, List.map_map]
  refine List.map_congr_left fun p hp => ?_
  have hrel := Property.isRelation_iff_relationName?.mp (mem_relationProperties.mp hp).2
  simp [shapeEdge, hrel, Property.edge, RelationEdge.unlabelled]

end Model

/-! ### Outlines -/

/-- What an entry says, except for the names in its deep key. -/
def RelationEntry.outline (e : RelationEntry) : String × String × Bool :=
  (e.key, e.value, e.deepKey.isSome)

/-- The outlines of the entries in each bucket. -/
def RelationRecord.outline (r : RelationRecord) (c : Cardinality) : List (String × String × Bool) :=
  (r.bucket c).map (·.outline)

/-- The number of many-to-one references that lead from the target of an edge back to its source. -/
def referenceCount (models : OrderedMap Model) (e : RelationEdge) : Nat :=
  (((models.get? e.target).elim [] Model.unlabelledEdges).filter fun b =>
    b.cardinality models = .manyToOne ∧ b.target = e.source).length

/-- The outline of the entry of an edge. -/
def RelationEdge.outline (models : OrderedMap Model) (e : RelationEdge) : String × String × Bool :=
  (e.field, e.target,
    decide (e.cardinality models = .oneToMany ∧ 2 ≤ referenceCount models e))

/-- The references that a deep key is made of are counted without their labels. -/
theorem length_fieldsTo_eq_referenceCount {models : OrderedMap Model} {m t : Model}
    {e : RelationEdge} (ht : models.get? e.target = some t) (hsource : e.source = m.name) :
    (t.fieldsTo models .manyToOne m.name).length = referenceCount models e := by
  have hleading := leading_classifiedEdges models t .manyToOne m.name
  rw [Model.leading_eq_filter] at hleading
  rw [referenceCount, ht, hsource, Option.elim_some, Model.unlabelledEdges, List.filter_map,
    List.length_map]
  exact (List.length_map _).symm.trans (congrArg List.length hleading.symm)

section Keyed

variable {models : OrderedMap Model} (keyed : models.KeyedBy Model.name)

include keyed

/-- An edge has a deep key if and only if it is one to many and has two references back or more. -/
theorem Model.isSome_deepKey_edgeEntry {m : Model} {e : RelationEdge} (he : e ∈ m.edges) :
    (m.edgeEntry models e).deepKey.isSome =
      decide (e.cardinality models = .oneToMany ∧ 2 ≤ referenceCount models e) := by
  obtain ⟨p, hp, hrel, rfl⟩ := Model.mem_edges.mp he
  by_cases hc : (p.edge m.name).cardinality models = .oneToMany
  · have hcard : m.cardinality? models p = some .oneToMany :=
      Model.cardinality?_eq_some_iff.mpr ⟨hrel, hc⟩
    have hname := Property.isRelation_iff_relationName?.mp hrel
    obtain ⟨t, ht⟩ := Model.exists_target_of_isAnswered hname hcard rfl
    have hkey : t.name = p.type.name := keyed.name_of_get? ht
    have hlist : p ∈ m.fieldsTo models .oneToMany t.name :=
      Model.mem_fieldsTo.mpr ⟨hp, hcard, by rw [hkey]; exact hname⟩
    have hentry := entryOf_oneToMany keyed (OrderedMap.mem_values_of_get? ht) hlist
    have hsame : m.edgeEntry models (p.edge m.name) = m.entryOf models .oneToMany p := by
      rw [Model.edgeEntry, hc]
      rfl
    rw [hsame, hentry, Bool.eq_iff_iff, isSome_deepKeyOf hlist, decide_eq_true_eq,
      length_fieldsTo_eq_referenceCount (m := m) (e := p.edge m.name) ht rfl]
    exact (and_iff_right hc).symm
  · have hnone : (m.edgeEntry models (p.edge m.name)).deepKey = none := if_neg hc
    simp [hnone, hc]

/-- The outline of a record is computed from the edges without their labels. -/
theorem Model.outline_record (m : Model) (c : Cardinality) :
    (m.record models).outline c =
      (m.unlabelledEdges.filter (·.cardinality models = c)).map (·.outline models) := by
  rw [RelationRecord.outline, Model.bucket_record_eq_map_edges, Model.unlabelledEdges,
    List.filter_map, List.map_map, List.map_map]
  refine List.map_congr_left fun e he => ?_
  have hsome := Model.isSome_deepKey_edgeEntry keyed (List.mem_filter.mp he).1
  rw [Function.comp_apply, RelationEntry.outline, hsome]
  rfl

end Keyed

/-! ### The same fields in another order

What is computed from shapes does not depend on the order of the fields, so the two directions that
follow from here share their first half. -/

/-- The models under each name have the same edges but for the labels, perhaps in another order. -/
def SameFields (models models' : OrderedMap Model) : Prop :=
  models.Matches (fun m m' => m.unlabelledEdges.Perm m'.unlabelledEdges) models'

theorem refers_iff_unlabelled {models : OrderedMap Model} {owner field target : String} :
    Refers models owner field target ↔ ∃ m, models.get? owner = some m ∧
      ∃ e ∈ m.unlabelledEdges, e.field = field ∧ e.target = target ∧ e.isArray = false := by
  simp only [refers_iff, Model.exists_referencesTo_iff, Model.unlabelledEdges, List.mem_map,
    exists_exists_and_eq_and, RelationEdge.unlabelled]

namespace SameFields

variable {models models' : OrderedMap Model} (same : SameFields models models')

include same

theorem refers_iff {owner field target : String} :
    Refers models owner field target ↔ Refers models' owner field target := by
  rw [refers_iff_unlabelled, refers_iff_unlabelled]
  cases hm : models.get? owner with
  | none => simp [same.get?_eq_none hm]
  | some m =>
      obtain ⟨m', hm', hperm⟩ := same.exists_get? hm
      simp [hm', hperm.mem_iff]

theorem cardinality_eq (e : RelationEdge) : e.cardinality models' = e.cardinality models :=
  RelationEdge.cardinality_congr fun _ => same.refers_iff.symm

theorem referenceCount_eq (e : RelationEdge) :
    referenceCount models' e = referenceCount models e := by
  rw [referenceCount, referenceCount]
  simp only [same.cardinality_eq]
  cases ht : models.get? e.target with
  | none => rw [same.get?_eq_none ht]
  | some t =>
      obtain ⟨t', ht', hperm⟩ := same.exists_get? ht
      rw [ht']
      exact (hperm.symm.filter _).length_eq

/-- The outlines of a model's record can be computed in either map. -/
theorem outline_record (keyed' : models'.KeyedBy Model.name) (m : Model) (c : Cardinality) :
    (m.record models').outline c =
      (m.unlabelledEdges.filter (·.cardinality models = c)).map (·.outline models) := by
  have houtline : ∀ e : RelationEdge, e.outline models' = e.outline models := by
    intro e
    rw [RelationEdge.outline, RelationEdge.outline, same.cardinality_eq, same.referenceCount_eq]
  rw [Model.outline_record keyed']
  simp only [same.cardinality_eq, houtline]

end SameFields

/-! ### The same shapes -/

section SameShapes

variable {models models' : OrderedMap Model} (keyed : models.KeyedBy Model.name)
  (keyed' : models'.KeyedBy Model.name)

include keyed keyed'

/-- Where the shapes agree, so do the outlines of the records. -/
theorem matches_outline (shapes : models.Matches (fun m m' => m.shape = m'.shape) models') :
    models.Matches (fun m m' => (m.record models).outline = (m'.record models').outline)
      models' := by
  have hedges : models.Matches (fun m m' => m.unlabelledEdges = m'.unlabelledEdges) models' := by
    refine (shapes.name_eq keyed keyed').imp fun m m' h => ?_
    rw [Model.unlabelledEdges_eq, Model.unlabelledEdges_eq, h.1, h.2]
  have same : SameFields models models' := hedges.imp fun _ _ h => .of_eq h
  refine hedges.imp fun m m' h => funext fun c => ?_
  rw [Model.outline_record keyed, same.outline_record keyed', h]

/-- Where edges agree under every name, so do the records. -/
theorem matches_record (hedges : models.Matches (fun m m' => m.edges = m'.edges) models') :
    models.Matches (fun m m' => m.record models = m'.record models') models' := by
  have hat : ∀ name, edgesAt models name = edgesAt models' name := fun name =>
    OrderedMap.map_eq_map_iff.mpr (hedges name)
  exact hedges.imp fun m m' h => Model.record_congr keyed keyed' h (hat _) fun _ _ => hat _

/-- Where the models have the same edges in the same order, the records are the same. -/
theorem inferRelations_eq_of_edges
    (h : (models.mapEntries fun _ => Model.edges) = models'.mapEntries fun _ => Model.edges) :
    inferRelations models = inferRelations models' := by
  obtain ⟨hkeys, hedges⟩ := OrderedMap.mapEntries_eq_iff.mp h
  rw [inferRelations_eq keyed, inferRelations_eq keyed']
  exact OrderedMap.mapEntries_eq_iff.mpr ⟨hkeys, matches_record keyed keyed' hedges⟩

end SameShapes

/-- Where the models of two schemas have the same edges in the same order, the relations are the
same. -/
theorem Schema.relations_eq_of_edges {o o' : Source.Outline} {markers markers' : Markers}
    (h : ((ofOutline o markers).models.mapEntries fun _ => Model.edges) =
      (ofOutline o' markers').models.mapEntries fun _ => Model.edges) :
    (ofOutline o markers).relations = (ofOutline o' markers').relations :=
  inferRelations_eq_of_edges (keyed_models_ofOutline o markers)
    (keyed_models_ofOutline o' markers') h

/-- **Shape decides.** Let two maps of models have the same keys in the same order, and under each
key a model of the same shape. Then the inferred records have the same outlines, so the buckets list
the same fields with the same targets, and the same entries have deep keys. If the labels agree as
well, the records are the same. -/
theorem inferRelations_eq_of_shape {models models' : OrderedMap Model}
    (keyed : models.KeyedBy Model.name) (keyed' : models'.KeyedBy Model.name)
    (shapes : models.mapEntries (fun _ => Model.shape) =
      models'.mapEntries fun _ => Model.shape) :
    (inferRelations models).mapEntries (fun _ => RelationRecord.outline) =
        (inferRelations models').mapEntries (fun _ => RelationRecord.outline) ∧
      (models.mapEntries (fun _ => Model.labels) = models'.mapEntries (fun _ => Model.labels) →
        inferRelations models = inferRelations models') := by
  obtain ⟨hkeys, hshape⟩ := OrderedMap.mapEntries_eq_iff.mp shapes
  rw [inferRelations_eq keyed, inferRelations_eq keyed']
  constructor
  · refine OrderedMap.mapEntries_eq_iff.mpr ⟨by simpa using hkeys, ?_⟩
    exact OrderedMap.matches_mapEntries (matches_outline keyed keyed' hshape)
  · intro labels
    have hlabels := (OrderedMap.mapEntries_eq_iff.mp labels).2
    have hedges : models.Matches (fun m m' => m.edges = m'.edges) models' := by
      refine ((hshape.and hlabels).name_eq keyed keyed').imp fun m m' h => ?_
      rw [Model.edges_eq_zip, Model.edges_eq_zip, h.1, h.2.1, h.2.2]
    exact OrderedMap.mapEntries_eq_iff.mpr ⟨hkeys, matches_record keyed keyed' hedges⟩

namespace Tickets

/-- The three models without labels. -/
def withoutLabels : OrderedMap Model :=
  models.mapEntries fun _ m =>
    { m with properties := m.properties.map fun p => { p with relationLabel := none } }

/-- The three models with primary keys, and with relation fields that are also unique, may be absent
and stand on other lines. -/
def annotated : OrderedMap Model :=
  models.mapEntries fun _ m =>
    { m with
      properties := { key := "id", type := .scalar .int, isId := true } ::
        m.properties.map fun p => { p with isUnique := true, nullable := true, line := 7 } }

end Tickets

/-- Without labels the same lists have deep keys, with other names in them. Primary keys and flags
change nothing. -/
theorem inferRelations_eq_of_shape_tickets :
    Tickets.models.mapEntries (fun _ => Model.shape) =
        Tickets.withoutLabels.mapEntries (fun _ => Model.shape) ∧
      (inferRelations Tickets.models).mapEntries (fun _ => RelationRecord.outline) =
        (inferRelations Tickets.withoutLabels).mapEntries (fun _ => RelationRecord.outline) ∧
      inferRelations Tickets.models ≠ inferRelations Tickets.withoutLabels ∧
      Tickets.models ≠ Tickets.annotated ∧
      Tickets.models.mapEntries (fun _ => Model.labels) =
        Tickets.annotated.mapEntries (fun _ => Model.labels) ∧
      inferRelations Tickets.models = inferRelations Tickets.annotated := by
  have keyed : Tickets.models.KeyedBy Model.name := by
    unfold OrderedMap.KeyedBy
    decide
  have keyedBare : Tickets.withoutLabels.KeyedBy Model.name := by
    unfold OrderedMap.KeyedBy
    decide
  have keyedFull : Tickets.annotated.KeyedBy Model.name := by
    unfold OrderedMap.KeyedBy
    decide
  have hbare : Tickets.models.mapEntries (fun _ => Model.shape) =
      Tickets.withoutLabels.mapEntries (fun _ => Model.shape) := by decide
  have hlabels : Tickets.models.mapEntries (fun _ => Model.labels) =
      Tickets.annotated.mapEntries (fun _ => Model.labels) := by decide
  refine ⟨hbare, (inferRelations_eq_of_shape keyed keyedBare hbare).1, by decide, by decide, hlabels,
    ?_⟩
  exact (inferRelations_eq_of_shape keyed keyedFull (by decide)).2 hlabels

end DataSchema
