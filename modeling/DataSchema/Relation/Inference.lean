import DataSchema.Model
import DataSchema.OrderedMap
import DataSchema.Relation.Edge
import DataSchema.Relation.Pairing
import DataSchema.Relation.Record

/-!
# DataSchema.Relation.Inference

**Inferring relations from the shape of the models.** A schema says only that a field refers to a
model. The cardinality follows from the two models involved: whether the field is a list, and
whether the target has a field that refers back to one record of the source. In a relation of a
model with itself the field that is classified does not count as its own way back.

A one-to-many list gets a *deep key* when the target has more than one many-to-one reference back:
the references that belong to other lists, found by pairing.

The inference is total. A target that is not among the models has no reference back.
-/

namespace DataSchema

/-- The edges of a model with their cardinalities, in the order of declaration. -/
abbrev ClassifiedEdges := List (Cardinality × RelationEdge)

/-- Does the target of an edge have a field that refers back to one record of the source? -/
def hasBackReference (models : OrderedMap Model) (e : RelationEdge) : Bool :=
  (models.get? e.target).any fun target =>
    target.toOne.any fun p => p.relationName? == some e.source && !(e.isSelf && p.key == e.field)

/-- The cardinality of an edge. -/
def RelationEdge.cardinality (models : OrderedMap Model) (e : RelationEdge) : Cardinality :=
  .ofShape e.isArray (hasBackReference models e)

/-- The cardinality of a property of a model, if it refers to a model. -/
def Model.cardinality? (models : OrderedMap Model) (source : Model) (p : Property) :
    Option Cardinality :=
  (RelationEdge.ofProperty? source.name p).map (·.cardinality models)

/-- The edges of a model. -/
def Model.edges (m : Model) : List RelationEdge :=
  m.properties.filterMap (RelationEdge.ofProperty? m.name)

/-- The edges of a model with their cardinalities. -/
def Model.classifiedEdges (models : OrderedMap Model) (m : Model) : ClassifiedEdges :=
  m.edges.map fun e => (e.cardinality models, e)

/-- The edges of one cardinality that lead to one target. -/
def ClassifiedEdges.leading (edges : ClassifiedEdges) (c : Cardinality) (target : String) :
    List RelationEdge :=
  (edges.filter fun edge => edge.1 = c ∧ edge.2.target = target).map (·.2)

/-- The references back that do not belong to a one-to-many list, where `own` are the edges of the
list's model and `back` those of its target. Nothing if there is at most one reference back, and so
nothing to tell apart. -/
def deepKey? (own back : ClassifiedEdges) (list : RelationEdge) : Option (List String) :=
  let references := back.leading .manyToOne list.source
  let lists := own.leading .oneToMany list.target
  if references.length < 2 then none
  else do
    -- Lists are told apart by name, so of two with one name the first stands for both.
    let position ← lists.findIdx? (fun e => e.field = list.field)
    let partner := ((Pairing.pair (lists.map (·.label)) (references.map (·.label)))[position]?).join
    let remaining := references.zipIdx.filterMap fun (e, index) =>
      if some index = partner then none else some e.field
    if remaining = [] then none else some remaining

/-- The entry of an edge in a record. -/
def relationEntry (classified : OrderedMap ClassifiedEdges) (own : ClassifiedEdges)
    (edge : Cardinality × RelationEdge) : RelationEntry where
  key := edge.2.field
  value := edge.2.target
  deepKey :=
    if edge.1 = .oneToMany then
      (classified.get? edge.2.target).bind fun back => deepKey? own back edge.2
    else none

/-- The classified edges of all models, by the models' own names. -/
def classifyEdges (models : OrderedMap Model) : OrderedMap ClassifiedEdges :=
  .ofList (models.values.map fun m => (m.name, m.classifiedEdges models))

/-- The relation records of all models, by the models' own names. -/
def inferRelations (models : OrderedMap Model) : OrderedMap RelationRecord :=
  let classified := classifyEdges models
  classified.mapEntries fun _ edges =>
    .ofList (edges.map fun edge => (edge.1, relationEntry classified edges edge))

end DataSchema
