import DataSchema.Proofs.Relation.Shape

/-!
# DataSchema.Proofs.Relation.Order

**Order picks a sibling and nothing else.** The models stand in an ordered map and are searched by
first match, but they are found by name, so the order of the models leaves every record as it is.

Within a model the order of the fields is seen in two places: a bucket keeps it, and the pairing goes
by it where the labels leave a choice. The first only arranges the entries. The second decides which
reference a list leaves out of its deep key, but not whether there is a deep key. So the outlines of
the entries stay the same, each as often as before. That includes relations of a model to itself,
where a field is told from its way back by its name and not by its place.
-/

namespace DataSchema

/-- The models under each name have the same properties, perhaps in another order. The models
themselves may stand in any order. -/
def Rearranged (models models' : OrderedMap Model) : Prop :=
  models.Matches (fun m m' => m.properties.Perm m'.properties) models'

theorem Model.unlabelledEdges_perm {m m' : Model} (hname : m.name = m'.name)
    (hproperties : m.properties.Perm m'.properties) :
    m.unlabelledEdges.Perm m'.unlabelledEdges := by
  rw [Model.unlabelledEdges, Model.unlabelledEdges, Model.edges, Model.edges, hname]
  exact (hproperties.filterMap _).map _

/-- **Inference does not depend on order.** Another order of the models changes no record. Another
order of the properties as well changes the order within the buckets and the names in deep keys at
most: under each name the buckets list the same fields with the same targets equally often, with a
deep key in the same places. -/
theorem inferRelations_order {models models' : OrderedMap Model}
    (keyed : models.KeyedBy Model.name) (keyed' : models'.KeyedBy Model.name) :
    (models.entries.Perm models'.entries →
        ∀ name, (inferRelations models).get? name = (inferRelations models').get? name) ∧
      (Rearranged models models' →
        (inferRelations models).Matches (fun r r' => ∀ c, (r.outline c).Perm (r'.outline c))
          (inferRelations models')) := by
  rw [inferRelations_eq keyed, inferRelations_eq keyed']
  constructor
  · intro hperm
    have hmodels : models.Matches Eq models' :=
      OrderedMap.matches_eq_iff.mpr (OrderedMap.get?_of_perm hperm)
    have hedges : models.Matches (fun m m' => m.edges = m'.edges) models' :=
      hmodels.imp fun _ _ h => congrArg Model.edges h
    exact OrderedMap.matches_eq_iff.mp
      (OrderedMap.matches_mapEntries (matches_record keyed keyed' hedges))
  · intro rearranged
    have same : SameFields models models' :=
      (rearranged.name_eq keyed keyed').imp fun _ _ h => Model.unlabelledEdges_perm h.1 h.2
    refine OrderedMap.matches_mapEntries (same.imp fun m m' hperm c => ?_)
    rw [Model.outline_record keyed, same.outline_record keyed']
    exact (hperm.filter _).map _

namespace Tickets

/-- The three models in the opposite order. -/
def reordered : OrderedMap Model := .ofList models.entries.reverse

/-- The three models in the opposite order, and their properties too. -/
def rearranged : OrderedMap Model :=
  reordered.mapEntries fun _ m => { m with properties := m.properties.reverse }

end Tickets

/-- With its properties in the opposite order a person has other deep keys, but at the same lists. -/
theorem inferRelations_order_tickets :
    Tickets.models.entries.Perm Tickets.reordered.entries ∧
      Rearranged Tickets.models Tickets.rearranged ∧
      (∀ name, (inferRelations Tickets.models).get? name =
        (inferRelations Tickets.reordered).get? name) ∧
      ∃ r r', (inferRelations Tickets.models).get? "Person" = some r ∧
        (inferRelations Tickets.rearranged).get? "Person" = some r' ∧ r ≠ r' ∧
        ∀ c, (r.outline c).Perm (r'.outline c) := by
  have keyed : Tickets.models.KeyedBy Model.name := by
    unfold OrderedMap.KeyedBy
    decide
  have keyed' : Tickets.reordered.KeyedBy Model.name := by
    unfold OrderedMap.KeyedBy
    decide
  have keyed'' : Tickets.rearranged.KeyedBy Model.name := by
    unfold OrderedMap.KeyedBy
    decide
  have hperm : Tickets.models.entries.Perm Tickets.reordered.entries := by decide
  have hrearranged : Rearranged Tickets.models Tickets.rearranged := by
    intro name
    rw [Tickets.rearranged, OrderedMap.get?_mapEntries, ← OrderedMap.get?_of_perm hperm]
    cases Tickets.models.get? name with
    | none => exact .none
    | some m => exact .some (List.reverse_perm m.properties).symm
  have hperson : ∃ r ∈ (inferRelations Tickets.models).get? "Person",
      (inferRelations Tickets.rearranged).get? "Person" ≠ some r := by
    decide
  obtain ⟨r, hr, hother⟩ := hperson
  obtain ⟨r', hr', houtline⟩ :=
    ((inferRelations_order keyed keyed'').2 hrearranged).exists_get? hr
  exact ⟨hperm, hrearranged, (inferRelations_order keyed keyed').1 hperm, r, r', hr, hr',
    fun hsame => hother (hsame ▸ hr'), houtline⟩

end DataSchema
