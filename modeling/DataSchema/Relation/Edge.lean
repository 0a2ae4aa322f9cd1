import DataSchema.Property

/-!
# DataSchema.Relation.Edge

**An edge** is a property that refers to a model, reduced to what the inference of relations looks
at: who declares it, what it is called, where it leads, whether it is a list, and the label that
pairs it with a field on the other side.
-/

namespace DataSchema

/-- A directed relation from a property to a model. -/
structure RelationEdge where
  /-- The model that declares the property. -/
  source : String
  /-- The name of the property. -/
  field : String
  /-- The model referred to. -/
  target : String
  /-- The property is a list. -/
  isArray : Bool
  /-- The name given to `@relation`. -/
  label : Option String
deriving DecidableEq, Repr, Inhabited

namespace RelationEdge

/-- The edge of a property, if the property refers to a model. -/
def ofProperty? (source : String) (p : Property) : Option RelationEdge :=
  p.relationName?.map fun target => ⟨source, p.key, target, p.isArray, p.relationLabel⟩

/-- Does the edge lead back to its own model? -/
def isSelf (e : RelationEdge) : Bool := e.source == e.target

end RelationEdge

end DataSchema
