/-!
# DataSchema.Relation.Cardinality

**The four cardinalities** of a relation, seen from the model that declares the field. Two questions
decide: is the field a list, and does the target have a field that refers back to one record?

| the field | a to-one field back | cardinality |
|-----------|---------------------|-------------|
| to one    | yes                 | one to one  |
| to one    | no                  | many to one |
| list      | yes                 | one to many |
| list      | no                  | many to many |
-/

namespace DataSchema

/-- The cardinality of a relation. -/
inductive Cardinality
  /-- Each side has one record of the other. -/
  | oneToOne
  /-- The owner has the list. -/
  | oneToMany
  /-- The owner has the reference. -/
  | manyToOne
  /-- Both sides have lists. -/
  | manyToMany
deriving DecidableEq, Repr, Inhabited

namespace Cardinality

/-- The cardinalities in the order in which records list them. -/
def all : List Cardinality := [oneToOne, oneToMany, manyToOne, manyToMany]

theorem mem_all (c : Cardinality) : c ∈ all := by cases c <;> decide

/-- The cardinality of a field, from the two questions. -/
def ofShape (isArray hasBackReference : Bool) : Cardinality :=
  match isArray, hasBackReference with
  | false, true => oneToOne
  | false, false => manyToOne
  | true, true => oneToMany
  | true, false => manyToMany

/-- Does the owner refer to one record? -/
def isToOne : Cardinality → Bool
  | oneToOne | manyToOne => true
  | oneToMany | manyToMany => false

/-- Does the owner refer to a list of records? -/
def isToMany (c : Cardinality) : Bool := !c.isToOne

@[simp] theorem isToMany_ofShape (isArray hasBackReference : Bool) :
    (ofShape isArray hasBackReference).isToMany = isArray := by
  cases isArray <;> cases hasBackReference <;> rfl

/-- The short form of a cardinality. -/
def text : Cardinality → String
  | oneToOne => "1:1"
  | oneToMany => "1:n"
  | manyToOne => "n:1"
  | manyToMany => "m:n"

/-- The name under which a cardinality is stored. -/
def name : Cardinality → String
  | oneToOne => "OneToOne"
  | oneToMany => "OneToMany"
  | manyToOne => "ManyToOne"
  | manyToMany => "ManyToMany"

end Cardinality

end DataSchema
