import DataSchema.Property
import DataSchema.Source.LineRange

/-!
# DataSchema.Model

**Models and enumerations**, the two things that a schema declares.
-/

namespace DataSchema

open Source (LineRange)

/-- The elements of a list without repetitions, each where it first occurs. -/
def distinct {α : Type} [DecidableEq α] : List α → List α
  | [] => []
  | a :: rest => a :: (distinct rest).filter (· ≠ a)

theorem mem_distinct {α : Type} [DecidableEq α] {a : α} {s : List α} : a ∈ distinct s ↔ a ∈ s := by
  induction s with
  | nil => simp [distinct]
  | cons b rest ih =>
    simp only [distinct, List.mem_cons, List.mem_filter, decide_eq_true_eq, ih]
    by_cases h : a = b <;> simp [h]

theorem nodup_distinct {α : Type} [DecidableEq α] (s : List α) : (distinct s).Nodup := by
  induction s with
  | nil => exact .nil
  | cons b rest ih => exact List.nodup_cons.2 ⟨by simp, ih.sublist List.filter_sublist⟩

/-- Of two lists one after the other, the second adds what the first does not have. -/
theorem distinct_append {α : Type} [DecidableEq α] (s t : List α) :
    distinct (s ++ t) = distinct s ++ (distinct t).filter (· ∉ s) := by
  induction s with
  | nil => exact (List.filter_eq_self.mpr fun _ _ => by simp).symm
  | cons a rest ih =>
    have hrest : ((distinct t).filter (· ∉ rest)).filter (· ≠ a) =
        (distinct t).filter (· ∉ a :: rest) := by
      rw [List.filter_filter]
      exact List.filter_congr fun b _ => by simp
    rw [List.cons_append, distinct, distinct, ih, List.filter_append, hrest, List.cons_append]

/-- A model with its properties in the order of their declaration. -/
structure Model where
  /-- The declared name. -/
  name : String
  /-- The properties. -/
  properties : List Property
  /-- The lines of the body. -/
  body : LineRange
deriving DecidableEq, Repr, Inhabited

namespace Model

/-- The first property with a name. -/
def property? (m : Model) (key : String) : Option Property :=
  m.properties.find? (fun p => p.key = key)

/-- The first property that is marked as primary key. -/
def idProperty? (m : Model) : Option Property := m.properties.find? (·.isId)

/-- The properties that refer to a model. -/
def relationProperties (m : Model) : List Property := m.properties.filter (·.isRelation)

/-- The properties that refer to one record. -/
def toOne (m : Model) : List Property := m.properties.filter (·.isToOne)

/-- The properties that refer to a list of records. -/
def toMany (m : Model) : List Property := m.properties.filter (·.isToMany)

/-- The enumerations that the properties refer to, each once. -/
def enumReferences (m : Model) : List String := distinct (m.properties.filterMap (·.enumName?))

/-- The model with one more property at the end. -/
def addProperty (m : Model) (p : Property) : Model :=
  { m with properties := m.properties ++ [p] }

end Model

/-- An enumeration with its values in the order of their declaration. -/
structure Enumeration where
  /-- The declared name. -/
  name : String
  /-- The values. -/
  values : List String
  /-- The lines of the body. -/
  body : LineRange
deriving DecidableEq, Repr, Inhabited

/-- Is the value declared? -/
def Enumeration.hasValue (e : Enumeration) (value : String) : Bool := e.values.contains value

end DataSchema
