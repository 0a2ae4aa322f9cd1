import DataSchema.Relation.Cardinality
import DataSchema.Text.CamelCase

/-!
# DataSchema.Relation.Record

**The relation record of a model**: its relation fields, sorted into four buckets by cardinality.
Within a bucket the order of declaration is kept, and a record is listed bucket by bucket.
-/

namespace DataSchema

/-- A classified relation field. -/
structure RelationEntry where
  /-- The name of the field. -/
  key : String
  /-- The model referred to. -/
  value : String
  /-- For a list whose target has several references back: those of them that do not belong to this
  list. -/
  deepKey : Option (List String)
deriving DecidableEq, Repr, Inhabited

/-- The name of the target as generated code would call it. -/
def RelationEntry.accessor (e : RelationEntry) : String := Text.camelCase e.value

/-- The relation fields of a model, by cardinality. -/
structure RelationRecord where
  /-- The fields that are one to one. -/
  oneToOne : List RelationEntry := []
  /-- The fields that are one to many. -/
  oneToMany : List RelationEntry := []
  /-- The fields that are many to one. -/
  manyToOne : List RelationEntry := []
  /-- The fields that are many to many. -/
  manyToMany : List RelationEntry := []
deriving DecidableEq, Repr, Inhabited

namespace RelationRecord

/-- The record without entries. -/
def empty : RelationRecord := {}

/-- The bucket of a cardinality. -/
def bucket (r : RelationRecord) : Cardinality → List RelationEntry
  | .oneToOne => r.oneToOne
  | .oneToMany => r.oneToMany
  | .manyToOne => r.manyToOne
  | .manyToMany => r.manyToMany

/-- The buckets are all there is to a record. -/
theorem ext_bucket {r s : RelationRecord} (h : ∀ c, r.bucket c = s.bucket c) : r = s := by
  have hone : r.oneToOne = s.oneToOne := h .oneToOne
  have hlists : r.oneToMany = s.oneToMany := h .oneToMany
  have hreferences : r.manyToOne = s.manyToOne := h .manyToOne
  have hmany : r.manyToMany = s.manyToMany := h .manyToMany
  cases r
  cases s
  simp_all

/-- Put an entry at the end of a bucket. -/
def push (r : RelationRecord) (c : Cardinality) (e : RelationEntry) : RelationRecord :=
  match c with
  | .oneToOne => { r with oneToOne := r.oneToOne ++ [e] }
  | .oneToMany => { r with oneToMany := r.oneToMany ++ [e] }
  | .manyToOne => { r with manyToOne := r.manyToOne ++ [e] }
  | .manyToMany => { r with manyToMany := r.manyToMany ++ [e] }

@[simp] theorem bucket_push (r : RelationRecord) (c d : Cardinality) (e : RelationEntry) :
    (r.push c e).bucket d = if c = d then r.bucket d ++ [e] else r.bucket d := by
  cases c <;> cases d <;> rfl

/-- The record of classified entries. -/
def ofList (entries : List (Cardinality × RelationEntry)) : RelationRecord :=
  entries.foldl (fun r entry => r.push entry.1 entry.2) empty

/-- A bucket holds the entries of its cardinality, in their order. -/
theorem bucket_ofList (entries : List (Cardinality × RelationEntry)) (c : Cardinality) :
    (ofList entries).bucket c = (entries.filter (·.1 = c)).map (·.2) := by
  have h : ∀ (entries : List (Cardinality × RelationEntry)) (r : RelationRecord),
      (entries.foldl (fun r entry => r.push entry.1 entry.2) r).bucket c =
        r.bucket c ++ (entries.filter (·.1 = c)).map (·.2) := by
    intro entries
    induction entries with
    | nil => simp
    | cons entry rest ih =>
      intro r
      rw [List.foldl_cons, ih, bucket_push]
      by_cases hc : entry.1 = c <;> simp [hc]
  have hempty : empty.bucket c = [] := by cases c <;> rfl
  rw [ofList, h, hempty, List.nil_append]

/-- All entries with their cardinality, bucket by bucket. -/
def toList (r : RelationRecord) : List (Cardinality × RelationEntry) :=
  Cardinality.all.flatMap fun c => (r.bucket c).map (c, ·)

/-- The first entry for a field. -/
def find? (r : RelationRecord) (key : String) : Option (Cardinality × RelationEntry) :=
  r.toList.find? (fun entry => entry.2.key = key)

/-- The cardinality of a field. -/
def cardinality? (r : RelationRecord) (key : String) : Option Cardinality :=
  (r.find? key).map (·.1)

/-- The number of entries. -/
def size (r : RelationRecord) : Nat :=
  r.oneToOne.length + r.oneToMany.length + r.manyToOne.length + r.manyToMany.length

theorem size_eq_length_toList (r : RelationRecord) : r.size = r.toList.length := by
  simp [size, toList, Cardinality.all, bucket, Nat.add_assoc]

/-- Is every bucket empty? -/
def isEmpty (r : RelationRecord) : Bool := r.size == 0

end RelationRecord

end DataSchema
