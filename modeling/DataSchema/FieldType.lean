import DataSchema.Scalar

/-!
# DataSchema.FieldType

**The type of a field**: a scalar, an enumeration or another model. The name of what is referred to
is part of the type, so a scalar field cannot carry a reference and a reference cannot lack one.
-/

namespace DataSchema

/-- The type of a field. -/
inductive FieldType
  /-- A scalar. -/
  | scalar (type : ScalarType)
  /-- A value of the enumeration with this name. -/
  | enum (name : String)
  /-- A record, or several, of the model with this name. -/
  | relation (model : String)
deriving DecidableEq, Repr, Inhabited

/-- The kind of a field's type: which scalar it is, or that it is a reference. -/
inductive DataType
  /-- A scalar. -/
  | scalar (type : ScalarType)
  /-- A reference to an enumeration. -/
  | enum
  /-- A reference to a model. -/
  | relation
deriving DecidableEq, Repr, Inhabited

namespace DataType

/-- Every kind. -/
def all : List DataType := ScalarType.all.map scalar ++ [enum, relation]

/-- The name of a kind. -/
def name : DataType → String
  | scalar t => t.name
  | enum => "Enum"
  | relation => "Relation"

end DataType

namespace FieldType

/-- Is it a scalar? -/
def isScalar : FieldType → Bool
  | scalar _ => true
  | _ => false

/-- Is it an enumeration? -/
def isEnum : FieldType → Bool
  | enum _ => true
  | _ => false

/-- Is it a model? -/
def isRelation : FieldType → Bool
  | relation _ => true
  | _ => false

/-- The kind of the type. -/
def dataType : FieldType → DataType
  | scalar t => .scalar t
  | enum _ => .enum
  | relation _ => .relation

/-- The enumeration referred to. -/
def enumName? : FieldType → Option String
  | enum name => some name
  | _ => none

/-- The model referred to. -/
def relationName? : FieldType → Option String
  | relation model => some model
  | _ => none

/-- The name of the type: of the scalar, or of what is referred to. -/
def name : FieldType → String
  | scalar t => t.name
  | enum name => name
  | relation model => model

theorem isRelation_iff {t : FieldType} : t.isRelation = true ↔ ∃ model, t = relation model := by
  cases t <;> simp [isRelation]

end FieldType

end DataSchema
