import DataSchema.FieldType
import DataSchema.Attribute.Basic

/-!
# DataSchema.Property

**A property of a model**: a field of the schema whose type is known and whose attributes have been
read. Everything that the rest of the library says about a field is said of its property.
-/

namespace DataSchema

/-- A classified field. -/
structure Property where
  /-- The name of the field. -/
  key : String
  /-- Its type. -/
  type : FieldType
  /-- Declared with `?`. -/
  nullable : Bool := false
  /-- Declared with `[]`. -/
  isArray : Bool := false
  /-- Marked as unique. -/
  isUnique : Bool := false
  /-- Marked as filled in by the database. -/
  isAutoGenerated : Bool := false
  /-- Marked as primary key. -/
  isId : Bool := false
  /-- The name given to `@relation`, which pairs the two sides of a relation. -/
  relationLabel : Option String := none
  /-- The attributes as they were written. -/
  attributes : List Attribute := []
  /-- The number of the line that declares the field. -/
  line : Nat := 0
deriving DecidableEq, Repr, Inhabited

namespace Property

/-- Does the property refer to a model? -/
def isRelation (p : Property) : Bool := p.type.isRelation

/-- The model referred to. -/
def relationName? (p : Property) : Option String := p.type.relationName?

/-- The enumeration referred to. -/
def enumName? (p : Property) : Option String := p.type.enumName?

/-- Does the property refer to one record of a model? -/
def isToOne (p : Property) : Bool := p.isRelation && !p.isArray

/-- Does the property refer to a list of records of a model? -/
def isToMany (p : Property) : Bool := p.isRelation && p.isArray

/-- Is the property an amount of money? -/
def isMoney (p : Property) : Bool := p.type == .scalar .money

/-- The name of the type in an interface; a reference goes by the name of what it refers to. -/
def wireName (p : Property) : String :=
  match p.type with
  | .scalar t => t.wireType.name
  | t => t.name

/-- The form in generated code; only scalars have one. -/
def languageType? (p : Property) : Option LanguageType :=
  match p.type with
  | .scalar t => some t.languageType
  | _ => none

/-- The property as a field line: name, type with its suffixes, attributes. -/
def text (p : Property) : String :=
  p.key ++ " " ++ p.type.name
    ++ (if p.isArray then "[]" else "") ++ (if p.nullable then "?" else "")
    ++ String.join (p.attributes.map (fun a => " " ++ a.text))

end Property

end DataSchema
