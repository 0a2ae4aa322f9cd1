import DataSchema.Error
import DataSchema.Field.Declaration
import DataSchema.Relation.Inference

/-!
# DataSchema.Schema

**A compiled schema**: its enumerations, its models with their properties, and the relations between
the models. `Schema.compile` makes one from a text. Every text compiles.

The parts are found in an order that lets each look only at what is finished: the outline gives the
names, the names give the fields their types, and the finished models give the relations. A name
that is declared more than once means its first block; a name without any block is declared all the
same, with nothing in it.
-/

namespace DataSchema

open Source (Block BlockKind LineRange Outline)

/-- A compiled schema. The maps keep the order of declaration. -/
structure Schema where
  /-- The enumerations by name. -/
  enums : OrderedMap Enumeration
  /-- The models by name. -/
  models : OrderedMap Model
  /-- The relation records by the name of their model. -/
  relations : OrderedMap RelationRecord
deriving DecidableEq, Inhabited

/-! ### Compiling -/

/-- The properties that the lines of a range declare. -/
def propertiesIn (o : Outline) (range : LineRange) (scope : Scope) : List Property :=
  (o.bodyLines range).filterMap fun (index, line) =>
    (Field.Declaration.parse? line).map (·.toProperty index scope)

/-- The model of a block. -/
def Model.ofBlock (o : Outline) (scope : Scope) (block : Block) : Model :=
  ⟨block.name, propertiesIn o block.body scope, block.body⟩

/-- The model of a declared name: of its first block, or without properties if it has none. -/
def Model.ofName (o : Outline) (scope : Scope) (name : String) : Model :=
  match o.findBlock? .model name with
  | some block => Model.ofBlock o scope block
  | none => ⟨name, [], ⟨0, 0⟩⟩

/-- The enumeration of a block. -/
def Enumeration.ofBlock (o : Outline) (block : Block) : Enumeration :=
  ⟨block.name, o.firstWords block.body, block.body⟩

/-- The enumeration of a declared name: of its first block, or without values if it has none. -/
def Enumeration.ofName (o : Outline) (name : String) : Enumeration :=
  match o.findBlock? .enum name with
  | some block => Enumeration.ofBlock o block
  | none => ⟨name, [], ⟨0, 0⟩⟩

namespace Schema

/-- The schema of an outline. -/
def ofOutline (o : Outline) (markers : Markers) : Schema :=
  let scope := (Declarations.ofOutline o).scope markers
  let models := OrderedMap.ofList (scope.models.map fun name => (name, Model.ofName o scope name))
  { enums := .ofList (scope.enums.map fun name => (name, Enumeration.ofName o name))
    models
    relations := inferRelations models }

/-- Compile a schema text, with markers for the attributes. -/
def compile (source : String) (markers : Markers := {}) : Schema :=
  ofOutline (Outline.ofText source) markers

/-! ### Questions -/

/-- The properties of a model. -/
def properties? (s : Schema) (model : String) : Option (List Property) :=
  (s.models.get? model).map (·.properties)

/-- The properties of a model that must exist. -/
def requireProperties (s : Schema) (model : String) : Except SchemaError (List Property) :=
  match s.properties? model with
  | some properties => .ok properties
  | none => .error (.unknownModel model)

/-- Is nothing declared? -/
def isEmpty (s : Schema) : Bool := s.models.isEmpty && s.enums.isEmpty

/-- The number of models. -/
def modelCount (s : Schema) : Nat := s.models.size

/-- The number of enumerations. -/
def enumCount (s : Schema) : Nat := s.enums.size

/-- The number of properties in all models. -/
def propertyCount (s : Schema) : Nat :=
  s.models.values.foldr (fun m count => m.properties.length + count) 0

/-- The number of entries in all relation records. -/
def relationCount (s : Schema) : Nat :=
  s.relations.values.foldr (fun r count => r.size + count) 0

/-- One line that tells how large the schema is. -/
def summary (s : Schema) : String :=
  "Ir(" ++ toString s.modelCount ++ " models, " ++ toString s.enumCount ++ " enums, "
    ++ toString s.propertyCount ++ " properties, " ++ toString s.relationCount ++ " relations)"

end Schema

end DataSchema
