import DataSchema.Attribute.Markers
import DataSchema.Model
import DataSchema.Source.Outline

/-!
# DataSchema.Declarations

**The names that a schema declares.** A field may refer to a model or an enumeration that is
declared further down, so all names are collected before the first field is classified.

Every header line declares its name, whether or not it opens a block and wherever it stands.
`Declarations` keeps the names as often as they are declared, which is what a warning about repeated
names needs; `Scope` keeps each once, and with the configured markers is all that classification
looks at.
-/

namespace DataSchema

open Source (BlockKind Header Outline)

/-- The declared names in order, with repetitions. -/
structure Declarations where
  /-- The names of models. -/
  models : List String
  /-- The names of enumerations. -/
  enums : List String
deriving DecidableEq, Repr, Inhabited

namespace Declarations

/-- The names in the header lines of one kind. -/
def named (kind : BlockKind) (headers : List Header) : List String :=
  (headers.filter (·.kind = kind)).map (·.name)

/-- The declared names of an outline. -/
def ofOutline (o : Outline) : Declarations :=
  let headers := o.lines.filterMap Header.parse?
  ⟨named .model headers, named .enum headers⟩

/-- The later occurrences of names that have occurred before, or are in `seen`. -/
def repetitions (seen : List String) : List String → List String
  | [] => []
  | name :: rest =>
    if name ∈ seen then name :: repetitions seen rest else repetitions (name :: seen) rest

/-- The names that occur more than once, in the order of their second occurrence. -/
def repeated (names : List String) : List String := distinct (repetitions [] names)

end Declarations

/-- What a type token is looked up in. -/
structure Scope where
  /-- The names of models, each once. -/
  models : List String
  /-- The names of enumerations, each once. -/
  enums : List String
  /-- The configured markers. -/
  markers : Markers
deriving DecidableEq, Repr, Inhabited

/-- The scope of declared names. -/
def Declarations.scope (d : Declarations) (markers : Markers) : Scope :=
  ⟨distinct d.models, distinct d.enums, markers⟩

end DataSchema
