import DataSchema.Attribute.Markers
import DataSchema.Config.Expansion
import DataSchema.Error
import DataSchema.Toml.Parser

/-!
# DataSchema.Config.Basic

**The configuration**: where the schema is, and which attributes mark what. Everything has a
default, so the empty file is a configuration. A table or a key that is not known is an error, and
so is a marker that could never name an attribute.

A table may also be given as an array of its values in order. The values at the end of the array may
be missing, and values beyond the last one are passed over.
-/

namespace DataSchema

/-- The configuration. -/
structure Config where
  /-- The path of the schema. -/
  schemaPath : String := "prisma/schema.prisma"
  /-- The markers. -/
  markers : Markers := {}
deriving DecidableEq, Repr, Inhabited

namespace Config

open Toml (Value)

/-- The name of the configuration file. -/
def fileName : String := "nestgen.toml"

/-! ### Decoding -/

/-- The values of the named keys, from a table without other keys or from an array. -/
def settings? (names : List String) : Value → Option (List (Option Value))
  | .table _ entries =>
    if entries.all (fun e => e.1 ∈ names) then
      some (names.map fun name => Toml.Entries.get? entries name)
    else none
  | .array items => some (names.zipIdx.map fun (_, i) => items[i]?)
  | _ => none

/-- A setting, or its default where it is not given. -/
def setting? {α : Type} (decode? : Value → Option α) (default : α) : Option Value → Option α
  | some v => decode? v
  | none => some default

/-- A text. -/
def text? : Value → Option String
  | .string s => some s
  | _ => none

/-- A list of texts. -/
def texts? : Value → Option (List String)
  | .array items => items.mapM text?
  | _ => none

/-- The path of the schema. -/
def schemaPath? (v : Value) : Option String := do
  let [path] ← settings? ["path"] v | none
  setting? text? ({} : Config).schemaPath path

/-- The markers. -/
def markers? (v : Value) : Option Markers := do
  let [unique, id, auto, money] ← settings? ["unique", "id", "auto", "money"] v | none
  let default : Markers := {}
  some {
    unique := ← setting? texts? default.unique unique
    id := ← setting? texts? default.id id
    auto := ← setting? texts? default.auto auto
    money := ← setting? texts? default.money money }

/-- The configuration in a settings file. -/
def ofValue? (v : Value) : Option Config := do
  let [schema, attributes] ← settings? ["schema", "attributes"] v | none
  let default : Config := {}
  some {
    schemaPath := ← setting? schemaPath? default.schemaPath schema
    markers := ← setting? markers? default.markers attributes }

/-- Accept a configuration only if all its markers are well formed. -/
def validate (config : Config) : Except SchemaError Config :=
  match config.markers.malformed? with
  | some marker => .error (.malformedMarker marker)
  | none => .ok config

/-- Read the text of a configuration file. -/
def parse (env : Environment) (text : String) : Except SchemaError Config :=
  match (Toml.parse? (expand env text)).bind ofValue? with
  | some config => config.validate
  | none => .error .malformedConfig

end Config

end DataSchema
