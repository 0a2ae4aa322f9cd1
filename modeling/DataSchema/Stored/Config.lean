import DataSchema.Config.Basic
import DataSchema.Json.Format

/-!
# DataSchema.Stored.Config

**The stored form of a configuration.** It has the shape of the settings file: the path of the
schema in one record, the markers in another. As in the file every field has a default and no other
member is allowed. Markers are taken as they come.
-/

namespace DataSchema

open JsonFormat (encode decode?)
open Json (Slot slots?)

instance : JsonFormat Markers where
  encode m := .object
    [("unique", encode m.unique), ("id", encode m.id), ("auto", encode m.auto),
      ("money", encode m.money)]
  decode? v := do
    let [unique, id, auto, money] ← slots? ["unique", "id", "auto", "money"] true v | none
    let default : Markers := {}
    some {
      unique := ← unique.withDefault default.unique
      id := ← id.withDefault default.id
      auto := ← auto.withDefault default.auto
      money := ← money.withDefault default.money }

/-- The record that holds the path of a schema. -/
structure SchemaSettings where
  /-- The path. -/
  path : String
deriving DecidableEq, Repr, Inhabited

instance : JsonFormat SchemaSettings where
  encode s := .object [("path", encode s.path)]
  decode? v := do
    let [path] ← slots? ["path"] true v | none
    some { path := ← path.withDefault ({} : Config).schemaPath }

instance : JsonFormat Config where
  encode c := .object
    [("schema", encode (SchemaSettings.mk c.schemaPath)), ("attributes", encode c.markers)]
  decode? v := do
    let [schema, attributes] ← slots? ["schema", "attributes"] true v | none
    let default : Config := {}
    let schema : SchemaSettings ← schema.withDefault ⟨default.schemaPath⟩
    some {
      schemaPath := schema.path
      markers := ← attributes.withDefault default.markers }

end DataSchema
