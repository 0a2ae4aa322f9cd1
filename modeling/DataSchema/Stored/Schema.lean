import DataSchema.Json.Parser
import DataSchema.Json.Printer
import DataSchema.Schema
import DataSchema.Stored.Types

/-!
# DataSchema.Stored.Schema

**The stored form of a schema** and of everything in it: records with their fields in the order of
their declaration. The one field that is not always written is the deep key of a relation entry,
which most entries do not have.
-/

namespace DataSchema

open JsonFormat (encode decode?)
open Json (Slot slots?)

instance : JsonFormat Attribute where
  encode a := .object [("path", encode a.path), ("args", encode a.args)]
  decode? v := do
    let [path, args] ← slots? ["path", "args"] false v | none
    some { path := ← path.required, args := ← args.optional }

instance : JsonFormat Property where
  encode p := .object
    [("key", encode p.key), ("field_type", encode p.type), ("nullable", encode p.nullable),
      ("is_array", encode p.isArray), ("is_unique", encode p.isUnique),
      ("is_auto_generated", encode p.isAutoGenerated), ("is_id", encode p.isId),
      ("relation_label", encode p.relationLabel), ("attributes", encode p.attributes),
      ("line", encode p.line)]
  decode? v := do
    let [key, type, nullable, isArray, isUnique, isAutoGenerated, isId, relationLabel, attributes,
        line] ←
      slots? ["key", "field_type", "nullable", "is_array", "is_unique", "is_auto_generated",
        "is_id", "relation_label", "attributes", "line"] false v | none
    some {
      key := ← key.required
      type := ← type.required
      nullable := ← nullable.required
      isArray := ← isArray.required
      isUnique := ← isUnique.required
      isAutoGenerated := ← isAutoGenerated.required
      isId := ← isId.required
      relationLabel := ← relationLabel.optional
      attributes := ← attributes.required
      line := ← line.required }

instance : JsonFormat Model where
  encode m := .object
    [("name", encode m.name), ("properties", encode m.properties), ("body", encode m.body)]
  decode? v := do
    let [name, properties, body] ← slots? ["name", "properties", "body"] false v | none
    some {
      name := ← name.required
      properties := ← properties.required
      body := ← body.required }

instance : JsonFormat Enumeration where
  encode e := .object
    [("name", encode e.name), ("values", encode e.values), ("body", encode e.body)]
  decode? v := do
    let [name, values, body] ← slots? ["name", "values", "body"] false v | none
    some { name := ← name.required, values := ← values.required, body := ← body.required }

instance : JsonFormat Cardinality := Json.constants Cardinality.all Cardinality.name

instance : JsonFormat RelationEdge where
  encode e := .object
    [("source_model", encode e.source), ("field_key", encode e.field),
      ("target_model", encode e.target), ("is_array", encode e.isArray), ("label", encode e.label)]
  decode? v := do
    let [source, field, target, isArray, label] ←
      slots? ["source_model", "field_key", "target_model", "is_array", "label"] false v | none
    some {
      source := ← source.required
      field := ← field.required
      target := ← target.required
      isArray := ← isArray.required
      label := ← label.optional }

instance : JsonFormat RelationEntry where
  encode e := .object
    ([("key", encode e.key), ("value", encode e.value)] ++
      e.deepKey.toList.map (fun fields => ("deep_key", encode fields)))
  decode? v := do
    let [key, value, deepKey] ← slots? ["key", "value", "deep_key"] false v | none
    some {
      key := ← key.required
      value := ← value.required
      deepKey := ← deepKey.withDefault none }

instance : JsonFormat RelationRecord where
  encode r := .object
    [("one_to_one", encode r.oneToOne), ("one_to_many", encode r.oneToMany),
      ("many_to_one", encode r.manyToOne), ("many_to_many", encode r.manyToMany)]
  decode? v := do
    let [oneToOne, oneToMany, manyToOne, manyToMany] ←
      slots? ["one_to_one", "one_to_many", "many_to_one", "many_to_many"] false v | none
    some {
      oneToOne := ← oneToOne.required
      oneToMany := ← oneToMany.required
      manyToOne := ← manyToOne.required
      manyToMany := ← manyToMany.required }

instance : JsonFormat Schema where
  encode s := .object
    [("enums", encode s.enums), ("models", encode s.models), ("relations", encode s.relations)]
  decode? v := do
    let [enums, models, relations] ← slots? ["enums", "models", "relations"] false v | none
    some {
      enums := ← enums.required
      models := ← models.required
      relations := ← relations.required }

/-- A schema as a JSON text without blanks. -/
def Schema.toJson (s : Schema) : String := (encode s).compact

/-- A schema as a JSON text on several lines. -/
def Schema.toIndentedJson (s : Schema) : String := (encode s).indented

/-- The schema that a JSON text stores. -/
def Schema.ofJson? (text : String) : Option Schema := (Json.parse? text).bind decode?

end DataSchema
