import DataSchema.FieldType
import DataSchema.Json.Format
import DataSchema.Source.Outline

/-!
# DataSchema.Stored.Types

**The stored forms of types and places**: constants by their names, a field type as an object with
one member that names the kind, ranges and blocks as records.
-/

namespace DataSchema

open JsonFormat (encode decode?)
open Json (Slot slots?)
open Source (Block BlockKind LineRange)

instance : JsonFormat WireType := Json.constants WireType.all WireType.name

instance : JsonFormat LanguageType := Json.constants LanguageType.all LanguageType.name

instance : JsonFormat ScalarType := Json.constants ScalarType.all ScalarType.name

instance : JsonFormat DataType := Json.constants DataType.all DataType.name

instance : JsonFormat FieldType where
  encode
    | .scalar t => .object [("Scalar", encode t)]
    | .enum name => .object [("Enum", encode name)]
    | .relation model => .object [("Relation", encode model)]
  decode?
    | .object [(kind, v)] =>
      if kind = "Scalar" then (decode? v).map .scalar
      else if kind = "Enum" then (decode? v).map .enum
      else if kind = "Relation" then (decode? v).map .relation
      else none
    | _ => none

instance : JsonFormat LineRange where
  encode r := .object [("start", encode r.start), ("end", encode r.stop)]
  decode? v := do
    let [start, stop] ← slots? ["start", "end"] false v | none
    some { start := ← start.required, stop := ← stop.required }

/-- The name under which a kind of block is stored. -/
def Source.BlockKind.storedName : BlockKind → String
  | .model => "Model"
  | .enum => "Enum"

instance : JsonFormat BlockKind := Json.constants [.model, .enum] BlockKind.storedName

instance : JsonFormat Block where
  encode b := .object
    [("kind", encode b.kind), ("name", encode b.name), ("header", encode b.header),
      ("body", encode b.body)]
  decode? v := do
    let [kind, name, header, body] ← slots? ["kind", "name", "header", "body"] false v | none
    some {
      kind := ← kind.required
      name := ← name.required
      header := ← header.required
      body := ← body.required }

end DataSchema
