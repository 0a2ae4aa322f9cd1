import DataSchema.Json.Value
import DataSchema.OrderedMap

/-!
# DataSchema.Json.Format

**Stored forms.** A type has a stored form when its values can be written as JSON values and read
back. Writing is strict: one value has one form. Reading is generous in a few fixed ways, the same
for every type:

* a record is read from an object, in any order of its members, or from an array of its fields in
  order;
* in an object, an optional field may be left out, and members that are not fields are passed over
  unless the record refuses them; a field that is given twice is an error;
* a constant of an enumeration is read from its name, or from an object with that name and `null`.
-/

namespace DataSchema

/-- A type with a stored form. -/
class JsonFormat (α : Type) where
  /-- The stored form of a value. -/
  encode : α → Json
  /-- The value of a stored form. -/
  decode? : Json → Option α

open JsonFormat (encode decode?)

namespace Json

/-! ### Scalars and lists -/

instance : JsonFormat Bool where
  encode := bool
  decode?
    | bool b => some b
    | _ => none

/-- Numbers are stored as unsigned words of 64 bits; nothing larger is read. -/
instance : JsonFormat Nat where
  encode := nat
  decode?
    | nat n => if n < 18446744073709551616 then some n else none
    | _ => none

instance : JsonFormat String where
  encode := string
  decode?
    | string s => some s
    | _ => none

instance {α : Type} [JsonFormat α] : JsonFormat (Option α) where
  encode
    | none => null
    | some a => encode a
  decode?
    | null => some none
    | v => (decode? v).map some

instance {α : Type} [JsonFormat α] : JsonFormat (List α) where
  encode items := array (items.map encode)
  decode?
    | array items => items.mapM decode?
    | _ => none

/-- A map is an object. Of a repeated key the first place and the last value count. -/
instance {α : Type} [JsonFormat α] : JsonFormat (OrderedMap α) where
  encode m := object (m.entries.map fun entry => (entry.1, encode entry.2))
  decode?
    | object members =>
      (members.mapM fun member => (decode? member.2).map (member.1, ·)).map OrderedMap.ofList
    | _ => none

/-! ### Constants and alternatives -/

/-- The name of a constant. -/
def constantName? : Json → Option String
  | string name => some name
  | object [(name, null)] => some name
  | _ => none

/-- The constant among `all` whose name is stored. -/
def constant? {α : Type} (all : List α) (name : α → String) (v : Json) : Option α := do
  let stored ← constantName? v
  all.find? (fun a => name a = stored)

/-- The format of an enumeration whose constants are stored by name. -/
@[reducible] def constants {α : Type} (all : List α) (name : α → String) : JsonFormat α where
  encode a := string (name a)
  decode? := constant? all name

/-! ### Records -/

/-- What a stored record says about one field. -/
inductive Slot
  /-- The field has a value. -/
  | given (v : Json)
  /-- The object has no such member. -/
  | omitted
  /-- The array ends before the field. -/
  | cutOff
deriving Inhabited

namespace Slot

variable {α : Type} [JsonFormat α]

/-- A field that must be there. -/
def required : Slot → Option α
  | given v => decode? v
  | _ => none

/-- A field that may be left out of an object. -/
def optional : Slot → Option (Option α)
  | given v => decode? v
  | omitted => some none
  | cutOff => none

/-- A field that has a value of its own when it is not given. -/
def withDefault (default : α) : Slot → Option α
  | given v => decode? v
  | _ => some default

end Slot

/-- The slots of the named fields, from an object or an array. If `strict`, an object may have no
other member. -/
def slots? (names : List String) (strict : Bool) : Json → Option (List Slot)
  | object members =>
    if strict && members.any (fun m => m.1 ∉ names) then none
    else if names.any (fun name => 1 < (members.filter (fun m => m.1 = name)).length) then none
    else some (names.map fun name =>
      match members.find? (fun m => m.1 = name) with
      | some m => .given m.2
      | none => .omitted)
  | array items =>
    if names.length < items.length then none
    else some (names.zipIdx.map fun (_, i) =>
      match items[i]? with
      | some v => .given v
      | none => .cutOff)
  | _ => none

end Json

end DataSchema
