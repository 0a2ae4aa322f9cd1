import DataSchema.Attribute.Basic

/-!
# DataSchema.Attribute.Markers

**Markers** say which attributes set which property of a field. They are the one part of the reading
that a user configures: a database-specific attribute can be made to mean "filled in by the
database" or "an amount of money".

A marker is an attribute path with its `@`. Four lists of them decide four independent flags; the
label of a relation comes from the attribute `@relation` and is not configurable.
-/

namespace DataSchema

/-- The configured markers, one list for each flag. -/
structure Markers where
  /-- Attributes that make a field unique. -/
  unique : List String := ["@unique"]
  /-- Attributes that make a field the primary key. -/
  id : List String := ["@id"]
  /-- Attributes that say that the database fills the field in. -/
  auto : List String := ["@default", "@updatedAt", "@auto"]
  /-- Attributes that make a decimal an amount of money. -/
  money : List String := ["@db.Money"]
deriving DecidableEq, Repr, Inhabited

/-- What the attributes of a field say. -/
structure Flags where
  /-- The field is the primary key. -/
  isId : Bool
  /-- The field is unique. -/
  isUnique : Bool
  /-- The database fills the field in. -/
  isAutoGenerated : Bool
  /-- A decimal here is an amount of money. -/
  isMoney : Bool
  /-- The name given to `@relation`. -/
  relationLabel : Option String
deriving DecidableEq, Repr, Inhabited

/-- The name in the first `@relation` attribute that gives one. -/
def relationLabel? (attributes : List Attribute) : Option String :=
  attributes.findSome? (fun a => if a.path = "relation" then a.nameArg? else none)

/-- Read the flags off the attributes of a field. -/
def Flags.ofAttributes (attributes : List Attribute) (markers : Markers) : Flags where
  isId := attributes.any (·.matchesAny markers.id)
  isUnique := attributes.any (·.matchesAny markers.unique)
  isAutoGenerated := attributes.any (·.matchesAny markers.auto)
  isMoney := attributes.any (·.matchesAny markers.money)
  relationLabel := relationLabel? attributes

/-! ### Well-formed markers

A marker that could never name an attribute is most likely a slip, so a configuration with such a
marker is refused. The check is on the shape of the text after the `@`. -/

/-- The text after the `@` of a marker; nothing if there is no `@`. -/
def markerPath (marker : String) : List Char :=
  match marker.toList with
  | '@' :: path => path
  | _ => []

/-- A marker is well formed if something follows its `@`, and no blank and no opening parenthesis
is in it. -/
def isWellFormedMarker (marker : String) : Bool :=
  let path := markerPath marker
  !(path.isEmpty || Text.hasBlank path || path.contains '(')

/-- All markers, list by list. -/
def Markers.all (m : Markers) : List String := m.unique ++ m.id ++ m.auto ++ m.money

/-- The first marker that is not well formed. -/
def Markers.malformed? (m : Markers) : Option String := m.all.find? (fun marker =>
  !isWellFormedMarker marker)

end DataSchema
