import DataSchema.Attribute.Arguments

/-!
# DataSchema.Attribute.Basic

**Attributes of a field**, such as `@default(now())` or `@db.Money`: a dotted path and, if the
attribute was written with parentheses, the text between them.
-/

namespace DataSchema

/-- An attribute of a field. -/
structure Attribute where
  /-- The dotted path, without the `@` before it. -/
  path : String
  /-- The text between the parentheses, if there are any. -/
  args : Option String
deriving DecidableEq, Repr, Inhabited

namespace Attribute

/-- The attribute as it is written on a field line. -/
def text (a : Attribute) : String :=
  match a.args with
  | none => "@" ++ a.path
  | some args => "@" ++ a.path ++ "(" ++ args ++ ")"

/-- Does a marker such as `@db.Money` name this attribute? Arguments play no part. -/
def matchesMarker (a : Attribute) (marker : String) : Bool := marker == "@" ++ a.path

/-- Does one of the markers name this attribute? -/
def matchesAny (a : Attribute) (markers : List String) : Bool := markers.any a.matchesMarker

/-- The name given in the arguments, as a first argument or as `name:`. -/
def nameArg? (a : Attribute) : Option String := do
  let args ← a.args
  let name ← nameArgument? args.toList
  some (String.ofList name)

end Attribute

end DataSchema
