import DataSchema.Field.Syntax
import DataSchema.Field.TypeToken

/-!
# DataSchema.Field.Declaration

**From a line to a property.** `Declaration.parse?` reads a line of a model's body; lines that are
empty, start with `@` or do not have the shape of a field declare nothing and are passed over. What
is read is a name, a type token and attributes, and `Declaration.toProperty` gives them their
meaning in a scope.
-/

namespace DataSchema.Field

/-- A field as it is declared, before its type is looked up. -/
structure Declaration where
  /-- The name of the field. -/
  name : String
  /-- The type token with its suffixes. -/
  rawType : String
  /-- The attributes in order. -/
  attributes : List Attribute
deriving DecidableEq, Repr, Inhabited

/-- The attribute that is written: its arguments are the text between the parentheses, trimmed. -/
def AttributeSyntax.toAttribute (a : AttributeSyntax) : Attribute where
  path := String.ofList a.path
  args := a.args.map (fun text => String.ofList (Text.trim text.tail.dropLast))

/-- The declaration that a line's pieces make. -/
def FieldSyntax.toDeclaration (f : FieldSyntax) : Declaration where
  name := String.ofList f.name
  rawType := String.ofList f.type
  attributes := f.attributes.map (fun (a, _) => a.toAttribute)

/-- Read one line of a body. -/
def Declaration.parse? (line : String) : Option Declaration :=
  match Text.trim line.toList with
  | [] => none
  | '@' :: _ => none
  | text => (FieldSyntax.parse? text).map FieldSyntax.toDeclaration

/-- The property that a declaration on a line means in a scope. -/
def Declaration.toProperty (d : Declaration) (line : Nat) (scope : Scope) : Property :=
  let flags := Flags.ofAttributes d.attributes scope.markers
  let token := TypeToken.split d.rawType
  { key := d.name
    type := classifyBare token.bare flags.isMoney scope
    nullable := token.nullable
    isArray := token.isArray
    isUnique := flags.isUnique
    isAutoGenerated := flags.isAutoGenerated
    isId := flags.isId
    relationLabel := flags.relationLabel
    attributes := d.attributes
    line }

@[simp] theorem Declaration.type_toProperty (d : Declaration) (line : Nat) (scope : Scope) :
    (d.toProperty line scope).type = classifyBare (TypeToken.split d.rawType).bare
      (Flags.ofAttributes d.attributes scope.markers).isMoney scope :=
  rfl

end DataSchema.Field
